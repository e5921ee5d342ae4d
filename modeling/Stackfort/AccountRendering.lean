import Stackfort.DomainRendering
import Stackfort.TextBounds

/-! The renderer accepts what a renderable store holds. Each listed domain passes the checks of the
renderer on its names, its certificate, its policies and its target; together they have no
conflicting routes; and the upstreams are the ones the targets name. What remains is the size of
the text. -/

namespace Stackfort

open Nginx PanelStore List

/-! ### Normal forms of names -/

variable {c : Char} {spec : DomainTargetSpec}

variable {name : NormalizedDomainName}

section

variable {services : NameServices}

/-- A trimmed text that may be the name of a host. -/
def hostTextAllowed (value : String) : Bool :=
  decide (value ≠ "") && !containsControl value && !value.toList.contains '*' &&
    !(value.toList.any fun c => "/\\@:#?[]".toList.contains c) && decide (trimOneRootSeparator value ≠ "")

/-- The two forms of a name belong together. -/
structure NormalizedDomainName.Paired (services : NameServices) (name : NormalizedDomainName) : Prop where
  labels : ¬(splitText '.' name.ascii).length < 2
  noAddress : (services.parseAddr name.ascii).isSome = false
  display : services.toUnicode name.ascii = .ok name.display
  roundTrip : ∃ encoded, services.toASCII name.display = .ok encoded ∧ toLowerASCII encoded = name.ascii

variable {input : String}

theorem normalizeDomainName_eq_ok_iff :
    normalizeDomainName services input = .ok name ↔
      hostTextAllowed (trimSpace input) = true ∧
        (∃ encoded, services.toASCII (trimOneRootSeparator (trimSpace input)) = .ok encoded ∧
          toLowerASCII encoded = name.ascii) ∧ name.Paired services := by
  unfold normalizeDomainName hostTextAllowed
  simp only [guard_eq_ok_iff, and_eq_true, decide_eq_true_eq, Bool.not_eq_true', not_or, ne_eq, Bool.not_eq_true,
    and_assoc]
  iterate 5 refine and_congr_right fun _ => ?_
  cases hencoded : services.toASCII (trimOneRootSeparator (trimSpace input)) with
  | error text => simp [throw_eq_error]
  | ok encoded =>
    simp only [guard_eq_ok_iff, Except.ok.injEq, exists_eq_left']
    constructor
    · rintro ⟨hlabels, haddress, h⟩
      cases hdisplay : services.toUnicode (toLowerASCII encoded) with
      | error text => simp [hdisplay, throw_eq_error] at h
      | ok displayName =>
        cases hround : services.toASCII displayName with
        | error text => simp [hdisplay, hround, throw_eq_error] at h
        | ok roundTrip =>
          simp only [hdisplay, hround, guard_eq_ok_iff, pure_eq_ok_iff, not_not] at h
          obtain ⟨hstable, rfl⟩ := h
          exact ⟨rfl, hlabels, by simpa using haddress, hdisplay, roundTrip, hround, hstable⟩
    · rintro ⟨hascii, hlabels, haddress, hdisplay, roundTrip, hround, hstable⟩
      rw [hascii]
      refine ⟨hlabels, by simpa using haddress, ?_⟩
      simp only [hdisplay, hround, guard_eq_ok_iff, pure_eq_ok, not_not, and_true]
      exact hstable

/-- What is taken for granted of the IDNA library: the encoding leaves an encoded name alone, and the
decoding of a plain ASCII name is the plain text of a host. -/
structure NameServices.Stable (services : NameServices) : Prop where
  ascii : ∀ value encoded, services.toASCII value = .ok encoded → asciiNameAllowed (toLowerASCII encoded) = true →
    ∃ again, services.toASCII (toLowerASCII encoded) = .ok again ∧ toLowerASCII again = toLowerASCII encoded
  display : ∀ asciiName displayName, asciiNameAllowed asciiName = true →
    services.toUnicode asciiName = .ok displayName →
      hostTextAllowed displayName = true ∧ trimSpace displayName = displayName ∧
        trimOneRootSeparator displayName = displayName

/-- The characters of a stored name. -/
def isNameCharacter (c : Char) : Bool :=
  ('a' ≤ c && c ≤ 'z') || ('0' ≤ c && c ≤ '9') || c == '.' || c == '-'

theorem isNameCharacter_bounds (h : isNameCharacter c = true) :
    (97 ≤ c.toNat ∧ c.toNat ≤ 122) ∨ (48 ≤ c.toNat ∧ c.toNat ≤ 57) ∨ c.toNat = 46 ∨ c.toNat = 45 := by
  simp only [isNameCharacter, or_eq_true, and_eq_true, decide_eq_true_eq, beq_iff_eq] at h
  rcases h with ((⟨hlow, hhigh⟩ | ⟨hlow, hhigh⟩) | rfl) | rfl
  · exact .inl ⟨hlow, hhigh⟩
  · exact .inr (.inl ⟨hlow, hhigh⟩)
  · exact .inr (.inr (.inl rfl))
  · exact .inr (.inr (.inr rfl))

theorem isSpace_of_name (h : isNameCharacter c = true) : isSpace c = false := by
  have hbounds := isNameCharacter_bounds h
  exact isSpace_of_range (by omega)

/-- A name the store accepts is the plain text of a host. -/
theorem hostText_of_asciiNameAllowed {name : String} (h : asciiNameAllowed name = true) :
    hostTextAllowed name = true ∧ trimSpace name = name ∧ trimOneRootSeparator name = name := by
  simp only [asciiNameAllowed, and_eq_true, decide_eq_true_eq] at h
  obtain ⟨⟨⟨⟨hlength, -⟩, hall⟩, -⟩, hlast⟩ := h
  have hname : ∀ c ∈ name.toList, isNameCharacter c = true := all_eq_true.mp hall
  have hne : name ≠ "" := by
    rintro rfl
    simp at hlength
  have htrim : trimOneRootSeparator name = name := by
    unfold trimOneRootSeparator
    cases hend : name.toList.getLast? with
    | none => rfl
    | some last =>
      rw [hend] at hlast
      simp only [Option.any_some, or_eq_true, and_eq_true, decide_eq_true_eq] at hlast
      have hlow : 48 ≤ last.toNat ∧ last.toNat ≤ 122 := by
        rcases hlast with ⟨hlow, hhigh⟩ | ⟨hlow, hhigh⟩
        · exact ⟨le_trans (by decide) hlow, hhigh⟩
        · exact ⟨hlow, le_trans hhigh (by decide)⟩
      have hdot : last ≠ '.' := by
        rintro rfl
        exact absurd hlow.1 (by decide)
      simp only [hdot, false_or]
      rw [if_neg (by omega)]
  refine ⟨?_, trimSpace_of_forall fun c hc => isSpace_of_name (hname c hc), htrim⟩
  have hcontrol : containsControl name = false := by
    rw [containsControl, any_eq_false]
    intro c hc
    have hbounds := isNameCharacter_bounds (hname c hc)
    simp only [or_eq_true, and_eq_true, beq_iff_eq, decide_eq_true_eq]
    omega
  have hstar : name.toList.contains '*' = false := by
    rw [List.contains_eq_mem, decide_eq_false_iff_not]
    exact fun hc => absurd (hname _ hc) (by decide)
  have hspecial : (name.toList.any fun c => "/\\@:#?[]".toList.contains c) = false := by
    rw [any_eq_false]
    intro c hc hcontains
    rw [List.contains_eq_mem, decide_eq_true_eq] at hcontains
    have hnone : ("/\\@:#?[]".toList.all fun other => !isNameCharacter other) = true := by decide
    have hother := all_eq_true.mp hnone c hcontains
    rw [hname c hc] at hother
    cases hother
  rw [hostTextAllowed, htrim, hcontrol, hstar, hspecial]
  simp [hne]

theorem normalizeDomainName_again (hservices : services.Stable) (h : normalizeDomainName services input = .ok name)
    (hallowed : asciiNameAllowed name.ascii = true) :
    normalizeDomainName services name.ascii = .ok name ∧ normalizeDomainName services name.display = .ok name := by
  obtain ⟨-, ⟨encoded, hencoded, hascii⟩, hpaired⟩ := normalizeDomainName_eq_ok_iff.mp h
  constructor
  · obtain ⟨hhost, hspace, hroot⟩ := hostText_of_asciiNameAllowed hallowed
    rw [normalizeDomainName_eq_ok_iff, hspace, hroot]
    rw [← hascii] at hallowed
    obtain ⟨again, hagain, hsame⟩ := hservices.ascii _ _ hencoded hallowed
    rw [hascii] at hagain hsame
    exact ⟨hhost, ⟨again, hagain, hsame⟩, hpaired⟩
  · obtain ⟨hhost, hspace, hroot⟩ := hservices.display _ _ hallowed hpaired.display
    rw [normalizeDomainName_eq_ok_iff, hspace, hroot]
    exact ⟨hhost, hpaired.roundTrip, hpaired⟩

theorem normalizeDomainBase_ok (h : normalizeDomainBase services input = .ok name) :
    ∃ given, normalizeDomainName services given = .ok name := by
  simp only [normalizeDomainBase, bind_eq_ok_iff] at h
  obtain ⟨first, hfirst, h⟩ := h
  split at h
  · exact ⟨_, h⟩
  · cases h
    exact ⟨input, hfirst⟩

end

/-- **Stored names are normal forms.** After any run the two forms of a stored name are both normalised to that name,
if the IDNA functions are stable. -/
theorem stored_names_normal (services : { services : NameServices // services.Stable }) (calls : List PanelCall)
    (row : { row // row ∈ (after services.1 calls).domains }) :
    normalizeDomainName services.1 row.1.asciiName = .ok ⟨row.1.displayName, row.1.asciiName⟩ ∧
      normalizeDomainName services.1 row.1.displayName = .ok ⟨row.1.displayName, row.1.asciiName⟩ := by
  obtain ⟨hallowed, given, hgiven⟩ := (furnished_after services.1 calls).named row.1 row.2
  obtain ⟨input, hinput⟩ := normalizeDomainBase_ok hgiven
  have hagain := normalizeDomainName_again services.2 hinput hallowed
  exact hagain

/-! ### One domain -/

section

variable {services : RenderServices} {db : PanelStore} {now : Time} {identity : Identity}

theorem nameAllowed_of_named (hservices : services.toNameServices.Stable) {given : String}
    (hgiven : normalizeDomainBase services.toNameServices given = .ok name)
    (hallowed : asciiNameAllowed name.ascii = true) (hplain : isAlias name.ascii = false) :
    nameAllowed services name = true := by
  obtain ⟨input, hinput⟩ := normalizeDomainBase_ok hgiven
  obtain ⟨hascii, hdisplay⟩ := normalizeDomainName_again hservices hinput hallowed
  unfold isAlias at hplain
  unfold nameAllowed
  rw [hascii, hdisplay, hplain]
  simp

variable {domain : Domain} {target : CoreTarget} {accountID : ID}

theorem mem_kept_of_read (hread : domain.ReadFrom db now) {exception : DomainWAFException}
    (hmem : exception ∈ domain.exceptions) :
    exception ∈ db.keptExceptions domain.row.id ∧ exception.accountID = domain.row.accountID := by
  rw [hread.exceptions, activeWAFExceptions, mem_insertionSort, mem_filter, decide_eq_true_eq] at hmem
  obtain ⟨hmem, haccount, hdomain, hkept, -⟩ := hmem
  exact ⟨mem_keptExceptions.mpr ⟨hmem, hdomain, hkept⟩, haccount⟩

section

variable (hdb : db.Renderable services) (hread : domain.ReadFrom db now)

include hdb hread

theorem certificateAllowed_of_read (hsound : db.Sound) : certificateAllowed domain.core = true := by
  obtain ⟨v, hview, hrow⟩ := domainView_of_mem hsound.keyed hread.row
  have hv := hsound.consistent _ v hview
  obtain ⟨-, htls, hcertificates, -⟩ := domainView_eq_some.mp hview
  rw [hread.tls, some.injEq] at htls
  unfold certificateAllowed
  show (decide (domain.tls.activeCertificateRef.getD "" = "") || (isCanonicalUUIDv7
    (domain.tls.activeCertificateRef.getD "") && decide (domain.tls.names =
      [domain.row.asciiName, "www." ++ domain.row.asciiName]))) = true
  cases href : domain.tls.activeCertificateRef with
  | none => simp
  | some ref =>
    rw [htls] at href
    obtain ⟨-, certificate, hmem, hid, hactive⟩ := hv.attached ref href
    have hnames : v.tls.names = [domain.row.asciiName, "www." ++ domain.row.asciiName] := by
      rw [← (hv.active certificate hmem hactive).2, hv.stock.named certificate hmem, hrow]
      rfl
    have hcanonical : isCanonicalUUIDv7 ref = true := by
      rw [hcertificates, mem_owned] at hmem
      rw [← hid]
      exact hdb.certificates certificate hmem.1
    rw [Option.getD_some, htls, hnames, hcanonical]
    simp

theorem cacheAllowed_of_read : cacheAllowed domain.core domain.cache.preset = true := by
  have hrenderable := hdb.settings _ hread.row _ hread.settings
  have hserved : domain.cache.preset = .disabled ∨ domain.core.target.type = .known .php :=
    hrenderable.cache.imp_right fun htype => congrArg Choice.known htype
  have hgeneration : isCanonicalUUIDv7 domain.core.cacheGeneration = true := hrenderable.generation
  unfold cacheAllowed
  rw [decide_eq_true hserved, hgeneration]
  simp

theorem exceptionIDs_of_read : (domain.exceptions.map DomainWAFException.id).Nodup := by
  rw [hread.exceptions, activeWAFExceptions, ((perm_insertionSort _ _).map _).nodup_iff]
  exact hdb.exceptionIDs.sublist (List.filter_sublist.map _)

theorem prepareWAFExceptions_of_read (hsize : domain.exceptions.length ≤ maximumExceptions) :
    ∃ prepared, prepareWAFExceptions services domain.core = .ok prepared := by
  have hcore : domain.core.wafExceptions = domain.exceptions.map DomainWAFException.core := rfl
  have hids := exceptionIDs_of_read hdb hread
  have hkept : ∀ exception ∈ domain.exceptions, exception ∈ db.keptExceptions domain.row.id ∧
      exception.accountID = domain.row.accountID := fun _ hmem => mem_kept_of_read hread hmem
  have hon : ¬(domain.core.wafMode = .known .off ∧ domain.core.wafExceptions ≠ []) := by
    rintro ⟨hoff, hsome⟩
    apply hsome
    have hnone := hdb.off _ hread.row _ hread.settings (Choice.known.inj hoff)
    rw [hcore, map_eq_nil_iff, eq_nil_iff_forall_not_mem]
    intro exception hmem
    rw [hnone] at hkept
    exact absurd (hkept exception hmem).1 not_mem_nil
  have hallowed : domain.core.wafExceptions.all (exceptionAllowed domain.core) = true := by
    rw [all_eq_true]
    intro core hlisted
    obtain ⟨exception, hmem, rfl⟩ := mem_map.mp hlisted
    obtain ⟨hstored, haccount⟩ := hkept exception hmem
    obtain ⟨hstored, hdomain, -⟩ := mem_keptExceptions.mp hstored
    have hwell := hdb.exceptions exception hstored
    unfold exceptionAllowed
    rw [and_eq_true, decide_eq_true_eq]
    exact ⟨hwell, .inr haccount, .inr (.inr hdomain)⟩
  have hnodup : (domain.core.wafExceptions.map (·.id)).Nodup := by
    rw [hcore, map_map]
    exact hids
  have hrules : (domain.core.wafExceptions.map fun exception => exceptionRuleID services exception.id).Nodup := by
    rw [hcore, map_map]
    apply List.Nodup.map_on _ hids.of_map
    intro left hleft right hright hrule
    by_contra hne
    refine hdb.rules domain.row.id left (hkept left hleft).1 right (hkept right hright).1 ?_ hrule
    exact fun hid => hne (inj_on_of_nodup_map hids hleft hright hid)
  have hlength : ¬maximumExceptions < domain.core.wafExceptions.length := by
    rw [hcore, length_map]
    omega
  simp only [prepareWAFExceptions, guard_eq_ok_iff, pure_eq_ok_iff]
  refine ⟨_, ?_, ?_, ?_, rfl⟩
  · exact fun h => h.elim hlength hon
  · simp [hallowed]
  · exact fun h => h.elim (absurd hnodup) (absurd hrules)

end

/-! ### Targets -/

/-- What the repository asks of a target, by its type. -/
def PreparedDomainTarget.WellFormed (target : PreparedDomainTarget) : Prop :=
  match target.type with
  | .static => target.phpVersion = "" ∧ target.applicationID = none ∧ target.redirect = none
  | .php => target.applicationID = none ∧ target.redirect = none
  | .ociApplication => target.phpVersion = "" ∧ target.redirect = none
  | .redirect => target.phpVersion = "" ∧ target.applicationID = none ∧ ∃ redirect, target.redirect = some redirect ∧
      (redirect.statusCode = 301 ∨ redirect.statusCode = 302) ∧
      (redirect.wildcardSubdomains = true → redirect.hostMode = .both)

theorem prepareRootTarget_wellFormed {type : DomainTargetType} {target : PreparedDomainTarget}
    (htype : type = .static ∨ type = .php) (h : prepareRootTarget spec type = .ok target) : target.WellFormed := by
  simp only [prepareRootTarget, guard_eq_ok_iff, bind_eq_ok_iff, pure_eq_ok_iff] at h
  obtain ⟨-, -, hversion, root, -, rfl⟩ := h
  rcases htype with rfl | rfl
  · exact ⟨by simpa using hversion, rfl, rfl⟩
  · exact ⟨rfl, rfl⟩

theorem prepareDomainTarget_wellFormed {services : NameServices} {target : PreparedDomainTarget}
    (h : prepareDomainTarget services spec name = .ok target) : target.WellFormed := by
  simp only [prepareDomainTarget, bind_eq_ok_iff] at h
  obtain ⟨type, -, h⟩ := h
  cases type with
  | static => exact prepareRootTarget_wellFormed (.inl rfl) h
  | php => exact prepareRootTarget_wellFormed (.inr rfl) h
  | ociApplication =>
    simp only [prepareApplicationTarget] at h
    split at h
    · cases h
    · simp only [guard_eq_ok_iff, bind_eq_ok_iff, pure_eq_ok_iff] at h
      obtain ⟨-, -, -, rfl⟩ := h
      exact ⟨rfl, rfl⟩
  | redirect =>
    simp only [prepareRedirectTarget] at h
    split at h
    · cases h
    simp only [guard_eq_ok_iff, bind_eq_ok_iff, pure_eq_ok_iff] at h
    obtain ⟨-, redirect, hredirect, rfl⟩ := h
    refine ⟨rfl, rfl, redirect, rfl, ?_⟩
    simp only [Stackfort.prepareRedirect, guard_eq_ok_iff, bind_eq_ok_iff, pure_eq_ok_iff] at hredirect
    obtain ⟨hstatus, hostMode, -, hwildcard, url, -, -, rfl⟩ := hredirect
    refine ⟨?_, fun hset => ?_⟩
    · dsimp only
      omega
    by_contra hmode
    exact hwildcard ⟨hset, hmode⟩

theorem prepareRoot_of {path : String} (hidentity : identity.valid = true)
    (hroot : target.documentRoot = some ⟨identity.accountID, path⟩) (hpath : normalizeDocumentRoot path = .ok path)
    (happlication : target.applicationID = none) (hredirect : target.redirect = none)
    (hstatic : target.type = .known .static → target.phpVersion = "")
    (hphp : target.type = .known .php → isApprovedVersion target.phpVersion = true) :
    ∃ roots, prepareRoot identity target = .ok roots := by
  have hversion : ¬(target.type = .known .php ∧ target.phpVersion = "") := by
    rintro ⟨htype, hempty⟩
    have happroved := hphp htype
    rw [hempty] at happroved
    exact absurd happroved (by decide)
  have hsocket : ∃ socket, (if target.type = .known .php then socketPath identity target.phpVersion else pure "") =
      .ok socket := by
    by_cases htype : target.type = .known .php
    · simp only [if_pos htype, socketPath, hidentity, hphp htype, Bool.and_self, if_true]
      exact ⟨_, rfl⟩
    · exact ⟨"", if_neg htype⟩
  obtain ⟨socket, hsocket⟩ := hsocket
  refine ⟨(joinPath [identity.homeDirectory, path], socket), ?_⟩
  unfold prepareRoot
  rw [hroot]
  simp only [guard_eq_ok_iff, bind_eq_ok_iff, mapError_eq_ok_iff]
  refine ⟨?_, path, hpath, ?_, ?_⟩
  · simp only [happlication, hredirect, Option.isSome_none, Bool.false_eq_true, ne_eq, not_true_eq_false, or_false,
      false_or]
    rintro (⟨htype, hset⟩ | hunset)
    · exact hset (hstatic htype)
    · exact hversion hunset
  · exact fun hne => hne rfl
  · split
    next htype =>
      rw [if_pos htype] at hsocket
      rw [hsocket]
      rfl
    next htype =>
      rw [if_neg htype] at hsocket
      cases hsocket
      rfl

theorem prepareRedirect_of {redirect : CoreRedirect} {hostMode : RedirectHostMode}
    (hredirect : target.redirect = some redirect) (hroot : target.documentRoot = none)
    (happlication : target.applicationID = none) (hversion : target.phpVersion = "")
    (hstatus : redirect.statusCode = 301 ∨ redirect.statusCode = 302) (hmode : redirect.hostMode = .known hostMode)
    (hwildcard : redirect.wildcardSubdomains = true → hostMode = .both)
    (hstable : RedirectStable services redirect.targetURL redirect.targetASCIIHost) :
    ∃ prepared, Nginx.prepareRedirect services target = .ok prepared ∧
      prepared.wildcard = redirect.wildcardSubdomains := by
  obtain ⟨⟨port, hnormal⟩, hparsed⟩ := hstable
  obtain ⟨parsed, hparsed⟩ := Option.isSome_iff_exists.mp hparsed
  refine ⟨⟨redirect.statusCode, redirect.targetURL, hostMode, redirect.preservePath, redirect.preserveQuery,
    redirect.wildcardSubdomains, redirect.preserveQuery && decide (parsed.rawQuery ≠ ""), ""⟩, ?_, rfl⟩
  unfold Nginx.prepareRedirect
  rw [hredirect]
  simp only [guard_eq_ok_iff, bind_eq_ok_iff, mapError_eq_ok_iff]
  refine ⟨?_, ?_, hostMode, ?_, ?_, _, hnormal, ?_, ?_⟩
  · simp [hroot, happlication, hversion]
  · omega
  · rw [hmode]
    rfl
  · rintro ⟨hset, hne⟩
    exact hne (hwildcard hset)
  · simp
  · simp only [hparsed]
    rfl

variable {upstreams : List OCIApplicationUpstream} {domains : List Domain} {error : RenderError}

theorem prepareApplication_of {applicationID : ID} (happlication : target.applicationID = some applicationID)
    (hupstream : (upstreamPort upstreams applicationID).isSome = true) (hroot : target.documentRoot = none)
    (hredirect : target.redirect = none) (hversion : target.phpVersion = "") :
    ∃ result, prepareApplication upstreams target = .ok result := by
  obtain ⟨port, hport⟩ := Option.isSome_iff_exists.mp hupstream
  unfold prepareApplication
  rw [happlication]
  simp only [hroot, hredirect, hversion, hport]
  exact ⟨_, rfl⟩

/-- A redirect as it is stored and read back. -/
def PreparedRedirect.core (redirect : PreparedRedirect) : CoreRedirect :=
  ⟨redirect.statusCode.toNat, redirect.url.url, redirect.url.asciiHost, .known redirect.hostMode,
    redirect.preservePath, redirect.preserveQuery, redirect.wildcardSubdomains⟩

/-- The renderer reads the target that the repository prepared. -/
structure PreparedDomainTarget.ReadAs (target : PreparedDomainTarget) (accountID : ID) (core : CoreTarget) : Prop where
  type : core.type = .known target.type
  version : core.phpVersion = target.phpVersion
  application : core.applicationID = target.applicationID
  redirect : core.redirect = target.redirect.map PreparedRedirect.core
  root : target.type = .static ∨ target.type = .php → ∃ path, core.documentRoot = some ⟨accountID, path⟩ ∧
    normalizeDocumentRoot path = .ok path
  rootless : ¬(target.type = .static ∨ target.type = .php) → core.documentRoot = none

theorem readAs_of_valid (hfurnished : db.Furnished services.toNameServices) (hread : domain.ReadFrom db now) :
    ∃ target : PreparedDomainTarget, target.WellFormed ∧ target.ReadAs domain.row.accountID domain.core.target := by
  obtain ⟨settings, hsettings, hvalid⟩ := hfurnished.valid _ hread.row
  rw [hread.settings, some.injEq] at hsettings
  subst hsettings
  obtain ⟨-, -, -, hroot, -⟩ := settings_eq_some.mp hread.settings
  obtain ⟨spec, target, ids, rootID, actorID, createdAt, hprepared, htarget, hrooted, hrootless, hredirect⟩ :=
    hvalid.target
  simp only at hroot htarget hrooted hredirect
  refine ⟨target, prepareDomainTarget_wellFormed hprepared, ?_, ?_, ?_, ?_, ?_, ?_⟩
  · exact congrArg Choice.known (congrArg DomainTarget.type htarget)
  · show domain.target.phpVersion.getD "" = target.phpVersion
    rw [htarget]
    simp only [targetRow]
    split
    next hempty => exact hempty.symm
    next => rfl
  · exact congrArg DomainTarget.applicationID htarget
  · show domain.redirect.map DomainRedirect.core = _
    rw [hredirect, Option.map_map]
    rfl
  · intro hfiles
    obtain ⟨root, hfound, haccount, -⟩ := hrooted hfiles
    refine ⟨root.relativePath, ?_, hfurnished.rootPaths root (mem_of_find?_eq_some (hroot.trans hfound))⟩
    show domain.documentRoot.map DocumentRoot.core = _
    rw [hfound, ← haccount]
    rfl
  · intro hfiles
    show domain.documentRoot.map DocumentRoot.core = none
    rw [← hroot, targetRoot, htarget, hrootless hfiles]
    simp [targetRow]

/-- Every application of the account that can be routed to has an upstream. -/
def Upstreamed (db : PanelStore) (accountID : ID) (upstreams : List OCIApplicationUpstream) : Prop :=
  ∀ application ∈ db.applications, application.accountID = accountID → application.routable = true →
    (upstreamPort upstreams application.id).isSome = true

/-- The prepared domain routes what the store says. -/
structure Domain.PreparedAs (domain : Domain) (db : PanelStore) (item : PreparedDomain) : Prop where
  base : item.base = domain.row.asciiName
  wildcard : item.redirect.any Nginx.PreparedRedirect.wildcard = true → db.hasWildcardRedirect domain.row = true

theorem hasWildcardRedirect_of_read (hread : domain.ReadFrom db now)
    (h : domain.redirect.any DomainRedirect.wildcardSubdomains = true) : db.hasWildcardRedirect domain.row = true := by
  obtain ⟨htarget, -, -, -, hredirect⟩ := settings_eq_some.mp hread.settings
  simp only at htarget hredirect
  obtain ⟨redirect, hfound, hset⟩ := (Option.any_eq_true _ _).mp h
  rw [hfound, targetRedirect] at hredirect
  have howner := find?_some htarget
  rw [decide_eq_true_eq] at howner
  unfold hasWildcardRedirect
  rw [htarget, Option.any_some, any_eq_true]
  refine ⟨redirect, mem_of_find?_eq_some hredirect, ?_⟩
  have hnamed := find?_some hredirect
  rw [decide_eq_true_eq] at hnamed
  rw [hset, Bool.and_true, decide_eq_true_eq, howner.1, howner.2.1]
  exact hnamed

section

variable (hidentity : identity.valid = true) (hfurnished : db.Furnished services.toNameServices)
  (hdb : db.Renderable services) (hrouted : db.Routed) (hupstreams : Upstreamed db identity.accountID upstreams)
  (hread : domain.ReadFrom db now) (haccount : domain.row.accountID = identity.accountID)
  (hlive : domain.row.removedAt = none)

include hidentity hfurnished hdb hrouted hupstreams hread haccount hlive

/-- The target of a domain that is read passes the checks of the renderer. -/
theorem prepareTarget_of_read (item : PreparedDomain) (hitem : item.domain = domain.core)
    (hnone : item.redirect = none) :
    ∃ prepared, prepareTarget services identity upstreams item = .ok prepared ∧ prepared.base = item.base ∧
      (prepared.redirect.any Nginx.PreparedRedirect.wildcard = true →
        domain.redirect.any DomainRedirect.wildcardSubdomains = true) := by
  have hrenderable := hdb.settings _ hread.row _ hread.settings
  obtain ⟨target, hwell, hreads⟩ := readAs_of_valid hfurnished hread
  rw [haccount] at hreads
  have htype : domain.target.type = target.type := Choice.known.inj hreads.type
  unfold prepareTarget
  unfold PreparedDomainTarget.WellFormed at hwell
  simp only [hitem, hreads.type]
  -- the rules for the two types that serve files
  have hserves : (target.type = .static ∨ target.type = .php) → target.applicationID = none →
      target.redirect = none → (target.type = .static → target.phpVersion = "") →
      ∃ roots, prepareRoot identity domain.core.target = .ok roots := by
    intro hfiles hnoApplication hnoRedirect hstatic
    obtain ⟨path, hroot, hpath⟩ := hreads.root hfiles
    refine prepareRoot_of hidentity hroot hpath (hreads.application.trans hnoApplication) ?_ ?_ ?_
    · rw [hreads.redirect, hnoRedirect]
      rfl
    · intro hknown
      exact hreads.version.trans (hstatic (Choice.known.inj (hreads.type.symm.trans hknown)))
    · exact fun hknown => hrenderable.php (Choice.known.inj hknown)
  cases hcase : target.type with
  | static =>
    rw [hcase] at hwell hserves
    obtain ⟨roots, hroots⟩ := hserves (.inl rfl) hwell.2.1 hwell.2.2 fun _ => hwell.1
    rw [hroots]
    exact ⟨_, rfl, rfl, by simp [hnone]⟩
  | php =>
    rw [hcase] at hwell hserves
    obtain ⟨roots, hroots⟩ := hserves (.inr rfl) hwell.1 hwell.2 nofun
    rw [hroots]
    exact ⟨_, rfl, rfl, by simp [hnone]⟩
  | redirect =>
    rw [hcase] at hwell
    obtain ⟨hempty, hnoApplication, redirect, hgiven, hstatus, hwildcard⟩ := hwell
    have hcore : domain.core.target.redirect = some redirect.core := by rw [hreads.redirect, hgiven]; rfl
    obtain ⟨stored, hstored, hsame⟩ := Option.map_eq_some_iff.mp hcore
    have hstable : RedirectStable services redirect.core.targetURL redirect.core.targetASCIIHost := by
      rw [← hsame]
      exact hrenderable.redirect stored hstored
    have hcode : redirect.core.statusCode = redirect.statusCode := by
      show ((redirect.statusCode.toNat : Nat) : Int) = redirect.statusCode
      omega
    rw [← hcode] at hstatus
    obtain ⟨prepared, hprepared, hcovers⟩ := prepareRedirect_of hcore (hreads.rootless (by simp [hcase]))
      (hreads.application.trans hnoApplication) (hreads.version.trans hempty) hstatus rfl hwildcard hstable
    rw [hprepared]
    refine ⟨_, rfl, rfl, fun hset => ?_⟩
    rw [hstored]
    exact (congrArg CoreRedirect.wildcardSubdomains hsame).trans (hcovers.symm.trans hset)
  | ociApplication =>
    rw [hcase] at hwell
    obtain ⟨application, hmem, howner, hid, hroutable⟩ := hrouted.routes _ hread.row hlive _ hread.settings
      (htype.trans hcase)
    have happlication : domain.core.target.applicationID = some application.id := hid
    obtain ⟨result, hresult⟩ := prepareApplication_of happlication
      (hupstreams application hmem (howner.trans haccount) hroutable) (hreads.rootless (by simp [hcase]))
      (by rw [hreads.redirect, hwell.2]; rfl) (hreads.version.trans hwell.1)
    rw [hresult]
    exact ⟨_, rfl, rfl, by simp [hnone]⟩

theorem prepareDomain_of_read (hservices : services.toNameServices.Stable) (hsound : db.Sound)
    (hsize : domain.exceptions.length ≤ maximumExceptions) :
    ∃ result, prepareDomain services identity domain.core upstreams = .ok result ∧
      ∀ item ∈ result, domain.PreparedAs db item := by
  obtain ⟨hallowed, given, hgiven⟩ := hfurnished.named _ hread.row
  have hname : nameAllowed services domain.core.name = true :=
    nameAllowed_of_named hservices hgiven hallowed (hdb.names _ hread.row)
  simp only [prepareDomain_eq_ok_iff]
  by_cases hinactive : domain.core.inactive = true
  · exact ⟨none, ⟨haccount, hname, rfl, .inl ⟨hinactive, rfl⟩⟩, by simp⟩
  have hactive : domain.core.live = true := by
    have hstatus : domain.core.status = .known domain.row.status := rfl
    unfold CoreDomain.inactive at hinactive
    unfold CoreDomain.live
    rw [decide_eq_true_eq, hstatus] at hinactive ⊢
    revert hinactive
    cases domain.row.status with
    | pending => exact fun _ => .inl rfl
    | active => exact fun _ => .inr rfl
    | suspended => exact absurd (.inl rfl)
    | removed => exact absurd (.inr rfl)
  have hcertificate := certificateAllowed_of_read hdb hread hsound
  have hcache := cacheAllowed_of_read hdb hread
  obtain ⟨exceptions, hexceptions⟩ := prepareWAFExceptions_of_read hdb hread hsize
  have hprofile : ∃ profile, profilePath domain.core.wafMode = .ok profile := by
    show ∃ profile, profilePath (.known domain.waf.mode) = .ok profile
    cases domain.waf.mode <;> exact ⟨_, rfl⟩
  obtain ⟨profile, hprofile⟩ := hprofile
  obtain ⟨item, hitem, hbase, hwildcard⟩ := prepareTarget_of_read hidentity hfurnished hdb hrouted hupstreams hread
    haccount hlive (checkedItem domain.core profile exceptions domain.cache.preset) rfl rfl
  have hprepared : prepareLiveDomain services identity domain.core upstreams = .ok item := by
    simp only [prepareLiveDomain, guard_eq_ok_iff, bind_eq_ok_iff, mapError_eq_ok_iff]
    exact ⟨by simp [hcertificate], profile, hprofile, domain.cache.preset, rfl, by simp [hcache], exceptions,
      hexceptions, hitem⟩
  refine ⟨some item, ⟨haccount, hname, rfl, .inr ⟨hactive, item, hprepared, rfl⟩⟩, ?_⟩
  rintro _ ⟨⟩
  exact ⟨hbase, fun hset => hasWildcardRedirect_of_read hread (hwildcard hset)⟩

end

/-! ### One account -/

theorem mem_parentNames {name parent : List Char} (h : parent ∈ parentNames name) : ('.' :: parent) <:+ name := by
  induction name with
  | nil => cases h
  | cons c rest ih =>
    unfold parentNames at h
    split at h
    next hdot =>
      rcases mem_cons.mp h with rfl | hmem
      · rw [hdot]
      · exact (ih hmem).trans (suffix_cons c rest)
    next => exact (ih h).trans (suffix_cons c rest)

/-- Every domain is prepared, for what the store says. -/
abbrev Prepares (services : RenderServices) (identity : Identity) (upstreams : List OCIApplicationUpstream)
    (db : PanelStore) (domains : List Domain) : Prop :=
  ∀ domain ∈ domains, ∃ result, prepareDomain services identity domain.core upstreams = .ok result ∧
    ∀ item ∈ result, domain.PreparedAs db item

theorem prepareDomains_of (h : Prepares services identity upstreams db domains) :
    ∃ prepared, prepareDomains services identity upstreams (domains.map Domain.core) = .ok prepared ∧
      (prepared.map (·.base)).Sublist (domains.map fun domain => domain.row.asciiName) ∧
      ∀ item ∈ prepared, ∃ domain ∈ domains, domain.PreparedAs db item := by
  induction domains with
  | nil => exact ⟨[], rfl, .slnil, by simp⟩
  | cons domain rest ih =>
    obtain ⟨result, hresult, hitem⟩ := h domain mem_cons_self
    obtain ⟨prepared, hprepared, hbases, hfrom⟩ := ih fun other hother => h other (mem_cons_of_mem _ hother)
    refine ⟨result.toList ++ prepared, ?_, ?_, ?_⟩
    · rw [map_cons, prepareDomains_cons, hresult, hprepared]
      rfl
    · cases result with
      | none => exact hbases.cons _
      | some item =>
        rw [Option.toList_some, singleton_append, map_cons, map_cons, (hitem item rfl).base]
        exact hbases.cons_cons _
    · intro item hmem
      rcases mem_append.mp hmem with hnew | hold
      · exact ⟨domain, mem_cons_self, hitem item (Option.mem_toList.mp hnew)⟩
      · obtain ⟨other, hother, hprepared⟩ := hfrom item hold
        exact ⟨other, mem_cons_of_mem _ hother, hprepared⟩

/-- The upstreams of an account as the query returns them. -/
def PanelStore.routedUpstreams (db : PanelStore) (accountID : ID) : List OCIApplicationUpstream :=
  (db.applications.filter fun row => decide (row.accountID = accountID) && row.routable).filterMap
    fun row => row.loopbackPort.map fun port => ⟨row.id, port⟩

theorem PanelStore.mem_routedUpstreams {upstream : OCIApplicationUpstream} :
    upstream ∈ db.routedUpstreams accountID ↔ ∃ row ∈ db.applications, row.accountID = accountID ∧
      row.routable = true ∧ row.loopbackPort = some upstream.loopbackPort ∧ row.id = upstream.applicationID := by
  unfold routedUpstreams
  rw [mem_filterMap]
  constructor
  · rintro ⟨row, hmem, hfound⟩
    obtain ⟨hmem, hrow⟩ := mem_filter.mp hmem
    rw [and_eq_true, decide_eq_true_eq] at hrow
    obtain ⟨port, hport, rfl⟩ := Option.map_eq_some_iff.mp hfound
    exact ⟨row, hmem, hrow.1, hrow.2, hport, rfl⟩
  · rintro ⟨row, hmem, haccount, hroutable, hport, hid⟩
    refine ⟨row, mem_filter.mpr ⟨hmem, ?_⟩, ?_⟩
    · rw [haccount, hroutable]
      simp
    · rw [hport, hid]
      rfl

theorem PanelStore.Routed.upstream (hrouted : db.Routed) {upstream : OCIApplicationUpstream}
    (hmem : upstream ∈ db.routedUpstreams accountID) :
    isCanonicalUUIDv7 upstream.applicationID = true ∧ minimumLoopbackPort ≤ upstream.loopbackPort ∧
      upstream.loopbackPort ≤ maximumLoopbackPort := by
  obtain ⟨row, hmem, -, hroutable, hport, hid⟩ := mem_routedUpstreams.mp hmem
  obtain ⟨hcanonical, port, hserved, hlow, hhigh, -⟩ := hrouted.served row hmem hroutable
  rw [hport, some.injEq] at hserved
  rw [← hid, hserved]
  exact ⟨hcanonical, hlow, hhigh⟩

theorem PanelStore.Routed.upstreams_distinct (hrouted : db.Routed) (accountID : ID) :
    (db.routedUpstreams accountID).Pairwise fun left right =>
      left.applicationID ≠ right.applicationID ∧ left.loopbackPort ≠ right.loopbackPort := by
  have hids : (db.applications.filter fun row => decide (row.accountID = accountID) && row.routable).Pairwise
      fun left right => left.id ≠ right.id := (List.pairwise_map.mp hrouted.ids).sublist filter_sublist
  refine List.Pairwise.filterMap _ ?_ (hids.imp_of_mem fun hleft hright hne =>
    And.intro (mem_filter.mp hleft) (And.intro (mem_filter.mp hright) hne))
  rintro left right ⟨⟨hleft, hleftRow⟩, ⟨hright, hrightRow⟩, hne⟩ first hfirst second hsecond
  rw [and_eq_true] at hleftRow hrightRow
  obtain ⟨port, hport, rfl⟩ := Option.map_eq_some_iff.mp hfirst
  obtain ⟨port', hport', rfl⟩ := Option.map_eq_some_iff.mp hsecond
  refine ⟨hne, fun heq => ?_⟩
  obtain ⟨-, served, hserved, -, -, hothers⟩ := hrouted.served left hleft hleftRow.2
  rw [hport, some.injEq] at hserved
  exact hothers right hright hne.symm hrightRow.2 (hport'.trans (congrArg some (heq.symm.trans hserved)))

/-- The upstreams of an account can be read, and the renderer takes them. -/
theorem listOCIApplicationUpstreams_of (hrouted : db.Routed) (hid : isCanonicalUUIDv7 accountID = true) :
    ∃ upstreams, db.listOCIApplicationUpstreams accountID = .ok upstreams ∧ Upstreamed db accountID upstreams ∧
      (∀ upstream ∈ upstreams, isCanonicalUUIDv7 upstream.applicationID = true) ∧
      (upstreams.length ≤ maximumDomains → prepareOCIUpstreams upstreams = .ok upstreams) := by
  let before := fun left right : OCIApplicationUpstream => left.applicationID ≤ right.applicationID
  let upstreams := (db.routedUpstreams accountID).insertionSort before
  have hperm : upstreams.Perm (db.routedUpstreams accountID) := perm_insertionSort _ _
  have hinvalid : ∀ list : List OCIApplicationUpstream, list.Perm (db.routedUpstreams accountID) →
      (list.any fun upstream => !isCanonicalUUIDv7 upstream.applicationID ||
        decide (upstream.loopbackPort < minimumLoopbackPort ∨ maximumLoopbackPort < upstream.loopbackPort)) =
          false := by
    intro list hlist
    rw [any_eq_false]
    intro upstream hmem
    obtain ⟨hcanonical, hlow, hhigh⟩ := hrouted.upstream (hlist.mem_iff.mp hmem)
    rw [hcanonical, Bool.not_true, Bool.false_or, decide_eq_true_eq]
    omega
  refine ⟨upstreams, ?_, ?_, ?_, ?_⟩
  · unfold PanelStore.listOCIApplicationUpstreams
    rw [hid]
    exact if_neg (Bool.eq_false_iff.mp (hinvalid _ (.refl _)))
  · intro application hmem haccount hroutable
    obtain ⟨-, port, hport, -⟩ := hrouted.served application hmem hroutable
    have hlisted : (⟨application.id, port⟩ : OCIApplicationUpstream) ∈ upstreams := by
      rw [hperm.mem_iff, mem_routedUpstreams]
      exact ⟨application, hmem, haccount, hroutable, hport, rfl⟩
    rw [upstreamPort, Option.isSome_map, find?_isSome]
    exact ⟨_, hlisted, by simp⟩
  · exact fun upstream hmem => (hrouted.upstream (hperm.mem_iff.mp hmem)).1
  · intro hsize
    have hdistinct := (hperm.pairwise_iff fun h => ⟨h.1.symm, h.2.symm⟩).mpr (hrouted.upstreams_distinct accountID)
    have hsorted : upstreams.Pairwise before := pairwise_insertionSort _ _
    have hordered : (upstreams.map (·.applicationID)).IsChain (· < ·) := by
      refine List.Pairwise.isChain (List.pairwise_map.mpr ?_)
      exact (hsorted.and hdistinct).imp fun h => lt_of_le_of_ne h.1 h.2.1
    have hports : (upstreams.map (·.loopbackPort)).Nodup := List.pairwise_map.mpr (hdistinct.imp fun h => h.2)
    unfold prepareOCIUpstreams
    rw [if_neg]
    · rfl
    · rw [hinvalid upstreams hperm]
      rintro (hlong | hbad | hchain | hdouble)
      · omega
      · cases hbad
      · exact hchain hordered
      · exact hdouble hports

theorem appendDomains_error {texts : List String} :
    ∀ {output : String}, appendDomains output texts = .error error → error = .renderedTooLarge := by
  induction texts with
  | nil => nofun
  | cons text rest ih =>
    intro output h
    unfold appendDomains at h
    split at h
    · cases h
      rfl
    · exact ih h

/-- Prepared domains without conflicts are rendered, unless the text is too large. -/
theorem renderPrepared_error {options : Options} {headers : List RenderedHeader} {activation : String}
    {prepared : List PreparedDomain}
    (hroutes : validateRouteConflicts (sortPrepared (prepared.map fun item => { item with activationVariable := activation })) = .ok ())
    (h : renderPrepared services identity options headers activation prepared = .error error) :
    error = .renderedTooLarge := by
  simp only [renderPrepared, hroutes, ok_bind] at h
  split at h
  · cases h
    rfl
  · rcases Except.bind_eq_error_iff.mp h with hcontent | ⟨content, -, hdone⟩
    · exact appendDomains_error hcontent
    · cases hdone

theorem domainSpec_of_prepared (hcanonical : ∀ upstream ∈ upstreams, isCanonicalUUIDv7 upstream.applicationID = true)
    {domain : CoreDomain} {result : Option PreparedDomain}
    (h : prepareDomain services identity domain upstreams = .ok result) (hactive : domain.inactive = false) :
    ∃ spec, domainSpec domain = .ok spec := by
  obtain ⟨-, -, -, ⟨hinactive, -⟩ | ⟨-, item, -, rfl⟩⟩ := (prepareDomain_eq_ok_iff services).mp h
  · exact absurd hinactive (Bool.eq_false_iff.mp hactive)
  · obtain ⟨spec, hspec, -⟩ := domain_arrives hcanonical h
    exact ⟨spec, hspec⟩

section

variable (hexclusive : db.Exclusive)
  (hrows : ∀ domain ∈ domains, domain.row ∈ db.domains ∧ domain.row.removedAt = none)

include hexclusive hrows

theorem validateRouteConflicts_of (hids : (db.domains.map DomainRow.id).Nodup) {items : List PreparedDomain}
    (hbases : (items.map (·.base)).Nodup) (hfrom : ∀ item ∈ items, ∃ domain ∈ domains, domain.PreparedAs db item) :
    validateRouteConflicts items = .ok () := by
  have hchain : (items.map (·.base)).IsChain (· ≠ ·) := List.Pairwise.isChain hbases
  unfold validateRouteConflicts
  simp only [hchain]
  rw [any_eq_false.mpr]
  · rfl
  · intro item hitem hcovered
    obtain ⟨parent, hparent, hcontained⟩ := any_eq_true.mp hcovered
    rw [List.contains_eq_mem, decide_eq_true_eq, wildcardParents, mem_map] at hcontained
    obtain ⟨other, hother, hbase⟩ := hcontained
    obtain ⟨hother, hset⟩ := mem_filter.mp hother
    obtain ⟨below, hbelow, hbelowAs⟩ := hfrom item hitem
    obtain ⟨above, habove, haboveAs⟩ := hfrom other hother
    have hsubdomain : isSubdomainOf below.row.asciiName above.row.asciiName = true := by
      rw [isSubdomainOf_iff, ← haboveAs.base, ← hbelowAs.base, hbase, String.toList_ofList]
      exact mem_parentNames hparent
    -- a name is longer than the names above it, so these are two domains
    have hne : above.row.id ≠ below.row.id := by
      intro hid
      have hsame : above.row = below.row :=
        inj_on_of_nodup_map hids (hrows above habove).1 (hrows below hbelow).1 hid
      rw [isSubdomainOf_iff, hsame] at hsubdomain
      have hlength := hsubdomain.length_le
      simp at hlength
    exact Bool.false_ne_true ((hexclusive.wildcards above.row (hrows above habove).1 below.row (hrows below hbelow).1
      (hrows above habove).2 (hrows below hbelow).2 hne (haboveAs.wildcard hset)).symm.trans hsubdomain)

theorem names_nodup (hids : (domains.map fun domain => domain.row.id).Nodup) :
    (domains.map fun domain => domain.row.asciiName).Nodup := by
  rw [nodup_iff_pairwise_ne, pairwise_map] at hids ⊢
  refine hids.imp_of_mem fun {left right} hleft hright hne => ?_
  exact hexclusive.names left.row (hrows left hleft).1 right.row (hrows right hright).1 (hrows left hleft).2
    (hrows right hright).2 hne

theorem renderAccount_error (hidentity : identity.valid = true) (hkeys : (db.domains.map DomainRow.id).Nodup)
    (hids : (domains.map fun domain => domain.row.id).Nodup)
    (heach : Prepares services identity upstreams db domains)
    (hsize : domains.length ≤ maximumDomains) (hupstreams : prepareOCIUpstreams upstreams = .ok upstreams)
    (h : renderAccount services identity (domains.map Domain.core) { defaultOptions with ociUpstreams := upstreams } = .error error) :
    error = .renderedTooLarge := by
  obtain ⟨prepared, hprepared, hbases, hfrom⟩ := prepareDomains_of heach
  have hperm : (sortPrepared (prepared.map fun item => { item with activationVariable := "" })).Perm
      (prepared.map fun item => { item with activationVariable := "" }) := perm_insertionSort _ _
  have hheaders : ∃ headers, prepareHeaders defaultOptions.headerPolicies = .ok headers := ⟨_, rfl⟩
  obtain ⟨headers, hheaders⟩ := hheaders
  have hactivation : activationVariable identity { defaultOptions with ociUpstreams := upstreams } = .ok "" := rfl
  unfold renderAccount at h
  rw [if_neg (by rw [hidentity, length_map]; simpa using hsize)] at h
  simp only [hheaders, hupstreams, hactivation, hprepared, ok_bind] at h
  refine renderPrepared_error (validateRouteConflicts_of hexclusive hrows hkeys ?_ fun item hmem => ?_) h
  · rw [(hperm.map _).nodup_iff, map_map]
    exact (names_nodup hexclusive hrows hids).sublist hbases
  · obtain ⟨source, hsource, rfl⟩ := mem_map.mp (hperm.mem_iff.mp hmem)
    obtain ⟨domain, hdomain, hitem⟩ := hfrom source hsource
    exact ⟨domain, hdomain, hitem.base, hitem.wildcard⟩

end

/-- Every account of a run that stays clear of the differences is rendered, unless the text is too large. -/
theorem domains_renderable (services : RenderServices) (hservices : services.toNameServices.Stable)
    (calls : List PanelCall)
    (h : Along services.toNameServices (fun db call => call.KeepsRenderable services db) .empty calls)
    (identity : Identity) (hidentity : identity.valid = true) (now : Time) :
    ∃ domains upstreams, (after services.toNameServices calls).listDomains identity.accountID now = .ok domains ∧
      (after services.toNameServices calls).listOCIApplicationUpstreams identity.accountID = .ok upstreams ∧
      (domains.length ≤ maximumDomains → upstreams.length ≤ maximumDomains →
        (∀ domain ∈ domains, domain.exceptions.length ≤ maximumExceptions) →
        ∀ error, specsFromDomains services identity (domains.map Domain.core)
          { defaultOptions with ociUpstreams := upstreams } = .error error → error = .renderedTooLarge) := by
  obtain ⟨hdb, hrouted⟩ := renderable_after h
  have hfurnished := furnished_after services.toNameServices calls
  have hsound := sound_after services.toNameServices calls
  have hexclusive := exclusive_after services.toNameServices calls
  generalize after services.toNameServices calls = db at hdb hrouted hfurnished hsound hexclusive ⊢
  have hid : isCanonicalUUIDv7 identity.accountID = true := by
    unfold Identity.valid at hidentity
    exact (Bool.and_eq_true_iff.mp hidentity).1
  obtain ⟨domains, hlisted, hread, -, hids⟩ := listDomains_of hsound hfurnished hid now
  obtain ⟨upstreams, hlistedUpstreams, hupstreams, hcanonical, hprepares⟩ := listOCIApplicationUpstreams_of hrouted hid
  refine ⟨domains, upstreams, hlisted, hlistedUpstreams, ?_⟩
  intro hsize hupstreamsSize hexceptions error herror
  have hrows : ∀ domain ∈ domains, domain.row ∈ db.domains ∧ domain.row.removedAt = none := fun domain hmem =>
    ⟨(hread domain hmem).1.row, (hread domain hmem).2.2⟩
  have heach : Prepares services identity upstreams db domains := by
    intro domain hmem
    obtain ⟨hfrom, haccount, hlive⟩ := hread domain hmem
    exact prepareDomain_of_read hidentity hfurnished hdb hrouted hupstreams hfrom haccount hlive hservices hsound
      (hexceptions domain hmem)
  have hspecs : ∃ specs, ((domains.map Domain.core).filter fun domain => !domain.inactive).mapM domainSpec =
      .ok specs := by
    refine (Except.mapM_of_forall (R := fun _ _ => True) fun core hcore => ?_).imp fun specs hspecs => hspecs.1
    obtain ⟨hcore, hactive⟩ := mem_filter.mp hcore
    obtain ⟨domain, hdomain, rfl⟩ := mem_map.mp hcore
    obtain ⟨result, hresult, -⟩ := heach domain hdomain
    obtain ⟨spec, hspec⟩ := domainSpec_of_prepared hcanonical hresult (by simpa using hactive)
    exact ⟨spec, hspec, trivial⟩
  obtain ⟨specs, hspecs⟩ := hspecs
  rcases Except.bind_eq_error_iff.mp herror with hfailed | ⟨rendered, -, hfailed⟩
  · exact renderAccount_error hexclusive hrows hidentity hsound.keyed.domains hids heach hsize
      (hprepares hupstreamsSize) hfailed
  · rw [hspecs] at hfailed
    cases hfailed

end

namespace PanelSample

/-- A domain behind the firewall, with one exception. -/
def protectedDomain : List PanelCall :=
  [.account ⟨accountID, .active, ⟨10, [], true, true, true⟩⟩,
    .createDomain { creation "a.com" with wafMode := .known .blockingPL1 }
      ⟨domainID, sampleID 16, sampleID 17, sampleID 18⟩ 100,
    .queueIssue ⟨accountID, domainID, sampleID 19, "request", "key"⟩ (.ok ()) operationID 100,
    .createWAFException ⟨accountID, domainID, operationID, 920100, "/form", "", 100 + 2 * second, operationID, none, ""⟩
      100]

/-- An edit that turns the firewall off and leaves everything else. -/
def firewallOff : UpdateDomainParams :=
  ⟨accountID, domainID, none, none, some (.known .off), none, false, none, none, ""⟩

def editIDs : DomainIDs := ⟨domainID, sampleID 22, sampleID 23, sampleID 24⟩

theorem toLower_of_name (h : isNameCharacter c = true) : c.toLower = c := by
  have hbounds := isNameCharacter_bounds h
  unfold Char.toLower
  rw [dif_neg]
  rintro ⟨hlow, hhigh⟩
  have hlow' : 65 ≤ c.toNat := hlow
  have hhigh' : c.toNat ≤ 90 := hhigh
  omega

theorem plainNames_stable : plainNames.Stable where
  ascii := by
    intro value encoded _ hallowed
    refine ⟨toLowerASCII encoded, rfl, ?_⟩
    simp only [asciiNameAllowed, and_eq_true] at hallowed
    have hname : ∀ c ∈ (toLowerASCII encoded).toList, isNameCharacter c = true :=
      all_eq_true.mp hallowed.1.1.2
    generalize toLowerASCII encoded = name at hname ⊢
    have hlower : name.toList.map Char.toLower = name.toList :=
      (map_congr_left fun c hc => toLower_of_name (hname c hc)).trans (map_id _)
    unfold toLowerASCII
    rw [hlower, String.ofList_toList]
  display := by
    rintro asciiName _ hallowed ⟨⟩
    exact hostText_of_asciiNameAllowed hallowed

/-- What has to be evaluated of the calls to see that the renderer can follow them. -/
def Followed : Prop :=
  (match checkCreateDomain plainNames { creation "a.com" with wafMode := .known .blockingPL1 }
      ⟨domainID, sampleID 16, sampleID 17, sampleID 18⟩ with
    | .ok checked => decide (isAlias checked.name.ascii = false ∧ checked.cachePreset = .disabled ∧
        checked.target.type = .static) && checked.target.redirect.isNone
    | .error _ => true) = true ∧
  ((after plainNames (protectedDomain.take 3)).keptExceptions domainID).isEmpty = true ∧
  (match (after plainNames protectedDomain).listDomains accountID 100,
      (after plainNames protectedDomain).listOCIApplicationUpstreams accountID with
    | .ok domains, .ok upstreams => decide (domains.length = 1 ∧ upstreams.length = 0) &&
        domains.all fun domain => decide (domain.exceptions.length = 1)
    | _, _ => false) = true

instance : Decidable Followed := inferInstanceAs (Decidable (_ ∧ _))

theorem Followed.along (h : Followed) :
    Along plainNames (fun db call => call.KeepsRenderable RenderSample.services db) .empty protectedDomain := by
  obtain ⟨hcreated, hnone, -⟩ := h
  refine ⟨trivial, ?_, trivial, ?_, trivial⟩
  · intro checked hchecked
    have hservices : RenderSample.services.toNameServices = plainNames := rfl
    rw [hservices] at hchecked
    rw [hchecked] at hcreated
    simp only [and_eq_true, decide_eq_true_eq] at hcreated
    obtain ⟨⟨halias, hcache, htype⟩, hredirect⟩ := hcreated
    refine ⟨halias, .inl hcache, ?_, ?_⟩
    · intro hphp
      rw [htype] at hphp
      cases hphp
    · intro redirect hsome
      rw [hsome] at hredirect
      cases hredirect
  · intro exception hmem
    have hempty : (after plainNames (protectedDomain.take 3)).keptExceptions domainID = [] := List.isEmpty_iff.mp hnone
    have hmem' : exception ∈ (after plainNames (protectedDomain.take 3)).keptExceptions domainID := hmem
    rw [hempty] at hmem'
    cases hmem'

end PanelSample

open PanelSample RenderSample in
/-- The theorem at a domain behind the firewall with one exception. -/
theorem domains_renderable_protected :
    ∃ domains upstreams, (after plainNames protectedDomain).listDomains accountID 100 = .ok domains ∧
      (after plainNames protectedDomain).listOCIApplicationUpstreams accountID = .ok upstreams ∧
      domains.length = 1 ∧ ∀ error, specsFromDomains RenderSample.services RenderSample.identity
        (domains.map Domain.core) { defaultOptions with ociUpstreams := upstreams } = .error error →
          error = .renderedTooLarge := by
  have hfollowed : Followed := by decide +kernel
  obtain ⟨domains, upstreams, hlisted, hupstreams, hrendered⟩ := domains_renderable RenderSample.services
    plainNames_stable protectedDomain hfollowed.along RenderSample.identity (by decide +kernel) 100
  refine ⟨domains, upstreams, hlisted, hupstreams, ?_⟩
  have hread := hfollowed.2.2
  have hlisted' : (after plainNames protectedDomain).listDomains accountID 100 = .ok domains := hlisted
  have hupstreams' : (after plainNames protectedDomain).listOCIApplicationUpstreams accountID = .ok upstreams := hupstreams
  rw [hlisted', hupstreams'] at hread
  simp only [and_eq_true, decide_eq_true_eq, all_eq_true] at hread
  obtain ⟨⟨hone, hzero⟩, hexceptions⟩ := hread
  refine ⟨hone, hrendered ?_ ?_ ?_⟩
  · rw [hone]
    decide
  · rw [hzero]
    decide
  · intro domain hmem
    rw [hexceptions domain hmem]
    decide

open PanelSample in
/-- The firewall is turned off although the domain has an exception; the renderer refuses the account. -/
theorem firewall_off_unrenderable :
    (updateDomain plainNames (after plainNames protectedDomain) firewallOff editIDs 200).2.isOk = true ∧
      ∃ domains upstreams,
        (after plainNames (protectedDomain ++ [.updateDomain firewallOff editIDs 200])).listDomains accountID 200 =
          .ok domains ∧
        (after plainNames (protectedDomain ++ [.updateDomain firewallOff editIDs 200])).listOCIApplicationUpstreams
          accountID = .ok upstreams ∧
        domains.length = 1 ∧ upstreams = [] ∧ (∀ domain ∈ domains, domain.exceptions.length = 1) ∧
        specsFromDomains RenderSample.services RenderSample.identity (domains.map Domain.core)
          { defaultOptions with ociUpstreams := upstreams } = .error .invalidSpec := by
  have hrun : (updateDomain plainNames (after plainNames protectedDomain) firewallOff editIDs 200).2.isOk = true ∧
      (match (after plainNames (protectedDomain ++ [.updateDomain firewallOff editIDs 200])).listDomains accountID 200,
        (after plainNames (protectedDomain ++ [.updateDomain firewallOff editIDs 200])).listOCIApplicationUpstreams
          accountID with
      | .ok domains, .ok upstreams => decide (domains.length = 1 ∧ upstreams = []) &&
          (domains.all fun domain => decide (domain.exceptions.length = 1)) &&
          match specsFromDomains RenderSample.services RenderSample.identity (domains.map Domain.core)
            { defaultOptions with ociUpstreams := upstreams } with
          | .error .invalidSpec => true
          | _ => false
      | _, _ => false) = true := by decide +kernel
  refine ⟨hrun.1, ?_⟩
  have hread := hrun.2
  split at hread
  next domains upstreams hlisted hupstreams =>
    simp only [and_eq_true, decide_eq_true_eq, all_eq_true] at hread
    obtain ⟨⟨⟨hone, hempty⟩, hall⟩, hrefused⟩ := hread
    refine ⟨domains, upstreams, hlisted, hupstreams, hone, hempty, hall, ?_⟩
    split at hrefused
    next heq => exact heq
    next => cases hrefused
  next => cases hread

end Stackfort
