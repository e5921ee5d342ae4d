import Stackfort.CertificateActivation

/-! Which hosts a domain answers for: its base name, the `www` alias and, while its target is a wildcard
redirect, every name below the base. A live base name is unique, and a wildcard never covers the
base of another live domain; so two live domains answer for one host only if the base of one is the
alias of the other. The alias is stored nowhere, and no check compares it. -/

namespace Stackfort

open PanelStore List

variable {services : NameServices} {db db' : PanelStore} {ids : DomainIDs} {now : Time} {params : UpdateDomainParams}
  {spec : DomainTargetSpec} {row row' : DomainRow} {call : PanelCall} {target : PreparedDomainTarget}

/-! ### Suffixes of host names -/

theorem isSubdomainOf_iff {left right : String} :
    isSubdomainOf left right = true ↔ ('.' :: right.toList) <:+ left.toList := by
  have htext : ("." ++ right).toList = '.' :: right.toList := by
    rw [String.toList_append]
    rfl
  unfold isSubdomainOf hasTextSuffix
  rw [htext, List.isSuffixOf_iff_suffix]

/-- A name below two base names: they are equal, or one of them is below the other. -/
theorem isSubdomainOf_both {host first second : String} (hfirst : isSubdomainOf host first = true)
    (hsecond : isSubdomainOf host second = true) :
    first = second ∨ isSubdomainOf second first = true ∨ isSubdomainOf first second = true := by
  rw [isSubdomainOf_iff] at hfirst hsecond ⊢
  rw [isSubdomainOf_iff]
  rcases suffix_or_suffix_of_suffix hfirst hsecond with h | h
  · rcases List.suffix_cons_iff.mp h with heq | hshort
    · exact .inl (String.toList_injective (List.cons.inj heq).2)
    · exact .inr (.inl hshort)
  · rcases List.suffix_cons_iff.mp h with heq | hshort
    · exact .inl (String.toList_injective (List.cons.inj heq).2.symm)
    · exact .inr (.inr hshort)

theorem isSubdomainOf_alias {name base : String} (h : isSubdomainOf ("www." ++ name) base = true) :
    base = name ∨ isSubdomainOf name base = true := by
  rw [isSubdomainOf_iff] at h ⊢
  have halias : ("www." ++ name).toList = 'w' :: 'w' :: 'w' :: '.' :: name.toList := by
    rw [String.toList_append]
    rfl
  rw [halias, suffix_cons_iff, suffix_cons_iff, suffix_cons_iff, suffix_cons_iff] at h
  rcases h with h | h | h | h | h
  · exact absurd (List.cons.inj h).1 (by decide)
  · exact absurd (List.cons.inj h).1 (by decide)
  · exact absurd (List.cons.inj h).1 (by decide)
  · exact .inl (String.toList_injective (List.cons.inj h).2)
  · exact .inr h

theorem alias_injective {first second : String} (h : "www." ++ first = "www." ++ second) : first = second := by
  have hlists := congrArg String.toList h
  rw [String.toList_append, String.toList_append] at hlists
  exact String.toList_injective (append_cancel_left hlists)

/-! ### Hosts -/

/-- The domain answers for the host. -/
def PanelStore.Routes (db : PanelStore) (row : DomainRow) (host : String) : Prop :=
  host = row.asciiName ∨ host = "www." ++ row.asciiName ∨
    (db.hasWildcardRedirect row = true ∧ isSubdomainOf host row.asciiName = true)

/-- The base name is the alias of some other name. -/
def isAlias (name : String) : Bool := "www.".toList.isPrefixOf name.toList

theorem isAlias_append (name : String) : isAlias ("www." ++ name) = true := by
  unfold isAlias
  rw [String.toList_append]
  exact List.isPrefixOf_iff_prefix.mpr (prefix_append _ _)

/-- What the checks of creations and edits maintain. -/
structure PanelStore.Exclusive (db : PanelStore) : Prop where
  names : ∀ left ∈ db.domains, ∀ right ∈ db.domains, left.removedAt = none → right.removedAt = none →
    left.id ≠ right.id → left.asciiName ≠ right.asciiName
  wildcards : ∀ left ∈ db.domains, ∀ right ∈ db.domains, left.removedAt = none → right.removedAt = none →
    left.id ≠ right.id → db.hasWildcardRedirect left = true → isSubdomainOf right.asciiName left.asciiName = false

/-- Two live domains of an exclusive store share a host only through an alias. -/
theorem PanelStore.Exclusive.disjoint (h : db.Exclusive) {left right : DomainRow} (hleft : left ∈ db.domains)
    (hright : right ∈ db.domains) (hlive : left.removedAt = none) (hlive' : right.removedAt = none)
    (hne : left.id ≠ right.id) (hplain : isAlias left.asciiName = false) (hplain' : isAlias right.asciiName = false)
    {host : String} (hroutes : db.Routes left host) : ¬db.Routes right host := by
  have hnames := h.names left hleft right hright hlive hlive' hne
  have hcovers := h.wildcards left hleft right hright hlive hlive' hne
  have hcovers' := h.wildcards right hright left hleft hlive' hlive hne.symm
  intro hroutes'
  rcases hroutes with rfl | rfl | ⟨hwildcard, hbelow⟩
  · rcases hroutes' with hsame | halias | ⟨hwildcard', hbelow'⟩
    · exact hnames hsame
    · rw [halias, isAlias_append] at hplain
      cases hplain
    · simp [hcovers' hwildcard'] at hbelow'
  · rcases hroutes' with halias | hsame | ⟨hwildcard', hbelow'⟩
    · rw [← halias, isAlias_append] at hplain'
      cases hplain'
    · exact hnames (alias_injective hsame)
    · rcases isSubdomainOf_alias hbelow' with hsame | hbelow
      · exact hnames hsame.symm
      · simp [hcovers' hwildcard'] at hbelow
  · rcases hroutes' with rfl | rfl | ⟨hwildcard', hbelow'⟩
    · simp [hcovers hwildcard] at hbelow
    · rcases isSubdomainOf_alias hbelow with hsame | hbelow
      · exact hnames hsame
      · simp [hcovers hwildcard] at hbelow
    · rcases isSubdomainOf_both hbelow hbelow' with hsame | hbelow | hbelow
      · exact hnames hsame
      · simp [hcovers hwildcard] at hbelow
      · simp [hcovers' hwildcard'] at hbelow

/-! ### Wildcards of a target -/

theorem prepareDomainTarget_redirect {name : NormalizedDomainName}
    (h : prepareDomainTarget services spec name = .ok target) :
    target.hasWildcard = target.redirect.any PreparedRedirect.wildcardSubdomains := by
  simp only [prepareDomainTarget, bind_eq_ok_iff] at h
  obtain ⟨type, -, h⟩ := h
  have hroot : ∀ kind, prepareRootTarget spec kind = .ok target → target.redirect = none := by
    intro kind hkind
    simp only [prepareRootTarget, guard_eq_ok_iff, bind_eq_ok_iff, pure_eq_ok_iff] at hkind
    obtain ⟨-, -, -, ⟨mode, path⟩, -, rfl⟩ := hkind
    rfl
  cases type with
  | static =>
    simp [PreparedDomainTarget.hasWildcard, hroot _ h]
  | php =>
    simp [PreparedDomainTarget.hasWildcard, hroot _ h]
  | ociApplication =>
    simp only [prepareApplicationTarget] at h
    split at h
    · cases h
    · simp only [guard_eq_ok_iff, bind_eq_ok_iff, pure_eq_ok_iff] at h
      obtain ⟨-, ⟨⟩, -, rfl⟩ := h
      rfl
  | redirect =>
    simp only [prepareRedirectTarget] at h
    split at h
    · cases h
    · simp only [guard_eq_ok_iff, bind_eq_ok_iff, pure_eq_ok_iff] at h
      obtain ⟨-, prepared, -, rfl⟩ := h
      rfl

namespace PanelStore

/-- The current target of a domain and its redirects decide about the wildcard. -/
theorem hasWildcardRedirect_congr (hid : row'.id = row.id) (haccount : row'.accountID = row.accountID)
    (htargets : db'.targets = db.targets) (hredirects : db'.redirects = db.redirects) :
    db'.hasWildcardRedirect row' = db.hasWildcardRedirect row := by
  unfold hasWildcardRedirect currentTarget
  rw [hid, haccount, htargets, hredirects]

namespace TargetSet

variable {accountID domainID : ID} {target : PreparedDomainTarget} {actorID : Option ID}

theorem hasWildcardRedirect_self (h : TargetSet db accountID domainID ids target actorID now db')
    (haccount : row.accountID = accountID) (hid : row.id = domainID) :
    db'.hasWildcardRedirect row = target.redirect.any PreparedRedirect.wildcardSubdomains := by
  obtain ⟨rootID, hcurrent, -⟩ := h.currentTarget_self
  generalize hrow : targetRow accountID domainID ids target rootID
    (target.redirect.map fun _ => ids.redirectCandidateID) actorID now = current at hcurrent
  unfold hasWildcardRedirect
  rw [haccount, hid, hcurrent, Option.any_some, h.redirects, any_append]
  cases hredirect : target.redirect with
  | none =>
    have hnone : current.redirectID = none := by rw [← hrow, hredirect]; rfl
    simp [hnone]
  | some redirect =>
    have hcandidate : current.redirectID = some ids.redirectCandidateID := by rw [← hrow, hredirect]; rfl
    have howner : current.accountID = accountID ∧ current.domainID = domainID := by rw [← hrow]; exact ⟨rfl, rfl⟩
    have hfresh := h.freshRedirect (by rw [hredirect]; rfl)
    rw [List.any_eq_false.mpr]
    · simp [redirectRow, hcandidate, howner]
    · intro other hother
      simp [hcandidate, hfresh other hother]

theorem hasWildcardRedirect_other (h : TargetSet db accountID domainID ids target actorID now db')
    (hne : row.id ≠ domainID) : db'.hasWildcardRedirect row = db.hasWildcardRedirect row := by
  have hcurrent := h.currentTarget_other fun heq : row.accountID = accountID ∧ row.id = domainID => hne heq.2
  unfold hasWildcardRedirect
  rw [hcurrent, h.redirects]
  cases hfound : db.currentTarget row.accountID row.id with
  | none => rfl
  | some current =>
    have hown := (currentOf_iff.mp (find?_some hfound)).2.1
    rw [Option.any_some, any_append, Option.any_some]
    refine (congrArg _ (List.any_eq_false.mpr fun redirect hmem => ?_)).trans (Bool.or_false _)
    obtain ⟨prepared, -, rfl⟩ := Option.map_eq_some_iff.mp (Option.mem_toList.mp hmem)
    have hdomain : domainID ≠ current.domainID := fun heq => hne (hown.symm.trans heq.symm)
    simp [redirectRow, hdomain]

end TargetSet

theorem ensureNoWildcardConflict_ok {asciiName : String} {excluded : Option ID}
    (h : db.ensureNoWildcardConflict asciiName excluded target = .ok ()) :
    (∀ row ∈ db.domains, row.removedAt = none → some row.id ≠ excluded → db.hasWildcardRedirect row = true →
      isSubdomainOf asciiName row.asciiName = false) ∧
    (target.hasWildcard = true → ∀ row ∈ db.domains, row.removedAt = none → some row.id ≠ excluded →
      isSubdomainOf row.asciiName asciiName = false) := by
  simp only [ensureNoWildcardConflict, guard_eq_ok_iff, ite_throw_eq_ok_iff] at h
  obtain ⟨hcovered, hoverlaps, -⟩ := h
  refine ⟨fun row hmem hlive hother hwildcard => ?_, fun hwildcard row hmem hlive hother => ?_⟩
  · by_contra hbelow
    apply hcovered
    refine any_eq_true.mpr ⟨row, hmem, ?_⟩
    simp [hlive, hother, hwildcard, Bool.not_eq_false _ ▸ hbelow]
  · by_contra hbelow
    apply hoverlaps
    refine ⟨hwildcard, any_eq_true.mpr ⟨row, hmem, ?_⟩⟩
    simp [hlive, hother, Bool.not_eq_false _ ▸ hbelow]

end PanelStore

/-! ### Preservation -/

theorem PanelStore.Exclusive.of_rows (h : db.Exclusive) {f : DomainRow → DomainRow} (hf : KeepsName f)
    (hlive : ∀ row, (f row).removedAt = none → row.removedAt = none) (hdomains : db'.domains = db.domains.map f)
    (htargets : db'.targets = db.targets) (hredirects : db'.redirects = db.redirects) : db'.Exclusive := by
  refine ⟨?_, ?_⟩
  · rw [hdomains]
    intro left' hleft' right' hright' hlive₁ hlive₂ hne
    obtain ⟨left, hleft, rfl⟩ := mem_map.mp hleft'
    obtain ⟨right, hright, rfl⟩ := mem_map.mp hright'
    rw [hf.id, hf.id] at hne
    rw [hf.asciiName, hf.asciiName]
    exact h.names left hleft right hright (hlive left hlive₁) (hlive right hlive₂) hne
  · rw [hdomains]
    intro left' hleft' right' hright' hlive₁ hlive₂ hne hwildcard
    obtain ⟨left, hleft, rfl⟩ := mem_map.mp hleft'
    obtain ⟨right, hright, rfl⟩ := mem_map.mp hright'
    rw [hf.id, hf.id] at hne
    rw [hasWildcardRedirect_congr (hf.id left) (hf.accountID left) htargets hredirects] at hwildcard
    rw [hf.asciiName, hf.asciiName]
    exact h.wildcards left hleft right hright (hlive left hlive₁) (hlive right hlive₂) hne hwildcard

theorem Created.exclusive {params : CreateDomainParams} {checked : CheckedCreation}
    (hchecked : checkCreateDomain services params ids = .ok checked) (h : Created db params checked ids now db')
    (hdb : db.Exclusive) : db'.Exclusive := by
  obtain ⟨hcovered, hoverlaps⟩ := ensureNoWildcardConflict_ok h.noConflict
  have hprepared := prepareDomainTarget_redirect (checkCreateDomain_ok hchecked).2.2.1
  refine ⟨?_, ?_⟩
  · rw [h.domains]
    intro left hleft right hright hlive hlive' hne
    rcases mem_append.mp hleft with hleft | hleft
    · rcases mem_append.mp hright with hright | hright
      · exact hdb.names left hleft right hright hlive hlive' hne
      · rw [mem_singleton.mp hright]
        exact h.freshName left hleft hlive
    · rw [mem_singleton.mp hleft]
      rcases mem_append.mp hright with hright | hright
      · exact (h.freshName right hright hlive').symm
      · rw [mem_singleton.mp hleft, mem_singleton.mp hright] at hne
        exact absurd rfl hne
  · rw [h.domains]
    intro left hleft right hright hlive hlive' hne hwildcard
    rcases mem_append.mp hleft with hleft | hleft
    · rw [h.target.hasWildcardRedirect_other (h.freshID left hleft)] at hwildcard
      rcases mem_append.mp hright with hright | hright
      · exact hdb.wildcards left hleft right hright hlive hlive' hne hwildcard
      · rw [mem_singleton.mp hright]
        exact hcovered left hleft hlive (by simp) hwildcard
    · rw [mem_singleton.mp hleft] at hwildcard ⊢
      rw [h.target.hasWildcardRedirect_self rfl rfl, ← hprepared] at hwildcard
      rcases mem_append.mp hright with hright | hright
      · exact hoverlaps hwildcard right hright hlive' (by simp)
      · rw [mem_singleton.mp hleft, mem_singleton.mp hright] at hne
        exact absurd rfl hne

/-- A new target for an existing domain was checked against every other one. -/
theorem Retargeted.exclusive {domain : DomainRow}
    (h : Retargeted services db params ⟨domain.displayName, domain.asciiName⟩ ids now spec target db')
    (hdomain : db.domains.find? (ofAccount params.accountID params.domainID) = some domain)
    (hids : (db.domains.map DomainRow.id).Nodup) (hdb : db.Exclusive) : db'.Exclusive := by
  obtain ⟨hcovered, hoverlaps⟩ := ensureNoWildcardConflict_ok h.noConflict
  have hprepared := prepareDomainTarget_redirect h.prepared
  have hdomains : db'.domains = db.domains := by rw [h.rest]
  have hother : ∀ row : DomainRow, row.id ≠ params.domainID →
      db'.hasWildcardRedirect row = db.hasWildcardRedirect row := by
    intro row hne
    rw [h.set.hasWildcardRedirect_other hne]
    unfold hasWildcardRedirect
    rw [supersedeTarget_other db now fun heq => hne heq.2]
    rfl
  have hself : ∀ row ∈ db.domains, row.id = params.domainID → row = domain := by
    intro row hmem hid
    have hnamed := ofAccount_iff.mp (find?_some hdomain)
    exact inj_on_of_nodup_map hids hmem (mem_of_find?_eq_some hdomain) (hid.trans hnamed.2.symm)
  refine ⟨?_, ?_⟩
  · rw [hdomains]
    exact hdb.names
  · rw [hdomains]
    intro left hleft right hright hlive hlive' hne hwildcard
    by_cases hedited : left.id = params.domainID
    · obtain rfl := hself left hleft hedited
      have haccount := (ofAccount_iff.mp (find?_some hdomain)).1
      rw [h.set.hasWildcardRedirect_self haccount hedited, ← hprepared] at hwildcard
      apply hoverlaps hwildcard right hright hlive'
      rw [← hedited]
      exact fun heq => hne (some.inj heq).symm
    · rw [hother left hedited] at hwildcard
      by_cases hedited' : right.id = params.domainID
      · obtain rfl := hself right hright hedited'
        apply hcovered left hleft hlive _ hwildcard
        exact fun heq => hedited (some.inj heq)
      · exact hdb.wildcards left hleft right hright hlive hlive' hne hwildcard

theorem Edited.exclusive {checked : CheckedUpdate} (h : Edited services db params checked ids now db')
    (hids : (db.domains.map DomainRow.id).Nodup) (hdb : db.Exclusive) : db'.Exclusive := by
  obtain ⟨domain, current, cache, db₁, type, hdomain, -, -, -, hmaybe, -, -, -, hredirects, htargets, -, -⟩ := h.read
  have hkeeps := keepsName_updateWhere (p := ofAccount params.accountID params.domainID)
    (keepsName_setEdited checked.canonicalMode now)
  have hlive : ∀ row : DomainRow, (if row.ofAccount params.accountID params.domainID then
      row.setEdited checked.canonicalMode now else row).removedAt = none → row.removedAt = none := by
    intro row hnone
    split at hnone
    · exact hnone
    · exact hnone
  have hretargeted : db₁.Exclusive ∧ db₁.domains = db.domains := by
    cases hmaybe with
    | kept => exact ⟨hdb, rfl⟩
    | changed hsome hretargeted => exact ⟨hretargeted.exclusive hdomain hids hdb, by rw [hretargeted.rest]⟩
  exact hretargeted.1.of_rows hkeeps hlive (hretargeted.2.symm ▸ h.domains) htargets hredirects

theorem Effect.exclusive (h : Effect services db call db') (hids : (db.domains.map DomainRow.id).Nodup)
    (hdb : db.Exclusive) : db'.Exclusive := by
  rcases h.domains_cases with ⟨_, _, _, _, -, hchecked, h⟩ | ⟨_, _, _, _, -, -, h⟩ | ⟨f, h⟩
  · exact h.exclusive hchecked hdb
  · exact h.exclusive hids hdb
  · exact hdb.of_rows h.rows.toKeepsName h.rows.live h.domains h.targets h.redirects

/-- Base names come from creations and never change. -/
theorem Effect.names (h : Effect services db call db') (hmem' : row' ∈ db'.domains) :
    (∃ row ∈ db.domains, row'.asciiName = row.asciiName) ∨
      ∃ params ids now checked, call = .createDomain params ids now ∧
        checkCreateDomain services params ids = .ok checked ∧ row'.asciiName = checked.name.ascii := by
  have hmapped : ∀ {f : DomainRow → DomainRow}, KeepsName f → db'.domains = db.domains.map f →
      ∃ row ∈ db.domains, row'.asciiName = row.asciiName := by
    intro f hf hdomains
    rw [hdomains] at hmem'
    obtain ⟨row, hmem, rfl⟩ := mem_map.mp hmem'
    exact ⟨row, hmem, hf.asciiName row⟩
  rcases h.domains_cases with ⟨params, ids, now, checked, hcall, hchecked, h⟩ | ⟨_, _, _, _, -, -, h⟩ | ⟨f, h⟩
  · rw [h.domains] at hmem'
    rcases mem_append.mp hmem' with hold | hnew
    · exact .inl ⟨row', hold, rfl⟩
    · rw [mem_singleton.mp hnew]
      exact .inr ⟨params, ids, now, checked, hcall, hchecked, rfl⟩
  · exact .inl (hmapped (keepsName_updateWhere (keepsName_setEdited _ _)) h.domains)
  · exact .inl (hmapped h.rows.toKeepsName h.domains)

/-! ### Every run -/

/-- A creation whose base name is not the alias of another name. -/
def PanelCall.CreatesNoAlias (services : NameServices) : PanelCall → Prop
  | .createDomain params _ _ =>
    ∀ name, normalizeDomainBase services params.name = .ok name → isAlias name.ascii = false
  | _ => True

theorem PanelStore.exclusive_after (services : NameServices) (calls : List PanelCall) :
    (after services calls).Exclusive := by
  have hempty : PanelStore.empty.Exclusive := ⟨by simp [empty], by simp [empty]⟩
  refine (run_invariant (fun db => db.Furnished services ∧ db.Exclusive) (fun heffect hdb => ?_) calls
    ⟨furnished_empty services, hempty⟩).2
  exact ⟨heffect.furnished hdb.1, heffect.exclusive hdb.1.domains hdb.2⟩

theorem PanelStore.plain_after {calls : List PanelCall} (h : ∀ call ∈ calls, call.CreatesNoAlias services) :
    ∀ row ∈ (after services calls).domains, isAlias row.asciiName = false := by
  refine Along.invariant (fun db => ∀ row ∈ db.domains, isAlias row.asciiName = false)
    (fun hcall heffect hdb row' hmem' => ?_) (along_of_forall h) (by simp [empty])
  rcases heffect.names hmem' with ⟨row, hmem, hname⟩ | ⟨params, ids, now, checked, rfl, hchecked, hname⟩
  · rw [hname]
    exact hdb row hmem
  · rw [hname]
    exact hcall checked.name (checkCreateDomain_ok hchecked).2.1

/-- **Hosts are exclusive while no base name is an alias.** In every run that creates no domain under a
base name starting with `www.`, no host is answered for by two live domains, of one account or of
two. -/
theorem hosts_exclusive (services : NameServices) (calls : List PanelCall)
    (h : ∀ call ∈ calls, call.CreatesNoAlias services) (left right : DomainRow)
    (hleft : left ∈ (after services calls).domains) (hright : right ∈ (after services calls).domains)
    (hlive : left.removedAt = none) (hlive' : right.removedAt = none) (hne : left ≠ right) (host : String) :
    ¬((after services calls).Routes left host ∧ (after services calls).Routes right host) := by
  have hplain := plain_after h
  have hids : left.id ≠ right.id := fun heq =>
    hne (inj_on_of_nodup_map (furnished_after services calls).domains hleft hright heq)
  rintro ⟨hroutes, hroutes'⟩
  exact (exclusive_after services calls).disjoint hleft hright hlive hlive' hids (hplain left hleft)
    (hplain right hright) hroutes hroutes'

namespace PanelSample

/-- Two domains of one account. -/
def twoDomains (first second : String) : List PanelCall :=
  [.account ⟨accountID, .active, ⟨10, [], true, true, true⟩⟩,
    .createDomain (creation first) ⟨domainID, sampleID 16, sampleID 17, sampleID 18⟩ 100,
    .createDomain (creation second) ⟨sampleID 21, sampleID 22, sampleID 23, sampleID 24⟩ 100]

def pendingRow (domainID : ID) (name : String) : DomainRow :=
  ⟨domainID, accountID, name, name, .pending, .preferApex, 100, 100, none, none⟩

end PanelSample

open PanelSample in
theorem hosts_exclusive_two :
    ¬((after plainNames (twoDomains "a.com" "b.com")).Routes (pendingRow domainID "a.com") "www.a.com" ∧
      (after plainNames (twoDomains "a.com" "b.com")).Routes (pendingRow (sampleID 21) "b.com") "www.a.com") := by
  have hnames : normalizeDomainBase plainNames "a.com" = .ok ⟨"a.com", "a.com"⟩ ∧
      normalizeDomainBase plainNames "b.com" = .ok ⟨"b.com", "b.com"⟩ := by decide +kernel
  have hplain : ∀ call ∈ twoDomains "a.com" "b.com", call.CreatesNoAlias plainNames := by
    intro call hcall
    simp only [twoDomains, mem_cons, not_mem_nil, or_false] at hcall
    rcases hcall with rfl | rfl | rfl
    · trivial
    · intro name hname
      rw [creation, hnames.1] at hname
      cases hname
      decide
    · intro name hname
      rw [creation, hnames.2] at hname
      cases hname
      decide
  have hrows : pendingRow domainID "a.com" ∈ (after plainNames (twoDomains "a.com" "b.com")).domains ∧
      pendingRow (sampleID 21) "b.com" ∈ (after plainNames (twoDomains "a.com" "b.com")).domains := by decide +kernel
  exact hosts_exclusive plainNames (twoDomains "a.com" "b.com") hplain _ _ hrows.1 hrows.2 rfl rfl (by decide) _

open PanelSample in
/-- `www.www.example.com` is stored as `www.example.com`, the alias of `example.com`: both domains answer
for it. -/
theorem alias_routed_twice :
    pendingRow domainID "www.example.com" ∈
        (after plainNames (twoDomains "www.www.example.com" "example.com")).domains ∧
      pendingRow (sampleID 21) "example.com" ∈
        (after plainNames (twoDomains "www.www.example.com" "example.com")).domains ∧
      (after plainNames (twoDomains "www.www.example.com" "example.com")).Routes
        (pendingRow domainID "www.example.com") "www.example.com" ∧
      (after plainNames (twoDomains "www.www.example.com" "example.com")).Routes
        (pendingRow (sampleID 21) "example.com") "www.example.com" := by
  rw [← and_assoc]
  exact ⟨by decide +kernel, .inl rfl, .inr (.inl (by decide))⟩

end Stackfort
