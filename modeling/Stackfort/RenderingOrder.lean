import Stackfort.NginxWire

/-! The order of the input. Domains, the exceptions of each domain and the header policies come in any order
and are sorted before they are written. Whatever is sorted has distinct keys: policies and the local rules
of the exceptions are checked to be distinct, and domains of one name are refused after sorting. -/

namespace Stackfort.Nginx

open List

section

variable {α β κ : Type} [LinearOrder κ] {l l' : List α}

theorem pairwise_insertionSort_key (key : α → κ) (l : List α) :
    (l.insertionSort fun a b => key a ≤ key b).Pairwise fun a b => key a ≤ key b := by
  have htotal : Std.Total fun a b : α => key a ≤ key b := ⟨fun a b => le_total (key a) (key b)⟩
  have htrans : IsTrans α fun a b : α => key a ≤ key b := ⟨fun _ _ _ => le_trans⟩
  exact pairwise_insertionSort _ l

/-- Elements with distinct keys are sorted in one way. -/
theorem insertionSort_key_perm (key : α → κ) (hperm : l.Perm l') (hkeys : (l.map key).Nodup) :
    (l.insertionSort fun a b => key a ≤ key b) = l'.insertionSort fun a b => key a ≤ key b := by
  refine List.Perm.eq_of_pairwise (fun a b ha hb hab hba => ?_) (pairwise_insertionSort_key key l)
    (pairwise_insertionSort_key key l') ?_
  · have ha' := (mem_insertionSort _).mp ha
    have hb' := hperm.mem_iff.mpr ((mem_insertionSort _).mp hb)
    exact inj_on_of_nodup_map hkeys ha' hb' (le_antisymm hab hba)
  · exact (perm_insertionSort _ l).trans (hperm.trans (perm_insertionSort _ l').symm)

theorem nodup_of_sorted {keys : List κ} (hsorted : keys.Pairwise (· ≤ ·)) (hchain : keys.IsChain (· ≠ ·)) :
    keys.Nodup := by
  have hstrict : keys.IsChain (· < ·) := by
    induction keys with
    | nil => exact .nil
    | cons first rest ih =>
      have htail := (List.pairwise_cons.mp hsorted).2
      cases rest with
      | nil => exact .singleton first
      | cons next rest =>
        rw [isChain_cons_cons] at hchain ⊢
        refine ⟨lt_of_le_of_ne ?_ hchain.1, ih htail hchain.2⟩
        exact (List.pairwise_cons.mp hsorted).1 next mem_cons_self
  exact hstrict.pairwise.imp ne_of_lt

theorem mapM_perm {ε : Type} {f : α → Except ε β} (hperm : l.Perm l') {values : List β}
    (h : l.mapM f = .ok values) : ∃ values', l'.mapM f = .ok values' ∧ values.Perm values' := by
  induction hperm generalizing values with
  | nil => exact ⟨values, h, .refl _⟩
  | cons a _ ih =>
    simp only [mapM_cons, bind_eq_ok_iff, pure_eq_ok_iff] at h ⊢
    obtain ⟨b, hb, rest, hrest, rfl⟩ := h
    obtain ⟨rest', hrest', hperm⟩ := ih hrest
    exact ⟨b :: rest', ⟨b, hb, rest', hrest', rfl⟩, hperm.cons b⟩
  | swap a a' _ =>
    simp only [mapM_cons, bind_eq_ok_iff, pure_eq_ok_iff] at h ⊢
    obtain ⟨b, hb, _, ⟨b', hb', rest, hrest, rfl⟩, rfl⟩ := h
    exact ⟨b' :: b :: rest, ⟨b', hb', b :: rest, ⟨b, hb, rest, hrest, rfl⟩, rfl⟩, .swap b' b rest⟩
  | trans _ _ ih ih' =>
    obtain ⟨values', hvalues, hperm⟩ := ih h
    obtain ⟨values'', hvalues', hperm'⟩ := ih' hvalues
    exact ⟨values'', hvalues', hperm.trans hperm'⟩

end

/-! ### Headers and exceptions -/

theorem prepareHeader_policy {policy : HeaderPolicy} {header : RenderedHeader} (h : prepareHeader policy = .ok header) :
    header.policy = policy ∧ ∀ text, policy ≠ .unsupported text := by
  cases policy <;> cases h <;> simp

/-- The headers are those of the policies, and the texts of the policies tell them apart. -/
theorem prepareHeaders_texts {policies : List HeaderPolicy} {headers : List RenderedHeader}
    (h : policies.mapM prepareHeader = .ok headers) (hdistinct : policies.Nodup) :
    (headers.map fun header => header.policy.text).Nodup := by
  have hpolicies : headers.map RenderedHeader.policy = policies ∧
      ∀ policy ∈ policies, ∀ text, policy ≠ .unsupported text := by
    clear hdistinct
    induction policies generalizing headers with
    | nil =>
      cases h
      simp
    | cons policy rest ih =>
      simp only [mapM_cons, bind_eq_ok_iff, pure_eq_ok_iff] at h
      obtain ⟨header, hheader, others, hothers, rfl⟩ := h
      obtain ⟨hmap, hknown⟩ := ih hothers
      obtain ⟨hpolicy, hfirst⟩ := prepareHeader_policy hheader
      exact ⟨by rw [map_cons, hpolicy, hmap], List.forall_mem_cons.mpr ⟨hfirst, hknown⟩⟩
  have htexts : (headers.map fun header => header.policy.text) = policies.map HeaderPolicy.text := by
    rw [← hpolicies.1, map_map]
    rfl
  rw [htexts]
  refine List.Nodup.map_on (fun left hleft right hright heq => ?_) hdistinct
  have hl := hpolicies.2 left hleft
  have hr := hpolicies.2 right hright
  cases left <;> cases right <;>
    first | rfl | exact absurd rfl (hl _) | exact absurd rfl (hr _) | simp [HeaderPolicy.text] at heq

theorem prepareHeaders_perm {policies policies' : List HeaderPolicy} (hperm : policies.Perm policies')
    {headers : List RenderedHeader} (h : prepareHeaders policies = .ok headers) :
    prepareHeaders policies' = .ok headers := by
  simp only [prepareHeaders, guard_eq_ok_iff, bind_eq_ok_iff, pure_eq_ok_iff, not_or, not_lt, not_not] at h ⊢
  obtain ⟨⟨hlength, hdistinct⟩, unsorted, hunsorted, rfl⟩ := h
  obtain ⟨unsorted', hunsorted', hsame⟩ := mapM_perm hperm hunsorted
  refine ⟨⟨hperm.length_eq ▸ hlength, hperm.nodup_iff.mp hdistinct⟩, unsorted', hunsorted', ?_⟩
  exact (insertionSort_key_perm _ hsame (prepareHeaders_texts hunsorted hdistinct)).symm

section

variable {rendered : Rendered} (services : RenderServices) (identity : Identity)

/-- The same domain with its exceptions in another order. -/
def CoreDomain.Reorders (domain domain' : CoreDomain) : Prop :=
  ∃ exceptions, domain.wafExceptions.Perm exceptions ∧ domain' = { domain with wafExceptions := exceptions }

variable {services identity}

variable {domain domain' : CoreDomain} {domains domains' : List CoreDomain} {prepared : List PreparedDomain}

section

variable (h : domain.Reorders domain')

include h

theorem prepareWAFExceptions_reorders :
    prepareWAFExceptions services domain' = prepareWAFExceptions services domain := by
  obtain ⟨exceptions, hperm, rfl⟩ := h
  have hempty : exceptions = [] ↔ domain.wafExceptions = [] :=
    ⟨fun h => (h ▸ hperm).eq_nil, fun h => (h ▸ hperm.symm).eq_nil⟩
  have hall : exceptions.all (exceptionAllowed { domain with wafExceptions := exceptions }) =
      domain.wafExceptions.all (exceptionAllowed domain) := hperm.all_eq.symm
  have hids := (hperm.map CoreWAFException.id).nodup_iff
  have hrules := (hperm.map fun exception => exceptionRuleID services exception.id).nodup_iff
  unfold prepareWAFExceptions
  simp only [hperm.length_eq, hempty, ne_eq, hall, hids, hrules]
  by_cases hdistinct : (exceptions.map fun exception => exceptionRuleID services exception.id).Nodup
  · have hsorted := insertionSort_key_perm PreparedWAFException.localRuleID
      (hperm.symm.map (prepareException services)) (by simpa [Function.comp_def, prepareException] using hdistinct)
    rw [hsorted]
  · simp [hdistinct, throw_eq_error, error_bind]

theorem CoreDomain.Reorders.symm : domain'.Reorders domain := by
  obtain ⟨exceptions, hperm, rfl⟩ := h
  exact ⟨domain.wafExceptions, hperm.symm, rfl⟩

/-! ### Domains -/

variable {upstreams : List OCIApplicationUpstream}

theorem prepareLiveDomain_reorders {item : PreparedDomain}
    (hitem : prepareLiveDomain services identity domain upstreams = .ok item) :
    ∃ item', prepareLiveDomain services identity domain' upstreams = .ok item' ∧ item'.plain = item.plain := by
  have hexceptions : prepareWAFExceptions services domain' = _ := prepareWAFExceptions_reorders h
  obtain ⟨exceptions, -, rfl⟩ := h
  simp only [prepareLiveDomain, bind_eq_ok_iff, guard_eq_ok_iff] at hitem ⊢
  obtain ⟨hcertificate, profile, hprofile, preset, hpreset, hcache, prepared, hprepared, htarget⟩ := hitem
  -- both items are the same without what no writer reads
  have hplain := @prepareTarget_relabel services identity upstreams CoreDomain.plain (fun _ => rfl)
  have hsame := (hplain (checkedItem { domain with wafExceptions := exceptions } profile prepared preset)).symm.trans
    (hplain (checkedItem domain profile prepared preset))
  rw [htarget] at hsame
  cases htarget' : prepareTarget services identity upstreams
      (checkedItem { domain with wafExceptions := exceptions } profile prepared preset) with
  | error error =>
    rw [htarget'] at hsame
    cases hsame
  | ok item' =>
    rw [htarget'] at hsame
    exact ⟨item', ⟨hcertificate, profile, hprofile, preset, hpreset, hcache, prepared,
      hexceptions.trans hprepared, htarget'⟩, Except.ok.inj hsame⟩

theorem prepareDomain_reorders {result : Option PreparedDomain}
    (hresult : prepareDomain services identity domain upstreams = .ok result) :
    ∃ result', prepareDomain services identity domain' upstreams = .ok result' ∧
      result'.map PreparedDomain.plain = result.map PreparedDomain.plain := by
  simp only [prepareDomain_eq_ok_iff] at hresult ⊢
  obtain ⟨haccount, hname, hmode, ⟨hinactive, rfl⟩ | ⟨hlive, item, hitem, rfl⟩⟩ := hresult
  · obtain ⟨exceptions, -, rfl⟩ := h
    exact ⟨none, ⟨haccount, hname, hmode, .inl ⟨hinactive, rfl⟩⟩, rfl⟩
  · obtain ⟨item', hitem', hplain⟩ := prepareLiveDomain_reorders h hitem
    obtain ⟨exceptions, -, rfl⟩ := h
    exact ⟨some item', ⟨haccount, hname, hmode, .inr ⟨hlive, item', hitem', rfl⟩⟩, congrArg some hplain⟩

end

theorem prepareDomains_reorders (h : List.Forall₂ CoreDomain.Reorders domains domains')
    (hprepared : prepareDomains services identity upstreams domains = .ok prepared) :
    ∃ prepared', prepareDomains services identity upstreams domains' = .ok prepared' ∧
      prepared'.map PreparedDomain.plain = prepared.map PreparedDomain.plain := by
  induction h generalizing prepared with
  | nil => exact ⟨prepared, hprepared, rfl⟩
  | cons hdomain _ ih =>
    simp only [prepareDomains_cons, bind_eq_ok_iff, pure_eq_ok_iff] at hprepared ⊢
    obtain ⟨result, hresult, rest, hrest, rfl⟩ := hprepared
    obtain ⟨result', hresult', hplain⟩ := prepareDomain_reorders hdomain hresult
    obtain ⟨rest', hrest', hrests⟩ := ih hrest
    refine ⟨_, ⟨result', hresult', rest', hrest', rfl⟩, ?_⟩
    simp only [map_append, hrests, ← Option.toList_map, hplain]

theorem prepareDomains_perm (hperm : domains.Perm domains')
    (h : prepareDomains services identity upstreams domains = .ok prepared) :
    ∃ prepared', prepareDomains services identity upstreams domains' = .ok prepared' ∧ prepared.Perm prepared' := by
  simp only [prepareDomains, bind_eq_ok_iff, pure_eq_ok_iff] at h ⊢
  obtain ⟨items, hitems, rfl⟩ := h
  obtain ⟨items', hitems', hsame⟩ := mapM_perm hperm hitems
  exact ⟨_, ⟨items', hitems', rfl⟩, hsame.filterMap id⟩

/-- Two domains of one name are refused. -/
theorem validateRouteConflicts_sortPrepared (h : ¬(prepared.map PreparedDomain.base).Nodup) :
    validateRouteConflicts (sortPrepared prepared) = .error .invalidSpec := by
  have hchain : ¬((sortPrepared prepared).map PreparedDomain.base).IsChain (· ≠ ·) := by
    intro hchain
    have hsorted := pairwise_insertionSort_key PreparedDomain.base prepared
    have hnodup := nodup_of_sorted (List.pairwise_map.mpr hsorted) hchain
    exact h (((perm_insertionSort _ prepared).map PreparedDomain.base).nodup_iff.mp hnodup)
  rw [validateRouteConflicts, if_pos hchain]
  rfl

theorem renderPrepared_perm {prepared' : List PreparedDomain} (hperm : prepared.Perm prepared') (options : Options)
    (headers : List RenderedHeader) (activation : String) :
    renderPrepared services identity options headers activation prepared =
      renderPrepared services identity options headers activation prepared' := by
  have hitems := hperm.map fun item => { item with activationVariable := activation }
  by_cases hnames : ((prepared.map fun item => { item with activationVariable := activation }).map
      PreparedDomain.base).Nodup
  · have hsorted : sortPrepared _ = sortPrepared _ := insertionSort_key_perm PreparedDomain.base hitems hnames
    simp only [renderPrepared, hsorted]
  · have hnames' := mt ((hitems.map PreparedDomain.base).nodup_iff.mpr) hnames
    simp only [renderPrepared, validateRouteConflicts_sortPrepared hnames, validateRouteConflicts_sortPrepared hnames']
    rfl

/-! ### Accounts -/

variable {options options' : Options}

theorem renderAccount_reorders (h : List.Forall₂ CoreDomain.Reorders domains domains')
    (hrendered : renderAccount services identity domains options = .ok rendered) :
    renderAccount services identity domains' options = .ok rendered := by
  simp only [renderAccount, guard_eq_ok_iff, bind_eq_ok_iff, h.length_eq] at hrendered ⊢
  obtain ⟨hidentity, headers, hheaders, upstreams, hupstreams, activation, hactivation, prepared, hprepared,
    htext⟩ := hrendered
  obtain ⟨prepared', hprepared', hplain⟩ := prepareDomains_reorders h hprepared
  refine ⟨hidentity, headers, hheaders, upstreams, hupstreams, activation, hactivation, prepared', hprepared', ?_⟩
  rw [← renderPrepared_plain, hplain, renderPrepared_plain]
  exact htext

/-- Header policies in another order. -/
def Options.Reorders (options options' : Options) : Prop :=
  ∃ policies, options.headerPolicies.Perm policies ∧ options' = { options with headerPolicies := policies }

theorem Options.Reorders.symm (h : options.Reorders options') : options'.Reorders options := by
  obtain ⟨policies, hperm, rfl⟩ := h
  exact ⟨options.headerPolicies, hperm.symm, rfl⟩

theorem renderAccount_perm (hdomains : domains.Perm domains') (hoptions : options.Reorders options')
    (h : renderAccount services identity domains options = .ok rendered) :
    renderAccount services identity domains' options' = .ok rendered := by
  obtain ⟨policies, hpolicies, rfl⟩ := hoptions
  simp only [renderAccount, guard_eq_ok_iff, bind_eq_ok_iff, hdomains.length_eq] at h ⊢
  obtain ⟨hidentity, headers, hheaders, upstreams, hupstreams, activation, hactivation, prepared, hprepared,
    htext⟩ := h
  obtain ⟨prepared', hprepared', hsame⟩ := prepareDomains_perm hdomains hprepared
  refine ⟨hidentity, headers, prepareHeaders_perm hpolicies hheaders, upstreams, hupstreams, activation, hactivation,
    prepared', hprepared', ?_⟩
  rw [← renderPrepared_perm hsame]
  exact htext

/-- **The order of the input does not matter.** With the domains, the exceptions of each of them and the header
policies in another order, an account is rendered to the same text, digest and number of domains, or is
refused in both orders. -/
theorem renderAccount_any_order (services : RenderServices) (identity : Identity)
    {domains permuted domains' : List CoreDomain} {options options' : Options} (hdomains : domains.Perm permuted)
    (hexceptions : List.Forall₂ CoreDomain.Reorders permuted domains') (hoptions : options.Reorders options')
    (rendered : Rendered) :
    renderAccount services identity domains options = .ok rendered ↔
      renderAccount services identity domains' options' = .ok rendered := by
  constructor
  · intro h
    exact renderAccount_reorders hexceptions (renderAccount_perm hdomains hoptions h)
  · intro h
    have hback : List.Forall₂ CoreDomain.Reorders domains' permuted :=
      hexceptions.flip.imp fun _ _ hdomain => CoreDomain.Reorders.symm hdomain
    exact renderAccount_perm hdomains.symm hoptions.symm (renderAccount_reorders hback h)

end

namespace RenderSample

open PanelSample (sampleID)

/-- A digest that tells the identifiers of the two exceptions apart. -/
def lastByte : RenderServices := { services with sha256 := fun bytes => Vector.replicate 32 (bytes.getLastD 0) }

def exceptions : List CoreWAFException :=
  [⟨sampleID 15, sampleID 10, sampleID 11, 920100, "/form", "", 1⟩,
    ⟨sampleID 17, sampleID 10, sampleID 11, 920200, "/other", "", 1⟩]

/-- Two sites, one of them with two exceptions. -/
def sites (exceptions : List CoreWAFException) : List CoreDomain :=
  [{ domain with wafExceptions := exceptions },
    { domain with name := ⟨"b.com", "b.com"⟩, tls := ⟨false, .unset, .unset, [], ""⟩, wafExceptions := [] }]

end RenderSample

open RenderSample in
/-- Two sites, two exceptions and two policies, each in both orders. -/
theorem renderAccount_any_order_two :
    (prepareDomains lastByte identity [] (sites exceptions)).isOk = true ∧
      ∀ rendered, renderAccount lastByte identity (sites exceptions)
          { defaultOptions with headerPolicies := [.noSniff, .referrerStrictOrigin] } = .ok rendered ↔
        renderAccount lastByte identity (sites exceptions.reverse).reverse
          { defaultOptions with headerPolicies := [.referrerStrictOrigin, .noSniff] } = .ok rendered := by
  refine ⟨by decide +kernel, renderAccount_any_order lastByte identity (reverse_perm _).symm ?_ ?_⟩
  · exact .cons ⟨[], .refl _, rfl⟩ (.cons ⟨exceptions.reverse, (reverse_perm _).symm, rfl⟩ .nil)
  · exact ⟨[.referrerStrictOrigin, .noSniff], .swap _ _ _, rfl⟩

end Stackfort.Nginx
