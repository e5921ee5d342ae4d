import Mathlib.Data.List.Nodup

/-! Tables as lists of rows in insertion order. A statement `UPDATE t SET f WHERE p` maps `f` over
the rows that satisfy `p`, a primary key is a function of the row, and the rows of one owner are a
filtered sublist. The lemmas say how lookups by key and the rows of an owner change under an
update or an insert; none of them needs to know what a row holds. The last part peels computations
in `Except` apart, so that what a transaction did is read off its successful result. -/

namespace Stackfort.Rows

open List

variable {ρ κ : Type}

/-- `UPDATE t SET f WHERE p`. -/
def updateWhere (p : ρ → Bool) (f : ρ → ρ) (t : List ρ) : List ρ :=
  t.map fun row => if p row then f row else row

variable {q p : ρ → Bool} {f : ρ → ρ}

/-- A change of the rows that a query does not look at changes the row it finds. -/
theorem find?_map_keep (hq : ∀ row, q (f row) = q row) (t : List ρ) :
    (t.map f).find? q = (t.find? q).map f := by
  rw [find?_map]
  congr 2
  funext row
  exact hq row

theorem find?_updateWhere (hq : ∀ row, q (f row) = q row) (t : List ρ) :
    (updateWhere p f t).find? q = (t.find? q).map fun row => if p row then f row else row := by
  refine find?_map_keep (fun row => ?_) t
  split
  · exact hq row
  · rfl

/-- An update that selects no row the query accepts leaves the query alone. -/
theorem find?_updateWhere_of_not (hq : ∀ row, q (f row) = q row)
    (hp : ∀ row, q row = true → p row = false) (t : List ρ) : (updateWhere p f t).find? q = t.find? q := by
  rw [find?_updateWhere hq]
  cases h : t.find? q with
  | none => rfl
  | some row => simp [hp row (find?_some h)]

/-- An insert that the query does not accept leaves it alone. -/
theorem find?_append_of_not {t u : List ρ} (hu : ∀ row ∈ u, q row = false) : (t ++ u).find? q = t.find? q := by
  have hnone : u.find? q = none := List.find?_eq_none.mpr fun row hmem => by simp [hu row hmem]
  rw [find?_append, hnone, Option.or_none]

variable {t : List ρ} {row : ρ}

theorem find?_append_of_some (h : t.find? q = some row) (u : List ρ) : (t ++ u).find? q = some row := by
  rw [find?_append, h, Option.some_or]

theorem find?_append_new (ht : ∀ other ∈ t, q other = false) (hrow : q row = true) :
    (t ++ [row]).find? q = some row := by
  have hnone : t.find? q = none := List.find?_eq_none.mpr fun other hmem => by simp [ht other hmem]
  rw [find?_append, hnone, Option.none_or, find?_singleton, if_pos hrow]

section Keys

variable [DecidableEq κ] (key : ρ → κ)

/-- The row a key selects. -/
def lookup (k : κ) (t : List ρ) : Option ρ := t.find? fun row => decide (key row = k)

/-- The rows that belong to an owner, oldest first. -/
def owned (k : κ) (t : List ρ) : List ρ := t.filter fun row => decide (key row = k)

variable {key}

variable {k : κ}

theorem key_of_lookup (h : lookup key k t = some row) : key row = k := by
  simpa using find?_some h

theorem mem_of_lookup (h : lookup key k t = some row) : row ∈ t :=
  mem_of_find?_eq_some h

theorem lookup_eq_none : lookup key k t = none ↔ ∀ row ∈ t, key row ≠ k := by
  simp [lookup, find?_eq_none]

theorem mem_owned : row ∈ owned key k t ↔ row ∈ t ∧ key row = k := by
  simp [owned]

omit [DecidableEq κ] in
/-- With unique keys, a query that accepts a stored row and otherwise only rows of its key finds it. -/
theorem find?_of_mem (hnodup : (t.map key).Nodup) (hmem : row ∈ t) (hrow : q row = true)
    (hq : ∀ other ∈ t, q other = true → key other = key row) : t.find? q = some row := by
  cases hfound : t.find? q with
  | none => exact absurd hrow (List.find?_eq_none.mp hfound row hmem)
  | some other =>
    have hother := mem_of_find?_eq_some hfound
    rw [inj_on_of_nodup_map hnodup hother hmem (hq other hother (find?_some hfound))]

theorem lookup_of_mem (hnodup : (t.map key).Nodup) (h : row ∈ t) : lookup key (key row) t = some row :=
  find?_of_mem hnodup h (decide_eq_true rfl) fun _ _ => of_decide_eq_true

omit [DecidableEq κ] in
theorem keys_map (hkey : ∀ row, key (f row) = key row) (t : List ρ) : (t.map f).map key = t.map key := by
  rw [map_map]
  exact map_congr_left fun row _ => hkey row

omit [DecidableEq κ] in
theorem keys_updateWhere (hkey : ∀ row, key (f row) = key row) (t : List ρ) :
    (updateWhere p f t).map key = t.map key := by
  refine keys_map (fun row => ?_) t
  by_cases hp : p row <;> simp [hp, hkey]

omit [DecidableEq κ] in
/-- An update of other columns keeps a unique column unique. -/
theorem nodup_keys_updateWhere (hnodup : (t.map key).Nodup) (hkey : ∀ row, key (f row) = key row) :
    ((updateWhere p f t).map key).Nodup := by
  rw [keys_updateWhere hkey]
  exact hnodup

omit [DecidableEq κ] in
theorem nodup_keys_append (hnodup : (t.map key).Nodup) (hfresh : ∀ other ∈ t, key other ≠ key row) :
    ((t ++ [row]).map key).Nodup := by
  simp only [map_append, map_cons, map_nil]
  refine List.Nodup.append hnodup (nodup_singleton _) ?_
  rw [disjoint_singleton]
  intro hmem
  obtain ⟨other, hother, hkey⟩ := List.mem_map.mp hmem
  exact hfresh other hother hkey

section

variable {f : ρ → ρ} (hkey : ∀ row, key (f row) = key row)

include hkey

theorem lookup_map (k : κ) (t : List ρ) : lookup key k (t.map f) = (lookup key k t).map f :=
  find?_map_keep (fun row => by rw [hkey]) t

theorem lookup_updateWhere (k : κ) (t : List ρ) :
    lookup key k (updateWhere p f t) =
      (lookup key k t).map fun row => if p row then f row else row := by
  refine lookup_map (fun row => ?_) k t
  by_cases hp : p row <;> simp [hp, hkey]

/-- An update that selects only rows of another key leaves a lookup alone. -/
theorem lookup_updateWhere_of_ne {k' : κ} (hp : ∀ row, p row = true → key row = k') (hne : k ≠ k') (t : List ρ) :
    lookup key k (updateWhere p f t) = lookup key k t := by
  rw [lookup_updateWhere hkey]
  cases h : lookup key k t with
  | none => rfl
  | some row =>
    have hrow : p row = false := by
      by_contra hcon
      exact hne ((key_of_lookup h).symm.trans (hp row (by simpa using hcon)))
    simp [hrow]

end

theorem lookup_append (k : κ) (t : List ρ) (row : ρ) :
    lookup key k (t ++ [row]) = (lookup key k t).or (if key row = k then some row else none) := by
  simp only [lookup, find?_append, find?_singleton, decide_eq_true_eq]

theorem owned_map (hkey : ∀ row, key (f row) = key row) (k : κ) (t : List ρ) :
    owned key k (t.map f) = (owned key k t).map f := by
  simp only [owned, filter_map]
  congr 2
  funext row
  simp [hkey]

theorem owned_updateWhere (hkey : ∀ row, key (f row) = key row) (k : κ) (t : List ρ) :
    owned key k (updateWhere p f t) = updateWhere p f (owned key k t) := by
  refine owned_map (fun row => ?_) k t
  by_cases hp : p row <;> simp [hp, hkey]

omit [DecidableEq κ] in
theorem mem_updateWhere_of_not (hmem : row ∈ t) (hp : p row = false) : row ∈ updateWhere p f t := by
  rw [updateWhere, mem_map]
  exact ⟨row, hmem, by simp [hp]⟩

/-- A row that has what the update takes away was not selected. -/
theorem mem_of_mem_updateWhere {α : Type} {g : ρ → α} {a : α} (hmem : row ∈ updateWhere p f t) (hrow : g row = a)
    (hf : ∀ old, g (f old) ≠ a) : row ∈ t ∧ ¬p row = true := by
  obtain ⟨old, hold, rfl⟩ := mem_map.mp hmem
  by_cases hp : p old = true
  · rw [if_pos hp] at hrow
    exact absurd hrow (hf old)
  · rw [if_neg hp]
    exact ⟨hold, hp⟩

theorem updateWhere_of_forall_not (hp : ∀ row ∈ t, p row = false) : updateWhere p f t = t := by
  rw [updateWhere, map_congr_left (g := id) fun row hrow => by simp [hp row hrow], map_id]

theorem owned_append (k : κ) (t : List ρ) (row : ρ) :
    owned key k (t ++ [row]) = owned key k t ++ if key row = k then [row] else [] := by
  by_cases h : key row = k <;> simp [owned, h]

/-- With unique keys, a statement keyed by `k` affects exactly the one row of that key. -/
theorem countP_of_lookup (hnodup : (t.map key).Nodup) (hlookup : lookup key k t = some row)
    (hp : ∀ other ∈ t, p other = true → key other = k) (hrow : p row = true) :
    t.countP p = 1 := by
  induction t with
  | nil => cases hlookup
  | cons head tail ih =>
    simp only [map_cons, nodup_cons, mem_map, not_exists, not_and] at hnodup
    have htails : ∀ other ∈ tail, p other = true → key other = k :=
      fun other hother => hp other (mem_cons_of_mem _ hother)
    by_cases hhead : key head = k
    · have heq : head = row := by simpa [lookup, hhead] using hlookup
      have htail : tail.countP p = 0 := by
        rw [countP_eq_zero]
        intro other hother hpo
        exact hnodup.1 other hother ((htails other hother hpo).trans hhead.symm)
      rw [countP_cons, htail, heq, if_pos hrow]
    · have hfalse : p head = false :=
        Bool.eq_false_iff.mpr fun h => hhead (hp head (mem_cons_self ..) h)
      have hrest : lookup key k tail = some row := by simpa [lookup, hhead] using hlookup
      rw [countP_cons, ih hnodup.2 hrest htails, hfalse]
      rfl

end Keys

section References

variable {α : Type} {key : ρ → κ} {ref : α → κ} {referring : List α}
  (h : ∀ other ∈ referring, ∃ row ∈ t, key row = ref other)

include h

/-- Rows that refer to the keys of a table still do when both change and the keys stay. -/
theorem refers_map {g : α → α} (hf : ∀ row, key (f row) = key row) (hg : ∀ other, ref (g other) = ref other) :
    ∀ other ∈ referring.map g, ∃ row ∈ t.map f, key row = ref other := by
  rw [forall_mem_map]
  intro other hother
  obtain ⟨row, hrow, hkey⟩ := h other hother
  exact ⟨f row, mem_map_of_mem hrow, by rw [hf, hg, hkey]⟩

theorem refers_append {new : α} (hnew : key row = ref new) :
    ∀ other ∈ referring ++ [new], ∃ old ∈ t ++ [row], key old = ref other := by
  refine forall_mem_append.mpr ⟨fun other hother => ?_, forall_mem_singleton.mpr ⟨row, by simp, hnew⟩⟩
  obtain ⟨old, hold, hkey⟩ := h other hother
  exact ⟨old, mem_append_left _ hold, hkey⟩

end References

/-- A check that no row has a property has passed. -/
theorem not_of_not_any {P : ρ → Prop} [DecidablePred P] (h : ¬(t.any fun row => decide (P row)) = true) :
    ∀ row ∈ t, ¬P row := by
  intro row hmem hrow
  exact h (List.any_eq_true.mpr ⟨row, hmem, decide_eq_true hrow⟩)

/-- An update of the last row of a table whose other rows it does not select. -/
theorem updateWhere_append_singleton (hinit : ∀ other ∈ t, p other = false) (hrow : p row = true) :
    updateWhere p f (t ++ [row]) = t ++ [f row] := by
  have h := updateWhere_of_forall_not (f := f) hinit
  simp only [updateWhere] at h ⊢
  rw [map_append, h]
  simp [hrow]

end Stackfort.Rows

namespace Stackfort

export Rows (updateWhere refers_map refers_append mem_owned mem_of_lookup keys_updateWhere not_of_not_any nodup_keys_append
  lookup_of_mem mem_updateWhere_of_not key_of_lookup lookup_eq_none owned_append countP_of_lookup
  updateWhere_of_forall_not lookup_append keys_map find?_append_of_not find?_append_new
  nodup_keys_updateWhere mem_of_mem_updateWhere find?_of_mem)

export Bool (and_eq_true or_eq_true eq_false_iff and_eq_true_iff)

export List (mem_map mem_singleton mem_append mem_cons mem_filter any_eq_true all_eq_true)

export Option (some.inj some.injEq map_eq_some_iff bind_eq_some_iff some_ne_none)

end Stackfort

namespace Except

open List

variable {ε α β : Type} {f : α → Except ε β} {rest : Except ε β} {items : List α} {c : Prop}

variable {x : Except ε α}

variable {b : β} {e : ε}

/-- A sequenced computation succeeds exactly when both parts do. -/
theorem bind_eq_ok_iff : (x >>= f) = .ok b ↔ ∃ a, x = .ok a ∧ f a = .ok b := by
  cases x with
  | error e =>
    constructor
    · intro h; cases h
    · rintro ⟨a, ha, _⟩; cases ha
  | ok a =>
    constructor
    · intro h; exact ⟨a, rfl, h⟩
    · rintro ⟨a', ha, hb⟩; cases ha; exact hb

theorem exists_of_isOk (h : x.isOk = true) : ∃ a, x = .ok a := by
  cases x with
  | error e => cases h
  | ok a => exact ⟨a, rfl⟩

theorem bind_eq_error_iff : (x >>= f) = .error e ↔ x = .error e ∨ ∃ a, x = .ok a ∧ f a = .error e := by
  cases x with
  | error e' => simp [bind, Except.bind]
  | ok a => simp [bind, Except.bind]

@[simp] theorem ok_bind (a : α) (f : α → Except ε β) : (Except.ok a >>= f) = f a := rfl

@[simp] theorem error_bind (e : ε) (f : α → Except ε β) : (Except.error e >>= f) = .error e := rfl

/-- A guard that throws has let the computation pass. -/
theorem ite_throw_eq_ok_iff [Decidable c] : (if c then throw e else rest) = .ok b ↔ ¬c ∧ rest = .ok b := by
  by_cases h : c
  · simp only [h, if_true, not_true_eq_false, false_and, iff_false]
    exact fun h => by cases h
  · simp [h]

/-- The same for a guard in the middle of a `do` block, where the rest follows the throw as well. -/
theorem guard_eq_ok_iff [Decidable c] : (if c then throw e >>= f else rest) = .ok b ↔ ¬c ∧ rest = .ok b :=
  ite_throw_eq_ok_iff

theorem mapError_eq_ok_iff {ε' : Type} {f : ε → ε'} {a : α} : x.mapError f = .ok a ↔ x = .ok a := by
  cases x <;> simp [Except.mapError]

/-- A loop whose body always succeeds succeeds, and its results are those of the items. -/
theorem mapM_of_forall {R : α → β → Prop} (h : ∀ item ∈ items, ∃ result, f item = .ok result ∧ R item result) :
    ∃ results, items.mapM f = .ok results ∧ (∀ result ∈ results, ∃ item ∈ items, R item result) ∧
      ∀ item ∈ items, ∃ result ∈ results, R item result := by
  induction items with
  | nil => exact ⟨[], rfl, by simp, by simp⟩
  | cons item rest ih =>
    obtain ⟨result, hresult, hrelated⟩ := h item mem_cons_self
    obtain ⟨results, hresults, hfrom, hto⟩ := ih fun other hother => h other (mem_cons_of_mem _ hother)
    refine ⟨result :: results, ?_, ?_, ?_⟩
    · rw [mapM_cons, hresult, hresults]
      rfl
    · intro other hother
      rcases List.mem_cons.mp hother with rfl | hother
      · exact ⟨item, mem_cons_self, hrelated⟩
      · obtain ⟨source, hsource, hrelated'⟩ := hfrom other hother
        exact ⟨source, mem_cons_of_mem _ hsource, hrelated'⟩
    · intro other hother
      rcases List.mem_cons.mp hother with rfl | hother
      · exact ⟨result, mem_cons_self, hrelated⟩
      · obtain ⟨image, himage, hrelated'⟩ := hto other hother
        exact ⟨image, mem_cons_of_mem _ himage, hrelated'⟩

/-- The results of a loop, item by item. -/
theorem forall₂_of_mapM {results : List β} (h : items.mapM f = .ok results) :
    List.Forall₂ (fun item result => f item = .ok result) items results := by
  induction items generalizing results with
  | nil =>
    cases h
    exact .nil
  | cons item rest ih =>
    rw [mapM_cons] at h
    obtain ⟨result, hresult, h⟩ := bind_eq_ok_iff.mp h
    obtain ⟨tail, htail, h⟩ := bind_eq_ok_iff.mp h
    cases h
    exact .cons hresult (ih htail)

theorem pure_eq_ok (a : α) : (pure a : Except ε α) = .ok a := rfl

theorem throw_eq_error (e : ε) : (throw e : Except ε α) = .error e := rfl

theorem pure_eq_ok_iff {a b : α} : (pure a : Except ε α) = .ok b ↔ a = b := by rw [pure_eq_ok, ok.injEq]

end Except

-- these take the programs of the repository apart, which are sequences of checks
export Except (bind_eq_ok_iff guard_eq_ok_iff ite_throw_eq_ok_iff pure_eq_ok pure_eq_ok_iff ok_bind
  throw_eq_error error_bind mapError_eq_ok_iff)
