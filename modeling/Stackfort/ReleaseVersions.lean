import Mathlib.Data.Nat.Digits.Lemmas
import Mathlib.Data.Prod.Lex
import Stackfort.TableRows

/-! Versions of releases. The discovery and the updater each parse them by the same pattern, into integers
of different types, and compare them with functions of their own. Both comparisons are the sign of
one lexicographic order, in which a release follows its betas, and a text that both accept is
determined by its place in that order. -/

namespace Stackfort

open List

/-! ### The sign of an order -/

section

variable {α β : Type} [LinearOrder α] [LinearOrder β] {left right : α}

/-- A comparison of two elements, as a sign. -/
def orderSign (left right : α) : Int := if left < right then -1 else if right < left then 1 else 0

theorem orderSign_neg_iff : orderSign left right < 0 ↔ left < right := by
  unfold orderSign
  split
  next h => exact ⟨fun _ => h, fun _ => by decide⟩
  next h =>
    split
    · exact ⟨fun hneg => absurd hneg (by decide), fun hlt => absurd hlt h⟩
    · exact ⟨fun hneg => absurd hneg (by decide), fun hlt => absurd hlt h⟩

theorem orderSign_eq_zero_iff : orderSign left right = 0 ↔ left = right := by
  unfold orderSign
  split
  next h => exact ⟨fun hzero => absurd hzero (by decide), fun heq => absurd heq h.ne⟩
  next h =>
    split
    next h' => exact ⟨fun hzero => absurd hzero (by decide), fun heq => absurd heq h'.ne'⟩
    next h' => exact ⟨fun _ => le_antisymm (not_lt.mp h') (not_lt.mp h), fun _ => rfl⟩

theorem orderSign_nonpos_iff : orderSign left right ≤ 0 ↔ left ≤ right := by
  rw [le_iff_lt_or_eq, orderSign_neg_iff, orderSign_eq_zero_iff, le_iff_lt_or_eq]

/-- On pairs in lexicographic order the second components decide where the first ones agree. -/
theorem orderSign_lex (a a' : α) (b b' : β) :
    orderSign (toLex (a, b)) (toLex (a', b')) =
      if a < a' then -1 else if a' < a then 1 else orderSign b b' := by
  unfold orderSign
  simp only [Prod.Lex.toLex_lt_toLex]
  rcases lt_trichotomy a a' with h | rfl | h
  · simp [h]
  · simp
  · simp [h, h.not_gt, h.ne']

end

/-! ### Numbers -/

/-- The pattern `0|[1-9][0-9]*`. -/
def isCanonicalNumber (digits : List Char) : Bool :=
  digits.all Char.isDigit && (decide (digits = ['0']) || digits.head?.any fun c => decide (c ≠ '0'))

def digitValue (c : Char) : Nat := c.toNat - 48

def decimalValue (digits : List Char) : Nat := digits.foldl (fun value c => 10 * value + digitValue c) 0

theorem digitValue_lt {c : Char} (h : c.isDigit = true) : digitValue c < 10 := by
  simp only [Char.isDigit, and_eq_true, decide_eq_true_eq] at h
  have hhigh : c.toNat ≤ 57 := h.2
  unfold digitValue
  omega

theorem digitValue_inj {c d : Char} (hc : c.isDigit = true) (hd : d.isDigit = true)
    (h : digitValue c = digitValue d) : c = d := by
  simp only [Char.isDigit, and_eq_true, decide_eq_true_eq] at hc hd
  have hlow : 48 ≤ c.toNat := hc.1
  have hlow' : 48 ≤ d.toNat := hd.1
  unfold digitValue at h
  apply Char.toNat_inj.mp
  omega

theorem decimalValue_eq_ofDigits (digits : List Char) :
    decimalValue digits = Nat.ofDigits 10 (digits.map digitValue).reverse := by
  induction digits using List.reverseRecOn with
  | nil => rfl
  | append_singleton digits c ih =>
    have hstep : decimalValue (digits ++ [c]) = 10 * decimalValue digits + digitValue c := by
      simp [decimalValue]
    rw [hstep, ih, map_append, reverse_append]
    simp [Nat.ofDigits_cons, Nat.add_comm]

variable {digits : List Char} {parsed : SemanticVersion} {left right : List Char}

theorem digits_of_canonical (h : isCanonicalNumber digits = true) (hzero : digits ≠ ['0']) :
    Nat.digits 10 (decimalValue digits) = (digits.map digitValue).reverse := by
  simp only [isCanonicalNumber, and_eq_true, or_eq_true, decide_eq_true_eq, hzero, false_or] at h
  obtain ⟨hall, hhead⟩ := h
  rw [decimalValue_eq_ofDigits]
  apply Nat.digits_ofDigits 10 (by decide)
  · intro value hmem
    obtain ⟨c, hc, rfl⟩ := mem_map.mp (List.mem_reverse.mp hmem)
    exact digitValue_lt (all_eq_true.mp hall c hc)
  · intro hne
    cases digits with
    | nil => exact absurd rfl hne
    | cons c rest =>
      simp only [List.head?_cons, Option.any_some, decide_eq_true_eq] at hhead
      simp only [map_cons, reverse_cons, getLast_append_singleton]
      intro hvalue
      apply hhead
      apply digitValue_inj (all_eq_true.mp hall c mem_cons_self) (by decide)
      exact hvalue

theorem decimalValue_pos (h : isCanonicalNumber digits = true) (hzero : digits ≠ ['0']) :
    0 < decimalValue digits := by
  apply Nat.pos_of_ne_zero
  intro hvalue
  have hdigits := digits_of_canonical h hzero
  rw [hvalue, Nat.digits_zero] at hdigits
  have hnil : digits = [] := by simpa using hdigits.symm
  rw [hnil] at h
  exact absurd h (by decide)

theorem decimalValue_inj (hleft : isCanonicalNumber left = true)
    (hright : isCanonicalNumber right = true) (h : decimalValue left = decimalValue right) : left = right := by
  have hzero : decimalValue ['0'] = 0 := rfl
  by_cases hl : left = ['0']
  · by_contra hne
    have hpos := decimalValue_pos hright fun hr => hne (hl.trans hr.symm)
    rw [hl, hzero] at h
    omega
  by_cases hr : right = ['0']
  · have hpos := decimalValue_pos hleft hl
    rw [hr, hzero] at h
    omega
  have hdigits : (left.map digitValue).reverse = (right.map digitValue).reverse := by
    rw [← digits_of_canonical hleft hl, ← digits_of_canonical hright hr, h]
  have hall : ∀ {digits : List Char}, isCanonicalNumber digits = true → ∀ c ∈ digits, c.isDigit = true := by
    intro digits hdigits
    rw [isCanonicalNumber, and_eq_true] at hdigits
    exact all_eq_true.mp hdigits.1
  have hmap := reverse_injective hdigits
  have hlength := congrArg List.length hmap
  rw [length_map, length_map] at hlength
  apply List.ext_getElem hlength
  intro i hi hi'
  apply digitValue_inj (hall hleft _ (getElem_mem hi)) (hall hright _ (getElem_mem hi'))
  have hget := getElem_of_eq hmap (by rwa [length_map])
  simpa using hget

/-! ### The pattern -/

/-- The groups of the version pattern; the last one is empty where it takes no part. -/
structure VersionMatch where
  (major minor patch beta : List Char)

/-- The pattern `(0|[1-9][0-9]*)\.(0|[1-9][0-9]*)\.(0|[1-9][0-9]*)(?:-beta\.([1-9][0-9]*))?`. -/
def matchVersion (value : List Char) : Option VersionMatch :=
  match value.splitOn '.' with
  | [major, minor, patch] =>
    if isCanonicalNumber major && isCanonicalNumber minor && isCanonicalNumber patch then
      some ⟨major, minor, patch, []⟩
    else none
  | [major, minor, last, beta] =>
    let patch := last.take (last.length - 5)
    if isCanonicalNumber major && isCanonicalNumber minor && isCanonicalNumber patch &&
        decide (last.drop (last.length - 5) = "-beta".toList) && isCanonicalNumber beta &&
        decide (beta ≠ ['0']) then
      some ⟨major, minor, patch, beta⟩
    else none
  | _ => none

def VersionMatch.text (m : VersionMatch) : List Char :=
  m.major ++ '.' :: m.minor ++ '.' :: m.patch ++ if m.beta = [] then [] else "-beta.".toList ++ m.beta

structure VersionMatch.Canonical (m : VersionMatch) : Prop where
  major : isCanonicalNumber m.major = true
  minor : isCanonicalNumber m.minor = true
  patch : isCanonicalNumber m.patch = true
  beta : m.beta ≠ [] → isCanonicalNumber m.beta = true ∧ m.beta ≠ ['0']

theorem matchVersion_some {value : List Char} {m : VersionMatch} (h : matchVersion value = some m) :
    m.text = value ∧ m.Canonical := by
  unfold matchVersion at h
  have hvalue : ['.'].intercalate (value.splitOn '.') = value := List.intercalate_splitOn '.'
  split at h
  next major minor patch hsplit =>
    split at h
    next hcanonical =>
      cases h
      simp only [and_eq_true] at hcanonical
      refine ⟨?_, hcanonical.1.1, hcanonical.1.2, hcanonical.2, fun hne => absurd rfl hne⟩
      rw [← hvalue, hsplit]
      simp [VersionMatch.text, List.intercalate]
    next => cases h
  next major minor last beta hsplit =>
    dsimp only at h
    split at h
    next hcanonical =>
      cases h
      simp only [and_eq_true, decide_eq_true_eq] at hcanonical
      obtain ⟨⟨⟨⟨⟨hmajor, hminor⟩, hpatch⟩, hlast⟩, hbeta⟩, hnonzero⟩ := hcanonical
      refine ⟨?_, hmajor, hminor, hpatch, fun _ => ⟨hbeta, hnonzero⟩⟩
      have hne : beta ≠ [] := by
        rintro rfl
        exact absurd hbeta (by decide)
      have hparts : last = last.take (last.length - 5) ++ "-beta".toList := by
        rw [← hlast, take_append_drop]
      rw [← hvalue, hsplit]
      simp only [VersionMatch.text, if_neg hne]
      conv_rhs => rw [hparts]
      simp [List.intercalate]
    next => cases h
  next => cases h

/-! ### Versions of the updater -/

namespace UpdateApply

structure SemanticVersion where
  (major minor patch beta : Nat)
  deriving DecidableEq

/-- `strconv.Atoi`, on digits. -/
def atoi (digits : List Char) : Option Nat :=
  if decimalValue digits < 2 ^ 63 then some (decimalValue digits) else none

def versionComponent (digits : List Char) (message : String) : Except String Nat :=
  match atoi digits with
  | none => throw message
  | some value => pure value

def parseVersion (value : String) : Except String SemanticVersion :=
  match matchVersion value.toList with
  | none => throw "version must be canonical X.Y.Z or X.Y.Z-beta.N"
  | some m => do
      let major ← versionComponent m.major "version component exceeds the supported range"
      let minor ← versionComponent m.minor "version component exceeds the supported range"
      let patch ← versionComponent m.patch "version component exceeds the supported range"
      let beta ←
        if m.beta = [] then pure 0
        else versionComponent m.beta "beta component exceeds the supported range"
      pure ⟨major, minor, patch, beta⟩

end UpdateApply

/-- The first pair that differs decides. -/
def firstDifference : List (Nat × Nat) → Option Int
  | [] => none
  | (left, right) :: rest => if left < right then some (-1) else if right < left then some 1 else firstDifference rest

namespace UpdateApply

def SemanticVersion.compare (left right : SemanticVersion) : Int :=
  match firstDifference [(left.major, right.major), (left.minor, right.minor), (left.patch, right.patch)] with
  | some sign => sign
  | none =>
    if left.beta = right.beta then 0
    else if left.beta = 0 then 1
    else if right.beta = 0 then -1
    else if left.beta < right.beta then -1
    else 1

def compareVersions (left right : String) : Except String Int := do
  let leftVersion ← parseVersion left
  let rightVersion ← parseVersion right
  pure (leftVersion.compare rightVersion)

end UpdateApply

/-! ### Versions of the discovery -/

namespace UpdateCheck

structure SemanticVersion where
  (major minor patch beta : Nat)
  prerelease : Bool
  deriving DecidableEq

/-- `strconv.ParseUint` in base ten and 64 bits, on digits. -/
def parseUint (digits : List Char) : Option Nat :=
  if decimalValue digits < 2 ^ 64 then some (decimalValue digits) else none

/-- The version and its text. -/
def parseReleaseVersion (tag : String) : Option (SemanticVersion × String) :=
  match tag.toList with
  | 'v' :: version => do
      let m ← matchVersion version
      let major ← parseUint m.major
      let minor ← parseUint m.minor
      let patch ← parseUint m.patch
      if m.beta = [] then pure (⟨major, minor, patch, 0, false⟩, String.ofList version)
      else
        let beta ← parseUint m.beta
        pure (⟨major, minor, patch, beta, true⟩, String.ofList version)
  | _ => none

def parseInstalledVersion (version : String) : Option SemanticVersion :=
  (parseReleaseVersion ("v" ++ version)).map Prod.fst

def compareVersions (left right : SemanticVersion) : Int :=
  match firstDifference [(left.major, right.major), (left.minor, right.minor), (left.patch, right.patch)] with
  | some sign => sign
  | none =>
    if left.prerelease ≠ right.prerelease then (if left.prerelease then -1 else 1)
    else if !left.prerelease then 0
    else if left.beta < right.beta then -1
    else if right.beta < left.beta then 1
    else 0

end UpdateCheck

/-! ### One order -/

/-- The place of a version: a release comes after its betas. -/
abbrev VersionKey := Nat ×ₗ Nat ×ₗ Nat ×ₗ Nat ×ₗ Nat

def versionKey (major minor patch beta : Nat) : VersionKey :=
  toLex (major, toLex (minor, toLex (patch, toLex (if beta = 0 then 1 else 0, beta))))

def UpdateApply.SemanticVersion.key (version : UpdateApply.SemanticVersion) : VersionKey :=
  versionKey version.major version.minor version.patch version.beta

def UpdateCheck.SemanticVersion.key (version : UpdateCheck.SemanticVersion) : VersionKey :=
  versionKey version.major version.minor version.patch version.beta

theorem firstDifference_cons (left right : Nat) (rest : List (Nat × Nat)) (sign : Int) :
    (match firstDifference ((left, right) :: rest) with | some found => found | none => sign) =
      if left < right then -1 else if right < left then 1
      else match firstDifference rest with | some found => found | none => sign := by
  rw [firstDifference]
  by_cases hlow : left < right
  · rw [if_pos hlow, if_pos hlow]
  · rw [if_neg hlow, if_neg hlow]
    by_cases hhigh : right < left
    · rw [if_pos hhigh, if_pos hhigh]
    · rw [if_neg hhigh, if_neg hhigh]

theorem orderSign_versionKey (major minor patch beta major' minor' patch' beta' : Nat) :
    orderSign (versionKey major minor patch beta) (versionKey major' minor' patch' beta') =
      match firstDifference [(major, major'), (minor, minor'), (patch, patch')] with
      | some sign => sign
      | none => orderSign (toLex (if beta = 0 then 1 else 0, beta)) (toLex (if beta' = 0 then 1 else 0, beta')) := by
  unfold versionKey
  rw [orderSign_lex, orderSign_lex, orderSign_lex, firstDifference_cons, firstDifference_cons, firstDifference_cons]
  rfl

theorem orderSign_beta (beta beta' : Nat) :
    orderSign (toLex ((if beta = 0 then 1 else 0 : Nat), beta)) (toLex ((if beta' = 0 then 1 else 0 : Nat), beta')) =
      if beta = beta' then 0 else if beta = 0 then 1 else if beta' = 0 then -1
      else if beta < beta' then -1 else 1 := by
  rw [orderSign_lex]
  unfold orderSign
  split_ifs <;> omega

theorem UpdateApply.SemanticVersion.compare_eq (left right : UpdateApply.SemanticVersion) :
    left.compare right = orderSign left.key right.key := by
  unfold SemanticVersion.compare SemanticVersion.key
  rw [orderSign_versionKey, orderSign_beta]

/-- A beta has a number, and a release has none. -/
def UpdateCheck.SemanticVersion.Numbered (version : UpdateCheck.SemanticVersion) : Prop :=
  version.prerelease = true ↔ version.beta ≠ 0

theorem UpdateCheck.compareVersions_eq {left right : UpdateCheck.SemanticVersion} (hleft : left.Numbered)
    (hright : right.Numbered) : compareVersions left right = orderSign left.key right.key := by
  unfold compareVersions SemanticVersion.key
  rw [orderSign_versionKey, orderSign_beta]
  unfold SemanticVersion.Numbered at hleft hright
  congr 1
  funext
  cases hl : left.prerelease <;> cases hr : right.prerelease <;> simp [hl, hr] at hleft hright ⊢ <;>
    split_ifs <;> omega

/-! ### Texts -/

/-- Both parsers read the text. -/
structure VersionAccepted (text : String) (applied : UpdateApply.SemanticVersion)
    (checked : UpdateCheck.SemanticVersion) : Prop where
  applied : UpdateApply.parseVersion text = .ok applied
  checked : UpdateCheck.parseInstalledVersion text = some checked

def VersionMatch.key (m : VersionMatch) : VersionKey :=
  versionKey (decimalValue m.major) (decimalValue m.minor) (decimalValue m.patch)
    (if m.beta = [] then 0 else decimalValue m.beta)

theorem UpdateApply.versionComponent_ok {message : String} {value : Nat}
    (h : versionComponent digits message = .ok value) : value = decimalValue digits := by
  unfold versionComponent atoi at h
  split at h
  · cases h
  next found hfound =>
    cases h
    split at hfound
    · exact (some.inj hfound).symm
    · cases hfound

theorem UpdateApply.parseVersion_ok {text : String} {version : SemanticVersion}
    (h : parseVersion text = .ok version) : ∃ m, matchVersion text.toList = some m ∧ version.key = m.key := by
  unfold parseVersion at h
  cases hmatch : matchVersion text.toList with
  | none =>
    rw [hmatch] at h
    cases h
  | some m =>
    rw [hmatch] at h
    simp only [bind_eq_ok_iff] at h
    obtain ⟨major, hmajor, minor, hminor, patch, hpatch, h⟩ := h
    refine ⟨m, rfl, ?_⟩
    unfold SemanticVersion.key VersionMatch.key
    rw [← versionComponent_ok hmajor, ← versionComponent_ok hminor, ← versionComponent_ok hpatch]
    by_cases hbeta : m.beta = []
    · rw [if_pos hbeta] at h ⊢
      cases h
      rfl
    · rw [if_neg hbeta] at h ⊢
      obtain ⟨beta, hvalue, h⟩ := bind_eq_ok_iff.mp h
      cases h
      rw [← versionComponent_ok hvalue]

theorem UpdateCheck.parseUint_some {value : Nat} (h : parseUint digits = some value) :
    value = decimalValue digits := by
  unfold parseUint at h
  split at h
  · exact (some.inj h).symm
  · cases h

theorem UpdateCheck.parseReleaseVersion_some {tag version : String}
    (h : parseReleaseVersion tag = some (parsed, version)) :
    ∃ m, matchVersion version.toList = some m ∧ tag = "v" ++ version ∧ parsed.key = m.key ∧
      (parsed.prerelease = true ↔ m.beta ≠ []) ∧ parsed.Numbered := by
  unfold parseReleaseVersion at h
  split at h
  next text hlist =>
    simp only [Option.bind_eq_bind, bind_eq_some_iff] at h
    obtain ⟨m, hmatch, major, hmajor, minor, hminor, patch, hpatch, h⟩ := h
    have htag : tag = "v" ++ String.ofList text := by
      apply String.toList_injective
      simp [hlist]
    have hmatch' : matchVersion (String.ofList text).toList = some m := by rw [String.toList_ofList]; exact hmatch
    rw [parseUint_some hmajor, parseUint_some hminor, parseUint_some hpatch] at h
    by_cases hbeta : m.beta = []
    · rw [if_pos hbeta] at h
      cases h
      refine ⟨m, hmatch', htag, ?_, by simp [hbeta], by simp [SemanticVersion.Numbered]⟩
      unfold SemanticVersion.key VersionMatch.key
      rw [if_pos hbeta]
    · rw [if_neg hbeta] at h
      obtain ⟨beta, hvalue, h⟩ := Option.bind_eq_some_iff.mp h
      cases h
      obtain ⟨hcanonical, hnonzero⟩ := (matchVersion_some hmatch).2.beta hbeta
      have hpositive := decimalValue_pos hcanonical hnonzero
      rw [← parseUint_some hvalue] at hpositive
      refine ⟨m, hmatch', htag, ?_, by simp [hbeta], by simp [SemanticVersion.Numbered]; omega⟩
      unfold SemanticVersion.key VersionMatch.key
      rw [if_neg hbeta, ← parseUint_some hvalue]
  next => cases h

theorem UpdateCheck.parseInstalledVersion_some {text : String}
    (h : parseInstalledVersion text = some parsed) :
    ∃ m, matchVersion text.toList = some m ∧ parsed.key = m.key ∧ parsed.Numbered := by
  obtain ⟨⟨version, body⟩, hparsed, rfl⟩ := Option.map_eq_some_iff.mp h
  obtain ⟨m, hmatch, htag, hkey, -, hnumbered⟩ := parseReleaseVersion_some hparsed
  have hbody : text = body := by
    have hlists := congrArg String.toList htag
    rw [String.toList_append, String.toList_append] at hlists
    exact String.toList_injective (append_cancel_left hlists)
  exact ⟨m, by rw [hbody]; exact hmatch, hkey, hnumbered⟩

theorem matchVersion_inj {m n : VersionMatch} (hleft : matchVersion left = some m)
    (hright : matchVersion right = some n) (hkey : m.key = n.key) : left = right := by
  obtain ⟨hm, hmajor, hminor, hpatch, hbeta⟩ := matchVersion_some hleft
  obtain ⟨hn, hmajor', hminor', hpatch', hbeta'⟩ := matchVersion_some hright
  simp only [VersionMatch.key, versionKey, EmbeddingLike.apply_eq_iff_eq, Prod.mk.injEq] at hkey
  obtain ⟨hma, hmi, hpa, -, hbe⟩ := hkey
  have hlast : m.beta = n.beta := by
    by_cases hnone : m.beta = []
    · by_cases hnone' : n.beta = []
      · rw [hnone, hnone']
      · have hpositive := decimalValue_pos (hbeta' hnone').1 (hbeta' hnone').2
        rw [if_pos hnone, if_neg hnone'] at hbe
        omega
    · by_cases hnone' : n.beta = []
      · have hpositive := decimalValue_pos (hbeta hnone).1 (hbeta hnone).2
        rw [if_neg hnone, if_pos hnone'] at hbe
        omega
      · rw [if_neg hnone, if_neg hnone'] at hbe
        exact decimalValue_inj (hbeta hnone).1 (hbeta' hnone').1 hbe
  rw [← hm, ← hn]
  unfold VersionMatch.text
  rw [decimalValue_inj hmajor hmajor' hma, decimalValue_inj hminor hminor' hmi, decimalValue_inj hpatch hpatch' hpa,
    hlast]

namespace VersionAccepted

variable {left right : String} {applied applied' : UpdateApply.SemanticVersion}
  {checked checked' : UpdateCheck.SemanticVersion}

section

variable (h : VersionAccepted left applied checked)

include h

theorem keys :
    ∃ m, matchVersion left.toList = some m ∧ applied.key = m.key ∧ checked.key = m.key ∧ checked.Numbered := by
  obtain ⟨m, hmatch, hkey⟩ := UpdateApply.parseVersion_ok h.applied
  obtain ⟨n, hmatch', hkey', hnumbered⟩ := UpdateCheck.parseInstalledVersion_some h.checked
  rw [hmatch, some.injEq] at hmatch'
  subst hmatch'
  exact ⟨m, hmatch, hkey, hkey', hnumbered⟩

theorem compare (h' : VersionAccepted right applied' checked') :
    UpdateApply.compareVersions left right = .ok (orderSign checked.key checked'.key) ∧
      UpdateCheck.compareVersions checked checked' = orderSign checked.key checked'.key := by
  obtain ⟨m, -, hkey, hkey', hnumbered⟩ := h.keys
  obtain ⟨n, -, hkey₁, hkey₁', hnumbered'⟩ := h'.keys
  refine ⟨?_, UpdateCheck.compareVersions_eq hnumbered hnumbered'⟩
  unfold UpdateApply.compareVersions
  rw [h.applied, h'.applied, ok_bind, ok_bind, UpdateApply.SemanticVersion.compare_eq, hkey, hkey₁, hkey', hkey₁']
  rfl

theorem text_eq_iff (h' : VersionAccepted right applied' checked') : checked.key = checked'.key ↔ left = right := by
  obtain ⟨m, hmatch, -, hkey, -⟩ := h.keys
  obtain ⟨n, hmatch', -, hkey', -⟩ := h'.keys
  constructor
  · intro heq
    apply String.toList_injective
    apply matchVersion_inj hmatch hmatch'
    rw [← hkey, ← hkey', heq]
  · rintro rfl
    rw [hmatch, some.injEq] at hmatch'
    rw [hkey, hkey', hmatch']

end

end VersionAccepted

end Stackfort
