import Mathlib.Data.List.DropRight
import Mathlib.Data.String.Basic
import Mathlib.Tactic.Ring

/-! Decimal texts and their order. Texts are compared character by character. Digits of a fixed width
sort like the numbers they write. Digits without their trailing zeros, followed by a character that
sorts after every digit, do not: the shorter of two such texts sorts last when it continues into the
longer one, and this happens exactly when its number is the other one cut to fewer places. -/

namespace Stackfort.Text

open List

/-- Decimal digits of `n`, most significant first, padded or cut to `width` places. -/
def decimal : (width : Nat) → (n : Nat) → List Char
  | 0, _ => []
  | width + 1, n => decimal width (n / 10) ++ [Char.ofNat (48 + n % 10)]

/-- The digits of a fraction, without trailing zeros. -/
def stripped (width n : Nat) : List Char := (decimal width n).rdropWhile (· == '0')

attribute [local simp] decimal

/-! ### Lexicographic order -/

/-- Texts with prefixes of one length are compared by the prefixes first. -/
theorem append_lt_append_iff {xs ys s t : List Char} (hlength : xs.length = ys.length) :
    xs ++ s < ys ++ t ↔ xs < ys ∨ xs = ys ∧ s < t := by
  induction xs generalizing ys with
  | nil =>
    have hnil : ys = [] := eq_nil_of_length_eq_zero hlength.symm
    subst hnil
    simp
  | cons x xs ih =>
    cases ys with
    | nil => cases hlength
    | cons y ys =>
      rw [cons_append, cons_append, cons_lt_cons_iff, cons_lt_cons_iff, ih (Nat.succ.inj hlength), List.cons.injEq]
      tauto

/-! ### Digits -/

theorem digit_lt_iff {a b : Nat} (ha : a < 10) (hb : b < 10) : Char.ofNat (48 + a) < Char.ofNat (48 + b) ↔ a < b := by
  have h : ∀ a b : Fin 10, Char.ofNat (48 + a) < Char.ofNat (48 + b) ↔ a < b := by decide
  exact h ⟨a, ha⟩ ⟨b, hb⟩

theorem digit_inj {a b : Nat} (ha : a < 10) (hb : b < 10) : Char.ofNat (48 + a) = Char.ofNat (48 + b) ↔ a = b := by
  have h : ∀ a b : Fin 10, Char.ofNat (48 + a) = Char.ofNat (48 + b) ↔ a.val = b.val := by decide
  exact h ⟨a, ha⟩ ⟨b, hb⟩

theorem digit_eq_zero_iff {a : Nat} (ha : a < 10) : (Char.ofNat (48 + a) == '0') = true ↔ a = 0 := by
  have h : ∀ a : Fin 10, (Char.ofNat (48 + a) == '0') = true ↔ a.val = 0 := by decide
  exact h ⟨a, ha⟩

theorem digit_lt_of_nine_lt {a : Nat} (ha : a < 10) {c : Char} (hc : '9' < c) : Char.ofNat (48 + a) < c := by
  have h : ∀ a : Fin 10, Char.ofNat (48 + a) = '9' ∨ Char.ofNat (48 + a) < '9' := by decide
  rcases h ⟨a, ha⟩ with heq | hlt
  · simp only at heq
    rwa [heq]
  · exact Char.lt_trans hlt hc

@[simp] theorem length_decimal (width n : Nat) : (decimal width n).length = width := by
  induction width generalizing n with
  | zero => rfl
  | succ width ih => rw [decimal, length_append, ih, length_singleton]

variable {width m n : Nat}

theorem decimal_inj (hm : m < 10 ^ width) (hn : n < 10 ^ width) : decimal width m = decimal width n ↔ m = n := by
  induction width generalizing m n with
  | zero =>
    simp only [Nat.pow_zero] at hm hn
    simp only [decimal, true_iff]
    omega
  | succ width ih =>
    rw [Nat.pow_succ] at hm hn
    constructor
    · intro h
      obtain ⟨hhigh, hlow⟩ := append_inj h (by simp)
      have hhigh' := (ih (by omega) (by omega)).mp hhigh
      have hlow' := (digit_inj (Nat.mod_lt m (by omega)) (Nat.mod_lt n (by omega))).mp (List.cons.inj hlow).1
      omega
    · exact fun h => by rw [h]

theorem decimal_lt_iff (hm : m < 10 ^ width) (hn : n < 10 ^ width) : decimal width m < decimal width n ↔ m < n := by
  induction width generalizing m n with
  | zero =>
    simp only [Nat.pow_zero] at hm hn
    simp only [decimal, not_lt_nil, false_iff]
    omega
  | succ width ih =>
    rw [Nat.pow_succ] at hm hn
    have hlength : (decimal width (m / 10)).length = (decimal width (n / 10)).length := by simp
    rw [decimal, decimal, append_lt_append_iff hlength, ih (by omega) (by omega),
      decimal_inj (by omega) (by omega), cons_lt_cons_iff]
    simp only [not_lt_nil, and_false, or_false]
    rw [digit_lt_iff (Nat.mod_lt _ (by omega)) (Nat.mod_lt _ (by omega))]
    omega

/-! ### Fractions without trailing zeros -/

/-- The digits of a number, split after the first one. -/
theorem decimal_succ (width n : Nat) (hn : n < 10 ^ (width + 1)) :
    decimal (width + 1) n = Char.ofNat (48 + n / 10 ^ width) :: decimal width (n % 10 ^ width) := by
  induction width generalizing n with
  | zero =>
    rw [Nat.pow_one] at hn
    simp [decimal, Nat.mod_eq_of_lt hn]
  | succ width ih =>
    have hdiv : n / 10 < 10 ^ (width + 1) := by
      rw [Nat.pow_succ] at hn
      omega
    have hhead : n / 10 / 10 ^ width = n / 10 ^ (width + 1) := by
      rw [Nat.div_div_eq_div_mul, Nat.pow_succ, Nat.mul_comm]
    have htail : n / 10 % 10 ^ width = n % 10 ^ (width + 1) / 10 := by
      rw [Nat.pow_succ, Nat.mul_comm, Nat.mod_mul_right_div_self]
    have hlast : n % 10 = n % 10 ^ (width + 1) % 10 := by
      rw [Nat.pow_succ, Nat.mul_comm, Nat.mod_mul_right_mod]
    rw [decimal, ih _ hdiv, hhead, htail, hlast]
    rfl

theorem stripped_zero (width : Nat) : stripped width 0 = [] := by
  induction width with
  | zero => rfl
  | succ width ih =>
    rw [stripped, decimal, List.rdropWhile_concat]
    exact ih

theorem rdropWhile_cons_of_ne {p : Char → Bool} {x : Char} {xs : List Char} (h : xs.rdropWhile p ≠ [] ∨ p x = false) :
    (x :: xs).rdropWhile p = x :: xs.rdropWhile p := by
  induction xs using List.reverseRecOn with
  | nil =>
    have hx : p x = false := by simpa using h
    simp [List.rdropWhile, hx]
  | append_singleton ys y ih =>
    rw [← cons_append, List.rdropWhile_concat, List.rdropWhile_concat]
    rw [List.rdropWhile_concat] at h
    by_cases hy : p y = true
    · rw [if_pos hy] at h ⊢
      rw [if_pos hy, ih h]
    · rw [if_neg hy, if_neg hy]
      rfl

theorem stripped_eq_nil_iff (hn : n < 10 ^ width) : stripped width n = [] ↔ n = 0 := by
  constructor
  · intro h
    have hall := List.rdropWhile_eq_nil_iff.mp h
    have hzero : decimal width n = decimal width 0 := by
      have hreplicate : ∀ m, (∀ c ∈ decimal width m, (c == '0') = true) →
          decimal width m = List.replicate width '0' := by
        intro m hm
        rw [eq_replicate_iff]
        exact ⟨length_decimal width m, fun c hc => by simpa using hm c hc⟩
      rw [hreplicate n hall, hreplicate 0 (List.rdropWhile_eq_nil_iff.mp (stripped_zero width))]
    exact (decimal_inj hn (Nat.pow_pos (by omega))).mp hzero
  · rintro rfl
    exact stripped_zero width

theorem stripped_succ (hn : n < 10 ^ (width + 1)) (hpos : n ≠ 0) :
    stripped (width + 1) n = Char.ofNat (48 + n / 10 ^ width) :: stripped width (n % 10 ^ width) := by
  have hpow : 0 < 10 ^ width := Nat.pow_pos (by omega)
  have hmod : n % 10 ^ width < 10 ^ width := Nat.mod_lt _ hpow
  have hhead : n / 10 ^ width < 10 := by
    rw [Nat.div_lt_iff_lt_mul hpow, Nat.mul_comm, ← Nat.pow_succ]
    exact hn
  rw [stripped, decimal_succ width n hn]
  refine rdropWhile_cons_of_ne ?_
  by_cases hrest : n % 10 ^ width = 0
  · right
    have hdigit : n / 10 ^ width ≠ 0 := by
      intro hzero
      have := Nat.div_add_mod n (10 ^ width)
      rw [hzero, hrest] at this
      exact hpos (by omega)
    exact Bool.eq_false_iff.mpr fun h => hdigit ((digit_eq_zero_iff hhead).mp h)
  · left
    exact fun h => hrest ((stripped_eq_nil_iff hmod).mp h)

/-- The digits without trailing zeros determine the fraction. -/
theorem stripped_inj (hm : m < 10 ^ width) (hn : n < 10 ^ width) (h : stripped width m = stripped width n) : m = n := by
  induction width generalizing m n with
  | zero =>
    rw [Nat.pow_zero] at hm hn
    omega
  | succ width ih =>
    by_cases hm0 : m = 0
    · rw [hm0, stripped_zero] at h
      rw [hm0, (stripped_eq_nil_iff hn).mp h.symm]
    by_cases hn0 : n = 0
    · rw [hn0, stripped_zero] at h
      exact absurd ((stripped_eq_nil_iff hm).mp h) hm0
    rw [stripped_succ hm hm0, stripped_succ hn hn0, List.cons.injEq] at h
    have hpow : 0 < 10 ^ width := Nat.pow_pos (by omega)
    have hhead : ∀ {k : Nat}, k < 10 ^ (width + 1) → k / 10 ^ width < 10 := by
      intro k hk
      rw [Nat.div_lt_iff_lt_mul hpow, Nat.mul_comm, ← Nat.pow_succ]
      exact hk
    have hhigh := (digit_inj (hhead hm) (hhead hn)).mp h.1
    have hlow := ih (Nat.mod_lt m hpow) (Nat.mod_lt n hpow) h.2
    calc m = 10 ^ width * (m / 10 ^ width) + m % 10 ^ width := (Nat.div_add_mod m _).symm
      _ = 10 ^ width * (n / 10 ^ width) + n % 10 ^ width := by rw [hhigh, hlow]
      _ = n := Nat.div_add_mod n _

/-- The number is another one with some of its last `width` digits set to zero. -/
def IsCut (width m n : Nat) : Prop := ∃ places ≤ width, m = n / 10 ^ places * 10 ^ places

/-- Cutting within the low digits leaves the high part alone. -/
theorem isCut_split (hsame : m / 10 ^ width = n / 10 ^ width) :
    IsCut width m n ↔ IsCut width (m % 10 ^ width) (n % 10 ^ width) := by
  have hm := Nat.div_add_mod m (10 ^ width)
  have hn := Nat.div_add_mod n (10 ^ width)
  refine exists_congr fun places => and_congr_right fun hle => ?_
  have hpow : 10 ^ width = 10 ^ places * 10 ^ (width - places) := by
    rw [← Nat.pow_add, Nat.add_sub_cancel' hle]
  have hcut : n / 10 ^ places * 10 ^ places =
      10 ^ width * (n / 10 ^ width) + n % 10 ^ width / 10 ^ places * 10 ^ places := by
    have hpos : 0 < 10 ^ places := Nat.pow_pos (by omega)
    conv_lhs => rw [← hn, hpow, Nat.mul_assoc, Nat.mul_add_div hpos]
    rw [← hpow]
    rw [Nat.add_mul, hpow]
    ring
  rw [hcut, ← hsame]
  omega

theorem div_eq_of_isCut (h : IsCut width m n) : m / 10 ^ width = n / 10 ^ width := by
  obtain ⟨places, hle, rfl⟩ := h
  have hpow : 10 ^ width = 10 ^ places * 10 ^ (width - places) := by
    rw [← Nat.pow_add, Nat.add_sub_cancel' hle]
  have hpos : 0 < 10 ^ places := Nat.pow_pos (by omega)
  rw [hpow, ← Nat.div_div_eq_div_mul, ← Nat.div_div_eq_div_mul, Nat.mul_div_cancel _ hpos]

theorem mod_lt_mod_of_div_eq {d : Nat} (hmn : m < n) (hsame : m / d = n / d) : m % d < n % d := by
  have hm := Nat.div_add_mod m d
  have hn := Nat.div_add_mod n d
  rw [hsame] at hm
  omega

/-- **Fractions sort backwards exactly along cuts.** -/
theorem stripped_lt_iff {c : Char} (hc : '9' < c) (hmn : m < n) (hn : n < 10 ^ width) :
    stripped width n ++ [c] < stripped width m ++ [c] ↔ IsCut width m n := by
  induction width generalizing m n with
  | zero =>
    rw [Nat.pow_zero] at hn
    omega
  | succ width ih =>
    have hpow : 0 < 10 ^ width := Nat.pow_pos (by omega)
    have hhead : n / 10 ^ width < 10 := by
      rw [Nat.div_lt_iff_lt_mul hpow, Nat.mul_comm, ← Nat.pow_succ]
      exact hn
    have hm : m < 10 ^ (width + 1) := lt_trans hmn hn
    have hle : m / 10 ^ width ≤ n / 10 ^ width := Nat.div_le_div_right hmn.le
    rw [stripped_succ hn (by omega), cons_append]
    by_cases hzero : m = 0
    · -- The text of zero is the closing character alone, which sorts after every digit.
      subst hzero
      rw [stripped_zero, nil_append, cons_lt_cons_iff]
      refine iff_of_true (.inl (digit_lt_of_nine_lt hhead hc)) ⟨width + 1, le_refl _, ?_⟩
      rw [Nat.div_eq_of_lt hn, Nat.zero_mul]
    · rw [stripped_succ hm hzero, cons_append, cons_lt_cons_iff,
        digit_lt_iff hhead (by omega), digit_inj hhead (by omega)]
      have hwider : IsCut (width + 1) m n ↔ IsCut width m n := by
        constructor
        · rintro ⟨places, hplaces, heq⟩
          refine ⟨places, ?_, heq⟩
          by_contra hmore
          have htop : places = width + 1 := by omega
          rw [htop, Nat.div_eq_of_lt hn, Nat.zero_mul] at heq
          exact hzero heq
        · rintro ⟨places, hplaces, heq⟩
          exact ⟨places, by omega, heq⟩
      rw [hwider]
      by_cases hsame : m / 10 ^ width = n / 10 ^ width
      · have hlow := mod_lt_mod_of_div_eq hmn hsame
        rw [isCut_split hsame, ← ih hlow (Nat.mod_lt _ hpow)]
        constructor
        · rintro (h | h)
          · omega
          · exact h.2
        · exact fun h => .inr ⟨hsame.symm, h⟩
      · refine iff_of_false ?_ fun h => hsame (div_eq_of_isCut h)
        rintro (h | h)
        · omega
        · exact hsame h.1.symm

end Stackfort.Text
