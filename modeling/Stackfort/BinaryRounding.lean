import Mathlib.Data.Nat.Log
import Mathlib.Tactic.Linarith

/-! Natural numbers in a binary floating point format of `p` bits, and the decimals they are printed as.
A number is stored as the nearest multiple of the spacing that the format has at its magnitude, with
ties to the even multiple. It is printed as the decimal with the most trailing zeros that is stored as the same
number. Storing what was printed gives the number back, so printing what was stored is a normal form.
Exponents are not bounded: the numbers of interest are far below the range of the format. -/

namespace Stackfort.Binary

/-- The multiple of `unit` nearest to a number; a tie goes to the even multiple. -/
def roundMultiple (unit n : ℕ) : ℕ :=
  if 2 * (n % unit) < unit ∨ 2 * (n % unit) = unit ∧ n / unit % 2 = 0 then n / unit * unit
  else (n / unit + 1) * unit

/-- The spacing of the `p`-bit numbers at the magnitude of a number. -/
def spacing (p n : ℕ) : ℕ := 2 ^ (n.log2 + 1 - p)

/-- The `p`-bit number a number is stored as. -/
def nearest (p n : ℕ) : ℕ := roundMultiple (spacing p n) n

/-- The decimal with the most trailing zeros, up to a bound, that is stored as the given number. Of the two
neighbours with as many zeros the closer one is taken. -/
def shorten (p v : ℕ) : (zeros : ℕ) → ℕ
  | 0 => v
  | zeros + 1 =>
    let unit := 10 ^ (zeros + 1)
    let low := v / unit * unit
    if nearest p low = v ∧ (nearest p (low + unit) ≠ v ∨ 2 * (v - low) ≤ unit) then low
    else if nearest p (low + unit) = v then low + unit
    else shorten p v zeros

/-- The decimal a number is printed as once it has been stored. A number has fewer decimal than binary digits. -/
def printed (p n : ℕ) : ℕ := shorten p (nearest p n) (nearest p n).log2

section Rounding

variable {unit n p m : ℕ}

theorem roundMultiple_of_dvd (h : unit ∣ n) : roundMultiple unit n = n := by
  obtain ⟨k, rfl⟩ := h
  rcases Nat.eq_zero_or_pos unit with rfl | hpos
  · simp [roundMultiple]
  · rw [roundMultiple, Nat.mul_mod_right, if_pos (.inl (by omega)), Nat.mul_div_cancel_left k hpos, Nat.mul_comm]

theorem dvd_roundMultiple (unit n : ℕ) : unit ∣ roundMultiple unit n := by
  unfold roundMultiple
  split
  · exact Nat.dvd_mul_left unit _
  · exact Nat.dvd_mul_left unit _

theorem le_roundMultiple (hdvd : unit ∣ m) (h : m ≤ n) : m ≤ roundMultiple unit n := by
  obtain ⟨k, rfl⟩ := hdvd
  rcases Nat.eq_zero_or_pos unit with rfl | hpos
  · simp
  have hk : k ≤ n / unit := (Nat.le_div_iff_mul_le hpos).mpr (by rwa [Nat.mul_comm])
  unfold roundMultiple
  split
  · calc unit * k = k * unit := Nat.mul_comm _ _
      _ ≤ n / unit * unit := Nat.mul_le_mul_right unit hk
  · calc unit * k = k * unit := Nat.mul_comm _ _
      _ ≤ (n / unit + 1) * unit := Nat.mul_le_mul_right unit (by omega)

theorem roundMultiple_le (hdvd : unit ∣ m) (h : n < m) : roundMultiple unit n ≤ m := by
  obtain ⟨k, rfl⟩ := hdvd
  rcases Nat.eq_zero_or_pos unit with rfl | hpos
  · simp at h
  have hk : n / unit < k := (Nat.div_lt_iff_lt_mul hpos).mpr (by rwa [Nat.mul_comm])
  unfold roundMultiple
  split
  · calc n / unit * unit ≤ k * unit := Nat.mul_le_mul_right unit hk.le
      _ = unit * k := Nat.mul_comm _ _
  · calc (n / unit + 1) * unit ≤ k * unit := Nat.mul_le_mul_right unit hk
      _ = unit * k := Nat.mul_comm _ _

theorem spacing_dvd_two_pow (hp : 0 < p) {k : ℕ} (hk : n.log2 ≤ k) : spacing p n ∣ 2 ^ k :=
  Nat.pow_dvd_pow 2 (by omega)

/-- A stored number lies within the binary order of magnitude of the number, its upper end included. -/
theorem nearest_bounds (hp : 0 < p) (hn : n ≠ 0) : 2 ^ n.log2 ≤ nearest p n ∧ nearest p n ≤ 2 ^ (n.log2 + 1) := by
  constructor
  · exact le_roundMultiple (spacing_dvd_two_pow hp le_rfl) (Nat.log2_self_le hn)
  · exact roundMultiple_le (spacing_dvd_two_pow hp (Nat.le_succ _)) Nat.lt_log2_self

theorem nearest_of_dvd (h : spacing p n ∣ n) : nearest p n = n := roundMultiple_of_dvd h

theorem nearest_of_lt (h : n < 2 ^ p) : nearest p n = n := by
  apply nearest_of_dvd
  rcases eq_or_ne n 0 with rfl | hn
  · exact Nat.dvd_zero _
  have hlt := (Nat.log2_lt hn).mpr h
  have hlog : n.log2 + 1 - p = 0 := by omega
  rw [spacing, hlog]
  exact one_dvd n

theorem nearest_nearest (hp : 0 < p) (n : ℕ) : nearest p (nearest p n) = nearest p n := by
  rcases eq_or_ne n 0 with rfl | hn
  · have hzero : nearest p 0 = 0 := roundMultiple_of_dvd (Nat.dvd_zero _)
    rw [hzero, hzero]
  obtain ⟨hlow, hhigh⟩ := nearest_bounds hp hn
  apply nearest_of_dvd
  rcases hhigh.lt_or_eq with hlt | heq
  · -- the same order of magnitude has the same spacing
    have hpos : nearest p n ≠ 0 := (Nat.lt_of_lt_of_le (Nat.two_pow_pos _) hlow).ne'
    have hlog : (nearest p n).log2 = n.log2 := (Nat.log2_eq_iff hpos).mpr ⟨hlow, hlt⟩
    rw [spacing, hlog]
    exact dvd_roundMultiple _ n
  · rw [heq, spacing, Nat.log2_two_pow]
    exact Nat.pow_dvd_pow 2 (by omega)

end Rounding

section Printing

variable {p v : ℕ}

/-- A shortened decimal is stored as the number it stands for. -/
theorem nearest_shorten (hv : nearest p v = v) (zeros : ℕ) : nearest p (shorten p v zeros) = v := by
  induction zeros with
  | zero => exact hv
  | succ zeros ih =>
    rw [shorten]
    split
    · next h => exact h.1
    · split
      · next h => exact h
      · exact ih

theorem nearest_printed (hp : 0 < p) (n : ℕ) : nearest p (printed p n) = nearest p n :=
  nearest_shorten (nearest_nearest hp n) _

/-- **Normal form.** Storing and printing what was printed changes nothing. -/
theorem printed_printed (hp : 0 < p) (n : ℕ) : printed p (printed p n) = printed p n := by
  rw [printed, nearest_printed hp, printed]

/-- A decimal that is stored as a number below the precision is that number. -/
theorem eq_of_nearest_eq (hp : 0 < p) {c : ℕ} (hv : v < 2 ^ p) (h : nearest p c = v) : c = v := by
  by_cases hc : c < 2 ^ p
  · rw [← h, nearest_of_lt hc]
  · have hne : c ≠ 0 := (Nat.lt_of_lt_of_le (Nat.two_pow_pos p) (Nat.le_of_not_lt hc)).ne'
    have hlog : p ≤ c.log2 := (Nat.le_log2 hne).mpr (Nat.le_of_not_lt hc)
    have hlow := (nearest_bounds hp hne).1
    have hpow : 2 ^ p ≤ 2 ^ c.log2 := Nat.pow_le_pow_right (by omega) hlog
    omega

theorem printed_of_lt (hp : 0 < p) (h : v < 2 ^ p) : printed p v = v := by
  rw [printed, nearest_of_lt h]
  exact eq_of_nearest_eq hp h (nearest_shorten (nearest_of_lt h) _)

end Printing

end Stackfort.Binary
