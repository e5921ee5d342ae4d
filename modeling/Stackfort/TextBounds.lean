import Mathlib.Algebra.BigOperators.Group.List.Basic
import Mathlib.Data.List.TakeWhile
import Mathlib.Data.Nat.Digits.Defs
import Stackfort.CoreValues

/-! Bounds on the texts that the panel builds itself: keys made of identifiers and counters, and the JSON texts of
payloads of a fixed shape. They are what shows that such texts pass the checks of the repository. -/

namespace Stackfort

open List

/-! ### Trimmed texts -/

theorem trimSpace_of_forall {value : String} (h : ∀ c ∈ value.toList, isSpace c = false) :
    trimSpace value = value := by
  have hfirst : value.toList.dropWhile isSpace = value.toList := by
    rw [dropWhile_eq_self_iff]
    intro hlength
    rw [h _ (getElem_mem hlength)]
    exact Bool.false_ne_true
  have hlast : value.toList.reverse.dropWhile isSpace = value.toList.reverse := by
    rw [dropWhile_eq_self_iff]
    intro hlength
    rw [h _ (List.mem_reverse.mp (getElem_mem hlength))]
    exact Bool.false_ne_true
  unfold trimSpace
  rw [hfirst, hlast, reverse_reverse, String.ofList_toList]

theorem validateOptionalText_of_forall {value : String} (field : String) {maximum : Nat}
    (h : ∀ c ∈ value.toList, isSpace c = false) (hlength : value.length ≤ maximum) :
    validateOptionalText value field maximum = .ok value := by
  have htrim := trimSpace_of_forall h
  unfold validateOptionalText validateText
  rw [htrim]
  by_cases hempty : value = ""
  · rw [if_pos hempty, hempty]
    rfl
  · have hpositive : value.length ≠ 0 := by
      intro hzero
      exact hempty (String.length_eq_zero_iff.mp hzero)
    rw [if_neg hempty, if_neg (by omega)]
    rfl

theorem isSpace_of_range {c : Char} (h : 33 ≤ c.toNat ∧ c.toNat ≤ 126) : isSpace c = false := by
  have hblank : c ≠ ' ' := by
    rintro rfl
    exact absurd h (by decide)
  simp only [isSpace, Bool.or_eq_false_iff, Bool.and_eq_false_iff, beq_eq_false_iff_ne, decide_eq_false_iff_not]
  refine ⟨⟨⟨⟨⟨⟨⟨⟨⟨⟨hblank, ?_⟩, ?_⟩, ?_⟩, ?_⟩, ?_⟩, ?_⟩, ?_⟩, ?_⟩, ?_⟩, ?_⟩ <;> omega

theorem isSpace_of_isDigit {c : Char} (h : c.isDigit = true) : isSpace c = false := by
  simp only [Char.isDigit, and_eq_true, decide_eq_true_eq] at h
  exact isSpace_of_range ⟨Nat.le_trans (by decide) h.1, Nat.le_trans h.2 (by decide)⟩

theorem isSpace_of_mem_toString {n : Nat} {c : Char} (h : c ∈ (toString n).toList) : isSpace c = false := by
  refine isSpace_of_isDigit (Nat.isDigit_of_mem_toDigits (by omega) (le_refl 10) (n := n) ?_)
  rwa [Nat.toString_eq_repr, Nat.repr, String.toList_ofList] at h

theorem length_toString_le {n digits : Nat} (hpositive : 0 < digits) (h : n < 10 ^ digits) :
    (toString n).length ≤ digits := by
  rw [Nat.toString_eq_repr]
  exact Nat.repr_length n digits hpositive h

theorem toString_inj {m n : Nat} (h : toString m = toString n) : m = n := by
  rw [Nat.toString_eq_repr, Nat.toString_eq_repr, Nat.repr, Nat.repr, String.ofList_inj] at h
  calc m = Nat.ofDigitChars 10 (Nat.toDigits 10 m) 0 := (Nat.ofDigitChars_toDigits (by omega) (le_refl 10)).symm
    _ = n := by rw [h, Nat.ofDigitChars_toDigits (by omega) (le_refl 10)]

theorem dash_not_mem_toString (n : Nat) : '-' ∉ (toString n).toList := by
  intro hmem
  rw [Nat.toString_eq_repr, Nat.repr, String.toList_ofList] at hmem
  exact absurd (Nat.isDigit_of_mem_toDigits (by omega) (le_refl 10) hmem) (by decide)

/-- Two numbers that are joined by a dash can be read back. -/
theorem joined_toString_inj {a b c d : Nat} (h : toString a ++ "-" ++ toString b = toString c ++ "-" ++ toString d) :
    a = c ∧ b = d := by
  have hlist := congrArg String.toList h
  simp only [String.toList_append] at hlist
  have hdash : "-".toList = ['-'] := rfl
  rw [hdash, append_assoc, append_assoc, singleton_append, singleton_append,
    append_cons_inj_of_notMem (dash_not_mem_toString a) (dash_not_mem_toString b)] at hlist
  exact ⟨toString_inj (String.toList_inj.mp hlist.1), toString_inj (String.toList_inj.mp hlist.2.2)⟩

theorem char_of_isCanonicalUUIDv7 {value : ID} (h : isCanonicalUUIDv7 value = true) {c : Char}
    (hc : c ∈ value.toList) : c = '-' ∨ isLowerHexDigit c = true := by
  simp only [isCanonicalUUIDv7, and_eq_true, all_eq_true] at h
  obtain ⟨i, hi⟩ := mem_iff_getElem?.mp hc
  have hentry := h.1.2 (c, i) (mem_zipIdx_iff_getElem?.mpr hi)
  dsimp only at hentry
  split at hentry
  · exact .inl (beq_iff_eq.mp hentry)
  · exact .inr hentry

theorem isCanonicalUUIDv7_chars {value : ID} (h : isCanonicalUUIDv7 value = true) :
    value.length = 36 ∧ ∀ c ∈ value.toList, isSpace c = false := by
  constructor
  · simp only [isCanonicalUUIDv7, and_eq_true, beq_iff_eq] at h
    rw [← String.length_toList, h.1.1]
  · intro c hc
    rcases char_of_isCanonicalUUIDv7 h hc with rfl | hhex
    · decide
    · simp only [isLowerHexDigit, or_eq_true, and_eq_true, decide_eq_true_eq] at hhex
      rcases hhex with ⟨hlow, hhigh⟩ | ⟨hlow, hhigh⟩ <;>
        exact isSpace_of_range ⟨Nat.le_trans (by decide) hlow, Nat.le_trans hhigh (by decide)⟩

/-! ### Sizes -/

theorem utf8Len_le (characters : List Char) : String.utf8Len characters ≤ 4 * characters.length := by
  induction characters with
  | nil => exact le_refl 0
  | cons c rest ih =>
    rw [String.utf8Len, length_cons]
    have := Char.utf8Size_le_four c
    omega

theorem utf8ByteSize_le (value : String) : value.utf8ByteSize ≤ 4 * value.length := by
  have h := utf8Len_le value.toList
  rwa [← String.utf8ByteSize_ofList, String.ofList_toList, String.length_toList] at h

theorem utf8ByteSize_intercalate_le (separator : String) (texts : List String) :
    (separator.intercalate texts).utf8ByteSize ≤
      (texts.map fun text => text.utf8ByteSize + separator.utf8ByteSize).sum := by
  induction texts with
  | nil => simp
  | cons text rest ih =>
    cases rest with
    | nil => simp
    | cons next rest =>
      rw [String.intercalate_cons_cons, String.utf8ByteSize_append, String.utf8ByteSize_append, map_cons, sum_cons]
      omega

namespace Json

theorem length_escapeChar_le (c : Char) : (escapeChar c).length ≤ 6 := by
  unfold escapeChar
  split_ifs <;> simp

theorem length_flatMap_escapeChar_le (characters : List Char) :
    (characters.flatMap escapeChar).length ≤ 6 * characters.length := by
  induction characters with
  | nil => exact le_refl 0
  | cons c rest ih =>
    rw [flatMap_cons, length_append, length_cons]
    have := length_escapeChar_le c
    omega

theorem utf8ByteSize_quote_le (value : String) : (quote value).utf8ByteSize ≤ 24 * value.length + 8 := by
  rw [quote, String.utf8ByteSize_ofList]
  have hlength := length_flatMap_escapeChar_le value.toList
  have hsize := utf8Len_le ('"' :: value.toList.flatMap escapeChar ++ ['"'])
  rw [length_append, length_cons, length_singleton] at hsize
  rw [String.length_toList] at hlength
  omega

mutual

/-- A bound on the text of a value that does not depend on the order of its fields. -/
def sizeBound : Json → Nat
  | .null => 4
  | .bool _ => 5
  | .number value => (toString value).utf8ByteSize
  | .string value => (quote value).utf8ByteSize
  | .array elements => elementsBound elements + 2
  | .object fields => fieldsBound fields + 2

def elementsBound : List Json → Nat
  | [] => 0
  | element :: rest => element.sizeBound + 1 + elementsBound rest

def fieldsBound : List (String × Json) → Nat
  | [] => 0
  | (key, value) :: rest => (quote key).utf8ByteSize + value.sizeBound + 2 + fieldsBound rest

end

mutual

theorem utf8ByteSize_encode_le : ∀ value : Json, value.encode.utf8ByteSize ≤ value.sizeBound
  | .null => by decide
  | .bool value => by cases value <;> decide
  | .number value => by rw [encode, sizeBound]
  | .string value => by rw [encode, sizeBound]
  | .array elements => by
      have hbrackets : "[".utf8ByteSize = 1 ∧ "]".utf8ByteSize = 1 ∧ ",".utf8ByteSize = 1 := by decide
      have hjoined := utf8ByteSize_intercalate_le "," (encodeElements elements)
      have helements := sum_encodeElements_le elements
      rw [encode, sizeBound, String.utf8ByteSize_append, String.utf8ByteSize_append, hbrackets.1, hbrackets.2.1]
      rw [hbrackets.2.2] at hjoined
      omega
  | .object fields => by
      have hbraces : "\x7b".utf8ByteSize = 1 ∧ "\x7d".utf8ByteSize = 1 ∧ ",".utf8ByteSize = 1 := by decide
      have hfields := sum_encodeFields_le fields
      have hjoined := utf8ByteSize_intercalate_le ","
        (((encodeFields fields).insertionSort fun left right => left.1 ≤ right.1).map
          fun field => quote field.1 ++ ":" ++ field.2)
      rw [map_map, ((perm_insertionSort _ (encodeFields fields)).map _).sum_eq, hbraces.2.2] at hjoined
      rw [encode, sizeBound, String.utf8ByteSize_append, String.utf8ByteSize_append, hbraces.1, hbraces.2.1]
      exact Nat.le_trans (by omega) (Nat.add_le_add_right hfields 2)

theorem sum_encodeElements_le : ∀ elements : List Json,
    ((encodeElements elements).map fun text => text.utf8ByteSize + 1).sum ≤ elementsBound elements
  | [] => by simp [encodeElements, elementsBound]
  | element :: rest => by
      have hfirst := utf8ByteSize_encode_le element
      have hrest := sum_encodeElements_le rest
      rw [encodeElements, elementsBound, map_cons, sum_cons]
      omega

theorem sum_encodeFields_le : ∀ fields : List (String × Json), ((encodeFields fields).map
        ((fun text => text.utf8ByteSize + 1) ∘ fun field => quote field.1 ++ ":" ++ field.2)).sum ≤ fieldsBound fields
  | [] => by simp [encodeFields, fieldsBound]
  | (key, value) :: rest => by
      have hcolon : ":".utf8ByteSize = 1 := by decide
      have hvalue := utf8ByteSize_encode_le value
      have hrest := sum_encodeFields_le rest
      rw [encodeFields, fieldsBound, map_cons, sum_cons]
      simp only [Function.comp_apply, String.utf8ByteSize_append, hcolon]
      omega

end

theorem fieldsBound_le {fields : List (String × Json)} {bound : Nat}
    (h : ∀ field ∈ fields, field.1.length ≤ 20 ∧ field.2.sizeBound ≤ bound) :
    fieldsBound fields ≤ fields.length * (bound + 490) := by
  induction fields with
  | nil => exact Nat.zero_le _
  | cons field rest ih =>
    obtain ⟨key, value⟩ := field
    obtain ⟨⟨hkey, hvalue⟩, hrest⟩ := List.forall_mem_cons.mp h
    have hquote := utf8ByteSize_quote_le key
    have htail := ih hrest
    rw [fieldsBound, length_cons, Nat.succ_mul]
    dsimp only at hkey hvalue
    omega

theorem sizeBound_number_le {n digits : Nat} (hpositive : 0 < digits) (h : n < 10 ^ digits) :
    (Json.number n).sizeBound ≤ 4 * digits := by
  have hlength := length_toString_le hpositive h
  have hsize := utf8ByteSize_le (toString n)
  rw [sizeBound]
  exact Nat.le_trans hsize (by omega)

/-- A natural number is printed as one that is at most four times as large. -/
theorem printed_lt {n : Nat} (bits : Nat) (h : n < 2 ^ bits) : Binary.printed 53 n < 2 ^ (bits + 2) := by
  rcases Nat.eq_zero_or_pos n with rfl | hpositive
  · rw [Binary.printed_of_lt (by omega) (by decide)]
    exact Nat.two_pow_pos _
  · have hn : n ≠ 0 := Nat.pos_iff_ne_zero.mp hpositive
    have hlog : n.log2 < bits := (Nat.log2_lt hn).mpr h
    have hupper := (Binary.nearest_bounds (p := 53) (by omega) hn).2
    rcases Nat.eq_zero_or_pos (Binary.printed 53 n) with hzero | hprinted
    · rw [hzero]
      exact Nat.two_pow_pos _
    · have hc : Binary.printed 53 n ≠ 0 := Nat.pos_iff_ne_zero.mp hprinted
      have hlower := (Binary.nearest_bounds (p := 53) (by omega) hc).1
      rw [Binary.nearest_printed (by omega)] at hlower
      have hlogs : (Binary.printed 53 n).log2 ≤ n.log2 + 1 :=
        (Nat.pow_le_pow_iff_right (by omega)).mp (Nat.le_trans hlower hupper)
      calc Binary.printed 53 n < 2 ^ ((Binary.printed 53 n).log2 + 1) := Nat.lt_log2_self
        _ ≤ 2 ^ (bits + 2) := Nat.pow_le_pow_right (by omega) (by omega)

end Json

end Stackfort
