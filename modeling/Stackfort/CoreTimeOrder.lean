import Stackfort.CoreTime

/-! The order of stored timestamps. For the four-digit years the format allows, the text up to the
second has a fixed width and sorts like time. The fraction after it drops trailing zeros, so two
instants of one second sort against time exactly when the earlier one is the later one cut to fewer
decimals: `12:00:00Z` sorts after `12:00:00.5Z`. -/

namespace Stackfort

open Text List

/-- The instant at which year 10000 begins. -/
def endOfFormat : Time := daysBeforeYear 10000 * 86400 * second

/-! ### Calendar -/

variable {a b days : Nat} {m n : Nat}

theorem daysBeforeYear_mono (h : a ≤ b) : daysBeforeYear a ≤ daysBeforeYear b := by
  unfold daysBeforeYear
  omega

theorem daysBeforeYear_succ (year : Nat) : daysBeforeYear (year + 1) ≤ daysBeforeYear year + 366 := by
  unfold daysBeforeYear
  omega

theorem yearOfDays_spec (days : Nat) : daysBeforeYear (yearOfDays days) ≤ days := by
  have h : daysBeforeYear 1 ≤ days := by simp [daysBeforeYear]
  exact Nat.findGreatest_spec (P := fun year => daysBeforeYear year ≤ days) (by omega) h

theorem yearOfDays_mono (h : a ≤ b) : yearOfDays a ≤ yearOfDays b := by
  have hbound : yearOfDays a ≤ a / 365 + 1 := Nat.findGreatest_le _
  refine Nat.le_findGreatest (by omega) ?_
  exact le_trans (yearOfDays_spec a) h

/-- The day of the year, counted from zero. -/
theorem dayOfYear_lt (days : Nat) : days - daysBeforeYear (yearOfDays days) < 366 := by
  have hbound : yearOfDays days ≤ days / 365 + 1 := Nat.findGreatest_le _
  have hspec := yearOfDays_spec days
  rcases Nat.lt_or_ge (yearOfDays days) (days / 365 + 1) with hlt | hge
  · have hnot : ¬daysBeforeYear (yearOfDays days + 1) ≤ days :=
      Nat.findGreatest_is_greatest (P := fun year => daysBeforeYear year ≤ days) (Nat.lt_succ_self _) hlt
    have hsucc := daysBeforeYear_succ (yearOfDays days)
    omega
  · have heq : yearOfDays days = days / 365 + 1 := by omega
    have hlow : 365 * (days / 365) ≤ daysBeforeYear (yearOfDays days) := by
      rw [heq]
      unfold daysBeforeYear
      omega
    omega

theorem yearOfDays_lt (h : days < daysBeforeYear 10000) : yearOfDays days < 10000 := by
  by_contra hge
  have hmono := daysBeforeYear_mono (not_lt.mp hge)
  have hspec := yearOfDays_spec days
  omega

theorem monthOfDays_spec (leap : Bool) (days : Nat) : daysBeforeMonth leap (monthOfDays leap days) ≤ days := by
  have h : daysBeforeMonth leap 1 ≤ days := by simp [daysBeforeMonth]
  exact Nat.findGreatest_spec (P := fun month => daysBeforeMonth leap month ≤ days) (by omega) h

theorem monthOfDays_le (leap : Bool) (days : Nat) : monthOfDays leap days ≤ 12 := Nat.findGreatest_le _

theorem monthOfDays_mono (leap : Bool) (h : a ≤ b) : monthOfDays leap a ≤ monthOfDays leap b :=
  Nat.le_findGreatest (monthOfDays_le leap a) (le_trans (monthOfDays_spec leap a) h)

theorem daysBeforeMonth_succ (leap : Bool) (month : Nat) (h : month < 12) :
    daysBeforeMonth leap (month + 1) ≤ daysBeforeMonth leap month + 31 := by
  have hall : ∀ leap : Bool, ∀ month : Fin 12,
      daysBeforeMonth leap (month + 1) ≤ daysBeforeMonth leap month + 31 := by decide
  exact hall leap ⟨month, h⟩

theorem dayOfMonth_lt (leap : Bool) (h : days < 366) :
    days - daysBeforeMonth leap (monthOfDays leap days) + 1 < 100 := by
  have hspec := monthOfDays_spec leap days
  rcases Nat.lt_or_ge (monthOfDays leap days) 12 with hlt | hge
  · have hnot : ¬daysBeforeMonth leap (monthOfDays leap days + 1) ≤ days :=
      Nat.findGreatest_is_greatest (P := fun month => daysBeforeMonth leap month ≤ days)
        (Nat.lt_succ_self _) hlt
    have hsucc := daysBeforeMonth_succ leap _ hlt
    omega
  · have heq : monthOfDays leap days = 12 := le_antisymm (monthOfDays_le leap days) hge
    have hdecember : 334 ≤ daysBeforeMonth leap 12 := by cases leap <;> decide
    rw [heq]
    omega

/-! ### Texts of fixed width -/

theorem formatDate_eq (h : days < daysBeforeYear 10000) :
    formatDate days =
      decimal 4 (yearOfDays days) ++ ('-' :: decimal 2 (monthOfDays (isLeapYear (yearOfDays days))
        (days - daysBeforeYear (yearOfDays days))) ++ ('-' :: decimal 2 (days - daysBeforeYear (yearOfDays days) -
          daysBeforeMonth (isLeapYear (yearOfDays days)) (monthOfDays (isLeapYear (yearOfDays days))
            (days - daysBeforeYear (yearOfDays days))) + 1))) := by
  have hyear := yearOfDays_lt h
  simp [formatDate, paddedDecimal, hyear]

theorem length_formatDate (h : days < daysBeforeYear 10000) : (formatDate days).length = 10 := by
  rw [formatDate_eq h]
  simp

theorem formatDate_lt (hab : a < b) (hb : b < daysBeforeYear 10000) : formatDate a < formatDate b := by
  rw [formatDate_eq (lt_trans hab hb), formatDate_eq hb, append_lt_append_iff (by simp)]
  have hya := yearOfDays_lt (lt_trans hab hb)
  have hyb := yearOfDays_lt hb
  rw [decimal_lt_iff (by omega) (by omega), decimal_inj (by omega) (by omega)]
  rcases Nat.lt_or_ge (yearOfDays a) (yearOfDays b) with hyear | hyear
  · exact .inl hyear
  · right
    have hsame : yearOfDays a = yearOfDays b := le_antisymm (yearOfDays_mono hab.le) hyear
    refine ⟨hsame, ?_⟩
    have hspec := yearOfDays_spec a
    have hda := dayOfYear_lt a
    have hdb := dayOfYear_lt b
    rw [hsame] at hspec hda ⊢
    generalize daysBeforeYear (yearOfDays b) = start at hspec hda hdb ⊢
    generalize isLeapYear (yearOfDays b) = leap
    have hle : a - start ≤ b - start := by omega
    have hma := monthOfDays_le leap (a - start)
    have hmb := monthOfDays_le leap (b - start)
    rw [append_lt_append_iff (by simp), cons_lt_cons_iff, List.cons.injEq, cons_lt_cons_iff,
      decimal_lt_iff (by omega) (by omega), decimal_inj (by omega) (by omega),
      decimal_lt_iff (dayOfMonth_lt leap hda) (dayOfMonth_lt leap hdb)]
    rcases Nat.lt_or_ge (monthOfDays leap (a - start)) (monthOfDays leap (b - start)) with hmonth | hmonth
    · exact .inl (.inr ⟨rfl, hmonth⟩)
    · have hmonths := le_antisymm (monthOfDays_mono leap hle) hmonth
      have hmspec := monthOfDays_spec leap (a - start)
      rw [hmonths] at hmspec ⊢
      exact .inr ⟨⟨rfl, rfl⟩, .inr ⟨rfl, by omega⟩⟩

theorem length_formatClock (seconds : Nat) : (formatClock seconds).length = 8 := by
  simp [formatClock]

theorem formatClock_lt (hab : a < b) (hb : b < 86400) : formatClock a < formatClock b := by
  simp only [formatClock, append_assoc, cons_append]
  rw [append_lt_append_iff (by simp), decimal_lt_iff (by omega) (by omega), decimal_inj (by omega) (by omega),
    cons_lt_cons_iff, append_lt_append_iff (by simp), decimal_lt_iff (by omega) (by omega),
    decimal_inj (by omega) (by omega), cons_lt_cons_iff, decimal_lt_iff (by omega) (by omega)]
  simp only [Char.lt_irrefl, false_or, true_and]
  omega

/-- The text up to the second. -/
def formatSeconds (seconds : Nat) : List Char :=
  formatDate (seconds / 86400) ++ 'T' :: formatClock (seconds % 86400)

theorem formatTime_eq (value : Time) :
    (formatTime value).toList = formatSeconds (value / second) ++ (formatFraction (value % second) ++ ['Z']) := by
  simp [formatTime, formatSeconds]

theorem length_formatSeconds {seconds : Nat} (h : seconds < daysBeforeYear 10000 * 86400) :
    (formatSeconds seconds).length = 19 := by
  have hdays : seconds / 86400 < daysBeforeYear 10000 := by omega
  simp [formatSeconds, length_formatDate hdays, length_formatClock]

/-- **To the second, texts sort like time.** -/
theorem formatSeconds_lt (hab : a < b) (hb : b < daysBeforeYear 10000 * 86400) :
    formatSeconds a < formatSeconds b := by
  have hda : a / 86400 < daysBeforeYear 10000 := by omega
  have hdb : b / 86400 < daysBeforeYear 10000 := by omega
  rw [formatSeconds, formatSeconds,
    append_lt_append_iff (by rw [length_formatDate hda, length_formatDate hdb]), cons_lt_cons_iff]
  rcases Nat.lt_or_ge (a / 86400) (b / 86400) with hday | hday
  · exact .inl (formatDate_lt hday hdb)
  · have hsame : a / 86400 = b / 86400 := by omega
    rw [hsame]
    exact .inr ⟨rfl, .inr ⟨rfl, formatClock_lt (by omega) (by omega)⟩⟩

theorem formatFraction_lt_iff (hmn : m < n) (hn : n < second) :
    formatFraction n ++ ['Z'] < formatFraction m ++ ['Z'] ↔ IsCut 9 m n := by
  have hn' : n < 10 ^ 9 := hn
  rw [formatFraction, if_neg (by omega)]
  by_cases hzero : m = 0
  · subst hzero
    rw [formatFraction, if_pos rfl, nil_append, cons_append, cons_lt_cons_iff]
    refine iff_of_true (.inl (by decide)) ⟨9, le_refl _, ?_⟩
    rw [Nat.div_eq_of_lt hn', Nat.zero_mul]
  · rw [formatFraction, if_neg hzero, cons_append, cons_append, cons_lt_cons_iff,
      stripped_lt_iff (by decide) hmn hn']
    simp

/-- **Timestamps sort against time exactly along cuts.** -/
theorem formatTime_lt_iff {a b : Time} (hab : a < b) (hb : b < endOfFormat) :
    formatTime b < formatTime a ↔ IsCut 9 a b := by
  have hpos : 0 < second := by decide
  have hsb : b / second < daysBeforeYear 10000 * 86400 := by
    rw [Nat.div_lt_iff_lt_mul hpos]
    exact hb
  have hle : a / second ≤ b / second := Nat.div_le_div_right hab.le
  have hlength : (formatSeconds (b / second)).length = (formatSeconds (a / second)).length := by
    rw [length_formatSeconds hsb, length_formatSeconds (lt_of_le_of_lt hle hsb)]
  rw [String.lt_iff, formatTime_eq, formatTime_eq, append_lt_append_iff hlength]
  rcases Nat.lt_or_ge (a / second) (b / second) with hseconds | hseconds
  · have hlt := formatSeconds_lt hseconds hsb
    refine iff_of_false ?_ fun h => hseconds.ne (div_eq_of_isCut h)
    rintro (h | h)
    · exact lt_asymm hlt h
    · rw [h.1] at hlt
      exact lt_irrefl _ hlt
  · have hsame : a / second = b / second := le_antisymm hle hseconds
    have hlow := mod_lt_mod_of_div_eq hab hsame
    have hsplit : IsCut 9 a b ↔ IsCut 9 (a % second) (b % second) := isCut_split hsame
    rw [hsame, hsplit, ← formatFraction_lt_iff hlow (Nat.mod_lt _ hpos)]
    constructor
    · rintro (h | h)
      · exact absurd h (lt_irrefl _)
      · exact h.2
    · exact fun h => .inr ⟨rfl, h⟩

theorem formatSeconds_inj (ha : a < daysBeforeYear 10000 * 86400) (hb : b < daysBeforeYear 10000 * 86400)
    (h : formatSeconds a = formatSeconds b) : a = b := by
  rcases Nat.lt_trichotomy a b with hlt | heq | hlt
  · exact absurd (h ▸ formatSeconds_lt hlt hb) (lt_irrefl _)
  · exact heq
  · exact absurd (h ▸ formatSeconds_lt hlt ha) (lt_irrefl _)

theorem formatFraction_inj (hm : m < second) (hn : n < second)
    (h : formatFraction m = formatFraction n) : m = n := by
  unfold formatFraction at h
  split at h
  · split at h
    · omega
    · cases h
  · split at h
    · cases h
    · exact stripped_inj hm hn (List.cons.inj h).2

theorem formatTime_inj {a b : Time} (ha : a < endOfFormat) (hb : b < endOfFormat)
    (h : formatTime a = formatTime b) : a = b := by
  have hpos : 0 < second := by decide
  have hseconds : ∀ {c : Time}, c < endOfFormat → c / second < daysBeforeYear 10000 * 86400 := fun hc =>
    (Nat.div_lt_iff_lt_mul hpos).mpr hc
  have htexts := congrArg String.toList h
  rw [formatTime_eq, formatTime_eq] at htexts
  obtain ⟨hhigh, hlow⟩ := append_inj htexts
    (by rw [length_formatSeconds (hseconds ha), length_formatSeconds (hseconds hb)])
  have hdiv := formatSeconds_inj (hseconds ha) (hseconds hb) hhigh
  have hmod := formatFraction_inj (Nat.mod_lt a hpos) (Nat.mod_lt b hpos) (append_cancel_right hlow)
  calc a = second * (a / second) + a % second := (Nat.div_add_mod a second).symm
    _ = second * (b / second) + b % second := by rw [hdiv, hmod]
    _ = b := Nat.div_add_mod b second

/-- One of two instants is the other one cut to fewer decimals. -/
def CutShort (a b : Time) : Prop := a < b ∧ IsCut 9 a b

/-- **Stored timestamps.** The texts of two instants compare like the instants, strictly or not, exactly when neither
is the other one cut to fewer decimals. -/
theorem timestamps_order_iff {a b : Time} (ha : a < endOfFormat) (hb : b < endOfFormat) :
    ((a < b ↔ formatTime a < formatTime b) ∧ (a ≤ b ↔ formatTime a ≤ formatTime b)) ↔
      ¬CutShort a b ∧ ¬CutShort b a := by
  rcases Nat.lt_trichotomy a b with hlt | rfl | hlt
  · have hne : formatTime a ≠ formatTime b := fun h => hlt.ne (formatTime_inj ha hb h)
    have hback : ¬CutShort b a := fun h => Nat.lt_asymm hlt h.1
    have hcut : CutShort a b ↔ formatTime b < formatTime a :=
      (and_iff_right hlt).trans (formatTime_lt_iff hlt hb).symm
    simp only [hlt, hlt.le, true_iff, hback, not_false_iff, and_true, hcut, String.not_lt]
    exact ⟨fun h => h.2, fun h => ⟨lt_of_le_of_ne h hne, h⟩⟩
  · simp [CutShort]
  · have hback : ¬CutShort a b := fun h => Nat.lt_asymm hlt h.1
    have hcut : CutShort b a ↔ formatTime a < formatTime b :=
      (and_iff_right hlt).trans (formatTime_lt_iff hlt ha).symm
    have hlast : ¬a < b ∧ ¬a ≤ b := ⟨Nat.lt_asymm hlt, Nat.not_le.mpr hlt⟩
    have hne : formatTime b ≠ formatTime a := fun h => hlt.ne (formatTime_inj hb ha h)
    simp only [hlast.1, hlast.2, false_iff, hback, not_false_iff, true_and, hcut, String.not_le, String.not_lt]
    exact ⟨fun h => h.1, fun h => ⟨h, lt_of_le_of_ne h hne⟩⟩

/-- Two instants that differ in a whole second compare like their texts. -/
theorem timestamps_order_iff_seconds :
    (0 < second ↔ formatTime 0 < formatTime second) ∧ (0 ≤ second ↔ formatTime 0 ≤ formatTime second) := by
  refine (timestamps_order_iff (by decide +kernel) (by decide +kernel)).mpr ⟨fun h => ?_, fun h => ?_⟩
  · obtain ⟨-, places, hplaces, hzero⟩ := h
    have hhigh := div_eq_of_isCut ⟨places, hplaces, hzero⟩
    exact absurd hhigh (by decide)
  · exact absurd h.1 (Nat.not_lt_zero _)

/-- Half a second after the full second sorts before it: the point sorts before the closing letter. -/
theorem half_second_sorts_first : 0 < second / 2 ∧ formatTime (second / 2) < formatTime 0 := by
  refine ⟨by decide, (formatTime_lt_iff (by decide) (by decide +kernel)).mpr ⟨9, le_refl _, by decide⟩⟩

end Stackfort
