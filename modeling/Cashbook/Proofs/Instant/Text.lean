/-
Instants are read back as they were written.

An instant is written part by part, each a row of digits with a mark before it, and reading
takes up one part after another.  It would put up with much more than is ever written; what
has to be seen is that where something is written, it takes up that part, all of it and
nothing else.  Years are the hard ones, since they may have any number of digits, and the
places after the second, of which there may be none.
-/
import Cashbook.Instant.Rfc3339
import Cashbook.Proofs.Decimal.Text
import Cashbook.Proofs.Instant.Calendar

namespace Cashbook.Instant

open Cashbook.Text

/-! ### One part after another -/

/-- Where no white space is, none is passed over. -/
theorem skipBlanks_cons {c : Char} (h : isBlank c = false) (rest : List Char) :
    skipBlanks (c :: rest) = c :: rest :=
  List.dropWhile_cons_of_neg (by rw [h]; exact Bool.false_ne_true)

theorem exists_fixedDigits_eq_cons {width : Nat} (hwidth : 0 < width) (n : Nat) :
    ∃ d more, d < 10 ∧ fixedDigits 10 width n = Nat.digitChar d :: more := by
  cases h : lastDigits 10 width n with
  | nil =>
      have hlength := length_lastDigits 10 width n
      rw [h] at hlength
      exact absurd hlength (Nat.ne_of_lt hwidth)
  | cons d more =>
      have hd : d < 10 := lt_of_mem_lastDigits (by decide) (h ▸ List.mem_cons_self)
      exact ⟨d, more.map Nat.digitChar, hd, by rw [fixedDigits, h, List.map_cons]⟩

theorem skipBlanks_fixedDigits {width : Nat} (hwidth : 0 < width) (n : Nat) (rest : List Char) :
    skipBlanks (fixedDigits 10 width n ++ rest) = fixedDigits 10 width n ++ rest := by
  obtain ⟨d, more, hd, hdigits⟩ := exists_fixedDigits_eq_cons hwidth n
  rw [hdigits, List.cons_append]
  exact skipBlanks_cons (isBlank_digitChar (Nat.lt_trans hd (by decide))) _

/-- A field of fixed width is read as the number that fills it. -/
theorem readNat?_fixedDigits {width n : Nat} (hwidth : 0 < width) (hn : n < 10 ^ width)
    (rest : List Char) : readNat? width (fixedDigits 10 width n ++ rest) = some (n, rest) := by
  have hlength := length_fixedDigits 10 width n
  have hspan : spanDigits (fixedDigits 10 width n) = (lastDigits 10 width n, []) := by
    rw [← List.append_nil (fixedDigits 10 width n)]
    exact spanDigits_digits (fun d hd => lt_of_mem_lastDigits (by decide) hd) rfl
  have hnotEmpty : (lastDigits 10 width n).isEmpty = false := by
    rw [List.isEmpty_eq_false_iff_exists_mem, ← List.length_pos_iff_exists_mem, length_lastDigits]
    exact hwidth
  unfold readNat?
  rw [List.take_left' hlength, hspan]
  simp only [hnotEmpty, Bool.false_eq_true, if_false]
  rw [length_lastDigits, List.drop_left' hlength, ofDigits_lastDigits, Nat.mod_eq_of_lt hn]

theorem readPart?_fixedDigits {separator : Char} {n : Nat} (hmark : isBlank separator = false)
    (hn : n < 100) (rest : List Char) :
    readPart? separator (separator :: (fixedDigits 10 2 n ++ rest)) = some (n, rest) := by
  rw [readPart?, skipBlanks_cons hmark]
  simp only [if_true, skipBlanks_fixedDigits (by decide : 0 < 2),
    readNat?_fixedDigits (by decide : 0 < 2) hn]

/-! ### Years -/

theorem readLong?_paddedDigits (width n : Nat) {rest : List Char}
    (hrest : spanDigits rest = ([], rest)) :
    readLong? (paddedDigits width n ++ rest) = some (n, rest) := by
  obtain ⟨ds, hds, hall, hvalue, -, hne⟩ := exists_paddedDigits width n
  rw [readLong?, hds, spanDigits_digits hall hrest]
  cases ds with
  | nil => exact absurd rfl hne
  | cons d more =>
      show some (ofDigits 10 (d :: more), rest) = some (n, rest)
      rw [hvalue]

/-- A year that begins with a digit has at most four of them. -/
theorem readYear?_fixedDigits {n : Nat} (hn : n < 10 ^ 4) (rest : List Char) :
    readYear? (fixedDigits 10 4 n ++ rest) = some ((n : Int), rest) := by
  have hsigns : ∀ d : Fin 10, Nat.digitChar d ≠ '-' ∧ Nat.digitChar d ≠ '+' := by decide
  have hread := readNat?_fixedDigits (by decide : 0 < 4) hn rest
  obtain ⟨d, more, hd, hdigits⟩ := exists_fixedDigits_eq_cons (by decide : 0 < 4) n
  rw [readYear?, skipBlanks_fixedDigits (by decide : 0 < 4)]
  rw [hdigits, List.cons_append] at hread ⊢
  split
  · next heq => exact absurd (List.cons.inj heq).1 (hsigns ⟨d, hd⟩).1
  · next heq => exact absurd (List.cons.inj heq).1 (hsigns ⟨d, hd⟩).2
  · rw [hread, Option.map_some]

theorem readYear?_showYear (year : Int) (rest : List Char) :
    readYear? (showYear year ++ '-' :: rest) = some (year, '-' :: rest) := by
  have hlong : readLong? (paddedDigits 4 year.natAbs ++ '-' :: rest) =
      some (year.natAbs, '-' :: rest) := readLong?_paddedDigits 4 year.natAbs rfl
  unfold showYear
  split
  · rw [readYear?_fixedDigits (by omega), Int.toNat_of_nonneg (by omega)]
  · split
    · rw [List.cons_append, readYear?, skipBlanks_cons (by decide)]
      simp only [hlong, Option.map_some]
      rw [show (-(year.natAbs : Int)) = year by omega]
    · rw [List.cons_append, readYear?, skipBlanks_cons (by decide)]
      simp only [hlong, Option.map_some]
      rw [show (year.natAbs : Int) = year by omega]

/-! ### The places after the second -/

theorem readFraction?_fixedDigits {width n : Nat} (hwidth : 0 < width) (hnine : width ≤ 9)
    (hn : n < 10 ^ width) :
    readFraction? ('.' :: fixedDigits 10 width n ++ ['Z']) = some (n * 10 ^ (9 - width), ['Z']) := by
  have hlength := length_lastDigits 10 width n
  have hspan : spanDigits (fixedDigits 10 width n ++ ['Z']) = (lastDigits 10 width n, ['Z']) :=
    spanDigits_digits (fun d hd => lt_of_mem_lastDigits (by decide) hd) rfl
  have hvalue : ofDigits 10 (lastDigits 10 width n ++ List.replicate (9 - width) 0) =
      n * 10 ^ (9 - width) := by
    rw [ofDigits_append_zeros fun d hd => List.eq_of_mem_replicate hd, List.length_replicate,
      ofDigits_lastDigits, Nat.mod_eq_of_lt hn]
  rw [List.cons_append, readFraction?, hspan]
  split
  · next heq =>
    rw [(Prod.mk.inj heq).1] at hlength
    exact absurd hlength (Nat.ne_of_lt hwidth)
  · next heq =>
    obtain ⟨rfl, rfl⟩ := Prod.mk.inj heq
    simp only
    rw [List.take_of_length_le (by omega), hlength, hvalue]

theorem readFraction?_showFraction {nanos : Nat} (h : nanos < 1000000000) :
    readFraction? (showFraction nanos ++ ['Z']) = some (nanos, ['Z']) := by
  unfold showFraction
  split
  · next hzero =>
    subst hzero
    rfl
  split
  · rw [readFraction?_fixedDigits (by decide) (by decide) (by omega)]
    rw [show nanos / 1000000 * 10 ^ (9 - 3) = nanos by omega]
  split
  · rw [readFraction?_fixedDigits (by decide) (by decide) (by omega)]
    rw [show nanos / 1000 * 10 ^ (9 - 6) = nanos by omega]
  · rw [readFraction?_fixedDigits (by decide) (by decide) (by omega)]
    rw [Nat.sub_self, Nat.pow_zero, Nat.mul_one]

/-! ### The whole -/

/-- An instant that a clock shows: a leap second comes only at the end of a minute. -/
structure OnClock (t : Instant) : Prop where
  nanos_lt : t.nanos < 2000000000
  leap : 1000000000 ≤ t.nanos → t.seconds % 60 = 59

/-- Whole milliseconds have no leap seconds among them. -/
theorem onClock_ofMillis (ms : Int) : (ofMillis ms).OnClock := by
  have hnanos : (ofMillis ms).nanos = (ms % 1000).toNat * 1000000 := rfl
  exact ⟨by omega, by omega⟩

/-- What a clock shows below the minute, sixty standing for the leap second. -/
theorem OnClock.exists_shown {t : Instant} (h : t.OnClock) :
    ∃ second nanos, second ≤ 60 ∧ nanos < 1000000000 ∧
      (if second = 60 then 59 else second) = (t.seconds % 86400).toNat % 60 ∧
      (if second = 60 then nanos + 1000000000 else nanos) = t.nanos ∧
      t.toChars = showYear t.date.year ++ '-' :: (fixedDigits 10 2 t.date.month ++
        '-' :: (fixedDigits 10 2 t.date.day ++ 'T' :: (fixedDigits 10 2 ((t.seconds % 86400).toNat / 3600) ++
          ':' :: (fixedDigits 10 2 ((t.seconds % 86400).toNat / 60 % 60) ++
            ':' :: (fixedDigits 10 2 second ++ (showFraction nanos ++ ['Z'])))))) := by
  obtain ⟨hnanos, hend⟩ := h
  by_cases hleap : 1000000000 ≤ t.nanos
  · have hsecond : (t.seconds % 86400).toNat % 60 + 1 = 60 := by
      have hlast := hend hleap
      omega
    refine ⟨60, t.nanos - 1000000000, Nat.le_refl 60, by omega, ?_, ?_, ?_⟩
    · rw [if_pos rfl]
      omega
    · rw [if_pos rfl, Nat.sub_add_cancel hleap]
    · simp only [toChars, if_pos hleap, hsecond, List.append_assoc, List.cons_append]
  · have hordinary : (t.seconds % 86400).toNat % 60 ≠ 60 := by omega
    refine ⟨(t.seconds % 86400).toNat % 60, t.nanos, by omega, by omega, if_neg hordinary,
      if_neg hordinary, ?_⟩
    simp only [toChars, if_neg hleap, Nat.add_zero, List.append_assoc, List.cons_append]

/-- A date that the calendar has, and its number. -/
theorem date_spec (t : Instant) :
    t.date.IsValid ∧ t.date.month < 100 ∧ t.date.day < 100 ∧ t.date.toDays = t.seconds / 86400 := by
  have hvalid : t.date.IsValid := Date.isValid_ofDays _
  have hbounds := hvalid
  obtain ⟨-, hmonth, -, hday⟩ := hbounds
  have hlong : Date.daysInMonth t.date.year t.date.month ≤ 31 := by
    unfold Date.daysInMonth
    split
    · split <;> omega
    · split <;> omega
  exact ⟨hvalid, by omega, by omega, Date.toDays_ofDays _⟩

/-- **An instant that a clock shows within the calendar is read back as it was.** -/
theorem ofText?_toText {t : Instant} (hreached : t.InCalendar) (hclock : t.OnClock) :
    ofText? t.toText = some t := by
  obtain ⟨hvalid, hmonth, hday, hdays⟩ := t.date_spec
  obtain ⟨second, nanos, hsecond, hnanos, hofMinute, hleap, hchars⟩ := hclock.exists_shown
  obtain ⟨ofDay, hofDay⟩ : ∃ ofDay, (t.seconds % 86400).toNat = ofDay := ⟨_, rfl⟩
  rw [hofDay] at hofMinute hchars
  have hlt : ofDay < 86400 := by omega
  have hmark : isBlank '-' = false := by decide
  have hcolon : isBlank ':' = false := by decide
  have hoffset : readOffset? (skipBlanks ['Z']) = some (0, []) := by decide
  have hconditions : t.date.IsValid ∧ firstYear ≤ t.date.year ∧ t.date.year ≤ lastYear ∧
      ofDay / 3600 ≤ 23 ∧ ofDay / 60 % 60 ≤ 59 ∧ second ≤ 60 ∧ (0 : Int).natAbs < 1440 ∧
        (skipBlanks []).isEmpty = true :=
    ⟨hvalid, hreached.1, hreached.2, by omega, by omega, hsecond, by decide, rfl⟩
  have hseconds : t.date.toDays * 86400 +
      ((ofDay / 3600 * 3600 + ofDay / 60 % 60 * 60 + ofDay % 60 : Nat) : Int) - 0 * 60 = t.seconds := by
    rw [hdays]
    omega
  rw [toText, ofText?, String.toList_ofList, hchars]
  simp only [ofChars?, readYear?_showYear, Option.bind_eq_bind, Option.bind_some,
    readPart?_fixedDigits hmark hmonth, readPart?_fixedDigits hmark hday,
    show isDateMark 'T' = true from rfl, if_true, skipBlanks_fixedDigits (by decide : 0 < 2),
    readNat?_fixedDigits (by decide : 0 < 2) (by omega : ofDay / 3600 < 10 ^ 2),
    readPart?_fixedDigits hcolon (by omega : ofDay / 60 % 60 < 100),
    readPart?_fixedDigits hcolon (by omega : second < 100), readFraction?_showFraction hnanos,
    hoffset]
  rw [if_pos hconditions]
  simp only [hofMinute, hleap, hseconds]
  rw [if_pos hreached]

end Cashbook.Instant
