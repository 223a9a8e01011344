/-
Documents are read as they were written.

The writer leaves no gaps, and the reader would pass over them.  Of the two it is the reader
that has to know where something ends, so what is shown of a written part is that the reader
takes up just this part, whatever stands behind it (`Json.Reads`).  An object is read if its
members are, since a name, a colon and a member take more characters than they take steps.
-/
import Cashbook.Json.Reader
import Cashbook.Proofs.ReadBack

namespace Cashbook.Json

open Cashbook.Text

/-! ### Strings -/

/-- The unit that a written character is read as. -/
def unitOf (c : Char) : Unit16 :=
  if c.toNat < 0x20 ∧ c ∉ ['\x08', '\t', '\n', '\x0c', '\x0d'] then .escaped c.toNat else .plain c

/-- Four hexadecimal digits are read as the number that they write. -/
theorem hexCode?_fixedDigits {n : Nat} (h : n < 16 ^ 4) (rest : List Char) :
    hexCode? (fixedDigits 16 4 n ++ rest) = some (n, rest) := by
  have hdigits : lastDigits 16 4 n = [n / 16 / 16 / 16 % 16, n / 16 / 16 % 16, n / 16 % 16, n % 16] := rfl
  have hread : ∀ m, hexDigit? (Nat.digitChar (m % 16)) = some (m % 16) := fun m =>
    hexDigit?_digitChar (Nat.mod_lt m (by decide))
  have hvalue := ofDigits_lastDigits 16 4 n
  rw [Nat.mod_eq_of_lt h, hdigits] at hvalue
  rw [fixedDigits, hdigits]
  simp only [List.map_cons, List.map_nil, List.cons_append, List.nil_append, hexCode?, hread,
    Option.bind_eq_bind, Option.bind_some, hvalue]

variable {c letter : Char} {fuel : Nat} {rest : List Char}

/-- A letter behind a backslash. -/
theorem readUnits_letter (hletter : letter ≠ 'u') (hc : escapeLetter? letter = some c) :
    readUnits (fuel + 1) ('\\' :: letter :: rest) =
      (readUnits fuel rest).map fun (units, rest) => (.plain c :: units, rest) := by
  rw [readUnits]
  · rw [hc]
    cases readUnits fuel rest <;> rfl
  · exact hletter

/-- A character as it stands. -/
theorem readUnits_plain (hquote : c ≠ '"') (hescape : c ≠ '\\') (hcontrol : ¬c.toNat < 0x20) :
    readUnits (fuel + 1) (c :: rest) =
      (readUnits fuel rest).map fun (units, rest) => (.plain c :: units, rest) := by
  rw [readUnits]
  · rw [if_neg hcontrol]
    cases readUnits fuel rest <;> rfl
  · exact hquote
  · exact fun _ h _ => hescape h
  · exact fun _ _ h _ => hescape h
  · exact fun h _ => hescape h

/-- A character by its number. -/
theorem readUnits_code {n : Nat} (h : n < 16 ^ 4) :
    readUnits (fuel + 1) ('\\' :: 'u' :: (fixedDigits 16 4 n ++ rest)) =
      (readUnits fuel rest).map fun (units, rest) => (.escaped n :: units, rest) := by
  rw [readUnits, hexCode?_fixedDigits h]
  simp only [Option.bind_eq_bind, Option.bind_some]
  cases readUnits fuel rest <;> rfl

/-- A character is written by a letter, by its number, or as it stands. -/
theorem showChar_cases (c : Char) :
    (∃ letter, showChar c = ['\\', letter] ∧ letter ≠ 'u' ∧ escapeLetter? letter = some c ∧
      unitOf c = .plain c) ∨
    (showChar c = '\\' :: 'u' :: fixedDigits 16 4 c.toNat ∧ c.toNat < 0x20 ∧
      unitOf c = .escaped c.toNat) ∨
    (showChar c = [c] ∧ c ≠ '"' ∧ c ≠ '\\' ∧ ¬c.toNat < 0x20 ∧ unitOf c = .plain c) := by
  by_cases hletter : c ∈ ['"', '\\', '\x08', '\t', '\n', '\x0c', '\x0d']
  · simp only [List.mem_cons, List.not_mem_nil, or_false] at hletter
    refine Or.inl ?_
    rcases hletter with rfl | rfl | rfl | rfl | rfl | rfl | rfl
    · exact ⟨'"', rfl, by decide, rfl, rfl⟩
    · exact ⟨'\\', rfl, by decide, rfl, rfl⟩
    · exact ⟨'b', rfl, by decide, rfl, rfl⟩
    · exact ⟨'t', rfl, by decide, rfl, rfl⟩
    · exact ⟨'n', rfl, by decide, rfl, rfl⟩
    · exact ⟨'f', rfl, by decide, rfl, rfl⟩
    · exact ⟨'r', rfl, by decide, rfl, rfl⟩
  · simp only [List.mem_cons, List.not_mem_nil, or_false, not_or] at hletter
    obtain ⟨hquote, hescape, hb, ht, hn, hf, hr⟩ := hletter
    have hshow : showChar c = if c.toNat < 0x20 then showControl c else [c] := by
      rw [showChar, if_neg (not_or.2 ⟨hquote, hescape⟩), if_neg hb, if_neg ht, if_neg hn, if_neg hf,
        if_neg hr]
    refine Or.inr ?_
    by_cases hcontrol : c.toNat < 0x20
    · refine Or.inl ⟨hshow.trans (if_pos hcontrol), hcontrol, if_pos ⟨hcontrol, ?_⟩⟩
      simp [hb, ht, hn, hf, hr]
    · exact Or.inr ⟨hshow.trans (if_neg hcontrol), hquote, hescape, hcontrol,
        if_neg fun h => hcontrol h.1⟩

/-- A written character is read as one unit. -/
theorem readUnits_showChar (c : Char) (fuel : Nat) (rest : List Char) :
    readUnits (fuel + 1) (showChar c ++ rest) =
      (readUnits fuel rest).map fun (units, rest) => (unitOf c :: units, rest) := by
  rcases showChar_cases c with ⟨letter, hshow, hletter, hc, hunit⟩ | ⟨hshow, hcontrol, hunit⟩ |
    ⟨hshow, hquote, hescape, hcontrol, hunit⟩
  · rw [hshow, hunit]
    exact readUnits_letter hletter hc
  · rw [hshow, hunit]
    exact readUnits_code (Nat.lt_trans hcontrol (by decide))
  · rw [hshow, hunit]
    exact readUnits_plain hquote hescape hcontrol

theorem readUnits_flatMap (chars : List Char) {fuel : Nat} (hfuel : chars.length < fuel)
    (rest : List Char) :
    readUnits fuel (chars.flatMap showChar ++ '"' :: rest) = some (chars.map unitOf, rest) := by
  induction chars generalizing fuel with
  | nil =>
      obtain ⟨fuel, rfl⟩ := Nat.exists_eq_succ_of_ne_zero (Nat.ne_of_gt hfuel)
      rfl
  | cons c more ih =>
      obtain ⟨fuel, rfl⟩ := Nat.exists_eq_succ_of_ne_zero (Nat.ne_of_gt (Nat.zero_lt_of_lt hfuel))
      rw [List.flatMap_cons, List.append_assoc, readUnits_showChar, ih (Nat.lt_of_succ_lt_succ hfuel)]
      rfl

/-- A unit that is not half of a pair stands for its character. -/
theorem joinUnits_escaped {code : Nat} (h : code < 0xD800) (units : List Unit16) :
    joinUnits (.escaped code :: units) = (joinUnits units).map (Char.ofNat code :: ·) := by
  have hhigh : isHighHalf code = false := by
    rw [isHighHalf, Bool.and_eq_false_iff]
    exact .inl (decide_eq_false (Nat.not_le_of_lt h))
  have hlow : isLowHalf code = false := by
    rw [isLowHalf, Bool.and_eq_false_iff]
    exact .inl (decide_eq_false (Nat.not_le_of_lt (Nat.lt_trans h (by decide))))
  cases units with
  | nil => simp [joinUnits, hhigh, hlow]
  | cons unit more =>
      cases unit with
      | plain c => simp [joinUnits, hhigh, hlow]
      | escaped low => simp [joinUnits, hhigh, hlow]

theorem joinUnits_map_unitOf (chars : List Char) : joinUnits (chars.map unitOf) = some chars := by
  induction chars with
  | nil => rfl
  | cons c more ih =>
      rw [List.map_cons, unitOf]
      split
      · next h =>
        rw [joinUnits_escaped (Nat.lt_trans h.1 (by decide)), ih, Option.map_some, Char.ofNat_toNat]
      · rw [joinUnits, ih, Option.map_some]

/-- A character is written with at least one. -/
theorem length_le_flatMap_showChar (chars : List Char) :
    chars.length ≤ (chars.flatMap showChar).length := by
  induction chars with
  | nil => exact Nat.le_refl 0
  | cons c more ih =>
      have hone : 1 ≤ (showChar c).length := by
        rcases showChar_cases c with ⟨letter, hshow, -⟩ | ⟨hshow, -⟩ | ⟨hshow, -⟩
        all_goals
          rw [hshow]
          exact Nat.le_add_left 1 _
      rw [List.flatMap_cons, List.length_append, List.length_cons]
      omega

/-- **A text is read back as it was**, whatever its characters. -/
theorem readString?_flatMap (text : String) {fuel : Nat} (hfuel : text.toList.length < fuel)
    (rest : List Char) :
    readString? fuel (text.toList.flatMap showChar ++ '"' :: rest) = some (some text, rest) := by
  have hjoined : (joinUnits (text.toList.map unitOf)).map String.ofList = some text := by
    rw [joinUnits_map_unitOf, Option.map_some, String.ofList_toList]
  rw [readString?, readUnits_flatMap text.toList hfuel, Option.map_some, ← hjoined]

theorem showText_append (text : String) (rest : List Char) :
    showText text ++ rest = '"' :: (text.toList.flatMap showChar ++ '"' :: rest) := by
  rw [showText, List.cons_append, List.cons_append, List.append_assoc]
  rfl

/-! ### Parts of a document -/

/-- What begins with no gap has none to skip. -/
theorem skipGaps_cons {c : Char} (h : isGap c = false) (rest : List Char) :
    skipGaps (c :: rest) = c :: rest :=
  List.dropWhile_cons_of_neg (by rw [h]; exact Bool.false_ne_true)

/-- The characters are read as the document, whatever stands behind them. -/
def Reads (chars : List Char) (value : Json) : Prop :=
  ∀ fuel rest, chars.length ≤ fuel → readValue fuel (chars ++ rest) = some (value, rest)

theorem reads_showText (text : String) : Reads (showText text) (.text (some text)) := by
  intro fuel rest hfuel
  obtain ⟨fuel, rfl⟩ := Nat.exists_eq_succ_of_ne_zero (Nat.ne_of_gt (Nat.zero_lt_of_lt hfuel))
  have hchars := length_le_flatMap_showChar text.toList
  have hroom : text.toList.length < (text.toList.flatMap showChar ++ '"' :: rest).length + 1 := by
    rw [List.length_append]
    omega
  rw [showText_append, readValue]
  simp only [skipGaps_cons (by decide : isGap '"' = false), readString?_flatMap text hroom,
    Option.map_some]

theorem reads_showBool (value : Bool) : Reads (showBool value) (.bool value) := by
  intro fuel rest hfuel
  obtain ⟨fuel, rfl⟩ : ∃ less, fuel = less + 1 := by
    cases value <;> exact Nat.exists_eq_succ_of_ne_zero (Nat.ne_of_gt (Nat.zero_lt_of_lt hfuel))
  cases value with
  | false =>
      have hskip := skipGaps_cons (by decide : isGap 'f' = false) ('a' :: 'l' :: 's' :: 'e' :: rest)
      rw [readValue]
      simp only [showBool, Bool.false_eq_true, if_false, List.cons_append, List.nil_append, hskip]
  | true =>
      have hskip := skipGaps_cons (by decide : isGap 't' = false) ('r' :: 'u' :: 'e' :: rest)
      rw [readValue]
      simp only [showBool, if_true, List.cons_append, List.nil_append, hskip]

/-- A written member of an object, and what it is read as. -/
structure Member where
  name : String
  chars : List Char
  value : Json
  reads : Reads chars value

namespace Member

/-- The member as it is written. -/
def written (m : Member) : List Char :=
  showText m.name ++ ':' :: m.chars

/-- The member as it is read. -/
def read (m : Member) : Option String × Json :=
  (some m.name, m.value)

end Member

/-- A member is taken up, and what follows it says how the object goes on. -/
theorem readMembers_written (m : Member) {fuel : Nat} (hfuel : m.written.length ≤ fuel + 1)
    {rest after : List Char} {members : List (Option String × Json)}
    (hrest : rest = '\x7d' :: after ∧ members = [] ∨
      ∃ more, rest = ',' :: more ∧ readMembers fuel more = some (members, after)) :
    readMembers (fuel + 1) (m.written ++ rest) = some (m.read :: members, after) := by
  have hlength : m.written.length = (showText m.name).length + (m.chars.length + 1) :=
    List.length_append
  have hvalue : m.chars.length ≤ fuel := by omega
  have hchars : m.written ++ rest =
      '"' :: (m.name.toList.flatMap showChar ++ '"' :: ':' :: (m.chars ++ rest)) := by
    rw [Member.written, List.append_assoc, List.cons_append, showText_append]
  have hroom : m.name.toList.length <
      (m.name.toList.flatMap showChar ++ '"' :: ':' :: (m.chars ++ rest)).length + 1 := by
    have hname := length_le_flatMap_showChar m.name.toList
    rw [List.length_append]
    omega
  rw [hchars, readMembers]
  simp only [skipGaps_cons (by decide : isGap '"' = false), skipGaps_cons (by decide : isGap ':' = false),
    readString?_flatMap m.name hroom, m.reads fuel rest hvalue, Option.bind_eq_bind, Option.bind_some]
  rcases hrest with ⟨rfl, rfl⟩ | ⟨more, rfl, hmore⟩
  · rw [skipGaps_cons (by decide)]
    rfl
  · rw [skipGaps_cons (by decide)]
    simp only [hmore, Option.bind_some]
    rfl

/-- The members of an object are read up to its closing brace. -/
theorem readMembers_joined (m : Member) (more : List Member) {fuel : Nat}
    (hfuel : (joined ((m :: more).map Member.written)).length ≤ fuel) (rest : List Char) :
    readMembers fuel (joined ((m :: more).map Member.written) ++ '\x7d' :: rest) =
      some ((m :: more).map Member.read, rest) := by
  induction more generalizing m fuel with
  | nil =>
      obtain ⟨fuel, rfl⟩ := Nat.exists_eq_succ_of_ne_zero (Nat.ne_of_gt (Nat.zero_lt_of_lt hfuel))
      exact readMembers_written m hfuel (.inl ⟨rfl, rfl⟩)
  | cons next more ih =>
      have hjoined : joined ((m :: next :: more).map Member.written) =
          m.written ++ ',' :: joined ((next :: more).map Member.written) := rfl
      rw [hjoined, List.length_append, List.length_cons] at hfuel
      obtain ⟨fuel, rfl⟩ := Nat.exists_eq_succ_of_ne_zero (show fuel ≠ 0 by omega)
      rw [hjoined, List.append_assoc]
      exact readMembers_written m (by omega) (.inr ⟨_, rfl, ih next (by omega)⟩)

theorem joined_written_eq_cons (m : Member) (more : List Member) :
    ∃ tail, joined ((m :: more).map Member.written) = '"' :: tail := by
  cases more with
  | nil => exact ⟨_, rfl⟩
  | cons next more => exact ⟨_, rfl⟩

/-- **An object is read if its members are.** -/
theorem reads_showObject (members : List Member) :
    Reads (showObject (members.map fun m => (m.name, m.chars))) (.object (members.map Member.read)) := by
  intro fuel rest hfuel
  have hchars : showObject (members.map fun m => (m.name, m.chars)) ++ rest =
      '\x7b' :: (joined (members.map Member.written) ++ '\x7d' :: rest) := by
    rw [showObject, List.map_map, List.cons_append, List.cons_append, List.append_assoc]
    rfl
  have hlength : (showObject (members.map fun m => (m.name, m.chars))).length =
      (joined (members.map Member.written)).length + 2 := by
    have hsame := congrArg List.length hchars
    simp only [List.length_append, List.length_cons] at hsame
    omega
  obtain ⟨fuel, rfl⟩ := Nat.exists_eq_succ_of_ne_zero (show fuel ≠ 0 by omega)
  rw [hchars, readValue]
  simp only [skipGaps_cons (by decide : isGap '\x7b' = false)]
  cases members with
  | nil =>
      have hskip := skipGaps_cons (by decide : isGap '\x7d' = false) rest
      simp only [List.map_nil, joined, List.nil_append, hskip]
  | cons m more =>
      -- An object with members goes on with the quote of a name, not with its brace.
      have hmembers := readMembers_joined m more (show _ ≤ fuel by omega) rest
      obtain ⟨tail, htail⟩ := joined_written_eq_cons m more
      rw [htail, List.cons_append] at hmembers ⊢
      rw [skipGaps_cons (by decide)]
      exact congrArg (Option.map fun object => (Json.object object.1, object.2)) hmembers

/-- What is read as a part is read as the whole. -/
theorem read?_of_reads {chars : List Char} {value : Json} (h : Reads chars value) :
    read? chars = some value := by
  have hread := h (2 * chars.length + 2) [] (by omega)
  rw [List.append_nil] at hread
  rw [read?, hread]
  rfl

end Cashbook.Json
