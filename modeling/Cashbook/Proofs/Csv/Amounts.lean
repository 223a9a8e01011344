/-
What becomes of the amounts in a table.

An amount is text like every other cell, but what looks like a number is taken as one before
it is made a decimal: a whole number of so many bits, or a double.  So a row need not move
what it says.  It does as long as the amount is short; a whole number that is longer makes
the row unusable, and with a point and more digits the row may move a little more or less.
-/
import Cashbook.Proofs.Csv.Trimmed
import Cashbook.Proofs.Numeral.Reading

namespace Cashbook

open Numeral

namespace Numeral.Plain

variable {n : Plain}

/-- A whole number of sixty-four bits, or a number with a point and digits that a double tells apart. -/
def IsShort (n : Plain) : Prop :=
  if n.places = [] then -2 ^ 63 ≤ n.signed ∧ n.signed < 2 ^ 64 else n.significand < 2 ^ 52

instance (n : Plain) : Decidable n.IsShort := inferInstanceAs (Decidable (ite _ _ _))

/-- **A short numeral is read exactly.** -/
theorem exists_read_of_isShort (hfits : n.Fits) (hshort : n.IsShort) :
    ∃ amount, Csv.ofNumeral n.numeral = .ok amount ∧ amount.value = n.value := by
  rw [IsShort] at hshort
  by_cases hplaces : n.places = []
  · rw [if_pos hplaces] at hshort
    exact exists_read_whole hplaces hshort.1 hshort.2
  · rw [if_neg hplaces] at hshort
    exact exists_read hfits hplaces hshort

theorem toChars_ne_nil (n : Plain) : n.toChars ≠ [] := by
  intro hnil
  have hread := ofChars?_toChars n
  rw [hnil] at hread
  cases hread

end Numeral.Plain

namespace Csv

variable {n : Plain} {kind : OperationKind} {op user account currency cell : String} {rest : List String}

/-- A cell with a plain numeral is taken as a number. -/
theorem decimalOf_toText (n : Plain) : decimalOf n.toText = ofNumeral n.numeral := by
  have hread : ofChars? n.toText.toList = some n.numeral := by
    rw [Plain.toText, String.toList_ofList, Plain.ofChars?_toChars]
  have hword : ∀ word : String, ofChars? word.toList = none → n.toText ≠ word := by
    intro word hnone htext
    rw [htext, hnone] at hread
    cases hread
  rw [decimalOf, if_neg (hword "true" rfl), if_neg (hword "false" rfl), hread]

theorem optional_toText (n : Plain) : optional (some n.toText) = some n.toText := by
  have hempty : n.toText.isEmpty = false :=
    String.isEmpty_eq_false_iff.2 fun htext => n.toChars_ne_nil (String.ofList_eq_empty_iff.1 htext)
  rw [optional, Option.bind_some, hempty]
  rfl

/-! ### A row under the usual header -/

/-- The columns come in the usual order under their own names. -/
def Record.IsStandard (header : Record) : Prop :=
  columnNames header = some (Column.all.map Column.name)

instance (header : Record) : Decidable header.IsStandard := inferInstanceAs (Decidable (_ = _))

/-- The operation of a row with these cells, of which the amount has been read. -/
def operationOf (kind : OperationKind) (user account currency : String) (amount : Decimal)
    (rest : List String) : Operation :=
  ⟨kind, user, account, optional (some currency), some amount, optional rest.head?,
    optional rest.tail.head?⟩

theorem Column.ofName?_name (column : Column) : ofName? column.name = some column := by
  cases column <;> rfl

/-- A column that has not come before is read, and then the rest. -/
theorem readNamed_cons {d : Draft} {column : Column} {columns : List Column} {cells : List String}
    (hnew : d.has column = false) :
    readNamed d ((column :: columns).map Column.name) cells =
      (d.read column cells.head? >>= fun after => readNamed after (columns.map Column.name) cells.tail) := by
  rw [List.map_cons, readNamed.eq_def]
  simp only [Column.ofName?_name, hnew, Bool.false_eq_true, if_false]

theorem readNamed_of_read {d after : Draft} {column : Column} {columns : List Column} {cells : List String}
    (hnew : d.has column = false) (hread : d.read column cells.head? = .ok after) :
    readNamed d ((column :: columns).map Column.name) cells =
      readNamed after (columns.map Column.name) cells.tail := by
  rw [readNamed_cons hnew, hread]
  rfl

theorem Draft.read_amount (d : Draft) (n : Plain) : d.read .amount (some n.toText) =
    (ofNumeral n.numeral).map fun amount => { d with amount := some (some amount) } := by
  rw [Draft.read, optional_toText, ← decimalOf_toText]
  show ((decimalOf n.toText >>= fun amount => pure (some amount)).map _) = _
  cases decimalOf n.toText <;> rfl

/-- Whether such a row can be used depends on its amount alone. -/
theorem readNamed_standard (hkind : OperationKind.ofWord? op = some kind) :
    readNamed .blank (Column.all.map Column.name) (op :: user :: account :: currency :: n.toText :: rest) =
      (ofNumeral n.numeral).map fun amount => operationOf kind user account currency amount rest := by
  have hop : Draft.blank.read .op (some op) = .ok { Draft.blank with op := some kind } := by
    show (kindOf op >>= _) = _
    rw [kindOf, hkind]
    rfl
  let front : Draft := ⟨some kind, some user, some account, some (optional (some currency)), none, none, none⟩
  have hfront : readNamed .blank (Column.all.map Column.name)
      (op :: user :: account :: currency :: n.toText :: rest) =
        (front.read .amount (some n.toText) >>= fun after =>
          readNamed after ([Column.counterparty, .reference].map Column.name) rest) := by
    rw [Column.all, readNamed_of_read rfl hop, readNamed_of_read rfl rfl, readNamed_of_read rfl rfl,
      readNamed_of_read rfl rfl]
    exact readNamed_cons rfl
  rw [hfront, Draft.read_amount]
  cases ofNumeral n.numeral with
  | error _ => rfl
  | ok amount =>
      have hback : readNamed { front with amount := some (some amount) }
          ([Column.counterparty, .reference].map Column.name) rest =
            .ok (operationOf kind user account currency amount rest) := by
        rw [readNamed_of_read rfl rfl, readNamed_of_read rfl rfl]
        rfl
      exact hback

/-- What becomes of such a row in a table. -/
theorem getElem?_operations {bytes : List UInt8} {header row : Record} {rows : List Record} {i : Nat}
    (hfile : records bytes = header :: rows) (hheader : header.IsStandard) (hrow : rows[i]? = some row)
    (hcells : textCells 0 row.cells = .ok (op :: user :: account :: currency :: n.toText :: rest))
    (hkind : OperationKind.ofWord? op = some kind) :
    (operations bytes)[i]? = some (((ofNumeral n.numeral).map fun amount =>
      operationOf kind user account currency amount rest).mapError (.unusable row.position ·)) := by
  rw [operations, hfile]
  show (rows.map _)[i]? = _
  rw [List.getElem?_map, hrow, Option.map_some, readRow, hcells, hheader, ← readNamed_standard hkind]

/--
**What amounts are read as.**  In a table with the usual header, a row with a plain numeral for
its amount moves exactly that amount if the numeral is short.  If the numeral is longer and
whole, the row cannot be used.  If it has a point, what is moved is the amount up to one part
in `2 ^ 51`, but never the amount itself once there are more than seventeen significant digits.
-/
theorem amounts_as_written {bytes : List UInt8} {header row : Record} {rows : List Record} {i : Nat}
    (hfile : records bytes = header :: rows) (hheader : header.IsStandard) (hrow : rows[i]? = some row)
    (hcells : textCells 0 row.cells = .ok (op :: user :: account :: currency :: n.toText :: rest))
    (hkind : OperationKind.ofWord? op = some kind) (hfits : n.Fits) :
    (n.IsShort → ∃ amount, amount.value = n.value ∧
      (operations bytes)[i]? = some (.ok (operationOf kind user account currency amount rest))) ∧
    (n.places = [] → ¬n.IsShort →
      (operations bytes)[i]? = some (.error (.unusable row.position (.notDecimal (.wide n.signed))))) ∧
    (n.places ≠ [] → ∀ operation, (operations bytes)[i]? = some (.ok operation) →
      ∃ amount, operation = operationOf kind user account currency amount rest ∧
        2 ^ 51 * |amount.value - n.value| ≤ |n.value| ∧
          (10 ^ 17 ≤ n.significand → amount.value ≠ n.value)) := by
  rw [getElem?_operations hfile hheader hrow hcells hkind]
  refine ⟨fun hshort => ?_, fun hplaces hlong => ?_, fun hplaces operation hoperation => ?_⟩
  · obtain ⟨amount, hread, hvalue⟩ := Plain.exists_read_of_isShort hfits hshort
    exact ⟨amount, hvalue, by rw [hread]; rfl⟩
  · rw [Plain.IsShort, if_pos hplaces] at hlong
    rw [Plain.read_wide hfits hplaces hlong]
    rfl
  · obtain ⟨amount, hread, rfl⟩ := map_eq_ok_iff.1 (mapError_eq_ok_iff.1 (Option.some.inj hoperation))
    exact ⟨amount, rfl, Plain.dist_of_read hfits hplaces hread,
      fun hmany => Plain.value_ne_of_read hfits hplaces hmany hread⟩

/-! ### A short amount and a long one -/

namespace Sample

def cells (texts : List String) : List Cell := texts.map fun text => Text.Utf8.encode text.toList

/-- A table with one deposit. -/
def deposit (amount : String) : List UInt8 :=
  Text.Utf8.encode ("op,user,account,currency,amount,counterparty,reference\n".toList ++
    ("deposit,alice,main,EUR,".toList ++ (amount.toList ++ ",,".toList)))

def header : Record := ⟨⟨0, 1, 0⟩, cells (Column.all.map Column.name)⟩

def row (amount : String) : Record :=
  ⟨⟨1, 2, 55⟩, cells ["deposit", "alice", "main", "EUR", amount, "", ""]⟩

theorem header_isStandard : header.IsStandard := by decide +kernel

/-- Twelve and a half. -/
def short : Plain := ⟨.bare, [1, 2], [5], by decide, by decide, by decide⟩

/-- A hundred million million less a hundredth. -/
def long : Plain := ⟨.bare, List.replicate 14 9, [9, 9], by decide, by decide, by decide⟩

theorem short_fits : short.Fits := ⟨⟨125, 1, by decide, by decide⟩, by decide +kernel⟩

theorem long_fits : long.Fits := ⟨⟨9999999999999999, 2, by decide, by decide⟩, by decide +kernel⟩

end Sample

theorem amounts_as_written_sample : ∃ amount : Decimal, amount.value = 25 / 2 ∧
    (operations (Sample.deposit "12.5"))[0]? =
      some (.ok ⟨.deposit, "alice", "main", some "EUR", some amount, none, none⟩) := by
  have hfile : records (Sample.deposit "12.5") = [Sample.header, Sample.row "12.5"] := by decide +kernel
  have hcells : textCells 0 (Sample.row "12.5").cells =
      .ok ["deposit", "alice", "main", "EUR", Sample.short.toText, "", ""] := by decide +kernel
  have hkind : OperationKind.ofWord? "deposit" = some .deposit := by decide
  obtain ⟨hshort, -, -⟩ := amounts_as_written hfile Sample.header_isStandard
    (rfl : [Sample.row "12.5"][0]? = some (Sample.row "12.5")) hcells hkind Sample.short_fits
  obtain ⟨amount, hvalue, hread⟩ := hshort (by decide +kernel)
  exact ⟨amount, hvalue.trans (by decide +kernel), hread⟩

/-- With sixteen digits a deposit is already a hundredth short. -/
theorem amounts_not_always_as_written :
    ¬∀ (bytes : List UInt8) (header row : Record) (rows : List Record) (i : Nat) (n : Plain)
        (kind : OperationKind) (op user account currency : String) (rest : List String),
      records bytes = header :: rows → header.IsStandard → rows[i]? = some row →
      textCells 0 row.cells = .ok (op :: user :: account :: currency :: n.toText :: rest) →
      OperationKind.ofWord? op = some kind → n.Fits →
        ∃ operation amount, (operations bytes)[i]? = some (.ok operation) ∧
          operation.amount = some amount ∧ amount.value = n.value := by
  intro h
  have hfile : records (Sample.deposit "99999999999999.99") =
      [Sample.header, Sample.row "99999999999999.99"] := by decide +kernel
  have hcells : textCells 0 (Sample.row "99999999999999.99").cells =
      .ok ["deposit", "alice", "main", "EUR", Sample.long.toText, "", ""] := by decide +kernel
  obtain ⟨operation, amount, hoperation, hamount, hvalue⟩ := h _ _ _ _ 0 Sample.long .deposit _ _ _ _ _ hfile
    Sample.header_isStandard rfl hcells (by decide) Sample.long_fits
  have hread : (operations (Sample.deposit "99999999999999.99"))[0]? = some (.ok ⟨.deposit, "alice", "main",
      some "EUR", some ⟨9999999999999998, 2, by decide, by decide⟩, none, none⟩) := by decide +kernel
  cases hoperation.symm.trans hread
  cases hamount
  exact absurd hvalue (by decide +kernel)

end Csv

end Cashbook
