/-
What a report says.

A table that is read back has the rows and the cells that were written: between quotes a cell is
read to its end whatever is in it, and without them there is nothing in it to divide it.  With the
order of the rows this says of a report that it is what its rows are, and nothing else.
-/
import Mathlib.Data.List.Forall2
import Cashbook.Csv.Records
import Cashbook.Proofs.Csv.Report
import Cashbook.Proofs.Decimal.Normal
import Cashbook.Proofs.Text.Utf8

namespace Cashbook.Csv

open Text

variable {place next : Place} {cells : List Cell} {cell : Cell} {b : UInt8} {bytes rest : List UInt8}

/-! ### Rows without their positions -/

/-- The rows that reading on comes to, without where they begin. -/
def rowsFrom (place : Place) (cells : List Cell) (cell : Cell) (bytes : List UInt8) : List (List Cell) :=
  (scan ⟨0, 1, 0⟩ ⟨0, 1, 0⟩ place cells cell bytes).map Record.cells

/-- Where reading begins makes no difference to the rows. -/
theorem map_cells_scan (start here start' here' : Position) :
    (scan start here place cells cell bytes).map Record.cells =
      (scan start' here' place cells cell bytes).map Record.cells := by
  induction bytes generalizing start here start' here' place cells cell with
  | nil => cases place <;> rfl
  | cons b rest ih =>
      rcases hstep : place.step b with ⟨effect, next⟩
      unfold scan
      rw [hstep]
      cases effect with
      | skip | keep | endCell => exact ih _ _ _ _
      | endRow => exact congrArg (_ :: ·) (ih _ _ _ _)

theorem map_cells_records (h : bytes.take 3 ≠ byteOrderMark) :
    (records bytes).map Record.cells = rowsFrom .rowStart [] [] bytes := by
  rw [records, if_neg h, rowsFrom]

theorem rowsFrom_skip (h : place.step b = (.skip, next)) :
    rowsFrom place cells cell (b :: rest) = rowsFrom next cells cell rest := by
  rw [rowsFrom, scan, h]
  exact map_cells_scan _ _ _ _

theorem rowsFrom_keep (h : place.step b = (.keep, next)) :
    rowsFrom place cells cell (b :: rest) = rowsFrom next cells (b :: cell) rest := by
  rw [rowsFrom, scan, h]
  exact map_cells_scan _ _ _ _

theorem rowsFrom_endCell (h : place.step b = (.endCell, next)) :
    rowsFrom place cells cell (b :: rest) = rowsFrom next (cell.reverse :: cells) [] rest := by
  rw [rowsFrom, scan, h]
  exact map_cells_scan _ _ _ _

theorem rowsFrom_endRow (h : place.step b = (.endRow, next)) :
    rowsFrom place cells cell (b :: rest) = (cell.reverse :: cells).reverse :: rowsFrom next [] [] rest := by
  rw [rowsFrom, scan, h]
  exact congrArg (_ :: ·) (map_cells_scan _ _ _ _)

theorem rowsFrom_keep_append (h : ∀ b ∈ bytes, place.step b = (.keep, place)) :
    rowsFrom place cells cell (bytes ++ rest) = rowsFrom place cells (bytes.reverse ++ cell) rest := by
  induction bytes generalizing cell with
  | nil => rfl
  | cons b bytes ih =>
      rw [List.cons_append, rowsFrom_keep (h b List.mem_cons_self),
        ih fun x hx => h x (List.mem_cons_of_mem _ hx), List.reverse_cons, List.append_assoc]
      rfl

/-! ### A cell -/

theorem step_inQuotes (h : b ≠ quote) : Place.inQuotes.step b = (.keep, .inQuotes) := if_neg h

/-- Between quotes the text is read as it was before its quotes were doubled. -/
theorem rowsFrom_inQuotes (chars : List Char) :
    rowsFrom .inQuotes cells cell
        (Utf8.encode (chars.flatMap fun c => if c = '"' then ['"', '"'] else [c]) ++ rest) =
      rowsFrom .inQuotes cells ((Utf8.encode chars).reverse ++ cell) rest := by
  induction chars generalizing cell with
  | nil => rfl
  | cons c chars ih =>
      rw [List.flatMap_cons, Utf8.encode_append, List.append_assoc, Utf8.encode_cons c, List.reverse_append,
        List.append_assoc]
      by_cases hquote : c = '"'
      · subst hquote
        exact (rowsFrom_skip rfl).trans ((rowsFrom_keep rfl).trans ih)
      · rw [if_neg hquote, Utf8.encode_singleton, rowsFrom_keep_append, ih]
        intro b hb
        refine step_inQuotes ?_
        rintro rfl
        exact hquote (Char.toNat_inj.1 (Utf8.toNat_eq_of_mem_utf8EncodeChar hb (by decide)))

/-- A byte that does nothing but stand in a cell. -/
def IsPlain (b : UInt8) : Prop := b ≠ quote ∧ b ≠ comma ∧ b ≠ lineFeed ∧ b ≠ carriageReturn

theorem isPlain_of_mem_encode {chars : List Char} (h : ¬chars.any divides) (hb : b ∈ Utf8.encode chars) :
    IsPlain b := by
  have hnot : ∀ c, divides c → c ∉ chars := fun c hc hmem => h (List.any_eq_true.2 ⟨c, hmem, hc⟩)
  refine ⟨?_, ?_, ?_, ?_⟩ <;> rintro rfl
  · exact hnot '"' (by decide) (Utf8.mem_of_mem_encode (by decide) hb)
  · exact hnot ',' (by decide) (Utf8.mem_of_mem_encode (by decide) hb)
  · exact hnot '\n' (by decide) (Utf8.mem_of_mem_encode (by decide) hb)
  · exact hnot '\x0d' (by decide) (Utf8.mem_of_mem_encode (by decide) hb)

theorem IsPlain.plain_eq (h : IsPlain b) : Place.plain b = (.keep, .inCell) := by
  rw [Place.plain, if_neg h.2.1, if_neg h.2.2.1, if_neg h.2.2.2]

theorem IsPlain.first_eq (h : IsPlain b) : Place.first b = (.keep, .inCell) := by
  rw [Place.first, if_neg h.1, h.plain_eq]

/-- The reader is before a cell, the first of its row or another. -/
def Place.IsBefore (place : Place) : Prop := place = .rowStart ∨ place = .cellStart

theorem Place.IsBefore.step_of_isPlain (h : place.IsBefore) (hb : IsPlain b) :
    place.step b = (.keep, .inCell) := by
  rcases h with rfl | rfl
  · exact (if_neg (not_or.2 hb.2.2)).trans hb.first_eq
  · exact hb.first_eq

/--
A cell is read as its text, and what ends it may follow.  (Of an empty cell nothing is seen: a line
feed ends a row with it only if other cells were read before.)
-/
theorem exists_rowsFrom_showCell (h : place.IsBefore) (text : String) :
    ∃ behind : Place, behind.step comma = (.endCell, .cellStart) ∧
      (place = .cellStart → behind.step lineFeed = (.endRow, .rowStart)) ∧
      ∀ cells rest, rowsFrom place cells [] (Utf8.encode (showCell text) ++ rest) =
        rowsFrom behind cells (Utf8.encode text.toList).reverse rest := by
  rw [showCell]
  split
  · have hopen : place.step quote = (.skip, .inQuotes) := by rcases h with rfl | rfl <;> rfl
    refine ⟨.atQuote, rfl, fun _ => rfl, fun cells rest => ?_⟩
    rw [List.cons_append, Utf8.encode_cons, Utf8.encode_append, List.append_assoc, List.append_assoc]
    refine (rowsFrom_skip hopen).trans ((rowsFrom_inQuotes _).trans ?_)
    rw [List.append_nil]
    exact rowsFrom_skip rfl
  next hplain =>
    have hplain : ∀ b ∈ Utf8.encode text.toList, IsPlain b := fun b hb => isPlain_of_mem_encode hplain hb
    cases hbytes : Utf8.encode text.toList with
    | nil =>
        refine ⟨place, ?_, ?_, fun _ _ => rfl⟩
        · rcases h with rfl | rfl <;> rfl
        · rintro rfl
          rfl
    | cons b bytes =>
        rw [hbytes] at hplain
        refine ⟨.inCell, rfl, fun _ => rfl, fun cells rest => ?_⟩
        rw [List.cons_append, rowsFrom_keep (h.step_of_isPlain (hplain b List.mem_cons_self)),
          rowsFrom_keep_append, List.reverse_cons]
        exact fun x hx => (hplain x (List.mem_cons_of_mem _ hx)).plain_eq

/-! ### A table -/

/-- The cells of a row as they stand in the file. -/
def written (texts : List String) : List Cell := texts.map fun text => Utf8.encode text.toList

theorem showRow_singleton (text : String) : showRow [text] = showCell text ++ ['\n'] := by
  simp [showRow, List.intercalate]

theorem showRow_cons_cons (text next : String) (texts : List String) :
    showRow (text :: next :: texts) = showCell text ++ ',' :: showRow (next :: texts) := by
  simp [showRow, List.intercalate]

theorem rowsFrom_showCell_comma (h : place.IsBefore) (text : String) (chars : List Char) :
    rowsFrom place cells [] (Utf8.encode (showCell text ++ ',' :: chars) ++ rest) =
      rowsFrom .cellStart (Utf8.encode text.toList :: cells) [] (Utf8.encode chars ++ rest) := by
  obtain ⟨behind, hcomma, -, hread⟩ := exists_rowsFrom_showCell h text
  rw [Utf8.encode_append, List.append_assoc, hread]
  refine (rowsFrom_endCell hcomma).trans ?_
  rw [List.reverse_reverse]
  rfl

/-- A row is read to its end if it has begun. -/
theorem rowsFrom_cellStart (text : String) (texts : List String) :
    rowsFrom .cellStart cells [] (Utf8.encode (showRow (text :: texts)) ++ rest) =
      (cells.reverse ++ written (text :: texts)) :: rowsFrom .rowStart [] [] rest := by
  induction texts generalizing text cells with
  | nil =>
      obtain ⟨behind, -, hend, hread⟩ := exists_rowsFrom_showCell (Or.inr rfl) text
      rw [showRow_singleton, Utf8.encode_append, List.append_assoc, hread]
      refine (rowsFrom_endRow (hend rfl)).trans ?_
      rw [List.reverse_reverse, List.reverse_cons]
      rfl
  | cons next texts ih =>
      rw [showRow_cons_cons, rowsFrom_showCell_comma (Or.inr rfl), ih, List.reverse_cons, List.append_assoc]
      rfl

/-- A row of two cells or more is read as it was written; a row of one empty cell would be no row. -/
theorem rowsFrom_rowStart (text next : String) (texts : List String) :
    rowsFrom .rowStart [] [] (Utf8.encode (showRow (text :: next :: texts)) ++ rest) =
      written (text :: next :: texts) :: rowsFrom .rowStart [] [] rest := by
  rw [showRow_cons_cons, rowsFrom_showCell_comma (Or.inl rfl), rowsFrom_cellStart]
  rfl

/-- **A table is read back row by row and cell by cell as it was written.** -/
theorem rowsFrom_flatMap_showRow {table : List (List String)} (h : ∀ row ∈ table, 2 ≤ row.length) :
    rowsFrom .rowStart [] [] (Utf8.encode (table.flatMap showRow)) = table.map written := by
  induction table with
  | nil => rfl
  | cons row table ih =>
      rw [List.flatMap_cons, Utf8.encode_append, List.map_cons,
        ← ih fun r hr => h r (List.mem_cons_of_mem _ hr)]
      match row, h row List.mem_cons_self with
      | text :: next :: texts, _ => exact rowsFrom_rowStart text next texts

example : showRow ["alice", "", "rainy, \"grey\" days"] = "alice,,\"rainy, \"\"grey\"\" days\"\n".toList := by
  decide +kernel

/-! ### A report -/

/-- The report as it is sent. -/
def reportBytes (rows : List BalanceRow) : List UInt8 := Utf8.encode (report rows).toList

theorem take_reportBytes (rows : List BalanceRow) : (reportBytes rows).take 3 ≠ byteOrderMark := by
  rw [reportBytes, report_eq, String.toList_ofList, Utf8.encode_append]
  exact fun h => absurd (List.cons.inj h).1 (by decide)

/-- A report has the names of its columns and then its rows in order. -/
theorem map_cells_records_reportBytes (rows : List BalanceRow) :
    (records (reportBytes rows)).map Record.cells =
      written reportColumns :: (BalanceRow.sorted rows).map fun r => written r.values := by
  rw [map_cells_records (take_reportBytes rows), reportBytes, report_eq, String.toList_ofList]
  have htable : ∀ texts ∈ reportColumns :: (BalanceRow.sorted rows).map BalanceRow.values,
      2 ≤ texts.length := by
    intro texts hmem
    rcases List.mem_cons.1 hmem with rfl | hmem
    · decide
    · obtain ⟨r, -, rfl⟩ := List.mem_map.1 hmem
      exact Nat.le_of_ble_eq_true rfl
  have hread := rowsFrom_flatMap_showRow htable
  rwa [List.flatMap_cons, List.flatMap_map, List.map_cons, List.map_map] at hread

/-- The text is a numeral of the number, and there is no zero at the end of its places. -/
def IsShortTextOf (text : String) (d : Decimal) : Prop :=
  (∃ read, Decimal.parse? text = some read ∧ read.value = d.value) ∧
    ('.' ∈ text.toList → text.toList.getLast? ≠ some '0')

theorem isShortTextOf_normalize (d : Decimal) : IsShortTextOf d.normalize.toText d :=
  ⟨⟨d.normalize, d.normalize.parse?_toText, d.value_normalize⟩,
    fun hpoint => d.isNormal_normalize.getLast?_toText_ne hpoint⟩

namespace BalanceRow

/-- The bytes of the user are less, or they are the same and those of the account are not greater. -/
def BytewiseLE (a b : BalanceRow) : Prop :=
  Utf8.encode a.user.toList < Utf8.encode b.user.toList ∨
    a.user = b.user ∧ Utf8.encode a.account.toList ≤ Utf8.encode b.account.toList

theorem Precedes.bytewiseLE {a b : BalanceRow} (h : a.Precedes b) : a.BytewiseLE b := by
  rcases h with huser | ⟨huser, haccount⟩
  · exact Or.inl (Utf8.encode_lt_encode (String.lt_iff.1 huser))
  · refine Or.inr ⟨huser, List.not_lt.1 fun hlt => haccount ?_⟩
    exact String.lt_iff.2 (Utf8.encode_lt_encode_iff.1 hlt)

/-- The cells are those of the row: its own user, account and currency, and its balance in short. -/
def IsLine (row : BalanceRow) (line : List Cell) : Prop :=
  ∃ text, IsShortTextOf text row.balance ∧
    line = written [row.user, row.account, row.currency.code, text]

theorem isLine_written_values (row : BalanceRow) : row.IsLine (written row.values) :=
  ⟨row.balance.normalize.toText, isShortTextOf_normalize row.balance, rfl⟩

end BalanceRow

/--
**A report depends on its contents only.**

  * Read back it has the names of its columns, even if nothing else, and then one line for each row,
    in the order of the bytes of user and account.  Each line has the user, the account and the
    currency of its row and a numeral of its balance without zeros at the end.
  * The same rows in another order, no two of the same account, come to the same bytes.
-/
theorem report_by_contents (rows : List BalanceRow) :
    (∃ (order : List BalanceRow) (lines : List (List Cell)),
      order.Perm rows ∧ order.Pairwise BalanceRow.BytewiseLE ∧
      List.Forall₂ BalanceRow.IsLine order lines ∧
      (records (reportBytes rows)).map Record.cells = written reportColumns :: lines) ∧
    ∀ others : List BalanceRow, rows.Perm others → rows.Pairwise BalanceRow.Differ →
      reportBytes rows = reportBytes others := by
  refine ⟨⟨BalanceRow.sorted rows, _, BalanceRow.sorted_perm rows, ?_, ?_,
    map_cells_records_reportBytes rows⟩, fun others hperm hdiffer => ?_⟩
  · exact (BalanceRow.pairwise_sorted rows).imp BalanceRow.Precedes.bytewiseLE
  · exact List.forall₂_map_right_iff.2 (List.forall₂_same.2 fun r _ => r.isLine_written_values)
  · rw [reportBytes, report_eq_of_perm hperm hdiffer, reportBytes]

/-- Of two users three balances, one of them of an account whose name needs quotes. -/
theorem report_by_contents_sample :
    let rows : List BalanceRow :=
      [⟨"bob", "main", .usd, ⟨3000, 2, by decide, by decide⟩⟩,
       ⟨"alice", "rainy, \"grey\" days", .eur, .zero⟩,
       ⟨"alice", "main", .usd, ⟨-7050, 2, by decide, by decide⟩⟩]
    (records (reportBytes rows)).length = 4 ∧ reportBytes rows = reportBytes rows.reverse := by
  intro rows
  obtain ⟨⟨order, lines, hperm, -, hlines, hread⟩, hsame⟩ := report_by_contents rows
  refine ⟨?_, hsame _ (List.reverse_perm _).symm (by simp [rows, BalanceRow.Differ])⟩
  have hlength := congrArg List.length hread
  rwa [List.length_map, List.length_cons, ← hlines.length_eq, hperm.length_eq] at hlength

end Cashbook.Csv
