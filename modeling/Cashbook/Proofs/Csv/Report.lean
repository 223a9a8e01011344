/-
What is written of a report, and in which order.

However many rows there are, the names of the columns are written once and first.  Rows are put
in order by user and account before they are written, so how they came does not show where no
two are of the same account.
-/
import Mathlib.Data.List.Pairwise
import Cashbook.Csv.Report

namespace Cashbook.Csv

namespace BalanceRow

variable {a b c : BalanceRow} {rows others : List BalanceRow}

/-- The rows are of different accounts. -/
def Differ (a b : BalanceRow) : Prop := a.user ≠ b.user ∨ a.account ≠ b.account

theorem Precedes.trans (h : a.Precedes b) (h' : b.Precedes c) : a.Precedes c := by
  rcases h with huser | ⟨huser, haccount⟩
  · rcases h' with huser' | ⟨huser', -⟩
    · exact Or.inl (String.lt_trans huser huser')
    · exact Or.inl (huser' ▸ huser)
  · rcases h' with huser' | ⟨huser', haccount'⟩
    · exact Or.inl (huser ▸ huser')
    · refine Or.inr ⟨huser.trans huser', ?_⟩
      exact String.not_lt.2 (String.le_trans (String.not_lt.1 haccount) (String.not_lt.1 haccount'))

theorem Precedes.total (a b : BalanceRow) : a.Precedes b ∨ b.Precedes a := by
  by_cases hlt : a.user < b.user
  · exact Or.inl (Or.inl hlt)
  by_cases hgt : b.user < a.user
  · exact Or.inr (Or.inl hgt)
  have huser : a.user = b.user := String.le_antisymm (String.not_lt.1 hgt) (String.not_lt.1 hlt)
  by_cases haccount : b.account < a.account
  · exact Or.inr (Or.inr ⟨huser.symm, String.lt_asymm haccount⟩)
  · exact Or.inl (Or.inr ⟨huser, haccount⟩)

/-- Rows that precede each other are of the same account. -/
theorem Precedes.not_differ (h : a.Precedes b) (h' : b.Precedes a) : ¬a.Differ b := by
  have huser : a.user = b.user := by
    rcases h with hlt | ⟨heq, -⟩
    · rcases h' with hgt | ⟨heq, -⟩
      · exact absurd hgt (String.lt_asymm hlt)
      · exact heq.symm
    · exact heq
  have hirrefl : ∀ {x y : String}, x = y → ¬x < y := fun heq hlt => String.lt_irrefl _ (heq ▸ hlt)
  have haccount : a.account = b.account := by
    have hle := (h.resolve_left (hirrefl huser)).2
    have hge := (h'.resolve_left (hirrefl huser.symm)).2
    exact String.le_antisymm (String.not_lt.1 hle) (String.not_lt.1 hge)
  exact fun hdiffer => hdiffer.elim (· huser) (· haccount)

theorem sorted_perm (rows : List BalanceRow) : (sorted rows).Perm rows := List.mergeSort_perm rows _

theorem pairwise_sorted (rows : List BalanceRow) : (sorted rows).Pairwise Precedes := by
  refine (List.pairwise_mergeSort ?_ ?_ rows).imp fun h => of_decide_eq_true h
  · intro a b c h h'
    exact decide_eq_true ((of_decide_eq_true h).trans (of_decide_eq_true h'))
  · intro a b
    rw [Bool.or_eq_true, decide_eq_true_iff, decide_eq_true_iff]
    exact Precedes.total a b

/-- Rows of different accounts have one order only. -/
theorem sorted_eq_of_perm (hperm : rows.Perm others) (hdiffer : rows.Pairwise Differ) :
    sorted rows = sorted others := by
  refine List.Perm.eq_of_pairwise ?_ (pairwise_sorted rows) (pairwise_sorted others)
    ((sorted_perm rows).trans (hperm.trans (sorted_perm others).symm))
  intro a b ha hb hle hge
  by_contra hne
  have ha' : a ∈ rows := (sorted_perm rows).mem_iff.1 ha
  have hb' : b ∈ rows := hperm.mem_iff.2 ((sorted_perm others).mem_iff.1 hb)
  have hsymm : Std.Symm Differ := ⟨fun _ _ h => h.imp Ne.symm Ne.symm⟩
  exact hle.not_differ hge (hdiffer.forall ha' hb' hne)

/-- The texts that are written of a row. -/
def values (row : BalanceRow) : List String := row.normalized.members.map Prod.snd

end BalanceRow

/-! ### Writing -/

namespace Writer

variable {w : Writer}

@[simp]
theorem written_cells (texts : List String) :
    (w.cells texts).written = w.written ++ String.ofList (showRow texts) := rfl

theorem row_of_not_namesDue (h : w.namesDue = false) (r : BalanceRow) :
    w.row r.normalized = w.cells r.values := by
  rw [row, h]
  rfl

/-- The names of the columns are the same for every row. -/
theorem row_of_namesDue (h : w.namesDue = true) (r : BalanceRow) :
    w.row r.normalized = ({ w.cells reportColumns with namesDue := false } : Writer).cells r.values := by
  rw [row, h]
  rfl

/-- Once the names of the columns are written, rows are written one behind the other. -/
theorem written_foldl_row (h : w.namesDue = false) (rows : List BalanceRow) :
    (rows.foldl (fun w r => w.row r.normalized) w).written =
      w.written ++ String.ofList (rows.flatMap fun r => showRow r.values) := by
  induction rows generalizing w with
  | nil => exact String.append_empty.symm
  | cons r rows ih =>
      rw [List.foldl_cons, row_of_not_namesDue h, ih (by exact h), written_cells, String.append_assoc,
        ← String.ofList_append, List.flatMap_cons]

/-- Either way to write the names of the columns writes the same. -/
theorem written_balances_fresh (rows : List BalanceRow) :
    (fresh.balances rows).written = String.ofList
      (showRow reportColumns ++ (BalanceRow.sorted rows).flatMap fun r => showRow r.values) := by
  rw [balances]
  cases BalanceRow.sorted rows with
  | nil => rfl
  | cons r rows =>
      rw [List.isEmpty_cons, if_neg Bool.false_ne_true, List.foldl_cons, row_of_namesDue rfl,
        written_foldl_row rfl]
      simp only [written_cells, fresh, String.empty_append, ← String.ofList_append, List.flatMap_cons,
        List.append_assoc]

end Writer

/-- A report is the names of its columns and then its rows in order. -/
theorem report_eq (rows : List BalanceRow) :
    report rows = String.ofList
      (showRow reportColumns ++ (BalanceRow.sorted rows).flatMap fun r => showRow r.values) :=
  Writer.written_balances_fresh rows

/-- **How the rows came does not show in the report**, where no two are of the same account. -/
theorem report_eq_of_perm {rows others : List BalanceRow} (hperm : rows.Perm others)
    (hdiffer : rows.Pairwise BalanceRow.Differ) : report rows = report others := by
  rw [report_eq, report_eq, BalanceRow.sorted_eq_of_perm hperm hdiffer]

end Cashbook.Csv
