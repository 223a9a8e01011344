/-
Ledgers that come of one another.

Between two looks at a ledger any number of changes may have been made.  What is known of the
later one then is what every change keeps: rows stay in order, transfers are between two
accounts, and a transaction stays what it was but for its mark, which is never taken off.
-/
import Mathlib.Logic.Relation
import Cashbook.Proofs.Ledger.WellFormed

namespace Cashbook.Ledger

/-- The one ledger has become the other, change by change. -/
def Evolves : Ledger → Ledger → Prop :=
  Relation.ReflTransGen fun before after => ∃ change : Change, change.Effect before after

namespace Evolves

variable {before between after : Ledger} {change : Change} {key : TransactionId} {tx : Transaction}

theorem refl (ledger : Ledger) : Evolves ledger ledger := Relation.ReflTransGen.refl

theorem trans (h : Evolves before between) (h' : Evolves between after) : Evolves before after :=
  Relation.ReflTransGen.trans h h'

theorem one (he : change.Effect before after) : Evolves before after :=
  Relation.ReflTransGen.single ⟨change, he⟩

theorem inOrder (h : Evolves before after) (horder : before.InOrder) : after.InOrder := by
  induction h with
  | refl => exact horder
  | tail _ hstep ih =>
      obtain ⟨change, he⟩ := hstep
      exact ih.step he

theorem transfersDistinct (h : Evolves before after) (hdistinct : before.TransfersDistinct) :
    after.TransfersDistinct := by
  induction h with
  | refl => exact hdistinct
  | tail _ hstep ih =>
      obtain ⟨change, he⟩ := hstep
      exact ih.step he

/-- A transaction stays as it is, but that it may be marked; a mark stays. -/
theorem transaction (h : Evolves before after) (htx : before.transactions[key]? = some tx) :
    ∃ mark, after.transactions[key]? = some { tx with rolledBack := mark } ∧
      (tx.rolledBack = true → mark = true) := by
  induction h with
  | refl => exact ⟨tx.rolledBack, htx, id⟩
  | tail _ hstep ih =>
      obtain ⟨change, he⟩ := hstep
      obtain ⟨mark, hwas, hmark⟩ := ih
      rcases he.transaction_cases hwas with ⟨-, hkept⟩ | ⟨-, -, -, hmarked⟩
      · exact ⟨mark, hkept, hmark⟩
      · exact ⟨true, hmarked, fun _ => rfl⟩

end Evolves

end Cashbook.Ledger
