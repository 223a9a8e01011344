/-
Tables.

A table keeps one row per key, in the order of the keys.  Two tables that hold the same
rows under the same keys are the same table.
-/
import Std.Data.ExtTreeMap

namespace Cashbook

/-- One row per key, in the order of the keys. -/
abbrev Table (κ α : Type) [Ord κ] := Std.ExtTreeMap κ α compare

namespace Table

variable {κ α : Type} [Ord κ] [Std.TransOrd κ]

/-- Stores a row under a key, or removes what is there. -/
def set (t : Table κ α) (key : κ) : Option α → Table κ α
  | some row => t.insert key row
  | none => t.erase key

/-- The rows in the order of their keys. -/
def rows (t : Table κ α) : List α := t.toList.map Prod.snd

/-- Reading back what was set, and nothing else changed. -/
theorem getElem?_set [Std.LawfulEqOrd κ] (t : Table κ α) (key k : κ) (row : Option α) :
    (t.set key row)[k]? = if compare key k = .eq then row else t[k]? := by
  cases row with
  | some row => exact Std.ExtTreeMap.getElem?_insert
  | none => exact Std.ExtTreeMap.getElem?_erase

end Table

end Cashbook
