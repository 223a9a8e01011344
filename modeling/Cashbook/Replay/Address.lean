/-
Addresses of accounts.

Within a replay an account is addressed by its user and its name, written with a
slash in between.  The user of a written address ends at the first slash.
-/
import Cashbook.Failure
import Cashbook.Table

namespace Cashbook

/-- A user and the name of one of their accounts. -/
structure Address where
  user : String
  account : String
deriving DecidableEq

namespace Address

/-- Addresses are ordered by user, then by account. -/
instance : Ord Address := ⟨compareLex (compareOn user) (compareOn account)⟩

instance : Std.TransOrd Address :=
  inferInstanceAs (Std.TransCmp (compareLex (compareOn user) (compareOn account)))

instance : Std.LawfulEqOrd Address where
  eq_of_compare {a b} h := by
    have h : compareLex (compareOn user) (compareOn account) a b = .eq := h
    simp only [compareLex_eq_eq, compareOn, Std.compare_eq_iff_eq] at h
    cases a; cases b
    exact congr (congrArg Address.mk h.1) h.2

/-- The user before the first slash and the account behind it; neither may be empty. -/
def ofText? (text : String) : Option Address :=
  let user := text.toList.takeWhile (· != '/')
  match text.toList.dropWhile (· != '/') with
  | _ :: account =>
    if user.isEmpty || account.isEmpty then none
    else some ⟨String.ofList user, String.ofList account⟩
  | [] => none

/-- The address that a text writes. -/
def parse (raw : String) : Outcome Address :=
  match ofText? raw with
  | some address => .ok address
  | none => .error (.invalid (.malformedAddress raw))

end Address

end Cashbook
