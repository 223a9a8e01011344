/-
Tellers.

A replay does not care how its calls are carried out.  It hands each plan to a teller
and goes on once it has the outcome.  A desk is the plainest teller: it carries out one
plan after another with nothing else going on, each with the first stamp of a row that
has not been used.
-/
import Cashbook.Service.Call

namespace Cashbook

/-- Someone who carries out plans, one after another. -/
class Teller (σ : Type) where
  /-- Makes a caller known. -/
  register : String → σ → σ
  /-- The names of the known callers in order. -/
  identities : σ → List String
  /-- Carries a plan out. -/
  serve : {α : Type} → (Rules → Plan α) → σ → Outcome α × σ

/-- A bank that serves one call at a time. -/
structure Desk where
  bank : Bank
  rules : Rules
  /-- What calls get from outside. -/
  stamps : Nat → Stamp
  /-- How many stamps have been used. -/
  used : Nat

namespace Desk

/-- An empty bank. -/
def start (rules : Rules) (stamps : Nat → Stamp) : Desk := ⟨.empty, rules, stamps, 0⟩

instance : Teller Desk where
  register identity desk :=
    { desk with bank := { desk.bank with registry := (desk.bank.registry.register identity).2 } }
  identities desk := desk.bank.registry.identities
  serve plan desk :=
    let plan := plan desk.rules
    let stamp := desk.stamps desk.used
    let used := if plan.spends stamp desk.bank then desk.used + 1 else desk.used
    let (outcome, bank) := plan.run stamp desk.bank
    (outcome, { desk with bank, used })

end Desk

end Cashbook
