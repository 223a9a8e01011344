/-
Plans.

A plan is what a call is going to do: ask one thing after another, each depending on
the answers so far, and in between hold the keys of some accounts.  The first query
that fails ends it.  A plan does not say when its queries are answered, so that the
plans of many calls can be carried out side by side.
-/
import Cashbook.Service.Query

namespace Cashbook

/-- What a call is going to do, and what it comes to. -/
inductive Plan (α : Type) : Type where
  | done (value : α)
  | fail (failure : Failure)
  | ask (query : Query) (next : query.Answer → Plan α)
  /-- Waits until the keys are held; they are given up when the call ends. -/
  | hold (keys : List AccountId) (next : Plan α)

namespace Plan

variable {α β : Type}

/-- One plan after another. -/
def bind (plan : Plan α) (f : α → Plan β) : Plan β :=
  match plan with
  | .done value => f value
  | .fail failure => .fail failure
  | .ask query next => .ask query fun answer => (next answer).bind f
  | .hold keys next => .hold keys (next.bind f)

instance : Monad Plan where
  pure := .done
  bind := bind

/-- Asks one thing. -/
def query (q : Query) : Plan q.Answer := .ask q .done

/-- Holds keys from here on. -/
def holding (keys : List AccountId) : Plan Unit := .hold keys (.done ())

/-- Goes on with a value that has been worked out already. -/
def ofOutcome : Outcome α → Plan α
  | .ok value => .done value
  | .error failure => .fail failure

/-- Carries a plan out with nothing else going on. -/
def run (stamp : Stamp) : Plan α → Bank → Outcome α × Bank
  | .done value, bank => (.ok value, bank)
  | .fail failure, bank => (.error failure, bank)
  | .ask q next, bank =>
    match bank.perform stamp q with
    | (.ok answer, bank) => (next answer).run stamp bank
    | (.error failure, bank) => (.error failure, bank)
  | .hold _ next, bank => next.run stamp bank

/-- Whether a plan that is carried out so takes anything from its stamp. -/
def spends (stamp : Stamp) : Plan α → Bank → Bool
  | .done _, _ | .fail _, _ => false
  | .ask q next, bank =>
    q.usesStamp ||
      match bank.perform stamp q with
      | (.ok answer, bank) => (next answer).spends stamp bank
      | (.error _, _) => false
  | .hold _ next, bank => next.spends stamp bank

end Plan

end Cashbook
