/-
Calls side by side.

On the floor many calls are under way, each with a ticket.  A turn lets one of them do
a single thing: have one query answered, take one action on the way to its keys, or,
once it has ended, one action on the way out.  Any order of turns may happen.  While it
waits for an answer or for a key a call may be told that it has failed; it then does
nothing more but give its keys back.

Nothing says when a time limit runs out or when somebody sweeps the table of keys.  There
is no timer: either may happen at any moment, between any two turns.
-/
import Cashbook.Locks
import Cashbook.Service.Plan

namespace Cashbook

/-- How far a call has come. -/
inductive Progress (ρ : Type) where
  | working (plan : Plan ρ)
  | ended (outcome : Outcome ρ)

/-- The bank, the keys of its accounts, and the calls under way. -/
structure Floor (ρ : Type) where
  bank : Bank
  locks : Locks AccountId
  calls : Table Nat (Progress ρ)

namespace Floor

variable {ρ : Type}

/-- Says how far a call has come. -/
def setCall (floor : Floor ρ) (ticket : Nat) (progress : Progress ρ) : Floor ρ :=
  { floor with calls := floor.calls.insert ticket progress }

/-- A call comes in. -/
def enter (ticket : Nat) (plan : Plan ρ) (floor : Floor ρ) : Floor ρ :=
  floor.setCall ticket (.working plan)

/-- A call ends, and starts to give its keys back. -/
def finish (ticket : Nat) (outcome : Outcome ρ) (floor : Floor ρ) : Floor ρ :=
  { floor with locks := floor.locks.leave ticket }.setCall ticket (.ended outcome)

/-- A call has a query answered. -/
def ask (stamp : Stamp) (ticket : Nat) (query : Query) (next : query.Answer → Plan ρ)
    (floor : Floor ρ) : Floor ρ :=
  match floor.bank.perform stamp query with
  | (.ok answer, bank) => { floor with bank }.setCall ticket (.working (next answer))
  | (.error failure, bank) => { floor with bank }.finish ticket (.error failure)

/-- A call takes an action on the way to its keys, or goes on if it has them. -/
def reach (now ticket : Nat) (keys : List AccountId) (next : Plan ρ) (floor : Floor ρ) : Floor ρ :=
  match floor.locks.claims[ticket]? with
  | none => { floor with locks := floor.locks.start ticket keys }
  | some claim =>
    if claim.IsComplete then floor.setCall ticket (.working next)
    else { floor with locks := floor.locks.step now ticket }

/-- A call does a single thing. -/
def turn (now : Nat) (stamp : Stamp) (ticket : Nat) (floor : Floor ρ) : Floor ρ :=
  match floor.calls[ticket]? with
  | some (.working (.done value)) => floor.finish ticket (.ok value)
  | some (.working (.fail failure)) => floor.finish ticket (.error failure)
  | some (.working (.ask query next)) => floor.ask stamp ticket query next
  | some (.working (.hold keys next)) => floor.reach now ticket keys next
  | some (.ended _) => { floor with locks := floor.locks.step now ticket }
  | none => floor

/-- A call that waits for an answer or for keys is told that it has failed; what is settled stays. -/
def interrupt (ticket : Nat) (failure : Failure) (floor : Floor ρ) : Floor ρ :=
  match floor.calls[ticket]? with
  | some (.working (.ask ..)) | some (.working (.hold ..)) => floor.finish ticket (.error failure)
  | some (.working (.done _)) | some (.working (.fail _)) | some (.ended _) | none => floor

/-- Sweeps the table of keys. -/
def sweep (now : AccountId → Nat) (ttl : Nat) (floor : Floor ρ) : Floor ρ :=
  { floor with locks := (floor.locks.sweep now ttl).2 }

/-- Whether a call has to wait for a key. -/
def isBlocked (ticket : Nat) (floor : Floor ρ) : Bool :=
  match floor.locks.claims[ticket]? with
  | some claim =>
    match claim.reach with
    | .queueing _ lock => !claim.leaving && (floor.locks.lockOf lock).holder != some ticket
    | .resting | .reaching .. | .returning .. => false
  | none => false

/-- What a call came to, once it has given back all its keys. -/
def outcome? (ticket : Nat) (floor : Floor ρ) : Option (Outcome ρ) :=
  match floor.calls[ticket]?, floor.locks.claims[ticket]? with
  | some (.ended outcome), none => some outcome
  | _, _ => none

end Floor

end Cashbook
