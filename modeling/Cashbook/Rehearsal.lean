/-
Rehearsals.

A rehearsal carries calls out in a time of its own.  It hands out identifiers, card
numbers and times from a row that is known beforehand, lets every write take a while,
has some writes fail, and cuts a call off that would take longer than it may.

Its time stands still while any call can do something and then moves straight to the
next moment at which one can.  The calls get their turns in order, pass after pass; a
call does what it can until it has to wait for a key or for its write.
-/
import Cashbook.Rules
import Cashbook.Service.Floor

namespace Cashbook

/-! ### What is handed out -/

/-- Where the row of identifiers, card numbers and times has got to. -/
structure Mint where
  /-- How many accounts have been given an identifier. -/
  accounts : Nat
  /-- How many transactions have been given one. -/
  transactions : Nat
  /-- The card numbers that come first. -/
  cards : List CardNumber
  /-- How many card numbers have been drawn. -/
  drawn : Nat
  /-- The last time that was given, in milliseconds. -/
  clock : Int
deriving DecidableEq

namespace Mint

/-- Nothing has been handed out yet. -/
def start (cards : List CardNumber) : Mint := ⟨0, 0, cards, 0, 1700000000000⟩

/-- The identifier that begins with the digit `first` and ends in a serial number. -/
def identifier (first serial : Nat) : Uuid :=
  .ofNat (first <<< 124 + 0x40008000 <<< 48 + serial)

/-- What the next call gets. -/
def stamp (m : Mint) : Stamp where
  account := ⟨identifier 0xa (m.accounts + 1)⟩
  transaction := ⟨identifier 0xb (m.transactions + 1)⟩
  card := m.cards.headD (.ofSerial (m.drawn + 1))
  time := .ofMillis (m.clock + 1000)

/-- What is left once a query has been answered. -/
def spend (m : Mint) : Query → Mint
  | .openAccount .. => { m with accounts := m.accounts + 1, clock := m.clock + 1000 }
  | .addCard .. => { m with clock := m.clock + 1000 }
  | .record .. => { m with transactions := m.transactions + 1, clock := m.clock + 1000 }
  | .newNumber => { m with cards := m.cards.tail, drawn := m.drawn + 1 }
  | .owner _ | .account _ | .accountOfCard _ | .accounts _ | .card _ | .cards _ | .transaction _
  | .transactions _ | .deleteAccount _ | .deleteCard _ | .reverse _ => m

end Mint

/-! ### Conditions -/

/-- What calls meet with. -/
structure Conditions where
  mint : Mint
  /-- How long every write takes. -/
  delay : Nat
  /-- How many of the next writes fail. -/
  faults : Nat
  /-- The time that has passed. -/
  now : Nat
deriving DecidableEq

/-- A call among those that are carried out together. -/
structure Runner where
  ticket : Nat
  /-- How long the call may take. -/
  limit : Nat
  /-- When it was begun. -/
  begun : Nat
  /-- Until when its write takes. -/
  wake : Option Nat
  /-- Whether the write that comes next has taken its while. -/
  rested : Bool
deriving DecidableEq

/-- Calls that are carried out together, and what they meet with. -/
structure Stage (ρ : Type) where
  floor : Floor ρ
  conditions : Conditions

namespace Stage

variable {ρ : Type}

/-- A call takes one turn. -/
def turn (ticket : Nat) (stage : Stage ρ) : Stage ρ :=
  { stage with floor := stage.floor.turn 0 stage.conditions.mint.stamp ticket }

/-- A call has a query answered, which uses up what it was given. -/
def answer (ticket : Nat) (query : Query) (stage : Stage ρ) : Stage ρ :=
  let c := stage.conditions
  { stage.turn ticket with conditions := { c with mint := c.mint.spend query } }

/-- The write of a call fails. -/
def refuse (ticket : Nat) (stage : Stage ρ) : Stage ρ where
  floor := stage.floor.interrupt ticket (.storage (.external "disk full"))
  conditions := { stage.conditions with faults := stage.conditions.faults - 1 }

/-- Whether a call is over. -/
def isOver (ticket : Nat) (stage : Stage ρ) : Bool := (stage.floor.outcome? ticket).isSome

/-- The next thing that a call does, unless it has to wait or is over. -/
def advance (r : Runner) (stage : Stage ρ) : Option (Runner × Stage ρ) :=
  let c := stage.conditions
  match r.wake with
  | some time =>
    if time ≤ c.now then some ({ r with wake := none, rested := true }, stage) else none
  | none =>
    match stage.floor.calls[r.ticket]? with
    | some (.working (.ask query _)) =>
      if query.isWrite = false then some (r, stage.answer r.ticket query)
      else if 0 < c.delay ∧ r.rested = false then some ({ r with wake := some (c.now + c.delay) }, stage)
      else if 0 < c.faults then some ({ r with rested := false }, stage.refuse r.ticket)
      else some ({ r with rested := false }, stage.answer r.ticket query)
    | some _ =>
      if stage.isOver r.ticket || stage.floor.isBlocked r.ticket then none
      else some (r, stage.turn r.ticket)
    | none => none

/-- A call does up to `steps` things. -/
def proceed : (steps : Nat) → Runner → Stage ρ → Runner × Stage ρ
  | 0, r, stage => (r, stage)
  | steps + 1, r, stage =>
    match stage.advance r with
    | some (r, stage) => proceed steps r stage
    | none => (r, stage)

/-- More things than any call does. -/
def longest : Nat := 100

/-- A call does what it can; if it is not over then although its time is, it is cut off. -/
def attend (r : Runner) (stage : Stage ρ) : Runner × Stage ρ :=
  let (r, stage) := stage.proceed longest r
  if stage.isOver r.ticket = false ∧ r.begun + r.limit ≤ stage.conditions.now then
    let floor := stage.floor.interrupt r.ticket (.deadlineExceeded r.limit)
    { stage with floor }.proceed longest { r with wake := none }
  else (r, stage)

/-- Every call that is not over gets its turn, in order. -/
def pass : List Runner → Stage ρ → List Runner × Stage ρ
  | [], stage => ([], stage)
  | r :: rest, stage =>
    let (r, stage) := if stage.isOver r.ticket then (r, stage) else stage.attend r
    let (rest, stage) := pass rest stage
    (r :: rest, stage)

/-- Whether a call can do something now. -/
def isReady (r : Runner) (stage : Stage ρ) : Bool :=
  !stage.isOver r.ticket && (stage.advance r).isSome

/-- The next moment at which a call may go on or is cut off. -/
def nextMoment? (runners : List Runner) (stage : Stage ρ) : Option Nat :=
  let waiting := runners.filter fun r => !stage.isOver r.ticket
  (waiting.flatMap fun r => (r.begun + r.limit) :: r.wake.toList).min?

/-- Passes, and time in between, until every call is over. -/
def play : (passes : Nat) → List Runner → Stage ρ → List Runner × Stage ρ
  | 0, runners, stage => (runners, stage)
  | passes + 1, runners, stage =>
    let (runners, stage) := stage.pass runners
    if runners.any fun r => stage.isReady r then play passes runners stage
    else
      match stage.nextMoment? runners with
      | some now => play passes runners { stage with conditions := { stage.conditions with now } }
      | none => (runners, stage)

end Stage

/-! ### Rehearsals -/

/-- A bank, the keys of its accounts, how it is run, and what its calls meet with. -/
structure Rehearsal where
  bank : Bank
  locks : Locks AccountId
  settings : Settings
  rules : Rules
  conditions : Conditions

namespace Rehearsal

/-- An empty bank. -/
def start (settings : Settings) (rules : Rules) (cards : List CardNumber) : Rehearsal :=
  ⟨.empty, .empty, settings, rules, ⟨.start cards, 0, 0, 0⟩⟩

/-- Carries calls out together; they begin at the same moment, in order. -/
def together {α : Type} (calls : List (Option Nat × Plan α)) (r : Rehearsal) :
    List (Outcome α) × Rehearsal :=
  let runners := calls.mapIdx fun ticket (timeout, _) =>
    (⟨ticket, timeout.getD r.settings.operationTimeout, r.conditions.now, none, false⟩ : Runner)
  let floor : Floor α := ⟨r.bank, r.locks, ∅⟩
  let floor := calls.zipIdx.foldl (fun floor ((_, plan), ticket) => floor.enter ticket plan) floor
  let (runners, stage) := Stage.play (8 * calls.length + 8) runners ⟨floor, r.conditions⟩
  let outcomes := runners.map fun runner =>
    (stage.floor.outcome? runner.ticket).getD (.error (.deadlineExceeded runner.limit))
  (outcomes, { r with
    bank := stage.floor.bank
    locks := stage.floor.locks
    conditions := stage.conditions })

/-- Carries one call out. -/
def serve {α : Type} (timeout : Option Nat) (plan : Plan α) (r : Rehearsal) : Outcome α × Rehearsal :=
  match r.together [(timeout, plan)] with
  | ([outcome], r) => (outcome, r)
  | (_, r) => (.error (.deadlineExceeded r.settings.operationTimeout), r)

/-- Makes a caller known. -/
def register (identity : String) (r : Rehearsal) : OwnerId × Rehearsal :=
  let (owner, registry) := r.bank.registry.register identity
  (owner, { r with bank := { r.bank with registry } })

/-- Lets time pass while idle locks are swept at every multiple of the sweep interval. -/
def idle (ms : Nat) (r : Rehearsal) : Rehearsal :=
  let swept := 0 < r.settings.sweepInterval ∧ r.settings.sweepInterval ≤ ms
  let locks := if swept then (r.locks.sweep (fun _ => 0) r.settings.idleTtl).2 else r.locks
  { r with locks, conditions := { r.conditions with now := r.conditions.now + ms } }

/-- A new service over the same ledger: nobody is known and no key has been used. -/
def renew (r : Rehearsal) : Rehearsal :=
  { r with bank := ⟨r.bank.ledger, .empty⟩, locks := .empty }

end Rehearsal

end Cashbook
