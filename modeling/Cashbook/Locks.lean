/-
Locks by key.

A ticket that wants several keys takes them one by one in ascending order and keeps what
it has while it waits.  Which lock guards a key is written in a table; an entry is made
when the key is first reached for, counts the tickets that hold the key or wait for it,
and may be swept away when that count is nought and it has lain idle long enough.

A ticket moves by single actions, `Locks.step`, each of which touches the table or one
lock once, so that the actions of several tickets can follow each other in any order.
Keys are given up latest first, the lock before the count.
-/
import Cashbook.Table

namespace Cashbook

/-- The entry of a key. -/
structure LockEntry where
  /-- The number of the lock that guards the key. -/
  lock : Nat
  /-- How many tickets hold the key or wait for it. -/
  holders : Nat
  /-- When the count last came to nought, or the entry was made. -/
  idleSince : Nat
deriving DecidableEq

/-- Whether nobody is counted on the entry, and it has been idle for at least `ttl`. -/
def LockEntry.IsStale (entry : LockEntry) (now ttl : Nat) : Prop :=
  entry.holders = 0 ∧ ttl ≤ now - entry.idleSince

instance (entry : LockEntry) (now ttl : Nat) : Decidable (entry.IsStale now ttl) :=
  inferInstanceAs (Decidable (_ ∧ _))

/-- A lock: who has it, and who waits for it, first come first. -/
structure Lock where
  holder : Option Nat
  queue : List Nat
deriving DecidableEq

/-- Where a ticket is with a key that it does not hold. -/
inductive Reach (κ : Type) where
  /-- With none. -/
  | resting
  /-- Counted on the entry of the key, and about to ask for its lock. -/
  | reaching (key : κ) (lock : Nat)
  /-- In the queue of the lock, or called from it. -/
  | queueing (key : κ) (lock : Nat)
  /-- Without the lock, and still counted on the entry. -/
  | returning (key : κ) (lock : Nat)
deriving DecidableEq

/-- What a ticket has and wants. -/
structure Claim (κ : Type) where
  /-- The keys held and their locks, the latest first. -/
  held : List (κ × Nat)
  reach : Reach κ
  /-- The keys still to be reached for, in ascending order. -/
  wanted : List κ
  /-- Whether the ticket gives everything back. -/
  leaving : Bool
deriving DecidableEq

/-- Whether the ticket is with no key that it does not hold. -/
def Reach.isResting {κ : Type} : Reach κ → Bool
  | .resting => true
  | .reaching .. | .queueing .. | .returning .. => false

namespace Claim

variable {κ : Type}

/-- Whether every key is held. -/
def IsComplete (c : Claim κ) : Prop :=
  c.leaving = false ∧ c.wanted = [] ∧ c.reach.isResting = true

instance (c : Claim κ) : Decidable c.IsComplete := inferInstanceAs (Decidable (_ ∧ _ ∧ _))

/-- The keys held, in the order in which they were taken. -/
def keys (c : Claim κ) : List κ := (c.held.map Prod.fst).reverse

/-- At least as many actions as the ticket can take before it has to wait or is done. -/
def effort (c : Claim κ) : Nat :=
  if c.leaving then 2 * c.held.length + 3 else 2 * c.wanted.length + 2

end Claim

/-- The table of entries, the locks, and the claims of tickets. -/
structure Locks (κ : Type) [Ord κ] where
  entries : Table κ LockEntry
  locks : Table Nat Lock
  claims : Table Nat (Claim κ)
  /-- The number of the next lock that is made. -/
  fresh : Nat

namespace Locks

variable {κ : Type} [Ord κ] [Std.TransOrd κ]

/-- No entries and no claims. -/
def empty : Locks κ := ⟨∅, ∅, ∅, 0⟩

/-- The lock with this number; one that has not been used is free. -/
def lockOf (l : Locks κ) (lock : Nat) : Lock := l.locks[lock]?.getD ⟨none, []⟩

/-- Sets the claim of a ticket. -/
def setClaim (l : Locks κ) (ticket : Nat) (claim : Claim κ) : Locks κ :=
  { l with claims := l.claims.insert ticket claim }

/-! ### The table -/

/-- Counts a ticket on the entry of a key, which is made if there is none, and says which lock it is. -/
def checkOut (now : Nat) (key : κ) (l : Locks κ) : Nat × Locks κ :=
  match l.entries[key]? with
  | some entry =>
    let counted := { entry with holders := entry.holders + 1 }
    (entry.lock, { l with entries := l.entries.insert key counted })
  | none =>
    (l.fresh, { l with entries := l.entries.insert key ⟨l.fresh, 1, now⟩, fresh := l.fresh + 1 })

/-- Counts a ticket off the entry of a key. -/
def checkIn (now : Nat) (key : κ) (l : Locks κ) : Locks κ :=
  match l.entries[key]? with
  | some entry =>
    let holders := entry.holders - 1
    let idleSince := if holders = 0 then now else entry.idleSince
    { l with entries := l.entries.insert key { entry with holders, idleSince } }
  | none => l

/--
Takes the entries that nobody is counted on and that have been idle long enough, and says how many.
They are looked at one by one, each at its own time.
-/
def sweep (now : κ → Nat) (ttl : Nat) (l : Locks κ) : Nat × Locks κ :=
  let kept := l.entries.filter fun key entry => !decide (entry.IsStale (now key) ttl)
  (l.entries.size - kept.size, { l with entries := kept })

/-! ### The locks -/

/-- Gives up a lock: the first in its queue has it now. -/
def release (lock : Nat) (l : Locks κ) : Locks κ :=
  let next : Lock := match (l.lockOf lock).queue with
    | [] => ⟨none, []⟩
    | ticket :: rest => ⟨some ticket, rest⟩
  { l with locks := l.locks.insert lock next }

/-- Stops waiting for a lock; if the ticket had been called, the next in the queue is. -/
def withdraw (lock ticket : Nat) (l : Locks κ) : Locks κ :=
  let current := l.lockOf lock
  if current.holder = some ticket then l.release lock
  else
    let without : Lock := { current with queue := current.queue.filter fun t => t != ticket }
    { l with locks := l.locks.insert lock without }

/-! ### Tickets -/

/-- The different keys of a list in ascending order. -/
def ascending (keys : List κ) : List κ :=
  (keys.foldl (fun (t : Table κ Unit) key => t.insert key ()) ∅).keys

/-- Begins a claim. -/
def start (ticket : Nat) (keys : List κ) (l : Locks κ) : Locks κ :=
  l.setClaim ticket ⟨[], .resting, ascending keys, false⟩

/-- Has a ticket give everything back from now on, whether or not it has all its keys. -/
def leave (ticket : Nat) (l : Locks κ) : Locks κ :=
  match l.claims[ticket]? with
  | some claim => l.setClaim ticket { claim with leaving := true }
  | none => l

/-- The next action of a ticket that is leaving. -/
def stepBack (now ticket : Nat) (claim : Claim κ) (l : Locks κ) : Locks κ :=
  match claim.reach with
  | .reaching key lock => l.setClaim ticket { claim with reach := .returning key lock }
  | .queueing key lock =>
    (l.withdraw lock ticket).setClaim ticket { claim with reach := .returning key lock }
  | .returning key _ => (l.checkIn now key).setClaim ticket { claim with reach := .resting }
  | .resting =>
    match claim.held with
    | (key, lock) :: rest =>
      (l.release lock).setClaim ticket { claim with held := rest, reach := .returning key lock }
    | [] => { l with claims := l.claims.erase ticket }

/-- The next action of a ticket that is taking its keys; nothing if it has to wait or has them all. -/
def stepForward (now ticket : Nat) (claim : Claim κ) (l : Locks κ) : Locks κ :=
  match claim.reach with
  | .reaching key lock =>
    let current := l.lockOf lock
    match current.holder with
    | none =>
      { l with locks := l.locks.insert lock { current with holder := some ticket } }.setClaim ticket
        { claim with held := (key, lock) :: claim.held, reach := .resting }
    | some _ =>
      { l with locks := l.locks.insert lock { current with queue := current.queue ++ [ticket] } }.setClaim
        ticket { claim with reach := .queueing key lock }
  | .queueing key lock =>
    if (l.lockOf lock).holder = some ticket then
      l.setClaim ticket { claim with held := (key, lock) :: claim.held, reach := .resting }
    else l
  | .returning key _ => (l.checkIn now key).setClaim ticket { claim with reach := .resting }
  | .resting =>
    match claim.wanted with
    | key :: rest =>
      let (lock, l) := l.checkOut now key
      l.setClaim ticket { claim with reach := .reaching key lock, wanted := rest }
    | [] => l

/-- The next action of a ticket. -/
def step (now ticket : Nat) (l : Locks κ) : Locks κ :=
  match l.claims[ticket]? with
  | some claim =>
    if claim.leaving then l.stepBack now ticket claim else l.stepForward now ticket claim
  | none => l

/-- Lets a ticket act until it has to wait or is done. -/
def drive (now ticket : Nat) (l : Locks κ) : Locks κ :=
  match l.claims[ticket]? with
  | some claim => Nat.repeat (step now ticket) claim.effort l
  | none => l

/-- Lets every ticket act as far as it can, the lowest first. -/
def settle (now : Nat) (l : Locks κ) : Locks κ :=
  l.claims.keys.foldl (fun l ticket => l.drive now ticket) l

/-- Has a ticket give everything back at once. -/
def vacate (now ticket : Nat) (l : Locks κ) : Locks κ :=
  (l.leave ticket).drive now ticket

end Locks

end Cashbook
