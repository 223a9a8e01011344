/-
One ticket a key.

A key belongs to a ticket from when its lock is given to the ticket, be it on the spot or
out of the queue, until the ticket gives the lock up again.  No key ever belongs to two
tickets: a lock has one holder, so two tickets with the same key would be with two
different locks, and every ticket that has come to a key is with the lock that the table
says guards it.  Sweeping is what this might fail on.  An entry that is swept away is
made anew with another lock, but none is swept away while somebody is counted on it.
-/
import Cashbook.Proofs.Locks.Play

namespace Cashbook.Locks

variable {κ : Type} [Ord κ]

/-- A ticket has come to a key and has not gone from it, and this is the lock that it was sent to. -/
def IsAt (l : Locks κ) (ticket : Nat) (key : κ) (lock : Nat) : Prop :=
  ∃ claim, l.claims[ticket]? = some claim ∧ (key, lock) ∈ claim.counted

/-- A ticket has a key, or it has been called to it. -/
def Holds (l : Locks κ) (ticket : Nat) (key : κ) : Prop :=
  ∃ claim lock, l.claims[ticket]? = some claim ∧
    ((key, lock) ∈ claim.held ∨
      claim.reach = .queueing key lock ∧ (l.lockOf lock).holder = some ticket)

variable {l : Locks κ} {ticket other : Nat} {key : κ}

/-- Who has a key has come to it, and has the lock that it was sent to. -/
theorem InLine.isAt_of_holds (h : l.InLine) (hholds : l.Holds ticket key) :
    ∃ lock, l.IsAt ticket key lock ∧ (l.lockOf lock).holder = some ticket := by
  obtain ⟨claim, lock, hclaim, hheld | ⟨hreach, hholder⟩⟩ := hholds
  · have hcounted : (key, lock) ∈ claim.counted := List.mem_append_right _ hheld
    exact ⟨lock, ⟨claim, hclaim, hcounted⟩, h.first ticket claim hclaim _ hheld⟩
  · have hcounted : (key, lock) ∈ claim.counted := by
      rw [Claim.counted, hreach]
      exact List.mem_cons_self
    exact ⟨lock, ⟨claim, hclaim, hcounted⟩, hholder⟩

variable [Std.TransOrd κ] [DecidableEq κ]

/-- Who has come to a key is with the lock that the table says guards it. -/
theorem Coherent.guard?_of_isAt {lock : Nat} (h : l.Coherent) (hat : l.IsAt ticket key lock) :
    l.guard? key = some lock := by
  obtain ⟨claim, hclaim, hcounted⟩ := hat
  exact h.guarded ticket claim hclaim _ hcounted

theorem Coherent.eq_of_holds (h : l.Coherent) (hticket : l.Holds ticket key)
    (hother : l.Holds other key) : ticket = other := by
  obtain ⟨lock, hat, hholder⟩ := h.isAt_of_holds hticket
  obtain ⟨lock', hat', hholder'⟩ := h.isAt_of_holds hother
  have hguard := h.guard?_of_isAt hat
  have hguard' := h.guard?_of_isAt hat'
  obtain rfl : lock = lock' := Option.some.inj (hguard.symm.trans hguard')
  exact Option.some.inj (hholder.symm.trans hholder')

omit [DecidableEq κ]

variable [Std.LawfulEqOrd κ]

/-- **However many tickets come, act and leave, and whenever the table is swept, no key belongs to
two tickets, and all that have come to a key are with the one lock that the table has for it.** -/
theorem exclusive_played (requests : Nat → List κ) (events : List (Event κ)) :
    (∀ (key : κ) (ticket other : Nat), (play requests empty events).Holds ticket key →
      (play requests empty events).Holds other key → ticket = other) ∧
    ∀ (ticket : Nat) (key : κ) (lock : Nat), (play requests empty events).IsAt ticket key lock →
      (play requests empty events).guard? key = some lock := by
  classical
  have hcoherent := coherent_played requests events
  constructor
  · intro key ticket other hticket hother
    exact hcoherent.eq_of_holds hticket hother
  · intro ticket key lock hat
    exact hcoherent.guard?_of_isAt hat

theorem exclusive_played_sample :
    let requests := fun ticket => if ticket = 0 then [1] else [2, 1, 2]
    let events : List (Event Nat) :=
      [.arrive 0, .act 3 0, .act 3 0, .arrive 1, .act 4 1, .act 4 1, .sweep (fun _ => 9) 0]
    (play requests empty events).Holds 0 1 ∧ ¬ (play requests empty events).Holds 1 1 ∧
      (play requests empty events).guard? 1 = some 0 := by
  intro requests events
  have hholds : (play requests empty events).Holds 0 1 :=
    ⟨⟨[(1, 0)], .resting, [], false⟩, 0, by decide +kernel, Or.inl (by decide)⟩
  have hat : (play requests empty events).IsAt 1 1 0 :=
    ⟨⟨[], .queueing 1 0, [2], false⟩, by decide +kernel, by decide⟩
  obtain ⟨hone, hguard⟩ := exclusive_played requests events
  refine ⟨hholds, ?_, hguard 1 1 0 hat⟩
  intro hother
  exact absurd (hone 1 0 1 hholds hother) (by decide)

end Cashbook.Locks
