/-
Many tickets at once.

Tickets come, act, and leave whenever they like, the table is swept in between, and any
of this may happen in any order.  A ticket that is told to leave while it is on its way
to its keys is one whose wait has been broken off; one that is told to leave when it has
them all has been given back.  A ticket that comes while it is still there is the same
ticket, and nothing happens.

Whatever has happened, the locks are coherent, and a ticket that has not been told to
leave is on its way through the keys that it came for.
-/
import Cashbook.Proofs.Locks.Coherent

namespace Cashbook.Locks

/-- What can happen to the locks. -/
inductive Event (κ : Type) where
  | arrive (ticket : Nat)
  | act (now ticket : Nat)
  | leave (ticket : Nat)
  /-- Every entry is looked at, each at its own time. -/
  | sweep (now : κ → Nat) (ttl : Nat)

variable {κ : Type} [Ord κ] [Std.TransOrd κ]

/-- One thing happens, where `requests` says which keys each ticket comes for. -/
def happen (requests : Nat → List κ) (l : Locks κ) : Event κ → Locks κ
  | .arrive ticket =>
    match l.claims[ticket]? with
    | none => l.start ticket (requests ticket)
    | some _ => l
  | .act now ticket => l.step now ticket
  | .leave ticket => l.leave ticket
  | .sweep now ttl => (l.sweep now ttl).2

/-- One thing happens after another. -/
def play (requests : Nat → List κ) (l : Locks κ) (events : List (Event κ)) : Locks κ :=
  events.foldl (happen requests) l

/-- A ticket that stays is on its way through the keys that it came for. -/
def Asked (requests : Nat → List κ) (l : Locks κ) : Prop :=
  ∀ (ticket : Nat) (claim : Claim κ), l.claims[ticket]? = some claim → claim.leaving = false →
    claim.route = ascending (requests ticket)

variable [Std.LawfulEqOrd κ] [DecidableEq κ] {requests : Nat → List κ} {l : Locks κ}

theorem Coherent.happen (h : l.Coherent) (event : Event κ) : (l.happen requests event).Coherent := by
  cases event with
  | arrive ticket =>
      cases hclaim : l.claims[ticket]? with
      | none =>
          simp only [Locks.happen, hclaim]
          exact h.start hclaim (requests ticket)
      | some claim =>
          simp only [Locks.happen, hclaim]
          exact h
  | act now ticket => exact h.step now ticket
  | leave ticket => exact h.leave ticket
  | sweep now ttl => exact h.sweep now ttl

theorem Coherent.play (h : l.Coherent) (events : List (Event κ)) :
    (l.play requests events).Coherent := by
  induction events generalizing l with
  | nil => exact h
  | cons event rest ih => exact ih (h.happen event)

theorem Asked.happen (h : Asked requests l) (hcoherent : l.Coherent) (event : Event κ) :
    Asked requests (l.happen requests event) := by
  intro other found hfound hstays
  cases event with
  | arrive ticket =>
      cases hclaim : l.claims[ticket]? with
      | none =>
          simp only [Locks.happen, hclaim] at hfound
          rcases Table.of_getElem?_insert hfound with ⟨rfl, rfl⟩ | ⟨-, hold⟩
          · rfl
          · exact h other found hold hstays
      | some claim =>
          simp only [Locks.happen, hclaim] at hfound
          exact h other found hfound hstays
  | act now ticket =>
      cases hclaim : l.claims[ticket]? with
      | none =>
          rw [Locks.happen, step_of_unclaimed hclaim] at hfound
          exact h other found hfound hstays
      | some claim =>
          by_cases hk : ticket = other
          · subst hk
            have hturned := hcoherent.turned ticket claim hclaim
            have hacts : Acts now ticket l claim (l.step now ticket) := acts_step hclaim
            -- Nobody stays who left before, and who stays keeps the route.
            have hstayed : claim.leaving = false :=
              (claim_of_acts hacts hclaim hturned hfound).1 ▸ hstays
            obtain ⟨new, hnew, -, hroute⟩ := route_of_acts hacts hclaim hstayed (by
              intro key lock hreach
              rw [hturned key lock hreach] at hstayed
              cases hstayed)
            obtain rfl := Option.some.inj (hnew.symm.trans hfound)
            rw [hroute]
            exact h ticket claim hclaim hstayed
          · rw [Locks.happen, claims_step_of_ne now l hk] at hfound
            exact h other found hfound hstays
  | leave ticket =>
      cases hclaim : l.claims[ticket]? with
      | none =>
          simp only [Locks.happen, Locks.leave, hclaim] at hfound
          exact h other found hfound hstays
      | some claim =>
          simp only [Locks.happen, Locks.leave, hclaim] at hfound
          rcases Table.of_getElem?_insert hfound with ⟨rfl, rfl⟩ | ⟨-, hold⟩
          · cases hstays
          · exact h other found hold hstays
  | sweep now ttl => exact h other found hfound hstays

theorem Asked.play (h : Asked requests l) (hcoherent : l.Coherent) (events : List (Event κ)) :
    Asked requests (l.play requests events) := by
  induction events generalizing l with
  | nil => exact h
  | cons event rest ih => exact ih (h.happen hcoherent event) (hcoherent.happen event)

/-- Locks that nobody has used yet, after anything has happened. -/
theorem coherent_played (requests : Nat → List κ) (events : List (Event κ)) :
    (play requests empty events).Coherent :=
  Coherent.empty.play events

theorem asked_played (requests : Nat → List κ) (events : List (Event κ)) :
    Asked requests (play requests empty events) := by
  refine Asked.play ?_ .empty events
  intro ticket claim hclaim
  simp [empty] at hclaim

end Cashbook.Locks
