/-
What a ticket leaves behind.

A ticket may be told to leave wherever it is: before its first key, on the way to a lock,
in the queue, called and not yet come, or with all that it came for.  It then takes its
way back by itself, one action after another, and waits for nobody.  What it leaves behind
is what would be there without it.  Every line in which it stood goes on without it, in
the same order, every key that it was counted on counts one ticket less, and nobody else
has lost or gained a place.
-/
import Cashbook.Proofs.Locks.Accounting

namespace Cashbook.Locks

variable {κ : Type} [Ord κ] [Std.TransOrd κ]

/-- A ticket has given everything back, and all else is as it was. -/
structure Departed (l m : Locks κ) (ticket : Nat) : Prop where
  claims : m.claims = l.claims.erase ticket
  /-- The others stand where they stood. -/
  line : ∀ lock, (m.lockOf lock).line = (l.lockOf lock).line.filter fun t => t != ticket
  /-- Where the ticket was counted it is counted no longer. -/
  counted : ∀ key, l.IsWith ticket key → m.holders key + 1 = l.holders key
  uncounted : ∀ key, ¬l.IsWith ticket key → m.holders key = l.holders key

variable {l m : Locks κ} {now ticket lock : Nat} {claim : Claim κ} {key : κ}

/-! ### One action -/

/-- An action of a ticket moves nobody else in any line. -/
theorem InLine.line_of_acts (h : l.InLine) (hclaim : l.claims[ticket]? = some claim)
    (hacts : Acts now ticket l claim m) (lock : Nat) :
    (m.lockOf lock).line.filter (fun t => t != ticket) =
      (l.lockOf lock).line.filter fun t => t != ticket := by
  -- It writes one lock, and there only its own place.
  have hwrite : ∀ (at_ : Nat) (row : Lock) (new : Claim κ),
      (row.line.filter fun t => t != ticket) =
          ((l.lockOf at_).line.filter fun t => t != ticket) →
        ((setClaim { l with locks := l.locks.insert at_ row } ticket new).lockOf lock).line.filter
            (fun t => t != ticket) = (l.lockOf lock).line.filter fun t => t != ticket := by
    intro at_ row new hrow
    rw [lockOf_insert]
    by_cases hlock : at_ = lock
    · rw [if_pos hlock, hrow, hlock]
    · rw [if_neg hlock]
  have hjoined : ∀ at_, ((l.lockOf at_).joined ticket).line.filter (fun t => t != ticket) =
      (l.lockOf at_).line.filter fun t => t != ticket := by
    intro at_
    rw [(h.orderly at_).line_joined, List.filter_append]
    simp
  have hwithout : ∀ at_, ((l.lockOf at_).without ticket).line.filter (fun t => t != ticket) =
      (l.lockOf at_).line.filter fun t => t != ticket := by
    intro at_
    rw [(h.orderly at_).line_without, List.filter_filter]
    simp only [Bool.and_self]
  cases hacts with
  | wait _ _ | come _ | turnBack | go => rfl
  | @checkOut held key rest =>
      show ((l.checkOut now key).2.lockOf lock).line.filter _ = _
      rw [lockOf_of_locks_eq (locks_checkOut now key l)]
  | @checkIn held key at_ wanted leaving =>
      show ((l.checkIn now key).lockOf lock).line.filter _ = _
      rw [lockOf_of_locks_eq (locks_checkIn now key l)]
  | @take held key at_ wanted hfree =>
      refine hwrite at_ _ _ ?_
      rw [← hjoined at_, Lock.joined, hfree]
  | @join held key at_ other wanted hbusy =>
      refine hwrite at_ _ _ ?_
      rw [← hjoined at_, Lock.joined]
      simp only [hbusy]
  | @withdraw held key at_ wanted =>
      rw [withdraw_eq]
      exact hwrite at_ _ _ (hwithout at_)
  | @release held key at_ wanted =>
      rw [release_eq (h.first ticket _ hclaim _ List.mem_cons_self)]
      exact hwrite at_ _ _ (hwithout at_)

/-! ### Beginning to leave -/

omit [Std.TransOrd κ] in
theorem givesBack_leave (l : Locks κ) (ticket : Nat) : (l.leave ticket).GivesBack ticket := by
  intro found hfound
  unfold leave at hfound
  cases hclaim : l.claims[ticket]? with
  | none =>
      simp only [hclaim] at hfound
      cases hfound
  | some claim =>
      simp only [hclaim, setClaim, Std.ExtTreeMap.getElem?_insert_self] at hfound
      exact Option.some.inj hfound ▸ rfl

omit [Std.TransOrd κ] in
theorem erase_claims_leave (l : Locks κ) (ticket : Nat) :
    (l.leave ticket).claims.erase ticket = l.claims.erase ticket := by
  unfold leave
  cases l.claims[ticket]? with
  | none => rfl
  | some claim => exact Table.erase_insert l.claims ticket _

omit [Std.TransOrd κ] in
theorem lockOf_leave (l : Locks κ) (ticket lock : Nat) :
    (l.leave ticket).lockOf lock = l.lockOf lock := by
  unfold leave
  cases l.claims[ticket]? <;> rfl

omit [Std.TransOrd κ] in
theorem toGo_leave (l : Locks κ) (ticket : Nat) : (l.leave ticket).toGo ticket = l.toGo ticket := by
  unfold leave
  cases hclaim : l.claims[ticket]? with
  | none => rfl
  | some claim =>
      simp only [toGo, setClaim, Std.ExtTreeMap.getElem?_insert_self, hclaim, Option.map_some,
        Option.getD_some]
      rfl

/-! ### All the way -/

section

omit [Std.TransOrd κ]

theorem not_isWith_of_unclaimed (h : l.claims[ticket]? = none) (key : κ) :
    ¬l.IsWith ticket key := by
  intro hwith
  rcases hwith with (⟨claim, _, hclaim, -⟩ | ⟨claim, _, hclaim, -⟩) | ⟨claim, _, hclaim, -⟩
  all_goals
    rw [h] at hclaim
    cases hclaim

end

variable [DecidableEq κ]

/-- Where a ticket is gone, each key that it was with counts one less. -/
theorem Coherent.holders_of_erase (h : l.Coherent) (hm : m.Coherent)
    (hclaims : m.claims = l.claims.erase ticket) (key : κ) :
    (l.IsWith ticket key → m.holders key + 1 = l.holders key) ∧
      (¬l.IsWith ticket key → m.holders key = l.holders key) := by
  rw [hm.tallied, h.tallied, tally, tally, hclaims]
  cases hclaim : l.claims[ticket]? with
  | none =>
      rw [Table.erase_of_none hclaim]
      exact ⟨fun hwith => absurd hwith (not_isWith_of_unclaimed hclaim key), fun _ => rfl⟩
  | some claim =>
      have hcount := Table.count_erase
        (fun claim : Claim κ => decide (key ∈ claim.counted.map Prod.fst)) hclaim
      have hiff : l.IsWith ticket key ↔ key ∈ claim.counted.map Prod.fst := by
        rw [h.isWith_iff, hclaim]
        simp
      simp only [decide_eq_true_eq] at hcount
      constructor
      · intro hwith
        rw [if_pos (hiff.1 hwith)] at hcount
        exact hcount
      · intro hwithout
        rw [if_neg (hiff.not.1 hwithout)] at hcount
        exact hcount

variable [Std.LawfulEqOrd κ]

theorem Coherent.line_of_act (h : l.Coherent) (now n lock : Nat) :
    ((l.act now (List.replicate n ticket)).lockOf lock).line.filter (fun t => t != ticket) =
      (l.lockOf lock).line.filter fun t => t != ticket := by
  induction n generalizing l with
  | zero => rfl
  | succ n ih =>
      rw [List.replicate_succ]
      refine (ih (h.step now ticket)).trans ?_
      cases hclaim : l.claims[ticket]? with
      | none => rw [step_of_unclaimed hclaim]
      | some claim =>
          exact h.toInLine.line_of_acts hclaim (acts_step hclaim) lock

/-- **A ticket that is told to leave gives everything back, and leaves the rest as it was.** -/
theorem Coherent.departed (h : l.Coherent) (now ticket : Nat) :
    Departed l ((l.leave ticket).act now (List.replicate (l.toGo ticket) ticket)) ticket := by
  have hback := givesBack_leave l ticket
  have hclaims : ((l.leave ticket).act now (List.replicate (l.toGo ticket) ticket)).claims =
      l.claims.erase ticket := by
    rw [← toGo_leave, hback.gone now, erase_claims_leave]
  have hcoherent := (h.leave ticket).act now (List.replicate (l.toGo ticket) ticket)
  have hcount := h.holders_of_erase hcoherent hclaims
  refine ⟨hclaims, ?_, fun key => (hcount key).1, fun key => (hcount key).2⟩
  intro lock
  have hnone : ((l.leave ticket).act now (List.replicate (l.toGo ticket) ticket)).claims[ticket]? =
      none := by
    rw [hclaims, Std.ExtTreeMap.getElem?_erase_self]
  have hout := hcoherent.not_mem_line_of_unclaimed hnone lock
  rw [← lockOf_leave l ticket lock, ← (h.leave ticket).line_of_act now, List.filter_eq_self.2]
  intro other hother
  have hne : other ≠ ticket := fun heq => hout (heq ▸ hother)
  simpa using hne

end Cashbook.Locks
