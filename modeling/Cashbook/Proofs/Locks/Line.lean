/-
Tickets in line.

The line of a lock is whoever has it, followed by its queue.  A ticket joins at the end
and leaves from wherever it stands, and when the first leaves the next has the lock.
`InLine` says that the lines are what the claims make of them: a ticket stands in the
line of a lock exactly if its claim says so, once, and whoever says that it holds a key
is the first in the line of the lock.

There are only three ways in which an action can touch this.  It may leave every lock
alone and change what a ticket says without changing where it stands; it may add a
ticket at the end of one line; or it may take a ticket out of one.
-/
import Mathlib.Data.List.Nodup
import Cashbook.Proofs.Locks.Action

namespace Cashbook

/-! ### One line -/

namespace Lock

/-- Whoever has the lock, and then those that wait for it. -/
def line (lock : Lock) : List Nat := lock.holder.toList ++ lock.queue

/-- Nobody is in line twice, and nobody waits for a lock that nobody has. -/
structure Orderly (lock : Lock) : Prop where
  nodup : lock.line.Nodup
  taken : lock.holder = none → lock.queue = []

/-- The lock after a ticket has left its line. -/
def without (lock : Lock) (ticket : Nat) : Lock :=
  if lock.holder = some ticket then
    match lock.queue with
    | [] => ⟨none, []⟩
    | next :: rest => ⟨some next, rest⟩
  else { lock with queue := lock.queue.filter fun t => t != ticket }

/-- The lock after a ticket has come to its line. -/
def joined (lock : Lock) (ticket : Nat) : Lock :=
  match lock.holder with
  | none => { lock with holder := some ticket }
  | some _ => { lock with queue := lock.queue ++ [ticket] }

variable {lock : Lock} {ticket other : Nat}

theorem orderly_free : Orderly ⟨none, []⟩ := ⟨.nil, fun _ => rfl⟩

theorem Orderly.line_joined (h : lock.Orderly) (ticket : Nat) :
    (lock.joined ticket).line = lock.line ++ [ticket] := by
  obtain ⟨holder, queue⟩ := lock
  cases holder with
  | none =>
      obtain rfl : queue = [] := h.taken rfl
      rfl
  | some first => rfl

theorem Orderly.joined (h : lock.Orderly) (hnew : ticket ∉ lock.line) :
    (lock.joined ticket).Orderly := by
  refine ⟨?_, ?_⟩
  · rw [h.line_joined, List.nodup_append]
    refine ⟨h.nodup, List.nodup_singleton ticket, ?_⟩
    intro a ha b hb hab
    rw [List.mem_singleton.1 hb] at hab
    exact hnew (hab ▸ ha)
  · intro hnone
    obtain ⟨holder, queue⟩ := lock
    cases holder <;> cases hnone

theorem holder_joined (hother : lock.holder = some other) :
    (lock.joined ticket).holder = some other := by
  rw [Lock.joined, hother]

/-- Whoever leaves is no longer in line, and everybody else is where they were. -/
theorem Orderly.line_without (h : lock.Orderly) (ticket : Nat) :
    (lock.without ticket).line = lock.line.filter fun t => t != ticket := by
  obtain ⟨holder, queue⟩ := lock
  cases holder with
  | none =>
      obtain rfl : queue = [] := h.taken rfl
      rfl
  | some first =>
      unfold without
      by_cases hfirst : first = ticket
      · subst hfirst
        have hnot : first ∉ queue := (List.nodup_cons.1 h.nodup).1
        have hkept : queue.filter (fun t => t != first) = queue := by
          rw [List.filter_eq_self]
          intro t ht
          have hne : t ≠ first := fun heq => hnot (heq ▸ ht)
          simpa using hne
        rw [if_pos rfl]
        have hline : (⟨some first, queue⟩ : Lock).line.filter (fun t => t != first) = queue := by
          rw [line, Option.toList_some, List.singleton_append, List.filter_cons_of_neg (by simp),
            hkept]
        rw [hline]
        cases queue <;> rfl
      · rw [if_neg (by simpa using hfirst)]
        show _ = (first :: queue).filter _
        rw [List.filter_cons_of_pos (by simpa using hfirst)]
        rfl

theorem Orderly.mem_line_without (h : lock.Orderly) :
    other ∈ (lock.without ticket).line ↔ other ∈ lock.line ∧ other ≠ ticket := by
  rw [h.line_without, List.mem_filter, bne_iff_ne]

theorem Orderly.without (h : lock.Orderly) (ticket : Nat) : (lock.without ticket).Orderly := by
  refine ⟨?_, ?_⟩
  · rw [h.line_without]
    exact h.nodup.filter _
  · intro hnone
    obtain ⟨holder, queue⟩ := lock
    unfold Lock.without at hnone ⊢
    by_cases hholder : holder = some ticket
    · simp only [if_pos hholder] at hnone ⊢
      cases queue with
      | nil => rfl
      | cons next rest => cases hnone
    · simp only [if_neg hholder] at hnone ⊢
      have hempty : queue = [] := h.taken hnone
      rw [hempty]
      rfl

theorem holder_without (hne : other ≠ ticket) (hother : lock.holder = some other) :
    (lock.without ticket).holder = some other := by
  rw [Lock.without, if_neg (by rw [hother]; simpa using hne)]
  exact hother

end Lock

/-! ### All lines -/

namespace Locks

variable {κ : Type} [Ord κ]

/-- The lines are as the claims say. -/
structure InLine (l : Locks κ) : Prop where
  orderly : ∀ lock, (l.lockOf lock).Orderly
  mem_line_iff : ∀ lock ticket, ticket ∈ (l.lockOf lock).line ↔
    ∃ claim, l.claims[ticket]? = some claim ∧ lock ∈ claim.lines
  first : ∀ (ticket : Nat) (claim : Claim κ), l.claims[ticket]? = some claim →
    ∀ p ∈ claim.held, (l.lockOf p.2).holder = some ticket

variable {l m : Locks κ} {ticket lock : Nat} {claim new : Claim κ}

theorem inLine_empty : InLine (empty : Locks κ) where
  orderly lock := by
    have hfree : (empty : Locks κ).lockOf lock = ⟨none, []⟩ := by simp [lockOf, empty]
    rw [hfree]
    exact Lock.orderly_free
  mem_line_iff lock ticket := by simp [lockOf, empty, Lock.line]
  first ticket claim h := by simp [empty] at h

theorem InLine.mem_line_of_claimed (h : l.InLine) (hclaim : l.claims[ticket]? = some claim)
    (lock : Nat) : ticket ∈ (l.lockOf lock).line ↔ lock ∈ claim.lines := by
  rw [h.mem_line_iff, hclaim]
  simp

theorem InLine.not_mem_line_of_unclaimed (h : l.InLine) (hclaim : l.claims[ticket]? = none)
    (lock : Nat) : ticket ∉ (l.lockOf lock).line := by
  rw [h.mem_line_iff, hclaim]
  simp

/-- No lock changes, and one ticket says something else without standing elsewhere. -/
theorem InLine.restate (h : l.InLine) (hclaims : m.claims = l.claims.insert ticket new)
    (hlocks : m.locks = l.locks)
    (hlines : ∀ lock, ticket ∈ (l.lockOf lock).line ↔ lock ∈ new.lines)
    (hfirst : ∀ p ∈ new.held, (l.lockOf p.2).holder = some ticket) : m.InLine := by
  refine ⟨?_, ?_, ?_⟩
  · intro lock
    rw [lockOf_of_locks_eq hlocks]
    exact h.orderly lock
  · intro lock other
    rw [lockOf_of_locks_eq hlocks, hclaims]
    by_cases hk : ticket = other
    · subst hk
      rw [hlines, Std.ExtTreeMap.getElem?_insert_self]
      simp
    · rw [Table.getElem?_insert_of_ne _ _ hk]
      exact h.mem_line_iff lock other
  · intro other claim hclaim p hp
    rw [lockOf_of_locks_eq hlocks]
    rw [hclaims] at hclaim
    rcases Table.of_getElem?_insert hclaim with ⟨rfl, rfl⟩ | ⟨-, hold⟩
    · exact hfirst p hp
    · exact h.first other claim hold p hp

/-- A ticket that stands nowhere goes. -/
theorem InLine.forget (h : l.InLine) (hclaims : m.claims = l.claims.erase ticket)
    (hlocks : m.locks = l.locks) (hlines : ∀ lock, ticket ∉ (l.lockOf lock).line) : m.InLine := by
  refine ⟨?_, ?_, ?_⟩
  · intro lock
    rw [lockOf_of_locks_eq hlocks]
    exact h.orderly lock
  · intro lock other
    rw [lockOf_of_locks_eq hlocks, hclaims]
    by_cases hk : ticket = other
    · subst hk
      rw [Std.ExtTreeMap.getElem?_erase_self]
      simpa using hlines lock
    · rw [Table.getElem?_erase_of_ne _ hk]
      exact h.mem_line_iff lock other
  · intro other claim hclaim p hp
    rw [lockOf_of_locks_eq hlocks]
    rw [hclaims] at hclaim
    exact h.first other claim (Table.of_getElem?_erase hclaim).2 p hp

/-- One line changes, and only as far as one ticket is concerned. -/
private theorem InLine.rewrite (h : l.InLine) {row : Lock}
    (hclaim : l.claims[ticket]? = some claim)
    (hclaims : m.claims = l.claims.insert ticket new)
    (hlocks : m.locks = l.locks.insert lock row) (horderly : row.Orderly)
    (hself : ticket ∈ row.line ↔ lock ∈ new.lines)
    (hothers : ∀ other, ticket ≠ other → (other ∈ row.line ↔ other ∈ (l.lockOf lock).line))
    (hkeeps : ∀ other, ticket ≠ other → (l.lockOf lock).holder = some other →
      row.holder = some other)
    (hlines : ∀ other, lock ≠ other → (other ∈ new.lines ↔ other ∈ claim.lines))
    (hfirst : ∀ p ∈ new.held, (m.lockOf p.2).holder = some ticket) : m.InLine := by
  refine ⟨?_, ?_, ?_⟩
  · intro other
    rw [lockOf_of_locks_insert hlocks]
    split
    · exact horderly
    · exact h.orderly other
  · intro at_ other
    rw [lockOf_of_locks_insert hlocks, hclaims]
    by_cases hticket : ticket = other
    · subst hticket
      rw [Std.ExtTreeMap.getElem?_insert_self]
      by_cases hlock : lock = at_
      · subst hlock
        rw [if_pos rfl, hself]
        simp
      · rw [if_neg hlock, h.mem_line_of_claimed hclaim, ← hlines at_ hlock]
        simp
    · rw [Table.getElem?_insert_of_ne _ _ hticket, ← h.mem_line_iff]
      by_cases hlock : lock = at_
      · subst hlock
        rw [if_pos rfl]
        exact hothers other hticket
      · rw [if_neg hlock]
  · intro other found hfound p hp
    rw [hclaims] at hfound
    rcases Table.of_getElem?_insert hfound with ⟨rfl, rfl⟩ | ⟨hne, hold⟩
    · exact hfirst p hp
    · have hholder := h.first other found hold p hp
      rw [lockOf_of_locks_insert hlocks]
      by_cases hlock : lock = p.2
      · rw [if_pos hlock]
        exact hkeeps other (Ne.symm hne) (hlock ▸ hholder)
      · rw [if_neg hlock]
        exact hholder

/-- A ticket comes to a line in which it does not stand. -/
theorem InLine.join (h : l.InLine) (hclaim : l.claims[ticket]? = some claim)
    (hnew : lock ∉ claim.lines) (hclaims : m.claims = l.claims.insert ticket new)
    (hlocks : m.locks = l.locks.insert lock ((l.lockOf lock).joined ticket))
    (hlines : ∀ other, other ∈ new.lines ↔ other = lock ∨ other ∈ claim.lines)
    (hfirst : ∀ p ∈ new.held, (m.lockOf p.2).holder = some ticket) : m.InLine := by
  have horderly := h.orderly lock
  have hout : ticket ∉ (l.lockOf lock).line := by
    rw [h.mem_line_of_claimed hclaim]
    exact hnew
  have hline := horderly.line_joined ticket
  refine h.rewrite hclaim hclaims hlocks (horderly.joined hout) ?_ ?_ ?_ ?_ hfirst
  · rw [hline, hlines]
    simp
  · intro other hne
    rw [hline, List.mem_append, List.mem_singleton]
    exact or_iff_left (Ne.symm hne)
  · intro other _ hother
    exact Lock.holder_joined hother
  · intro other hne
    rw [hlines]
    exact or_iff_right (Ne.symm hne)

/-- A ticket leaves a line. -/
theorem InLine.quit (h : l.InLine) (hclaim : l.claims[ticket]? = some claim)
    (hclaims : m.claims = l.claims.insert ticket new)
    (hlocks : m.locks = l.locks.insert lock ((l.lockOf lock).without ticket))
    (hgone : lock ∉ new.lines)
    (hlines : ∀ other, lock ≠ other → (other ∈ new.lines ↔ other ∈ claim.lines))
    (hheld : ∀ p ∈ new.held, p ∈ claim.held) : m.InLine := by
  have horderly := h.orderly lock
  refine h.rewrite hclaim hclaims hlocks (horderly.without ticket) ?_ ?_ ?_ hlines ?_
  · rw [horderly.mem_line_without]
    simp [hgone]
  · intro other hne
    rw [horderly.mem_line_without]
    exact and_iff_left (Ne.symm hne)
  · intro other hne hother
    exact Lock.holder_without (Ne.symm hne) hother
  · intro p hp
    have hne : lock ≠ p.2 := by
      intro heq
      refine hgone ?_
      rw [heq]
      exact List.mem_append_right _ (List.mem_map_of_mem hp)
    rw [lockOf_of_locks_insert hlocks, if_neg hne]
    exact h.first ticket claim hclaim p (hheld p hp)

/-! ### What gives a lock up -/

/-- A lock is given up by whoever has it. -/
theorem release_eq (hholder : (l.lockOf lock).holder = some ticket) :
    l.release lock = { l with locks := l.locks.insert lock ((l.lockOf lock).without ticket) } := by
  cases hqueue : (l.lockOf lock).queue with
  | nil => simp only [release, Lock.without, hqueue, if_pos hholder]
  | cons next rest => simp only [release, Lock.without, hqueue, if_pos hholder]

theorem withdraw_eq (lock ticket : Nat) (l : Locks κ) :
    l.withdraw lock ticket =
      { l with locks := l.locks.insert lock ((l.lockOf lock).without ticket) } := by
  unfold withdraw
  by_cases hholder : (l.lockOf lock).holder = some ticket
  · simp only [if_pos hholder]
    exact release_eq hholder
  · simp only [if_neg hholder]
    rw [Lock.without, if_neg hholder]

end Locks

end Cashbook
