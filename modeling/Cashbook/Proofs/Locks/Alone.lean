/-
A ticket with the locks to itself.

If nobody else has a key or wants one, a ticket never has to wait: each key takes it two
actions, one at the table and one at the lock, and giving a key back takes it two as
well.  What makes this so is that different keys are guarded by different locks, so that
a ticket cannot stand in its own way.  Entries are written and counted meanwhile, but
which lock guards a key does not change once it is written (`guard?`).
-/
import Cashbook.Locks
import Cashbook.Proofs.Table

namespace Cashbook.Locks

variable {κ : Type} [Ord κ] [Std.TransOrd κ]

/-- The lock that guards a key, once it is written in the table. -/
def guard? (l : Locks κ) (key : κ) : Option Nat := l.entries[key]?.map LockEntry.lock

/-- Different keys are guarded by different locks, none of which is still to be made. -/
structure Sound (l : Locks κ) : Prop where
  made : ∀ (key : κ) (lock : Nat), l.guard? key = some lock → lock < l.fresh
  apart : ∀ (key other : κ) (lock : Nat), l.guard? key = some lock → l.guard? other = some lock →
    key = other

/-- Nobody has a key or wants one. -/
structure Idle (l : Locks κ) : Prop extends Sound l where
  unclaimed : ∀ ticket : Nat, l.claims[ticket]? = none
  free : ∀ lock, l.lockOf lock = ⟨none, []⟩

/-- One ticket has keys or wants some, and nobody else. -/
structure Alone (l : Locks κ) (ticket : Nat) (claim : Claim κ) : Prop extends Sound l where
  claimed : l.claims[ticket]? = some claim
  others : ∀ other : Nat, ticket ≠ other → l.claims[other]? = none
  guarded : ∀ p ∈ claim.held, l.guard? p.1 = some p.2
  queues : ∀ lock, (l.lockOf lock).queue = []
  free : ∀ lock, (∀ p ∈ claim.held, p.2 ≠ lock) → (l.lockOf lock).holder = none

variable {l m : Locks κ} {ticket : Nat} {claim : Claim κ} {held : List (κ × Nat)} {key : κ}
  {rest wanted : List κ}

theorem idle_empty : Idle (empty : Locks κ) where
  made _ _ h := by simp [guard?, empty] at h
  apart _ _ _ h := by simp [guard?, empty] at h
  unclaimed _ := by simp [empty]
  free _ := by simp [lockOf, empty]

/-- Soundness is about the guards of the keys alone. -/
theorem Sound.of_guard (h : l.Sound) (hguard : ∀ key, m.guard? key = l.guard? key)
    (hfresh : m.fresh = l.fresh) : m.Sound := by
  constructor
  · intro key lock hkey
    rw [hguard] at hkey
    rw [hfresh]
    exact h.made key lock hkey
  · intro key other lock hkey hother
    rw [hguard] at hkey hother
    exact h.apart key other lock hkey hother

/-! ### What a ticket says and does -/

/-- The keys of a list in ascending order come once each. -/
theorem nodup_ascending (keys : List κ) : (ascending keys).Nodup :=
  Std.ExtTreeMap.nodup_keys

/-- The lock that a ticket is sent to is the one that guarded the key, or a new one. -/
theorem fst_checkOut (now : Nat) (key : κ) (l : Locks κ) :
    (l.guard? key = some (l.checkOut now key).1 ∧ (l.checkOut now key).2.fresh = l.fresh) ∨
      ((l.checkOut now key).1 = l.fresh ∧ (l.checkOut now key).2.fresh = l.fresh + 1) := by
  unfold checkOut guard?
  cases l.entries[key]? with
  | none => exact Or.inr ⟨rfl, rfl⟩
  | some entry => exact Or.inl ⟨rfl, rfl⟩

omit [Std.TransOrd κ] in
theorem lockOf_of_locks_eq (hlocks : m.locks = l.locks) (lock : Nat) :
    m.lockOf lock = l.lockOf lock := by
  rw [lockOf, lockOf, hlocks]

omit [Std.TransOrd κ] in
/-- A lock that is written is that lock, and every other is as it was. -/
theorem lockOf_of_locks_insert {lock : Nat} {row : Lock}
    (hlocks : m.locks = l.locks.insert lock row) (other : Nat) :
    m.lockOf other = if lock = other then row else l.lockOf other := by
  unfold lockOf
  rw [hlocks]
  by_cases hk : lock = other
  · subst hk
    rw [if_pos rfl, Std.ExtTreeMap.getElem?_insert_self]
    rfl
  · rw [if_neg hk, Table.getElem?_insert_of_ne _ _ hk]

omit [Std.TransOrd κ] in
/-- The same where a ticket writes a lock and says so. -/
theorem lockOf_insert (l : Locks κ) (lock : Nat) (row : Lock) (ticket : Nat) (claim : Claim κ)
    (other : Nat) :
    (setClaim { l with locks := l.locks.insert lock row } ticket claim).lockOf other =
      if lock = other then row else l.lockOf other :=
  lockOf_of_locks_insert rfl other

/-- A ticket may say something else about its keys than it did, as long as it has the same. -/
theorem Alone.setClaim (h : l.Alone ticket claim) {next : Claim κ}
    (hheld : next.held = claim.held) : (l.setClaim ticket next).Alone ticket next where
  toSound := h.toSound.of_guard (fun _ => rfl) rfl
  claimed := Std.ExtTreeMap.getElem?_insert_self
  others other hother := by
    rw [← h.others other hother]
    exact Table.getElem?_insert_of_ne _ _ hother
  guarded p hp := h.guarded p (hheld ▸ hp)
  queues := h.queues
  free lock hlock := h.free lock (hheld ▸ hlock)

/-- A ticket has what it had, if nothing but the table has changed and its keys kept their locks. -/
theorem Alone.of_entries (h : l.Alone ticket claim) (hsound : m.Sound)
    (hclaims : m.claims = l.claims) (hlocks : m.locks = l.locks)
    (hguarded : ∀ p ∈ claim.held, m.guard? p.1 = some p.2) :
    m.Alone ticket claim := by
  refine ⟨hsound, ?_, ?_, hguarded, ?_, ?_⟩
  · rw [hclaims]
    exact h.claimed
  · rw [hclaims]
    exact h.others
  · intro lock
    rw [lockOf_of_locks_eq hlocks]
    exact h.queues lock
  · intro lock hnot
    rw [lockOf_of_locks_eq hlocks]
    exact h.free lock hnot

/-- Where nobody wants a key, whoever begins to is alone. -/
theorem Idle.start (h : l.Idle) (ticket : Nat) (keys : List κ) :
    (l.start ticket keys).Alone ticket ⟨[], .resting, ascending keys, false⟩ where
  toSound := h.toSound.of_guard (fun _ => rfl) rfl
  claimed := Std.ExtTreeMap.getElem?_insert_self
  others other hother := by
    rw [← h.unclaimed other]
    exact Table.getElem?_insert_of_ne _ _ hother
  guarded p hp := by simp at hp
  queues lock := congrArg Lock.queue (h.free lock)
  free lock _ := congrArg Lock.holder (h.free lock)

theorem step_of_claimed (hclaim : l.claims[ticket]? = some claim) (now : Nat) :
    l.step now ticket =
      if claim.leaving then l.stepBack now ticket claim else l.stepForward now ticket claim := by
  rw [step, hclaim]

theorem Alone.leave (h : l.Alone ticket claim) :
    (l.leave ticket).Alone ticket { claim with leaving := true } := by
  rw [Locks.leave, h.claimed]
  exact h.setClaim rfl

theorem Idle.leave (h : l.Idle) (ticket : Nat) : l.leave ticket = l := by
  rw [Locks.leave, h.unclaimed]

/-- A ticket that has given everything back is gone. -/
theorem Alone.idle (h : l.Alone ticket ⟨[], .resting, wanted, true⟩) (now : Nat) :
    (l.step now ticket).Idle := by
  have hstep : l.step now ticket = { l with claims := l.claims.erase ticket } :=
    step_of_claimed h.claimed now
  rw [hstep]
  refine ⟨h.toSound.of_guard (fun _ => rfl) rfl, ?_, ?_⟩
  · intro other
    by_cases hk : ticket = other
    · rw [← hk]
      exact Std.ExtTreeMap.getElem?_erase_self
    · rw [← h.others other hk]
      exact Table.getElem?_erase_of_ne _ hk
  · intro lock
    have hholder := h.free lock (by simp)
    have hqueue := h.queues lock
    show l.lockOf lock = _
    cases hl : l.lockOf lock with
    | mk holder queue =>
        rw [hl] at hholder hqueue
        simp only at hholder hqueue
        rw [hholder, hqueue]

variable [Std.LawfulEqOrd κ]

/-! ### Giving a key back -/

theorem guard?_checkIn (now : Nat) (key : κ) (l : Locks κ) (other : κ) :
    (l.checkIn now key).guard? other = l.guard? other := by
  unfold checkIn
  cases hentry : l.entries[key]? with
  | none => rfl
  | some entry =>
      simp only [guard?]
      by_cases hk : key = other
      · subst hk
        rw [Std.ExtTreeMap.getElem?_insert_self, hentry]
        rfl
      · rw [Table.getElem?_insert_of_ne _ _ hk]

/-- A ticket that is counted off has what it had. -/
theorem Alone.checkIn (h : l.Alone ticket claim) (now : Nat) (key : κ) :
    (l.checkIn now key).Alone ticket claim := by
  have hsame : (l.checkIn now key).claims = l.claims ∧ (l.checkIn now key).locks = l.locks ∧
      (l.checkIn now key).fresh = l.fresh := by
    unfold Locks.checkIn
    cases l.entries[key]? <;> exact ⟨rfl, rfl, rfl⟩
  obtain ⟨hclaims, hlocks, hfresh⟩ := hsame
  have hsound : (l.checkIn now key).Sound := h.toSound.of_guard (guard?_checkIn now key l) hfresh
  refine h.of_entries hsound hclaims hlocks ?_
  intro p hp
  rw [guard?_checkIn]
  exact h.guarded p hp

/-- A ticket alone gives a key back in two actions. -/
theorem Alone.giveBack {lock : Nat}
    (h : l.Alone ticket ⟨(key, lock) :: held, .resting, wanted, true⟩) (now : Nat) :
    ((l.step now ticket).step now ticket).Alone ticket ⟨held, .resting, wanted, true⟩ := by
  have hqueue := h.queues lock
  have hrelease : l.step now ticket =
      Locks.setClaim { l with locks := l.locks.insert lock ⟨none, []⟩ } ticket
        ⟨held, .returning key lock, wanted, true⟩ := by
    rw [step_of_claimed h.claimed]
    simp only [stepBack, release, hqueue, if_true]
  have hreturning : (l.step now ticket).Alone ticket ⟨held, .returning key lock, wanted, true⟩ := by
    rw [hrelease]
    exact {
      toSound := h.toSound.of_guard (fun _ => rfl) rfl
      claimed := Std.ExtTreeMap.getElem?_insert_self
      others := fun other hne => by
        rw [← h.others other hne]
        exact Table.getElem?_insert_of_ne _ _ hne
      guarded := fun p hp => h.guarded p (List.mem_cons_of_mem _ hp)
      queues := fun other => by
        rw [lockOf_insert]
        split
        · rfl
        · exact h.queues other
      free := fun other hnot => by
        rw [lockOf_insert]
        split
        · rfl
        · next hne =>
          refine h.free other ?_
          intro p hp
          rcases List.mem_cons.1 hp with rfl | hp
          · exact hne
          · exact hnot p hp }
  have hcount : (l.step now ticket).step now ticket =
      ((l.step now ticket).checkIn now key).setClaim ticket ⟨held, .resting, wanted, true⟩ :=
    step_of_claimed hreturning.claimed now
  rw [hcount]
  exact (hreturning.checkIn now key).setClaim rfl

/-! ### Taking a key -/

variable [DecidableEq κ]

/-- Counting a ticket writes the lock of a key down if it was not, and no other. -/
theorem guard?_checkOut (now : Nat) (key : κ) (l : Locks κ) (other : κ) :
    (l.checkOut now key).2.guard? other =
      if key = other then some (l.checkOut now key).1 else l.guard? other := by
  unfold checkOut
  by_cases hk : key = other
  · subst hk
    rw [if_pos rfl]
    cases l.entries[key]? with
    | none => simp [guard?]
    | some entry => simp [guard?]
  · rw [if_neg hk]
    cases l.entries[key]? with
    | none =>
        simp only [guard?]
        rw [Table.getElem?_insert_of_ne _ _ hk]
    | some entry =>
        simp only [guard?]
        rw [Table.getElem?_insert_of_ne _ _ hk]

theorem Sound.checkOut (h : l.Sound) (now : Nat) (key : κ) : (l.checkOut now key).2.Sound := by
  rcases fst_checkOut now key l with ⟨hold, hfresh⟩ | ⟨hnew, hfresh⟩
  · -- The key had its lock before, so nothing is guarded by another lock than it was.
    refine h.of_guard ?_ hfresh
    intro other
    rw [guard?_checkOut]
    split
    · next hk => rw [← hk, hold]
    · rfl
  · constructor
    · intro other lock hother
      rw [guard?_checkOut] at hother
      rw [hfresh]
      split at hother
      · rw [← Option.some.inj hother, hnew]
        omega
      · have hlt := h.made other lock hother
        omega
    · intro first second lock hfirst hsecond
      rw [guard?_checkOut, hnew] at hfirst hsecond
      split at hfirst <;> split at hsecond
      · next hk hk' => rw [← hk, hk']
      · have hlt := h.made second lock hsecond
        have heq := Option.some.inj hfirst
        omega
      · have hlt := h.made first lock hfirst
        have heq := Option.some.inj hsecond
        omega
      · exact h.apart first second lock hfirst hsecond

/-- The action at the table: the ticket is sent to a lock that is none of its own. -/
theorem Alone.checkOut (h : l.Alone ticket ⟨held, .resting, key :: rest, false⟩)
    (hnew : ∀ p ∈ held, p.1 ≠ key) (now : Nat) :
    ∃ lock, (l.step now ticket).Alone ticket ⟨held, .reaching key lock, rest, false⟩ ∧
      (l.step now ticket).guard? key = some lock ∧ ∀ p ∈ held, p.2 ≠ lock := by
  have hstep : l.step now ticket = (l.checkOut now key).2.setClaim ticket
      ⟨held, .reaching key (l.checkOut now key).1, rest, false⟩ := step_of_claimed h.claimed now
  have hsame :
      (l.checkOut now key).2.claims = l.claims ∧ (l.checkOut now key).2.locks = l.locks := by
    unfold Locks.checkOut
    cases l.entries[key]? <;> exact ⟨rfl, rfl⟩
  obtain ⟨hclaims, hlocks⟩ := hsame
  have hsound := h.toSound.checkOut now key
  have hguarded : ∀ p ∈ held, (l.checkOut now key).2.guard? p.1 = some p.2 := by
    intro p hp
    rw [guard?_checkOut, if_neg (Ne.symm (hnew p hp))]
    exact h.guarded p hp
  have hkey : (l.checkOut now key).2.guard? key = some (l.checkOut now key).1 := by
    rw [guard?_checkOut, if_pos rfl]
  have halone : (l.checkOut now key).2.Alone ticket ⟨held, .resting, key :: rest, false⟩ :=
    h.of_entries hsound hclaims hlocks hguarded
  rw [hstep]
  refine ⟨_, halone.setClaim rfl, hkey, ?_⟩
  intro p hp heq
  exact hnew p hp (hsound.apart p.1 key _ (heq ▸ hguarded p hp) hkey)

/-- A ticket alone takes a key in two actions. -/
theorem Alone.take (h : l.Alone ticket ⟨held, .resting, key :: rest, false⟩)
    (hnew : ∀ p ∈ held, p.1 ≠ key) (now : Nat) :
    ∃ lock, ((l.step now ticket).step now ticket).Alone ticket
      ⟨(key, lock) :: held, .resting, rest, false⟩ := by
  obtain ⟨lock, hreaching, hkey, hother⟩ := h.checkOut hnew now
  have hfree := hreaching.free lock hother
  have hstep : (l.step now ticket).step now ticket =
      Locks.setClaim { l.step now ticket with
        locks := (l.step now ticket).locks.insert lock
          { (l.step now ticket).lockOf lock with holder := some ticket } } ticket
        ⟨(key, lock) :: held, .resting, rest, false⟩ := by
    rw [step_of_claimed hreaching.claimed]
    simp only [stepForward, hfree]
    rfl
  rw [hstep]
  exact ⟨lock, {
    toSound := hreaching.toSound.of_guard (fun _ => rfl) rfl
    claimed := Std.ExtTreeMap.getElem?_insert_self
    others := fun other hne => by
      rw [← hreaching.others other hne]
      exact Table.getElem?_insert_of_ne _ _ hne
    guarded := fun p hp => by
      rcases List.mem_cons.1 hp with rfl | hp
      · exact hkey
      · exact hreaching.guarded p hp
    queues := fun other => by
      rw [lockOf_insert]
      split
      · exact hreaching.queues lock
      · exact hreaching.queues other
    free := fun other hnot => by
      rw [lockOf_insert, if_neg (hnot _ List.mem_cons_self)]
      exact hreaching.free other fun p hp => hnot p (List.mem_cons_of_mem _ hp) }⟩

end Cashbook.Locks
