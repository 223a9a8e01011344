/-
What one action of a ticket can be.

A ticket moves by single actions, and which one comes next is decided by its claim.
`Acts` lists them, each with the claim that it is taken from and with all that it leaves
behind, and `acts_step` says that the list is complete.  Every invariant of the locks is
a case analysis over this list, and nothing later opens `step` again.

Two readings of a claim carry those invariants.  `counted` are the keys whose entries
the ticket is counted on, whether it holds them or is with them on the way in or out;
an action at a lock does not change them.  `lines` are the locks in whose lines the
ticket stands, as the one that has the lock or as one of those that wait for it; an
action at the table does not change these.
-/
import Cashbook.Proofs.Locks.Alone

namespace Cashbook

/-! ### Readings of a claim -/

section

variable {κ : Type}

/-- The key that a ticket is with but does not hold, and its lock. -/
def Reach.at? : Reach κ → Option (κ × Nat)
  | .resting => none
  | .reaching key lock | .queueing key lock | .returning key lock => some (key, lock)

/-- The lock in whose queue a ticket is, or from whose queue it was called. -/
def Reach.queue? : Reach κ → Option Nat
  | .queueing _ lock => some lock
  | .resting | .reaching .. | .returning .. => none

namespace Claim

/-- The keys that a ticket is counted on and their locks, the latest first. -/
def counted (c : Claim κ) : List (κ × Nat) := c.reach.at?.toList ++ c.held

/-- The locks in whose lines a ticket stands. -/
def lines (c : Claim κ) : List Nat := c.reach.queue?.toList ++ c.held.map Prod.snd

/-- A ticket stands in the lines of those locks only whose keys it is counted on. -/
theorem exists_counted_of_mem_lines {c : Claim κ} {lock : Nat} (h : lock ∈ c.lines) :
    ∃ key, (key, lock) ∈ c.counted := by
  obtain ⟨held, reach, wanted, leaving⟩ := c
  rcases List.mem_append.1 h with hqueue | hheld
  · cases reach with
    | queueing key found =>
        obtain rfl : lock = found := List.mem_singleton.1 hqueue
        exact ⟨key, List.mem_cons_self⟩
    | resting | reaching _ _ | returning _ _ => cases hqueue
  · obtain ⟨⟨key, _⟩, hmem, rfl⟩ := List.mem_map.1 hheld
    exact ⟨key, List.mem_append_right _ hmem⟩

/-- The keys of a ticket: those it has come to, the first first, and then those it still wants. -/
def route (c : Claim κ) : List κ := (c.counted.map Prod.fst).reverse ++ c.wanted

/-- Once every key is held, the route of a ticket is the keys that it holds. -/
theorem IsComplete.keys_eq_route {c : Claim κ} (h : c.IsComplete) : c.keys = c.route := by
  obtain ⟨held, reach, wanted, leaving⟩ := c
  obtain ⟨-, hwanted, hreach⟩ := h
  cases reach with
  | resting =>
      simp only at hwanted
      simp [keys, route, counted, Reach.at?, hwanted]
  | reaching _ _ | queueing _ _ | returning _ _ => simp [Reach.isResting] at hreach

end Claim

end

/-! ### Actions -/

namespace Locks

variable {κ : Type} [Ord κ] [Std.TransOrd κ]

/-- One action of a ticket: the claim that it is taken from, and what it leaves. -/
inductive Acts (now ticket : Nat) (l : Locks κ) : Claim κ → Locks κ → Prop where
  /-- There is nothing to do, or the ticket is not called yet. -/
  | wait (claim : Claim κ) (stays : claim.leaving = false) : Acts now ticket l claim l
  | checkOut {held : List (κ × Nat)} {key : κ} {rest : List κ} :
      Acts now ticket l ⟨held, .resting, key :: rest, false⟩
        ((l.checkOut now key).2.setClaim ticket
          ⟨held, .reaching key (l.checkOut now key).1, rest, false⟩)
  | take {held : List (κ × Nat)} {key : κ} {lock : Nat} {wanted : List κ}
      (free : (l.lockOf lock).holder = none) :
      Acts now ticket l ⟨held, .reaching key lock, wanted, false⟩
        (setClaim { l with
            locks := l.locks.insert lock { l.lockOf lock with holder := some ticket } } ticket
          ⟨(key, lock) :: held, .resting, wanted, false⟩)
  | join {held : List (κ × Nat)} {key : κ} {lock other : Nat} {wanted : List κ}
      (busy : (l.lockOf lock).holder = some other) :
      Acts now ticket l ⟨held, .reaching key lock, wanted, false⟩
        (setClaim { l with
            locks := l.locks.insert lock
              { l.lockOf lock with queue := (l.lockOf lock).queue ++ [ticket] } } ticket
          ⟨held, .queueing key lock, wanted, false⟩)
  | come {held : List (κ × Nat)} {key : κ} {lock : Nat} {wanted : List κ}
      (called : (l.lockOf lock).holder = some ticket) :
      Acts now ticket l ⟨held, .queueing key lock, wanted, false⟩
        (l.setClaim ticket ⟨(key, lock) :: held, .resting, wanted, false⟩)
  | turnBack {held : List (κ × Nat)} {key : κ} {lock : Nat} {wanted : List κ} :
      Acts now ticket l ⟨held, .reaching key lock, wanted, true⟩
        (l.setClaim ticket ⟨held, .returning key lock, wanted, true⟩)
  | withdraw {held : List (κ × Nat)} {key : κ} {lock : Nat} {wanted : List κ} :
      Acts now ticket l ⟨held, .queueing key lock, wanted, true⟩
        ((l.withdraw lock ticket).setClaim ticket ⟨held, .returning key lock, wanted, true⟩)
  | release {held : List (κ × Nat)} {key : κ} {lock : Nat} {wanted : List κ} :
      Acts now ticket l ⟨(key, lock) :: held, .resting, wanted, true⟩
        ((l.release lock).setClaim ticket ⟨held, .returning key lock, wanted, true⟩)
  | checkIn {held : List (κ × Nat)} {key : κ} {lock : Nat} {wanted : List κ} {leaving : Bool} :
      Acts now ticket l ⟨held, .returning key lock, wanted, leaving⟩
        ((l.checkIn now key).setClaim ticket ⟨held, .resting, wanted, leaving⟩)
  | go {wanted : List κ} :
      Acts now ticket l ⟨[], .resting, wanted, true⟩ { l with claims := l.claims.erase ticket }

variable {l m : Locks κ} {now ticket : Nat} {claim new : Claim κ}

/-- **What a ticket does is one of the actions.** -/
theorem acts_step (hclaim : l.claims[ticket]? = some claim) :
    Acts now ticket l claim (l.step now ticket) := by
  rw [step_of_claimed hclaim]
  obtain ⟨held, reach, wanted, leaving⟩ := claim
  cases leaving with
  | true =>
      rw [if_pos rfl]
      cases reach with
      | reaching key lock => exact .turnBack
      | queueing key lock => exact .withdraw
      | returning key lock => exact .checkIn
      | resting =>
          cases held with
          | nil => exact .go
          | cons p rest => exact .release
  | false =>
      rw [if_neg (by simp)]
      cases reach with
      | reaching key lock =>
          unfold stepForward
          cases hholder : (l.lockOf lock).holder with
          | none =>
              simp only [hholder]
              exact .take hholder
          | some other =>
              simp only [hholder]
              exact hholder ▸ .join hholder
      | queueing key lock =>
          unfold stepForward
          by_cases hholder : (l.lockOf lock).holder = some ticket
          · simp only [if_pos hholder]
            exact .come hholder
          · simp only [if_neg hholder]
            exact .wait _ rfl
      | returning key lock => exact .checkIn
      | resting =>
          cases wanted with
          | nil => exact .wait _ rfl
          | cons key rest => exact .checkOut

theorem step_of_unclaimed (hclaim : l.claims[ticket]? = none) (now : Nat) :
    l.step now ticket = l := by
  rw [step, hclaim]

/-! ### What an action leaves alone -/

@[simp] theorem claims_checkOut (now : Nat) (key : κ) (l : Locks κ) :
    (l.checkOut now key).2.claims = l.claims := by
  unfold checkOut
  cases l.entries[key]? <;> rfl

@[simp] theorem locks_checkOut (now : Nat) (key : κ) (l : Locks κ) :
    (l.checkOut now key).2.locks = l.locks := by
  unfold checkOut
  cases l.entries[key]? <;> rfl

@[simp] theorem claims_checkIn (now : Nat) (key : κ) (l : Locks κ) :
    (l.checkIn now key).claims = l.claims := by
  unfold checkIn
  cases l.entries[key]? <;> rfl

@[simp] theorem locks_checkIn (now : Nat) (key : κ) (l : Locks κ) :
    (l.checkIn now key).locks = l.locks := by
  unfold checkIn
  cases l.entries[key]? <;> rfl

omit [Std.TransOrd κ] in
@[simp] theorem claims_withdraw (lock ticket : Nat) (l : Locks κ) :
    (l.withdraw lock ticket).claims = l.claims := by
  unfold withdraw
  by_cases h : (l.lockOf lock).holder = some ticket
  · simp only [if_pos h]
    rfl
  · simp only [if_neg h]

@[simp] theorem fresh_checkIn (now : Nat) (key : κ) (l : Locks κ) :
    (l.checkIn now key).fresh = l.fresh := by
  unfold checkIn
  cases l.entries[key]? <;> rfl

/-- An action changes no claim but that of the ticket that takes it. -/
theorem claims_of_acts [Std.LawfulEqOrd κ] (h : Acts now ticket l claim m) {other : Nat}
    (hne : ticket ≠ other) : m.claims[other]? = l.claims[other]? := by
  have hinsert : ∀ new : Claim κ, (l.claims.insert ticket new)[other]? = l.claims[other]? :=
    fun new => Table.getElem?_insert_of_ne _ _ hne
  cases h with
  | wait _ _ => rfl
  | checkOut =>
      show ((l.checkOut now _).2.claims.insert ticket _)[other]? = _
      rw [claims_checkOut]
      exact hinsert _
  | checkIn =>
      show ((l.checkIn now _).claims.insert ticket _)[other]? = _
      rw [claims_checkIn]
      exact hinsert _
  | withdraw =>
      show ((l.withdraw _ ticket).claims.insert ticket _)[other]? = _
      rw [claims_withdraw]
      exact hinsert _
  | take _ | join _ | come _ | turnBack | release => exact hinsert _
  | go => exact Table.getElem?_erase_of_ne _ hne

theorem claims_step_of_ne [Std.LawfulEqOrd κ] (now : Nat) (l : Locks κ) {other : Nat}
    (hne : ticket ≠ other) : (l.step now ticket).claims[other]? = l.claims[other]? := by
  cases hclaim : l.claims[ticket]? with
  | none => rw [step_of_unclaimed hclaim]
  | some claim => exact claims_of_acts (acts_step hclaim) hne

omit [Std.TransOrd κ] in
theorem claims_leave_of_ne (l : Locks κ) {other : Nat} (hne : ticket ≠ other) :
    (l.leave ticket).claims[other]? = l.claims[other]? := by
  unfold leave
  cases l.claims[ticket]? with
  | none => rfl
  | some claim => exact Table.getElem?_insert_of_ne _ _ hne

/-- What a ticket that takes an action says afterwards. -/
theorem claim_of_acts (hacts : Acts now ticket l claim m) (hclaim : l.claims[ticket]? = some claim)
    (hturned : ∀ key lock, claim.reach = .returning key lock → claim.leaving = true)
    (hnew : m.claims[ticket]? = some new) :
    new.leaving = claim.leaving ∧ new.route.Sublist claim.route ∧
      ∀ key lock, new.reach = .returning key lock → new.leaving = true := by
  have hself : ∀ {n : Locks κ} {said : Claim κ},
      (n.setClaim ticket said).claims[ticket]? = some new → new = said := by
    intro n said hsaid
    rw [setClaim, Std.ExtTreeMap.getElem?_insert_self] at hsaid
    exact (Option.some.inj hsaid).symm
  cases hacts with
  | wait _ _ =>
      obtain rfl := Option.some.inj (hclaim.symm.trans hnew)
      exact ⟨rfl, .refl _, hturned⟩
  | checkOut =>
      obtain rfl := hself hnew
      refine ⟨rfl, ?_, by simp⟩
      simp [Claim.route, Claim.counted, Reach.at?]
  | take _ | join _ | come _ =>
      obtain rfl := hself hnew
      exact ⟨rfl, .refl _, by simp⟩
  | turnBack | withdraw | release =>
      obtain rfl := hself hnew
      exact ⟨rfl, .refl _, fun _ _ _ => rfl⟩
  | checkIn =>
      -- The last key that the ticket came to drops out of its route.
      obtain rfl := hself hnew
      refine ⟨rfl, ?_, by simp⟩
      simp [Claim.route, Claim.counted, Reach.at?]
  | go => simp at hnew

/-- A ticket that does not leave keeps its route. -/
theorem route_of_acts (h : Acts now ticket l claim m) (hclaim : l.claims[ticket]? = some claim)
    (hstays : claim.leaving = false)
    (hturned : ∀ key lock, claim.reach ≠ .returning key lock) :
    ∃ new, m.claims[ticket]? = some new ∧ new.leaving = false ∧ new.route = claim.route := by
  have hself : ∀ {n : Locks κ} (new : Claim κ),
      (n.setClaim ticket new).claims[ticket]? = some new :=
    fun _ => Std.ExtTreeMap.getElem?_insert_self
  cases h with
  | wait _ _ => exact ⟨claim, hclaim, hstays, rfl⟩
  | checkOut => exact ⟨_, hself _, rfl, by simp [Claim.route, Claim.counted, Reach.at?]⟩
  | take _ | join _ | come _ => exact ⟨_, hself _, rfl, by simp [Claim.route, Claim.counted, Reach.at?]⟩
  | checkIn => exact absurd rfl (hturned _ _)
  | turnBack | withdraw | release | go => cases hstays

end Locks

end Cashbook
