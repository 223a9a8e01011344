/-
No ticket waits for itself.

A ticket that waits for a key has only keys that come before it.  So along a chain of
tickets that wait for each other the keys ascend, and the chain does not close.

That something can go on is the same observation, made of the greatest key that any
ticket comes to next.  Nobody has that key and still wants another, since the other would
be greater.  So its lock is free, or given to a ticket that has been called and need only
come.  Tickets that are leaving are let go first: they wait for nobody, and each goes in
a bounded number of actions.
-/
import Mathlib.Logic.Relation
import Cashbook.Proofs.Locks.Exclusion

namespace Cashbook

/-- The key that a ticket comes to next: it is with the key already, or still wants it. -/
def Claim.next? {κ : Type} (c : Claim κ) : Option κ := (c.reach.at?.map Prod.fst).or c.wanted.head?

/-- At least as many actions as a ticket that is leaving takes to be with no key but those it has. -/
def Reach.toGo {κ : Type} : Reach κ → Nat
  | .resting => 0
  | .returning .. => 1
  | .reaching .. | .queueing .. => 2

/-- At least as many actions as a ticket that is leaving takes, but for the last. -/
def Claim.toGo {κ : Type} (c : Claim κ) : Nat := 2 * c.held.length + c.reach.toGo

namespace Claim

variable {κ : Type} {c : Claim κ} {key : κ}

/-- The next key stands on the route right after the keys that are held. -/
theorem exists_route_eq (h : c.next? = some key) : ∃ rest, c.route = c.keys ++ key :: rest := by
  obtain ⟨held, reach, wanted, leaving⟩ := c
  cases reach with
  | resting =>
      cases wanted with
      | nil => cases h
      | cons first rest =>
          obtain rfl : first = key := Option.some.inj h
          exact ⟨rest, rfl⟩
  | reaching at_ lock | queueing at_ lock | returning at_ lock =>
      obtain rfl : at_ = key := Option.some.inj h
      exact ⟨wanted, by simp [route, counted, keys, Reach.at?]⟩

/-- Without a next key, a ticket that stays has them all. -/
theorem isComplete_of_next? (h : c.next? = none) (hstays : c.leaving = false) : c.IsComplete := by
  obtain ⟨held, reach, wanted, leaving⟩ := c
  cases reach with
  | resting =>
      cases wanted with
      | nil => exact ⟨hstays, rfl, rfl⟩
      | cons first rest => cases h
  | reaching _ _ | queueing _ _ | returning _ _ => cases h

end Claim

namespace Locks

variable {κ : Type} [Ord κ]

/-- A ticket is with a key that it does not have. -/
def Awaits (l : Locks κ) (ticket : Nat) (key : κ) : Prop :=
  ∃ claim lock, l.claims[ticket]? = some claim ∧
    (claim.reach = .reaching key lock ∨ claim.reach = .queueing key lock) ∧
      (l.lockOf lock).holder ≠ some ticket

/-- A ticket is with a key that another has. -/
def WaitsFor (l : Locks κ) (ticket other : Nat) : Prop :=
  ∃ key, l.Awaits ticket key ∧ l.Holds other key

/-- A ticket has not got all its keys yet, and still wants them. -/
def IsPending (l : Locks κ) (ticket : Nat) : Prop :=
  ∃ claim, l.claims[ticket]? = some claim ∧ claim.leaving = false ∧ ¬ claim.IsComplete

/-- A ticket gives back what it has. -/
def IsLeaving (l : Locks κ) (ticket : Nat) : Prop :=
  ∃ claim, l.claims[ticket]? = some claim ∧ claim.leaving = true

/-- A ticket gives back what it has, if it has anything. -/
def GivesBack (l : Locks κ) (ticket : Nat) : Prop :=
  ∀ claim : Claim κ, l.claims[ticket]? = some claim → claim.leaving = true

/-- At least as many actions as a ticket that is leaving takes to be gone. -/
def toGo (l : Locks κ) (ticket : Nat) : Nat :=
  (l.claims[ticket]?.map fun claim => claim.toGo + 1).getD 0

/-- A ticket has been called to the key that it waits for. -/
def IsCalled (l : Locks κ) (ticket : Nat) : Prop :=
  ∃ held key lock wanted, l.claims[ticket]? = some ⟨held, .queueing key lock, wanted, false⟩ ∧
    (l.lockOf lock).holder = some ticket

variable [Std.TransOrd κ]

/-- Tickets act one after another. -/
def act (now : Nat) (l : Locks κ) (tickets : List Nat) : Locks κ :=
  tickets.foldl (fun l ticket => l.step now ticket) l

/-- A ticket has one key more than it had, which is the next one. -/
def Gains (l m : Locks κ) (ticket : Nat) : Prop :=
  ∃ claim new key, l.claims[ticket]? = some claim ∧ claim.next? = some key ∧
    m.claims[ticket]? = some new ∧ new.leaving = false ∧ new.keys = claim.keys ++ [key]

/-- A ticket gains a key if it acts, and nobody else does but those that are leaving. -/
def CanTake (now : Nat) (l : Locks κ) (ticket : Nat) : Prop :=
  ∃ tickets : List Nat, (∀ other ∈ tickets, other = ticket ∨ l.IsLeaving other) ∧
    l.Gains (l.act now tickets) ticket

variable {l m : Locks κ} {now ticket other : Nat} {claim : Claim κ} {key next : κ}

/-! ### Chains of tickets that wait -/

section

variable [DecidableEq κ]

/-- What a ticket comes to next is beyond all that it has. -/
theorem Coherent.lt_next (h : l.Coherent) (hclaim : l.claims[ticket]? = some claim)
    (hnext : claim.next? = some next) (hkey : key ∈ claim.keys) : compare key next = .lt := by
  have hroute := h.ascending ticket claim hclaim
  obtain ⟨rest, heq⟩ := Claim.exists_route_eq hnext
  rw [heq] at hroute
  exact (List.pairwise_append.1 hroute).2.2 key hkey next List.mem_cons_self

theorem Coherent.lt_of_awaits (h : l.Coherent) (hholds : l.Holds ticket key)
    (hawaits : l.Awaits ticket next) : compare key next = .lt := by
  obtain ⟨claim, lock, hclaim, hreach, hholder⟩ := hawaits
  obtain ⟨same, taken, hsame, htaken⟩ := hholds
  obtain rfl := Option.some.inj (hclaim.symm.trans hsame)
  have hnext : claim.next? = some next := by
    rcases hreach with hreach | hreach
    · rw [Claim.next?, hreach]
      rfl
    · rw [Claim.next?, hreach]
      rfl
  rcases htaken with hheld | ⟨hcalled, hfirst⟩
  · refine h.lt_next hclaim hnext ?_
    rw [Claim.keys, List.mem_reverse]
    exact List.mem_map_of_mem hheld
  · -- Who has been called to a key does not wait for it.
    rw [hcalled] at hreach
    rcases hreach with hreach | hreach
    · cases hreach
    · cases hreach
      exact absurd hfirst hholder

/-- Along a chain of tickets that wait, the keys ascend. -/
theorem Coherent.ascending_of_waitsFor (h : l.Coherent)
    (hchain : Relation.TransGen l.WaitsFor ticket other) :
    ∃ key next, l.Awaits ticket key ∧ l.Holds other next ∧
      (key = next ∨ compare key next = .lt) := by
  induction hchain with
  | single hwaits =>
      obtain ⟨key, hawaits, hholds⟩ := hwaits
      exact ⟨key, key, hawaits, hholds, Or.inl rfl⟩
  | tail _ hwaits ih =>
      obtain ⟨key, middle, hawaits, hmiddle, hle⟩ := ih
      obtain ⟨next, hnext, hholds⟩ := hwaits
      have hlt := h.lt_of_awaits hmiddle hnext
      refine ⟨key, next, hawaits, hholds, Or.inr ?_⟩
      rcases hle with rfl | hle
      · exact hlt
      · exact Std.TransCmp.lt_trans hle hlt

theorem Coherent.not_waitsFor_self (h : l.Coherent) (ticket : Nat) :
    ¬ Relation.TransGen l.WaitsFor ticket ticket := by
  intro hchain
  obtain ⟨key, next, hawaits, hholds, hle⟩ := h.ascending_of_waitsFor hchain
  have hlt := h.lt_of_awaits hholds hawaits
  rcases hle with rfl | hle
  · rw [Std.compare_self] at hlt
    cases hlt
  · exact Std.OrientedCmp.not_lt_of_lt hle hlt

end

/-! ### Letting tickets go -/

/-- A ticket that is leaving is gone, or has less to give back. -/
theorem claims_of_leaving (hacts : Acts now ticket l claim m) (hleaving : claim.leaving = true) :
    m.claims = l.claims.erase ticket ∨
      ∃ new, m.claims = l.claims.insert ticket new ∧ new.leaving = true ∧ new.toGo < claim.toGo := by
  cases hacts with
  | wait _ hstays =>
      rw [hstays] at hleaving
      cases hleaving
  | checkOut | take _ | join _ | come _ => cases hleaving
  | turnBack => exact Or.inr ⟨_, rfl, rfl, by simp [Claim.toGo, Reach.toGo]⟩
  | @withdraw held key lock wanted =>
      refine Or.inr ⟨⟨held, .returning key lock, wanted, true⟩, ?_, rfl, ?_⟩
      · rw [setClaim, claims_withdraw]
      · simp [Claim.toGo, Reach.toGo]
  | release =>
      refine Or.inr ⟨_, rfl, rfl, ?_⟩
      simp only [Claim.toGo, Reach.toGo, List.length_cons]
      omega
  | @checkIn held key lock wanted leaving =>
      refine Or.inr ⟨⟨held, .resting, wanted, leaving⟩, ?_, hleaving, ?_⟩
      · rw [setClaim, claims_checkIn]
      · simp [Claim.toGo, Reach.toGo]
  | go => exact Or.inl rfl

/-- An action of a ticket that is leaving takes it closer to being gone, and no other is concerned. -/
theorem GivesBack.step (h : l.GivesBack ticket) (now : Nat) :
    (l.step now ticket).GivesBack ticket ∧
      (l.step now ticket).claims.erase ticket = l.claims.erase ticket ∧
        (l.step now ticket).toGo ticket ≤ l.toGo ticket - 1 := by
  cases hclaim : l.claims[ticket]? with
  | none =>
      rw [step_of_unclaimed hclaim]
      exact ⟨h, rfl, by simp [toGo, hclaim]⟩
  | some claim =>
      rcases claims_of_leaving (acts_step hclaim) (h claim hclaim) with
        hgone | ⟨new, hclaims, hstill, hlt⟩
      · have hnone : (l.step now ticket).claims[ticket]? = none := by
          rw [hgone, Std.ExtTreeMap.getElem?_erase_self]
        refine ⟨?_, ?_, by simp [toGo, hnone]⟩
        · intro found hfound
          rw [hnone] at hfound
          cases hfound
        · rw [hgone, Table.erase_erase]
      · have hnew : (l.step now ticket).claims[ticket]? = some new := by
          rw [hclaims, Std.ExtTreeMap.getElem?_insert_self]
        refine ⟨?_, ?_, ?_⟩
        · intro found hfound
          rw [hnew] at hfound
          exact Option.some.inj hfound ▸ hstill
        · rw [hclaims]
          exact Table.erase_insert l.claims ticket new
        · simp only [toGo, hnew, hclaim, Option.map_some, Option.getD_some]
          omega

theorem GivesBack.act (h : l.GivesBack ticket) (now n : Nat) :
    (l.act now (List.replicate n ticket)).claims.erase ticket = l.claims.erase ticket ∧
      (l.act now (List.replicate n ticket)).toGo ticket ≤ l.toGo ticket - n := by
  induction n generalizing l with
  | zero => exact ⟨rfl, le_rfl⟩
  | succ n ih =>
      obtain ⟨hstill, hothers, hless⟩ := h.step now
      obtain ⟨hrest, hgo⟩ := ih hstill
      rw [List.replicate_succ]
      refine ⟨hrest.trans hothers, ?_⟩
      refine hgo.trans ?_
      omega

omit [Std.TransOrd κ] in
theorem unclaimed_of_toGo (h : l.toGo ticket = 0) : l.claims[ticket]? = none := by
  cases hclaim : l.claims[ticket]? with
  | none => rfl
  | some claim => simp [toGo, hclaim] at h

/-- A ticket that is leaving goes, whatever the others are doing, and leaves them as they were. -/
theorem GivesBack.gone (h : l.GivesBack ticket) (now : Nat) :
    (l.act now (List.replicate (l.toGo ticket) ticket)).claims = l.claims.erase ticket := by
  obtain ⟨hothers, hgo⟩ := h.act now (l.toGo ticket)
  have hnone := unclaimed_of_toGo (Nat.le_zero.1 (hgo.trans_eq (Nat.sub_self _)))
  rw [← hothers, Table.erase_of_none hnone]

/-- Those that are leaving go, and those that stay are as they were. -/
theorem exists_quiet (now : Nat) (l : Locks κ) :
    ∃ tickets : List Nat, (∀ ticket ∈ tickets, l.IsLeaving ticket) ∧
      ∀ (ticket : Nat) (claim : Claim κ), (l.act now tickets).claims[ticket]? = some claim ↔
        l.claims[ticket]? = some claim ∧ claim.leaving = false := by
  induction hcount : l.claims.count Claim.leaving using Nat.strong_induction_on generalizing l with
  | _ count ih =>
      by_cases hsome : 0 < l.claims.count Claim.leaving
      · obtain ⟨ticket, claim, hclaim, hleaving⟩ := (Table.count_pos_iff _).1 hsome
        have hback : l.GivesBack ticket := by
          intro found hfound
          obtain rfl := Option.some.inj (hclaim.symm.trans hfound)
          exact hleaving
        have hgone := hback.gone now
        have hless : (l.act now (List.replicate (l.toGo ticket) ticket)).claims.count
            Claim.leaving < count := by
          have herase := Table.count_erase Claim.leaving hclaim
          rw [if_pos hleaving] at herase
          rw [hgone]
          omega
        obtain ⟨tickets, hall, hquiet⟩ := ih _ hless _ rfl
        refine ⟨List.replicate (l.toGo ticket) ticket ++ tickets, ?_, ?_⟩
        · intro other hother
          rcases List.mem_append.1 hother with hother | hother
          · rw [List.eq_of_mem_replicate hother]
            exact ⟨claim, hclaim, hleaving⟩
          · obtain ⟨found, hfound, hstill⟩ := hall other hother
            rw [hgone] at hfound
            exact ⟨found, (Table.of_getElem?_erase hfound).2, hstill⟩
        · intro other found
          rw [act, List.foldl_append]
          refine (hquiet other found).trans ?_
          rw [hgone]
          by_cases hk : ticket = other
          · subst hk
            rw [Std.ExtTreeMap.getElem?_erase_self, hclaim]
            constructor
            · intro h
              cases h.1
            · intro h
              obtain rfl := Option.some.inj h.1
              rw [hleaving] at h
              cases h.2
          · rw [Table.getElem?_erase_of_ne _ hk]
      · refine ⟨[], by simp, ?_⟩
        intro ticket claim
        constructor
        · intro hclaim
          refine ⟨hclaim, ?_⟩
          cases hleaving : claim.leaving with
          | false => rfl
          | true => exact absurd ((Table.count_pos_iff _).2 ⟨ticket, claim, hclaim, hleaving⟩) hsome
        · exact fun h => h.1

/-! ### Taking the next key -/

theorem gains_of_called (hcalled : l.IsCalled ticket) (now : Nat) :
    l.Gains (l.step now ticket) ticket := by
  obtain ⟨held, key, lock, wanted, hclaim, hholder⟩ := hcalled
  have hstep : l.step now ticket = l.setClaim ticket ⟨(key, lock) :: held, .resting, wanted, false⟩ := by
    rw [step_of_claimed hclaim]
    simp [stepForward, hholder]
  refine ⟨_, ⟨(key, lock) :: held, .resting, wanted, false⟩, key, hclaim, rfl, ?_, rfl, ?_⟩
  · rw [hstep]
    exact Std.ExtTreeMap.getElem?_insert_self
  · simp [Claim.keys]

theorem gains_of_free {held : List (κ × Nat)} {lock : Nat} {wanted : List κ}
    (hclaim : l.claims[ticket]? = some ⟨held, .reaching key lock, wanted, false⟩)
    (hfree : (l.lockOf lock).holder = none) (now : Nat) : l.Gains (l.step now ticket) ticket := by
  have hclaims : (l.step now ticket).claims =
      l.claims.insert ticket ⟨(key, lock) :: held, .resting, wanted, false⟩ := by
    rw [step_of_claimed hclaim]
    simp [stepForward, hfree, setClaim]
  refine ⟨_, ⟨(key, lock) :: held, .resting, wanted, false⟩, key, hclaim, rfl, ?_, rfl, ?_⟩
  · rw [hclaims]
    exact Std.ExtTreeMap.getElem?_insert_self
  · simp [Claim.keys]

/-- Some key of a list is beyond all others. -/
theorem exists_greatest {keys : List κ} (h : keys ≠ []) :
    ∃ key ∈ keys, ∀ other ∈ keys, compare key other ≠ .lt := by
  induction keys with
  | nil => exact absurd rfl h
  | cons first rest ih =>
      by_cases hrest : rest = []
      · subst hrest
        refine ⟨first, List.mem_cons_self, ?_⟩
        intro other hother
        rw [List.mem_singleton.1 hother, Std.compare_self]
        decide
      · obtain ⟨key, hkey, hgreatest⟩ := ih hrest
        by_cases hlt : compare key first = .lt
        · refine ⟨first, List.mem_cons_self, ?_⟩
          intro other hother hbeyond
          rcases List.mem_cons.1 hother with rfl | hother
          · rw [Std.compare_self] at hbeyond
            cases hbeyond
          · exact hgreatest other hother (Std.TransCmp.lt_trans hlt hbeyond)
        · refine ⟨key, List.mem_cons_of_mem _ hkey, ?_⟩
          intro other hother
          rcases List.mem_cons.1 hother with rfl | hother
          · exact hlt
          · exact hgreatest other hother

/-- Everybody is on the way to a key. -/
def OnTheWay (l : Locks κ) : Prop :=
  ∀ (ticket : Nat) (claim : Claim κ), l.claims[ticket]? = some claim →
    claim.leaving = false ∧ ∃ next, claim.next? = some next

/-- No key that somebody comes to next is beyond this one. -/
def IsLast (l : Locks κ) (key : κ) : Prop :=
  ∀ (ticket : Nat) (claim : Claim κ) (next : κ), l.claims[ticket]? = some claim →
    claim.next? = some next → compare key next ≠ .lt

theorem OnTheWay.exists_last (h : l.OnTheWay) (hsome : l.claims[ticket]? = some claim) :
    ∃ (ticket : Nat) (claim : Claim κ) (key : κ),
      l.claims[ticket]? = some claim ∧ claim.next? = some key ∧ l.IsLast key := by
  have hmem : ∀ (ticket : Nat) (claim : Claim κ) (next : κ), l.claims[ticket]? = some claim →
      claim.next? = some next → next ∈ l.claims.rows.filterMap Claim.next? := by
    intro ticket claim next hclaim hnext
    exact List.mem_filterMap.2 ⟨claim, Table.mem_rows.2 ⟨ticket, hclaim⟩, hnext⟩
  obtain ⟨-, next, hnext⟩ := h ticket claim hsome
  have hne := List.ne_nil_of_mem (hmem ticket claim next hsome hnext)
  obtain ⟨key, hkey, hgreatest⟩ := exists_greatest hne
  obtain ⟨found, hrow, hfound⟩ := List.mem_filterMap.1 hkey
  obtain ⟨owner, howner⟩ := Table.mem_rows.1 hrow
  refine ⟨owner, found, key, howner, hfound, ?_⟩
  intro other claim next hclaim hnext
  exact hgreatest next (hmem other claim next hclaim hnext)

variable [Std.LawfulEqOrd κ] [DecidableEq κ]

theorem Coherent.act (h : l.Coherent) (now : Nat) (tickets : List Nat) :
    (l.act now tickets).Coherent := by
  induction tickets generalizing l with
  | nil => exact h
  | cons ticket rest ih => exact ih (h.step now ticket)

omit [Std.LawfulEqOrd κ] in
/-- Nobody has the last key and goes on to another, so its lock is free or awaits whom it called. -/
theorem Coherent.free_or_called (h : l.Coherent) (hway : l.OnTheWay) (hlast : l.IsLast key)
    {lock : Nat} (hguard : l.guard? key = some lock) :
    (l.lockOf lock).holder = none ∨ ∃ ticket, l.IsCalled ticket := by
  cases hholder : (l.lockOf lock).holder with
  | none => exact Or.inl rfl
  | some ticket =>
      refine Or.inr ⟨ticket, ?_⟩
      have hline : ticket ∈ (l.lockOf lock).line := by
        rw [Lock.line, hholder]
        exact List.mem_append_left _ List.mem_cons_self
      obtain ⟨claim, hclaim, hlines⟩ := (h.mem_line_iff lock ticket).1 hline
      obtain ⟨hstays, next, hnext⟩ := hway ticket claim hclaim
      rcases List.mem_append.1 hlines with hqueue | hheld
      · -- It stands in line as one that has been called.
        obtain ⟨held, reach, wanted, leaving⟩ := claim
        cases reach with
        | queueing at_ found =>
            obtain rfl : lock = found := List.mem_singleton.1 hqueue
            simp only at hstays
            subst hstays
            exact ⟨held, at_, lock, wanted, hclaim, hholder⟩
        | resting | reaching _ _ | returning _ _ => cases hqueue
      · -- It stands in line as one that has the key, and goes on to a key beyond.
        obtain ⟨⟨at_, found⟩, hmem, rfl⟩ := List.mem_map.1 hheld
        have hsame := h.guarded ticket claim hclaim _ (List.mem_append_right _ hmem)
        obtain rfl : at_ = key := h.apart _ _ _ hsame hguard
        have hkey : at_ ∈ claim.keys := by
          rw [Claim.keys, List.mem_reverse]
          exact List.mem_map_of_mem hmem
        exact absurd (h.lt_next hclaim hnext hkey) (hlast ticket claim next hclaim hnext)

/-- A ticket that begins to reach for the last key takes it, unless another has been called. -/
theorem Coherent.exists_gains_of_resting (h : l.Coherent) (hway : l.OnTheWay) {held : List (κ × Nat)}
    {rest : List κ} (hclaim : l.claims[ticket]? = some ⟨held, .resting, key :: rest, false⟩)
    (hlast : l.IsLast key) (now : Nat) :
    ∃ (taker n : Nat), l.Gains (l.act now (List.replicate n taker)) taker := by
  -- At the table the ticket is sent to a lock, and nothing else changes.
  have hstep : l.step now ticket = (l.checkOut now key).2.setClaim ticket
      ⟨held, .reaching key (l.checkOut now key).1, rest, false⟩ := step_of_claimed hclaim now
  have hclaims : (l.step now ticket).claims = l.claims.insert ticket
      ⟨held, .reaching key (l.checkOut now key).1, rest, false⟩ := by
    rw [hstep, setClaim, claims_checkOut]
  have hlock : ∀ lock, (l.step now ticket).lockOf lock = l.lockOf lock := by
    refine lockOf_of_locks_eq ?_
    rw [hstep]
    exact locks_checkOut now key l
  have hnow : (l.step now ticket).claims[ticket]? =
      some ⟨held, .reaching key (l.checkOut now key).1, rest, false⟩ := by
    rw [hclaims]
    exact Std.ExtTreeMap.getElem?_insert_self
  have hway' : (l.step now ticket).OnTheWay := by
    intro other found hfound
    rw [hclaims] at hfound
    rcases Table.of_getElem?_insert hfound with ⟨rfl, rfl⟩ | ⟨-, hold⟩
    · exact ⟨rfl, key, rfl⟩
    · exact hway other found hold
  have hlast' : (l.step now ticket).IsLast key := by
    intro other found next hfound hnext
    rw [hclaims] at hfound
    rcases Table.of_getElem?_insert hfound with ⟨rfl, rfl⟩ | ⟨-, hold⟩
    · exact hlast other _ next hclaim hnext
    · exact hlast other found next hold hnext
  have hcoherent := h.step now ticket
  have hguard := hcoherent.guarded ticket _ hnow _ List.mem_cons_self
  rcases hcoherent.free_or_called hway' hlast' hguard with hfree | ⟨taker, hcalled⟩
  · obtain ⟨claim, new, next, hclaim', hnext, hnew, hstays, hkeys⟩ := gains_of_free hnow hfree now
    obtain rfl := Option.some.inj (hnow.symm.trans hclaim')
    exact ⟨ticket, 2, _, new, next, hclaim, hnext, hnew, hstays, hkeys⟩
  · obtain ⟨held', key', lock', wanted', hfound, hholder⟩ := hcalled
    rw [hclaims] at hfound
    rw [hlock] at hholder
    rcases Table.of_getElem?_insert hfound with ⟨-, hnot⟩ | ⟨-, hold⟩
    · cases hnot
    · exact ⟨taker, 1, gains_of_called ⟨held', key', lock', wanted', hold, hholder⟩ now⟩

/-- Where everybody is on the way to a key, somebody gains one without any other acting. -/
theorem Coherent.exists_gains (h : l.Coherent) (hway : l.OnTheWay)
    (hsome : l.claims[ticket]? = some claim) (now : Nat) :
    ∃ (taker n : Nat), l.Gains (l.act now (List.replicate n taker)) taker := by
  obtain ⟨ticket, claim, key, hclaim, hnext, hlast⟩ := hway.exists_last hsome
  have hstays := (hway ticket claim hclaim).1
  have hguarded := h.guarded ticket claim hclaim
  obtain ⟨held, reach, wanted, leaving⟩ := claim
  simp only at hstays
  subst hstays
  cases reach with
  | reaching at_ lock =>
      obtain rfl : at_ = key := Option.some.inj hnext
      have hguard : l.guard? at_ = some lock := hguarded _ List.mem_cons_self
      rcases h.free_or_called hway hlast hguard with hfree | ⟨taker, hcalled⟩
      · exact ⟨ticket, 1, gains_of_free hclaim hfree now⟩
      · exact ⟨taker, 1, gains_of_called hcalled now⟩
  | queueing at_ lock =>
      obtain rfl : at_ = key := Option.some.inj hnext
      have hguard : l.guard? at_ = some lock := hguarded _ List.mem_cons_self
      rcases h.free_or_called hway hlast hguard with hfree | ⟨taker, hcalled⟩
      · -- A lock with a queue is not free.
        have hline := (h.mem_line_of_claimed hclaim lock).2 List.mem_cons_self
        rw [Lock.line, hfree, (h.orderly lock).taken hfree] at hline
        cases hline
      · exact ⟨taker, 1, gains_of_called hcalled now⟩
  | returning at_ lock => cases h.turned ticket _ hclaim at_ lock rfl
  | resting =>
      cases wanted with
      | nil => cases hnext
      | cons first rest =>
          obtain rfl : first = key := Option.some.inj hnext
          exact h.exists_gains_of_resting hway hclaim hlast now

/-- If some ticket is pending and none has all its keys, some pending ticket can take its next. -/
theorem Coherent.exists_canTake (h : l.Coherent) (hpending : ∃ ticket, l.IsPending ticket)
    (hnone : ∀ (ticket : Nat) (claim : Claim κ), l.claims[ticket]? = some claim → ¬ claim.IsComplete)
    (now : Nat) : ∃ ticket, l.IsPending ticket ∧ l.CanTake now ticket := by
  obtain ⟨tickets, hleaving, hquiet⟩ := exists_quiet now l
  have hway : (l.act now tickets).OnTheWay := by
    intro ticket claim hclaim
    obtain ⟨hold, hstays⟩ := (hquiet ticket claim).1 hclaim
    refine ⟨hstays, Option.ne_none_iff_exists'.1 ?_⟩
    intro hnext
    exact hnone ticket claim hold (Claim.isComplete_of_next? hnext hstays)
  obtain ⟨waiting, claim, hclaim, hstays, -⟩ := hpending
  have hsome := (hquiet waiting claim).2 ⟨hclaim, hstays⟩
  obtain ⟨taker, n, found, new, key, hfound, hnext, hnew, hstill, hkeys⟩ :=
    (h.act now tickets).exists_gains hway hsome now
  obtain ⟨hold, hfoundStays⟩ := (hquiet taker found).1 hfound
  refine ⟨taker, ⟨found, hold, hfoundStays, hnone taker found hold⟩,
    tickets ++ List.replicate n taker, ?_, found, new, key, hold, hnext, ?_, hstill, hkeys⟩
  · intro other hother
    rcases List.mem_append.1 hother with hother | hother
    · exact Or.inr (hleaving other hother)
    · exact Or.inl (List.eq_of_mem_replicate hother)
  · rw [Locks.act, List.foldl_append]
    exact hnew

omit [DecidableEq κ]

/-- **Whatever tickets come, act and leave, they do not wait for each other in a circle; while
some are pending and none has all its keys, one of them can take its next; and a ticket that has
all its keys has those that it came for, each once.** -/
theorem deadlockFree_played (requests : Nat → List κ) (events : List (Event κ)) :
    (∀ ticket, ¬ Relation.TransGen (play requests empty events).WaitsFor ticket ticket) ∧
    ((∃ ticket, (play requests empty events).IsPending ticket) →
      (∀ (ticket : Nat) (claim : Claim κ),
        (play requests empty events).claims[ticket]? = some claim → ¬ claim.IsComplete) →
      ∀ now, ∃ ticket, (play requests empty events).IsPending ticket ∧
        (play requests empty events).CanTake now ticket) ∧
    ∀ (ticket : Nat) (claim : Claim κ),
      (play requests empty events).claims[ticket]? = some claim → claim.IsComplete →
        claim.keys.Nodup ∧ ∀ key, key ∈ claim.keys ↔ key ∈ requests ticket := by
  classical
  have hcoherent := coherent_played requests events
  refine ⟨hcoherent.not_waitsFor_self, hcoherent.exists_canTake, ?_⟩
  intro ticket claim hclaim hcomplete
  have hroute := asked_played requests events ticket claim hclaim hcomplete.1
  rw [hcomplete.keys_eq_route, hroute]
  exact ⟨nodup_ascending _, fun key => mem_ascending⟩

theorem deadlockFree_played_sample :
    let requests := fun ticket => if ticket = 0 then [1, 2, 1] else [2, 1]
    let begun : List (Event Nat) := [.arrive 0, .arrive 1, .act 3 1, .act 3 0, .act 4 1, .act 4 0]
    let ended := begun ++ [.act 5 1, .act 5 1]
    (∀ ticket, ¬ Relation.TransGen (play requests empty begun).WaitsFor ticket ticket) ∧
      (∃ ticket, (play requests empty begun).CanTake 5 ticket) ∧
      ∃ claim, (play requests empty ended).claims[1]? = some claim ∧ claim.IsComplete ∧
        ∀ key, key ∈ claim.keys ↔ key ∈ [2, 1] := by
  intro requests begun ended
  obtain ⟨hcircle, hprogress, -⟩ := deadlockFree_played requests begun
  obtain ⟨-, -, hcomplete⟩ := deadlockFree_played requests ended
  have hpending : (play requests empty begun).IsPending 0 :=
    ⟨⟨[], .queueing 1 0, [2], false⟩, by decide +kernel, rfl, by decide⟩
  have hnone : ∀ claim ∈ (play requests empty begun).claims.rows, ¬ claim.IsComplete := by
    decide +kernel
  have hended : (play requests empty ended).claims[1]? =
      some ⟨[(2, 1), (1, 0)], .resting, [], false⟩ := by decide +kernel
  refine ⟨hcircle, ?_, _, hended, by decide, (hcomplete 1 _ hended (by decide)).2⟩
  obtain ⟨ticket, -, htake⟩ := hprogress ⟨0, hpending⟩
    (fun ticket claim hclaim => hnone claim (Table.mem_rows.2 ⟨ticket, hclaim⟩)) 5
  exact ⟨ticket, htake⟩

end Locks

end Cashbook
