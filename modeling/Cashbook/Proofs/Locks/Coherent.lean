/-
What stays true of the locks.

Three things hang together.  The entries are counted, which says that a ticket is still
with the lock that guards its key.  The lines are in order, which needs the locks of one
ticket to be different, and they are because its keys are.  And every ticket goes through
its keys in ascending order, which is how it comes that they are different.

`Coherent` is the three together.  It holds when there are no entries, and a ticket that
begins, acts or leaves keeps it, as does a sweep.
-/
import Cashbook.Proofs.Locks.Counted
import Cashbook.Proofs.Locks.Line

namespace Cashbook.Locks

variable {κ : Type} [Ord κ] [Std.TransOrd κ]

/-- Everything that stays true, whatever the tickets do. -/
structure Coherent [DecidableEq κ] (l : Locks κ) : Prop extends Counted l, InLine l where
  ascending : ∀ (ticket : Nat) (claim : Claim κ), l.claims[ticket]? = some claim →
    claim.route.Pairwise fun key other => compare key other = .lt
  turned : ∀ (ticket : Nat) (claim : Claim κ), l.claims[ticket]? = some claim →
    ∀ (key : κ) (lock : Nat), claim.reach = .returning key lock → claim.leaving = true

variable {l m : Locks κ} {now ticket : Nat} {claim : Claim κ} {key : κ}

/-! ### Ascending keys -/

theorem pairwise_ascending (keys : List κ) :
    (ascending keys).Pairwise fun key other => compare key other = .lt :=
  Std.ExtTreeMap.ordered_keys

theorem nodup_of_pairwise {keys : List κ}
    (h : keys.Pairwise fun key other => compare key other = .lt) : keys.Nodup := by
  refine h.imp ?_
  intro key other hlt heq
  rw [heq, Std.compare_self] at hlt
  cases hlt

theorem mem_ascending [Std.LawfulEqOrd κ] {keys : List κ} : key ∈ ascending keys ↔ key ∈ keys := by
  have hfold : ∀ (keys : List κ) (t : Table κ Unit),
      key ∈ keys.foldl (fun (t : Table κ Unit) key => t.insert key ()) t ↔ key ∈ keys ∨ key ∈ t := by
    intro keys
    induction keys with
    | nil => simp
    | cons first rest ih =>
        intro t
        rw [List.foldl_cons, ih, Std.ExtTreeMap.mem_insert, Std.compare_eq_iff_eq, List.mem_cons,
          eq_comm (a := first)]
        tauto
  rw [ascending, Std.ExtTreeMap.mem_keys, hfold]
  simp

/-! ### Beginning and leaving -/

namespace Coherent

variable [DecidableEq κ]

theorem empty : Coherent (Locks.empty : Locks κ) where
  toCounted := .empty
  toInLine := inLine_empty
  ascending ticket claim hclaim := by simp [Locks.empty] at hclaim
  turned ticket claim hclaim := by simp [Locks.empty] at hclaim

variable (h : l.Coherent)

include h

/-- The keys that a ticket has come to are different. -/
theorem nodup_counted (hclaim : l.claims[ticket]? = some claim) :
    (claim.counted.map Prod.fst).Nodup := by
  have hroute := nodup_of_pairwise (h.ascending ticket claim hclaim)
  exact List.nodup_reverse.1 (List.nodup_append.1 hroute).1

/-- A ticket that is with a key has not got it, nor the lock of the key for another. -/
theorem not_mem_held {held : List (κ × Nat)} {reach : Reach κ} {wanted : List κ} {leaving : Bool}
    {lock : Nat} (hclaim : l.claims[ticket]? = some ⟨held, reach, wanted, leaving⟩)
    (hat : reach.at? = some (key, lock)) : key ∉ held.map Prod.fst ∧ lock ∉ held.map Prod.snd := by
  have hkeys := h.nodup_counted hclaim
  have hlocks := h.toCounted.nodup_locks hclaim hkeys
  rw [Claim.counted, hat] at hkeys hlocks
  exact ⟨(List.nodup_cons.1 hkeys).1, (List.nodup_cons.1 hlocks).1⟩

theorem start (hclaim : l.claims[ticket]? = none) (keys : List κ) :
    (l.start ticket keys).Coherent := by
  refine ⟨h.toCounted.start hclaim keys, ?_, ?_, ?_⟩
  · refine h.toInLine.restate rfl rfl ?_ (fun p hp => absurd hp List.not_mem_nil)
    intro lock
    exact iff_of_false (h.not_mem_line_of_unclaimed hclaim lock) List.not_mem_nil
  · intro other found hfound
    rcases Table.of_getElem?_insert hfound with ⟨rfl, rfl⟩ | ⟨-, hold⟩
    · exact pairwise_ascending keys
    · exact h.ascending other found hold
  · intro other found hfound key lock hreach
    rcases Table.of_getElem?_insert hfound with ⟨rfl, rfl⟩ | ⟨-, hold⟩
    · cases hreach
    · exact h.turned other found hold key lock hreach

theorem leave (ticket : Nat) : (l.leave ticket).Coherent := by
  unfold Locks.leave
  cases hclaim : l.claims[ticket]? with
  | none => exact h
  | some claim =>
      have hmem := h.mem_line_of_claimed hclaim
      refine ⟨h.toCounted.restate hclaim rfl rfl rfl rfl, ?_, ?_, ?_⟩
      · refine h.toInLine.restate rfl rfl ?_ ?_
        · exact hmem
        · exact h.first ticket claim hclaim
      · intro other found hfound
        rcases Table.of_getElem?_insert hfound with ⟨rfl, rfl⟩ | ⟨-, hold⟩
        · exact h.ascending other claim hclaim
        · exact h.ascending other found hold
      · intro other found hfound key lock hreach
        rcases Table.of_getElem?_insert hfound with ⟨rfl, rfl⟩ | ⟨-, hold⟩
        · rfl
        · exact h.turned other found hold key lock hreach

/-! ### One action -/

theorem inLine_of_acts (hclaim : l.claims[ticket]? = some claim)
    (hacts : Acts now ticket l claim m) : m.InLine := by
  have hline := h.toInLine
  have hmem := hline.mem_line_of_claimed hclaim
  have hfirst := h.first ticket claim hclaim
  cases hacts with
  | wait _ _ => exact hline
  | @checkOut held key rest =>
      have hclaims : ((l.checkOut now key).2.setClaim ticket
          ⟨held, .reaching key (l.checkOut now key).1, rest, false⟩).claims =
            l.claims.insert ticket ⟨held, .reaching key (l.checkOut now key).1, rest, false⟩ := by
        rw [setClaim, claims_checkOut]
      exact hline.restate hclaims (locks_checkOut ..) hmem hfirst
  | @take held key lock wanted hfree =>
      have hout := (h.not_mem_held hclaim rfl).2
      have hjoined : { l.lockOf lock with holder := some ticket } = (l.lockOf lock).joined ticket := by
        rw [Lock.joined, hfree]
      rw [hjoined]
      refine hline.join hclaim hout rfl rfl (fun _ => List.mem_cons) ?_
      intro p hp
      rw [lockOf_of_locks_insert (l := l) rfl]
      rcases List.mem_cons.1 hp with rfl | hp
      · rw [if_pos rfl, ← hjoined]
      · have hne : lock ≠ p.2 := fun heq => hout (heq ▸ List.mem_map_of_mem hp)
        rw [if_neg hne]
        exact hfirst p hp
  | @join held key lock other wanted hbusy =>
      have hout := (h.not_mem_held hclaim rfl).2
      have hjoined : { l.lockOf lock with queue := (l.lockOf lock).queue ++ [ticket] } =
          (l.lockOf lock).joined ticket := by
        simp only [Lock.joined, hbusy]
      rw [hjoined]
      refine hline.join hclaim hout rfl rfl (fun _ => List.mem_cons) ?_
      intro p hp
      have hne : lock ≠ p.2 := fun heq => hout (heq ▸ List.mem_map_of_mem hp)
      rw [lockOf_of_locks_insert (l := l) rfl, if_neg hne]
      exact hfirst p hp
  | come hcalled =>
      refine hline.restate rfl rfl ?_ ?_
      · exact hmem
      · intro p hp
        rcases List.mem_cons.1 hp with rfl | hp
        · exact hcalled
        · exact hfirst p hp
  | turnBack =>
      refine hline.restate rfl rfl ?_ ?_
      · exact hmem
      · exact hfirst
  | @withdraw held key lock wanted =>
      have hout := (h.not_mem_held hclaim rfl).2
      rw [withdraw_eq]
      refine hline.quit hclaim rfl rfl hout ?_ (fun _ hp => hp)
      intro other hne
      exact (List.mem_cons.trans (or_iff_right (Ne.symm hne))).symm
  | @release held key lock wanted =>
      have hholder : (l.lockOf lock).holder = some ticket := hfirst _ List.mem_cons_self
      have hlocks := h.toCounted.nodup_locks hclaim (h.nodup_counted hclaim)
      rw [release_eq hholder]
      refine hline.quit hclaim rfl rfl (List.nodup_cons.1 hlocks).1 ?_
        (fun _ hp => List.mem_cons_of_mem _ hp)
      intro other hne
      exact (List.mem_cons.trans (or_iff_right (Ne.symm hne))).symm
  | @checkIn held key lock wanted leaving =>
      have hclaims : ((l.checkIn now key).setClaim ticket ⟨held, .resting, wanted, leaving⟩).claims =
          l.claims.insert ticket ⟨held, .resting, wanted, leaving⟩ := by
        rw [setClaim, claims_checkIn]
      exact hline.restate hclaims (locks_checkIn ..) hmem hfirst
  | go =>
      refine hline.forget rfl rfl ?_
      intro lock
      rw [hmem]
      exact List.not_mem_nil

variable [Std.LawfulEqOrd κ]

theorem counted_of_acts (hclaim : l.claims[ticket]? = some claim)
    (hacts : Acts now ticket l claim m) : m.Counted := by
  have hcounted := h.toCounted
  cases hacts with
  | wait _ _ => exact hcounted
  | checkOut =>
      -- A key that is still wanted is none of those that the ticket has come to.
      refine hcounted.checkOut hclaim now ?_ rfl
      have hroute := nodup_of_pairwise (h.ascending ticket _ hclaim)
      intro hkey
      exact (List.nodup_append.1 hroute).2.2 _ (List.mem_reverse.2 hkey) _ List.mem_cons_self rfl
  | take _ | join _ | come _ | turnBack | release => exact hcounted.restate hclaim rfl rfl rfl rfl
  | withdraw =>
      rw [withdraw_eq]
      exact hcounted.restate hclaim rfl rfl rfl rfl
  | checkIn => exact hcounted.checkIn hclaim now rfl (h.not_mem_held hclaim rfl).1
  | go => exact hcounted.forget hclaim rfl

/-- **Whatever a ticket does keeps the locks coherent.** -/
theorem acts (hclaim : l.claims[ticket]? = some claim) (hacts : Acts now ticket l claim m) :
    m.Coherent := by
  refine ⟨h.counted_of_acts hclaim hacts, h.inLine_of_acts hclaim hacts, ?_, ?_⟩
  · intro other found hfound
    by_cases hk : ticket = other
    · subst hk
      obtain ⟨-, hroute, -⟩ := claim_of_acts hacts hclaim (h.turned ticket claim hclaim) hfound
      exact (h.ascending ticket claim hclaim).sublist hroute
    · rw [claims_of_acts hacts hk] at hfound
      exact h.ascending other found hfound
  · intro other found hfound
    by_cases hk : ticket = other
    · subst hk
      exact (claim_of_acts hacts hclaim (h.turned ticket claim hclaim) hfound).2.2
    · rw [claims_of_acts hacts hk] at hfound
      exact h.turned other found hfound

theorem step (now ticket : Nat) : (l.step now ticket).Coherent := by
  cases hclaim : l.claims[ticket]? with
  | none =>
      rw [step_of_unclaimed hclaim]
      exact h
  | some claim => exact h.acts hclaim (acts_step hclaim)

theorem sweep (now : κ → Nat) (ttl : Nat) : (l.sweep now ttl).2.Coherent :=
  ⟨h.toCounted.sweep now ttl, ⟨h.orderly, h.mem_line_iff, h.first⟩, h.ascending, h.turned⟩

end Coherent

end Cashbook.Locks
