/-
A call with the floor to itself.

`Plan.run` carries a plan out as if keys did not exist.  This is what a call comes to on
the floor when nobody else is under way: given turn after turn it takes its keys without
waiting, has its questions answered, ends, and gives its keys back, and then it has come
to what `Plan.run` says, and the bank is what `Plan.run` leaves.  Calls that have the
floor one after another come to what `Bank.serveAll` says.
-/
import Mathlib.Logic.Relation
import Cashbook.Proofs.Locks.Alone
import Cashbook.Proofs.Service.Play

namespace Cashbook.Floor

variable {ρ : Type} {now ticket : Nat} {stamp : Stamp}

/-- One call alone is given turns. -/
def Leads (now : Nat) (stamp : Stamp) (ticket : Nat) : Floor ρ → Floor ρ → Prop :=
  Relation.ReflTransGen fun floor next => floor.turn now stamp ticket = next

/-- A call without keys on an idle floor, or alone with all the keys that it wants. -/
def Ready (ticket : Nat) (locks : Locks AccountId) : Prop :=
  locks.Idle ∨ ∃ held, locks.Alone ticket ⟨held, .resting, [], false⟩

variable {floor : Floor ρ}

theorem Leads.of_turn {next final : Floor ρ} (hturn : floor.turn now stamp ticket = next)
    (h : Leads now stamp ticket next final) : Leads now stamp ticket floor final :=
  .head hturn h

/-! ### Taking keys -/

/-- A call alone takes the keys that it wants and goes on. -/
private theorem exists_taken (now : Nat) (stamp : Stamp) {keys : List AccountId} {next : Plan ρ}
    (wanted : List AccountId) :
    ∀ (held : List (AccountId × Nat)) (floor : Floor ρ),
      floor.calls[ticket]? = some (.working (.hold keys next)) →
        floor.locks.Alone ticket ⟨held, .resting, wanted, false⟩ → wanted.Nodup →
          (∀ key ∈ wanted, ∀ p ∈ held, p.1 ≠ key) →
            ∃ locks, Leads now stamp ticket floor
              ({ floor with locks }.setCall ticket (.working next)) ∧ Ready ticket locks := by
  induction wanted with
  | nil =>
      intro held floor hcall halone _ _
      have hturn : floor.turn now stamp ticket = floor.setCall ticket (.working next) := by
        simp only [Floor.turn, hcall, reach, halone.claimed]
        rw [if_pos ⟨rfl, rfl, rfl⟩]
      exact ⟨floor.locks, .of_turn hturn .refl, Or.inr ⟨held, halone⟩⟩
  | cons key rest ih =>
      intro held floor hcall halone hnodup hnew
      obtain ⟨hkey, hrest⟩ := List.nodup_cons.1 hnodup
      have hheld : ∀ p ∈ held, p.1 ≠ key := hnew key (by simp)
      obtain ⟨lock, hreaching, -⟩ := halone.checkOut hheld now
      obtain ⟨taken, htaken⟩ := halone.take hheld now
      have hfirst : floor.turn now stamp ticket =
          { floor with locks := floor.locks.step now ticket } := by
        simp only [Floor.turn, hcall, reach, halone.claimed]
        rw [if_neg (by simp [Claim.IsComplete])]
      have hsecond :
          Floor.turn now stamp ticket { floor with locks := floor.locks.step now ticket } =
            { floor with locks := (floor.locks.step now ticket).step now ticket } := by
        simp only [Floor.turn, hcall, reach, hreaching.claimed]
        rw [if_neg (by simp [Claim.IsComplete, Reach.isResting])]
      have hothers : ∀ other ∈ rest, ∀ p ∈ (key, taken) :: held, p.1 ≠ other := by
        intro other hother p hp
        rcases List.mem_cons.1 hp with rfl | hp
        · intro heq
          rw [← heq] at hother
          exact hkey hother
        · exact hnew other (List.mem_cons_of_mem _ hother) p hp
      obtain ⟨locks, hleads, hready⟩ := ih ((key, taken) :: held)
        { floor with locks := (floor.locks.step now ticket).step now ticket } hcall htaken hrest
        hothers
      exact ⟨locks, .of_turn hfirst (.of_turn hsecond hleads), hready⟩

theorem exists_held (now : Nat) (stamp : Stamp) {keys : List AccountId} {next : Plan ρ}
    (hcall : floor.calls[ticket]? = some (.working (.hold keys next)))
    (hready : Ready ticket floor.locks) :
    ∃ locks, Leads now stamp ticket floor ({ floor with locks }.setCall ticket (.working next)) ∧
      Ready ticket locks := by
  rcases hready with hidle | ⟨held, halone⟩
  · have hstart : floor.turn now stamp ticket =
        { floor with locks := floor.locks.start ticket keys } := by
      simp only [Floor.turn, hcall, reach, hidle.unclaimed]
    obtain ⟨locks, hleads, hready⟩ := exists_taken now stamp _ []
      { floor with locks := floor.locks.start ticket keys } hcall (hidle.start ticket keys)
      (Locks.nodup_ascending keys) (by simp)
    exact ⟨locks, .of_turn hstart hleads, hready⟩
  · exact exists_taken now stamp [] held floor hcall halone .nil (by simp)

/-! ### Giving keys back -/

/-- A call that has ended gives its keys back, and then has come to what it ended with. -/
private theorem exists_idle (now : Nat) (stamp : Stamp) {outcome : Outcome ρ}
    (held : List (AccountId × Nat)) :
    ∀ floor : Floor ρ, floor.calls[ticket]? = some (.ended outcome) →
      floor.locks.Alone ticket ⟨held, .resting, [], true⟩ →
        ∃ locks, Leads now stamp ticket floor { floor with locks } ∧ locks.Idle := by
  have hturn : ∀ floor : Floor ρ, floor.calls[ticket]? = some (.ended outcome) →
      floor.turn now stamp ticket = { floor with locks := floor.locks.step now ticket } := by
    intro floor hcall
    simp only [Floor.turn, hcall]
  induction held with
  | nil =>
      intro floor hcall halone
      exact ⟨_, .of_turn (hturn floor hcall) .refl, halone.idle now⟩
  | cons p rest ih =>
      intro floor hcall halone
      obtain ⟨locks, hleads, hidle⟩ := ih
        { floor with locks := (floor.locks.step now ticket).step now ticket } hcall
        (halone.giveBack now)
      exact ⟨locks, .of_turn (hturn floor hcall) (.of_turn (hturn _ hcall) hleads), hidle⟩

/-- A call that ends comes to its outcome, and leaves the floor idle. -/
theorem exists_ended (now : Nat) (stamp : Stamp) (hready : Ready ticket floor.locks)
    (outcome : Outcome ρ) :
    ∃ locks, Leads now stamp ticket (floor.finish ticket outcome)
      ({ floor with locks }.setCall ticket (.ended outcome)) ∧ locks.Idle := by
  have hcall : (floor.finish ticket outcome).calls[ticket]? = some (.ended outcome) :=
    Std.ExtTreeMap.getElem?_insert_self
  rcases hready with hidle | ⟨held, halone⟩
  · have hleave : floor.finish ticket outcome = floor.setCall ticket (.ended outcome) := by
      rw [finish, hidle.leave]
    rw [hleave]
    exact ⟨floor.locks, .refl, hidle⟩
  · obtain ⟨locks, hleads, hidle⟩ := exists_idle now stamp held _ hcall
      halone.leave
    exact ⟨locks, hleads, hidle⟩

/-! ### A whole call -/

/--
**A call alone comes to what its plan comes to.**  Given turns and nothing else, it ends
with the outcome of `Plan.run`, and leaves the bank of `Plan.run`, the keys with nobody,
and all other calls as they were.  The induction is on the plan.
-/
theorem exists_alone (now : Nat) (stamp : Stamp) (plan : Plan ρ) :
    ∀ floor : Floor ρ, floor.calls[ticket]? = some (.working plan) → Ready ticket floor.locks →
      ∃ final, Leads now stamp ticket floor final ∧ final.bank = (plan.run stamp floor.bank).2 ∧
        final.calls[ticket]? = some (.ended (plan.run stamp floor.bank).1) ∧ final.locks.Idle ∧
          ∀ other : Nat, ticket ≠ other → final.calls[other]? = floor.calls[other]? := by
  have hend : ∀ (floor start : Floor ρ) (outcome : Outcome ρ),
      floor.turn now stamp ticket = start.finish ticket outcome → Ready ticket start.locks →
        start.calls = floor.calls →
          ∃ final, Leads now stamp ticket floor final ∧ final.bank = start.bank ∧
            final.calls[ticket]? = some (.ended outcome) ∧ final.locks.Idle ∧
              ∀ other : Nat, ticket ≠ other → final.calls[other]? = floor.calls[other]? := by
    intro floor start outcome hturn hready hcalls
    obtain ⟨locks, hleads, hidle⟩ := exists_ended now stamp hready outcome
    refine ⟨_, .of_turn hturn hleads, rfl, Std.ExtTreeMap.getElem?_insert_self, hidle, ?_⟩
    intro other hother
    rw [← hcalls]
    exact Table.getElem?_insert_of_ne _ _ hother
  induction plan with
  | done value =>
      intro floor hcall hready
      exact hend floor floor (.ok value) (by simp only [Floor.turn, hcall]) hready rfl
  | fail failure =>
      intro floor hcall hready
      exact hend floor floor (.error failure) (by simp only [Floor.turn, hcall]) hready rfl
  | hold keys next ih =>
      intro floor hcall hready
      obtain ⟨locks, hheld, hready'⟩ := exists_held now stamp hcall hready
      obtain ⟨final, hleads, hbank, houtcome, hidle, hothers⟩ :=
        ih ({ floor with locks }.setCall ticket (.working next)) Std.ExtTreeMap.getElem?_insert_self
          hready'
      refine ⟨final, hheld.trans hleads, hbank, houtcome, hidle, ?_⟩
      intro other hother
      rw [hothers other hother]
      exact Table.getElem?_insert_of_ne _ _ hother
  | ask q next ih =>
      intro floor hcall hready
      have hturn : floor.turn now stamp ticket = floor.ask stamp ticket q next := by
        simp only [Floor.turn, hcall]
      rcases hperform : floor.bank.perform stamp q with ⟨outcome, bank⟩
      cases outcome with
      | error failure =>
          rw [Plan.run, hperform]
          refine hend floor { floor with bank } (.error failure) ?_ hready rfl
          rw [hturn, ask, hperform]
      | ok answer =>
          rw [Plan.run, hperform]
          obtain ⟨final, hleads, hbank, houtcome, hidle, hothers⟩ :=
            ih answer ({ floor with bank }.setCall ticket (.working (next answer)))
              Std.ExtTreeMap.getElem?_insert_self hready
          refine ⟨final, .of_turn ?_ hleads, hbank, houtcome, hidle, ?_⟩
          · rw [hturn, ask, hperform]
          · intro other hother
            rw [hothers other hother]
            exact Table.getElem?_insert_of_ne _ _ hother

/-! ### One call after another -/

/-- Each call of a list has some turns, and only then the next. -/
def OneByOne (now : Nat) : List Nat → List Event → Prop
  | [], events => events = []
  | ticket :: rest, events => ∃ turns later,
    events = List.replicate turns (.turn now ticket) ++ later ∧ OneByOne now rest later

/-- Turns of one call are events. -/
theorem Leads.exists_play {visits : List Visit} {visit : Visit} {floor final : Floor Reply}
    (h : Leads now visit.stamp ticket floor final) (hvisit : visits[ticket]? = some visit) :
    ∃ turns, floor.play visits (List.replicate turns (.turn now ticket)) = final := by
  induction h using Relation.ReflTransGen.head_induction_on with
  | refl => exact ⟨0, rfl⟩
  | head hturn _ ih =>
      obtain ⟨turns, hplay⟩ := ih
      refine ⟨turns + 1, ?_⟩
      rw [List.replicate_succ, ← List.singleton_append, play_append, ← hplay, ← hturn]
      congr 1
      simp only [play, List.foldl_cons, List.foldl_nil, happen, hvisit]

/--
**Calls one after another come to what `Bank.serveAll` says.**  On an idle floor each of
them has its turns, ends, and has given its keys back before the next has its first.
-/
theorem exists_oneByOne (rules : Rules) (visits : List Visit) (now : Nat) (order : List Nat) :
    ∀ floor : Floor Reply, floor.locks.Idle → order.Nodup →
      (∀ ticket ∈ order, ∃ visit, visits[ticket]? = some visit ∧
        floor.calls[ticket]? = some (.working (visit.plan rules))) →
      ∃ events outcomes, OneByOne now order events ∧
        floor.bank.serveAll rules (order.filterMap fun ticket => visits[ticket]?) =
          (outcomes, (floor.play visits events).bank) ∧
        List.Forall₂ (fun ticket outcome =>
          (floor.play visits events).calls[ticket]? = some (.ended outcome)) order outcomes ∧
        (floor.play visits events).locks.Idle ∧
        ∀ other ∉ order, (floor.play visits events).calls[other]? = floor.calls[other]? := by
  induction order with
  | nil =>
      intro floor hidle _ _
      exact ⟨[], [], rfl, rfl, .nil, hidle, fun _ _ => rfl⟩
  | cons ticket rest ih =>
      intro floor hidle hnodup hworking
      obtain ⟨hout, hrest⟩ := List.nodup_cons.1 hnodup
      obtain ⟨visit, hvisit, hcall⟩ := hworking ticket (by simp)
      obtain ⟨between, hleads, hbank, hended, hidle', hothers⟩ :=
        exists_alone now visit.stamp (visit.plan rules) floor hcall (Or.inl hidle)
      obtain ⟨turns, hplay⟩ := hleads.exists_play hvisit
      have hworking' : ∀ other ∈ rest, ∃ visit, visits[other]? = some visit ∧
          between.calls[other]? = some (.working (visit.plan rules)) := by
        intro other hother
        have hne : ticket ≠ other := fun heq => hout (heq ▸ hother)
        rw [hothers other hne]
        exact hworking other (List.mem_cons_of_mem _ hother)
      obtain ⟨events, outcomes, hone, hserve, hall, hfinal, hkept⟩ :=
        ih between hidle' hrest hworking'
      refine ⟨List.replicate turns (.turn now ticket) ++ events,
        ((visit.plan rules).run visit.stamp floor.bank).1 :: outcomes,
        ⟨turns, events, rfl, hone⟩, ?_⟩
      rw [play_append, hplay]
      refine ⟨?_, .cons ?_ hall, hfinal, ?_⟩
      · rw [List.filterMap_cons, hvisit]
        simp only [Bank.serveAll]
        rw [← hbank, hserve]
      · rw [hkept ticket hout]
        exact hended
      · intro other hother
        have hne : ticket ≠ other := fun heq => hother (heq ▸ List.mem_cons_self)
        rw [hkept other fun hmem => hother (List.mem_cons_of_mem _ hmem), hothers other hne]

end Cashbook.Floor
