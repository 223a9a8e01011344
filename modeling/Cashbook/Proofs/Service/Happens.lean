/-
What an event does.

An event is a turn of a call, an interruption or a sweep, and what it comes to depends on how
far the call is and on what the bank and the keys say.  `Floor.Happens` has one case for each
thing that can come of it, with everything that is known in that case.  An invariant of the
floor is shown case by case, without a look at `Floor.happen`.
-/
import Cashbook.Proofs.Service.Plan
import Cashbook.Proofs.Service.Play

namespace Cashbook

/-- The call that an event is about. -/
def Event.ticket? : Event → Option Nat
  | .turn _ ticket | .interrupt ticket _ => some ticket
  | .sweep .. => none

namespace Floor

/-- What an event comes to: the call that makes its change, if one does, and what is left. -/
inductive Happens (visits : List Visit) (floor : Floor Reply) :
    Event → Option Nat → Floor Reply → Prop where
  /-- There is no such call, or it cannot be told any more that it has failed. -/
  | rests (event : Event) : Happens visits floor event none floor
  /-- The table of keys is swept. -/
  | sweeps (now : AccountId → Nat) (ttl : Nat) : Happens visits floor (.sweep now ttl) none (floor.sweep now ttl)
  /-- A call that has nothing left to do returns its reply. -/
  | returns {now ticket : Nat} {reply : Reply}
      (before : floor.calls[ticket]? = some (.working (.done reply))) :
      Happens visits floor (.turn now ticket) none (floor.finish ticket (.ok reply))
  /-- A call fails, of itself or because it is told so. -/
  | fails {event : Event} {ticket : Nat} {plan : Plan Reply} (failure : Failure)
      (about : event.ticket? = some ticket)
      (before : floor.calls[ticket]? = some (.working plan))
      (unfinished : ∀ reply, plan ≠ .done reply) :
      Happens visits floor event none (floor.finish ticket (.error failure))
  /-- A call has a question answered. -/
  | learns {now ticket : Nat} {visit : Visit} {q : Query} {next : q.Answer → Plan Reply}
      {answer : q.Answer} (visited : visits[ticket]? = some visit)
      (before : floor.calls[ticket]? = some (.working (.ask q next)))
      (read : q.isWrite = false) (answered : (floor.bank.perform visit.stamp q).1 = .ok answer) :
      Happens visits floor (.turn now ticket) none (floor.setCall ticket (.working (next answer)))
  /-- A call makes its change. -/
  | changes {now ticket : Nat} {visit : Visit} {q : Query} {next : q.Answer → Plan Reply}
      {answer : q.Answer} {bank : Bank} (visited : visits[ticket]? = some visit)
      (before : floor.calls[ticket]? = some (.working (.ask q next)))
      (write : q.isWrite = true)
      (performed : floor.bank.perform visit.stamp q = (.ok answer, bank)) :
      Happens visits floor (.turn now ticket) (some ticket)
        ({ floor with bank }.setCall ticket (.working (next answer)))
  /-- A call sets out for its keys. -/
  | starts {now ticket : Nat} {keys : List AccountId} {next : Plan Reply}
      (before : floor.calls[ticket]? = some (.working (.hold keys next)))
      (unclaimed : floor.locks.claims[ticket]? = none) :
      Happens visits floor (.turn now ticket) none
        { floor with locks := floor.locks.start ticket keys }
  /-- A call takes an action on the way to its keys. -/
  | steps {now ticket : Nat} {keys : List AccountId} {next : Plan Reply} {claim : Claim AccountId}
      (before : floor.calls[ticket]? = some (.working (.hold keys next)))
      (claimed : floor.locks.claims[ticket]? = some claim) (partially : ¬claim.IsComplete) :
      Happens visits floor (.turn now ticket) none
        { floor with locks := floor.locks.step now ticket }
  /-- A call has all its keys, and goes on. -/
  | enters {now ticket : Nat} {keys : List AccountId} {next : Plan Reply} {claim : Claim AccountId}
      (before : floor.calls[ticket]? = some (.working (.hold keys next)))
      (claimed : floor.locks.claims[ticket]? = some claim) (complete : claim.IsComplete) :
      Happens visits floor (.turn now ticket) none (floor.setCall ticket (.working next))
  /-- A call that has ended takes an action on the way out. -/
  | leaves {now ticket : Nat} {outcome : Outcome Reply}
      (before : floor.calls[ticket]? = some (.ended outcome)) :
      Happens visits floor (.turn now ticket) none
        { floor with locks := floor.locks.step now ticket }

variable {visits : List Visit} {floor : Floor Reply} {ticket : Nat}

private theorem happens_ask {visit : Visit} {q : Query} {next : q.Answer → Plan Reply}
    (hvisit : visits[ticket]? = some visit)
    (hcall : floor.calls[ticket]? = some (.working (.ask q next))) (now : Nat) :
    Happens visits floor (.turn now ticket) (floor.committing? visits (.turn now ticket))
      (floor.ask visit.stamp ticket q next) := by
  simp only [committing?, hvisit, hcall, ask]
  rcases hperform : floor.bank.perform visit.stamp q with ⟨outcome, bank⟩
  cases outcome with
  | error failure =>
      obtain rfl := Bank.perform_error hperform
      rw [if_neg (fun hboth => Bool.false_ne_true hboth.2)]
      exact .fails failure rfl hcall nofun
  | ok answer =>
      cases hwrite : q.isWrite with
      | true =>
          rw [if_pos ⟨rfl, rfl⟩]
          exact .changes hvisit hcall hwrite hperform
      | false =>
          have hsame := Bank.perform_read hwrite visit.stamp floor.bank
          rw [hperform] at hsame
          obtain rfl : bank = floor.bank := hsame
          rw [if_neg (fun hboth => Bool.false_ne_true hboth.1)]
          exact .learns hvisit hcall hwrite (by rw [hperform])

private theorem happens_reach (visits : List Visit) {keys : List AccountId} {next : Plan Reply}
    (hcall : floor.calls[ticket]? = some (.working (.hold keys next))) (now : Nat) :
    Happens visits floor (.turn now ticket) none (floor.reach now ticket keys next) := by
  unfold reach
  split
  · next hnone => exact .starts hcall hnone
  · next claim hclaim =>
    split
    · next hcomplete => exact .enters hcall hclaim hcomplete
    · next hpartial => exact .steps hcall hclaim hpartial

/-- **What comes of an event is one of these.** -/
theorem happens (visits : List Visit) (floor : Floor Reply) (event : Event) :
    Happens visits floor event (floor.committing? visits event) (floor.happen visits event) := by
  cases event with
  | sweep now ttl => exact .sweeps now ttl
  | interrupt ticket failure =>
      rw [happen, interrupt]
      split
      · next hcall => exact .fails failure rfl hcall nofun
      · next hcall => exact .fails failure rfl hcall nofun
      all_goals exact .rests _
  | turn now ticket =>
      rw [happen]
      cases hvisit : visits[ticket]? with
      | none =>
          simp only [committing?, hvisit]
          exact .rests _
      | some visit =>
          simp only [turn]
          by_cases hask : ∃ q next, floor.calls[ticket]? = some (.working (.ask q next))
          · obtain ⟨q, next, hcall⟩ := hask
            simp only [hcall]
            exact happens_ask hvisit hcall now
          · rw [committing?_eq_none fun q next hcall => hask ⟨q, next, hcall⟩]
            split
            · next hcall => exact .returns hcall
            · next failure hcall => exact .fails failure rfl hcall nofun
            · next q next hcall => exact absurd ⟨q, next, hcall⟩ hask
            · next hcall => exact happens_reach visits hcall now
            · next hcall => exact .leaves hcall
            · exact .rests _

end Floor

end Cashbook
