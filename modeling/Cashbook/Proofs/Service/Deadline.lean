/-
A missed deadline has no effect.

A caller who is told that a call has failed must be able to make the same call again.  So
wherever a call is broken off, while it waits to look at a row, for one of its keys, or for
the change itself, nothing of it may be left: no row, no key, no place in a queue, no
count.  And once its change is made it can no longer be told that it has failed.

Both come down to the change being the last thing that a call asks for (`Plan.Concludes`).
A call whose change is made has come to its reply in the same moment, and whatever has come
to an outcome stays with it (`Floor.Settled`): it takes its way back, which is a bounded
number of turns however many others have theirs in between, and asks for nothing more.  So
a call that ends with an error is none whose change was made.
-/
import Cashbook.Proofs.Locks.Departure
import Cashbook.Proofs.Service.Conclusion
import Cashbook.Proofs.Service.CriticalSection

namespace Cashbook

/-- Whether an event is a turn of a call. -/
def Event.isTurnOf (ticket : Nat) : Event → Bool
  | .turn _ other => other == ticket
  | .interrupt .. | .sweep .. => false

namespace Floor

variable {visits : List Visit} {floor later : Floor Reply} {ticket : Nat} {visit : Visit}
  {outcome : Outcome Reply}

/-- A call has come to an outcome: it has yet to return it, or has ended and gives its keys back. -/
def Settled (floor : Floor Reply) (ticket : Nat) (outcome : Outcome Reply) : Prop :=
  floor.calls[ticket]? = some (.working (.ofOutcome outcome)) ∨
    floor.calls[ticket]? = some (.ended outcome) ∧ floor.locks.GivesBack ticket

/-- At least as many turns as a call that has come to an outcome takes to be gone. -/
def toGo (floor : Floor Reply) (ticket : Nat) : Nat :=
  match floor.calls[ticket]? with
  | some (.working _) => floor.locks.toGo ticket + 1
  | some (.ended _) | none => floor.locks.toGo ticket

/-- A call was broken off and has given its keys back, and all else is as it was. -/
structure Dropped (floor later : Floor Reply) (ticket : Nat) : Prop
    extends Locks.Departed floor.locks later.locks ticket where
  bank : later.bank = floor.bank
  calls : ∀ other : Nat, other ≠ ticket → later.calls[other]? = floor.calls[other]?

/-! ### Coming to an outcome -/

theorem settled_finish (floor : Floor Reply) (ticket : Nat) (outcome : Outcome Reply) :
    (floor.finish ticket outcome).Settled ticket outcome :=
  Or.inr ⟨Std.ExtTreeMap.getElem?_insert_self, floor.locks.givesBack_leave ticket⟩

theorem toGo_finish (floor : Floor Reply) (ticket : Nat) (outcome : Outcome Reply) :
    (floor.finish ticket outcome).toGo ticket = floor.locks.toGo ticket := by
  have hcall : (floor.finish ticket outcome).calls[ticket]? = some (.ended outcome) :=
    Std.ExtTreeMap.getElem?_insert_self
  simp only [toGo, hcall]
  exact floor.locks.toGo_leave ticket

namespace Settled

theorem of_same (h : floor.Settled ticket outcome)
    (hcall : later.calls[ticket]? = floor.calls[ticket]?)
    (hclaim : later.locks.claims[ticket]? = floor.locks.claims[ticket]?) :
    later.Settled ticket outcome ∧ later.toGo ticket = floor.toGo ticket := by
  refine ⟨?_, ?_⟩
  · rw [Settled, Locks.GivesBack, hcall, hclaim]
    exact h
  · rw [toGo, toGo, Locks.toGo, Locks.toGo, hcall, hclaim]

/-- It ends with this outcome and with no other. -/
theorem eq_of_ended {other : Outcome Reply} (h : floor.Settled ticket outcome)
    (hended : floor.calls[ticket]? = some (.ended other)) : other = outcome := by
  rcases h with hcall | ⟨hcall, -⟩
  · cases hcall.symm.trans hended
  · cases hcall.symm.trans hended
    rfl

theorem yields {reply : Reply} (h : floor.Settled ticket (.ok reply)) : floor.Yields ticket reply := by
  rcases h with hcall | ⟨hcall, -⟩
  · exact Or.inr hcall
  · exact Or.inl hcall

/-- It cannot be told any more that it has failed. -/
theorem interrupt_eq (h : floor.Settled ticket outcome) (failure : Failure) :
    floor.interrupt ticket failure = floor := by
  rcases h with hcall | ⟨hcall, -⟩
  · cases outcome <;> simp only [interrupt, hcall, Plan.ofOutcome]
  · simp only [interrupt, hcall]

/-- It is given no change any more. -/
theorem not_grants (h : floor.Settled ticket outcome) : ¬Grants visits floor later ticket := by
  intro hgrants
  obtain ⟨_, q, next, _, -, -, hasking, -⟩ := hgrants
  rcases h with hcall | ⟨hcall, -⟩
  · cases outcome <;> cases hasking.symm.trans hcall
  · cases hasking.symm.trans hcall

theorem bank_turn (h : floor.Settled ticket outcome) (now : Nat) :
    (floor.happen visits (.turn now ticket)).bank = floor.bank := by
  rcases floor.bank_happen visits (.turn now ticket) with hsame | ⟨_, _, hevent, hgrants⟩
  · exact hsame
  · cases hevent
    exact absurd hgrants h.not_grants

/-- Each of its turns takes it closer to being gone. -/
theorem turn (h : floor.Settled ticket outcome) (hvisit : visits[ticket]? = some visit) (now : Nat) :
    (floor.happen visits (.turn now ticket)).Settled ticket outcome ∧
      (floor.happen visits (.turn now ticket)).toGo ticket ≤ floor.toGo ticket - 1 := by
  simp only [happen, hvisit]
  rcases h with hcall | ⟨hcall, hback⟩
  · have hfinish : floor.turn now visit.stamp ticket = floor.finish ticket outcome := by
      cases outcome <;> simp only [Floor.turn, hcall, Plan.ofOutcome]
    rw [hfinish]
    refine ⟨settled_finish floor ticket outcome, ?_⟩
    rw [toGo_finish]
    simp only [toGo, hcall, Nat.add_sub_cancel, le_refl]
  · obtain ⟨hstill, -, hless⟩ := hback.step now
    simp only [Floor.turn, hcall]
    refine ⟨Or.inr ⟨hcall, hstill⟩, ?_⟩
    simpa only [toGo, hcall] using hless

theorem happen (h : floor.Settled ticket outcome) (hvisit : visits[ticket]? = some visit)
    (event : Event) :
    (floor.happen visits event).Settled ticket outcome ∧
      (floor.happen visits event).toGo ticket ≤
        floor.toGo ticket - if event.isTurnOf ticket then 1 else 0 := by
  by_cases hown : event.ticket? = some ticket
  · cases event with
    | sweep now ttl => cases hown
    | interrupt other failure =>
        obtain rfl : other = ticket := Option.some.inj hown
        rw [Floor.happen, h.interrupt_eq]
        exact ⟨h, le_rfl⟩
    | turn now other =>
        obtain rfl : other = ticket := Option.some.inj hown
        rw [Event.isTurnOf, if_pos (beq_self_eq_true other)]
        exact h.turn hvisit now
  · have hnot : event.isTurnOf ticket = false := by
      cases event with
      | turn now other => exact beq_false_of_ne fun heq => hown (congrArg some heq)
      | interrupt other failure => rfl
      | sweep now ttl => rfl
    obtain ⟨hcall, hclaim⟩ := floor.happen_of_other visits hown
    obtain ⟨hsettled, hgo⟩ := h.of_same hcall hclaim
    refine ⟨hsettled, ?_⟩
    rw [hgo, hnot]
    exact le_rfl

/-- **What has come to an outcome stays with it, and with every turn it is closer to being gone.** -/
theorem play (h : floor.Settled ticket outcome) (hvisit : visits[ticket]? = some visit)
    (events : List Event) :
    (floor.play visits events).Settled ticket outcome ∧
      (floor.play visits events).toGo ticket ≤
        floor.toGo ticket - events.countP (Event.isTurnOf ticket) := by
  induction events generalizing floor with
  | nil => exact ⟨h, le_rfl⟩
  | cons event rest ih =>
      obtain ⟨hnext, hless⟩ := h.happen hvisit event
      obtain ⟨hrest, hgo⟩ := ih hnext
      refine ⟨hrest, hgo.trans ?_⟩
      rw [List.countP_cons]
      omega

theorem not_mem_commits (h : floor.Settled ticket outcome) (hvisit : visits[ticket]? = some visit)
    (events : List Event) : ticket ∉ floor.commits visits events := by
  induction events generalizing floor with
  | nil => exact List.not_mem_nil
  | cons event rest ih =>
      rw [commits, List.mem_append, not_or]
      refine ⟨?_, ih (h.happen hvisit event).1⟩
      intro hnow
      exact h.not_grants (grants_of_committing? (Option.mem_toList.1 hnow))

/-- Whoever has come to an outcome and has nothing to give back any more is gone. -/
theorem gone (h : floor.Settled ticket outcome) (hgo : floor.toGo ticket = 0) :
    floor.outcome? ticket = some outcome ∧ floor.locks.claims[ticket]? = none := by
  rcases h with hcall | ⟨hcall, -⟩
  · simp [toGo, hcall] at hgo
  · have hnone : floor.locks.claims[ticket]? = none :=
      Locks.unclaimed_of_toGo (by simpa only [toGo, hcall] using hgo)
    exact ⟨by simp only [outcome?, hcall, hnone], hnone⟩

/-- It returns within a bounded number of turns, whatever else happens in between. -/
theorem exists_gone (h : floor.Settled ticket outcome) (hvisit : visits[ticket]? = some visit) :
    ∃ turns, ∀ more, turns ≤ more.countP (Event.isTurnOf ticket) →
      (floor.play visits more).outcome? ticket = some outcome ∧
        (floor.play visits more).locks.claims[ticket]? = none := by
  refine ⟨floor.toGo ticket, ?_⟩
  intro more hmany
  obtain ⟨hsettled, hgo⟩ := h.play hvisit more
  exact hsettled.gone (by omega)

end Settled

/-! ### Breaking off -/

/-- A call that waits for an answer or for keys is told that it has failed. -/
theorem interrupt_of_waiting {plan : Plan Reply} (hcall : floor.calls[ticket]? = some (.working plan))
    (hwaits : plan.isOver = false) (failure : Failure) :
    floor.interrupt ticket failure = floor.finish ticket (.error failure) := by
  cases plan with
  | done _ | fail _ => cases hwaits
  | ask q next => simp only [interrupt, hcall]
  | hold keys next => simp only [interrupt, hcall]

/-- A call that has ended moves at its keys alone. -/
theorem play_turns (hcall : floor.calls[ticket]? = some (.ended outcome))
    (hvisit : visits[ticket]? = some visit) (now n : Nat) :
    floor.play visits (List.replicate n (.turn now ticket)) =
      { floor with locks := floor.locks.act now (List.replicate n ticket) } := by
  induction n generalizing floor with
  | zero => rfl
  | succ n ih =>
      have hturn : floor.happen visits (.turn now ticket) =
          { floor with locks := floor.locks.step now ticket } := by
        simp only [happen, hvisit, turn, hcall]
      show (floor.happen visits (.turn now ticket)).play visits _ = _
      rw [hturn]
      exact ih hcall

/-- **Where a call was broken off nothing is left of it when it has given its keys back.** -/
theorem exists_dropped (hcoherent : floor.locks.Coherent) (hvisit : visits[ticket]? = some visit)
    (failure : Failure) (now : Nat) :
    ∃ n, floor.Dropped
      ((floor.finish ticket (.error failure)).play visits (List.replicate n (.turn now ticket)))
      ticket := by
  refine ⟨floor.locks.toGo ticket, ?_⟩
  have hcall : (floor.finish ticket (.error failure)).calls[ticket]? =
      some (.ended (.error failure)) := Std.ExtTreeMap.getElem?_insert_self
  rw [play_turns hcall hvisit]
  refine ⟨hcoherent.departed now ticket, rfl, ?_⟩
  intro other hne
  exact Table.getElem?_insert_of_ne _ _ (Ne.symm hne)

/-! ### The change comes last -/

/-- Every call that is under way ends with its change. -/
def Concluding (floor : Floor Reply) : Prop :=
  ∀ (ticket : Nat) (plan : Plan Reply), floor.calls[ticket]? = some (.working plan) →
    plan.Concludes id

theorem concluding_opened (rules : Rules) (visits : List Visit) (bank : Bank)
    (locks : Locks AccountId) : (opened rules visits bank locks).Concluding := by
  intro ticket plan hcall
  rw [calls_opened] at hcall
  obtain ⟨visit, -, hplan⟩ := Option.map_eq_some_iff.1 hcall
  cases hplan
  exact visit.call.concludes_plan rules visit.identity

namespace Concluding

theorem happen (h : floor.Concluding) (event : Event) : (floor.happen visits event).Concluding := by
  intro ticket plan hcall
  cases floor.fares_happen visits event ticket with
  | rests hsame _ => exact h ticket plan (hsame.symm.trans hcall)
  | reaches hbefore hafter _ =>
      cases hafter.symm.trans hcall
      exact h ticket _ hbefore
  | enters hbefore hafter _ =>
      cases hafter.symm.trans hcall
      exact (h ticket _ hbefore).of_hold
  | @learns visit q next answer _ hbefore _ hafter _ =>
      cases hafter.symm.trans hcall
      have hasking := h ticket _ hbefore
      cases hwrite : q.isWrite with
      | true =>
          obtain ⟨reply, hreply, -⟩ := hasking.of_write hwrite answer
          rw [hreply]
          exact Plan.concludes_done reply
      | false => exact hasking.of_read hwrite answer
  | ends hended => cases hended.symm.trans hcall

theorem play (h : floor.Concluding) (events : List Event) :
    (floor.play visits events).Concluding := by
  induction events generalizing floor with
  | nil => exact h
  | cons event rest ih => exact ih (h.happen event)

/-- A call whose change is made has come to what the change came to. -/
theorem settled {q : Query} {next : q.Answer → Plan Reply} {answer : q.Answer}
    (h : floor.Concluding) (hcall : floor.calls[ticket]? = some (.working (.ask q next)))
    (hwrite : q.isWrite = true)
    (hafter : later.calls[ticket]? = some (.working (next answer))) :
    ∃ reply, q.reply? answer = some reply ∧ later.Settled ticket (.ok reply) := by
  obtain ⟨reply, hdone, hreply⟩ := (h ticket _ hcall).of_write hwrite answer
  refine ⟨reply, hreply, Or.inl ?_⟩
  rw [hafter, hdone]
  rfl

theorem settled_of_grants (h : floor.Concluding) (hgrants : Grants visits floor later ticket) :
    ∃ visit reply, visits[ticket]? = some visit ∧ later.Settled ticket (.ok reply) := by
  obtain ⟨visit, q, next, answer, hvisit, hwrite, hcall, -, hafter⟩ := hgrants
  obtain ⟨reply, -, hsettled⟩ := h.settled hcall hwrite hafter
  exact ⟨visit, reply, hvisit, hsettled⟩

/-- None of the turns of a call that ends with an error changes the bank. -/
theorem bank_turn (h : floor.Concluding) {failure : Failure} {now : Nat} {rest : List Event}
    (hfailed : ((floor.happen visits (.turn now ticket)).play visits rest).calls[ticket]? =
      some (.ended (.error failure))) :
    (floor.happen visits (.turn now ticket)).bank = floor.bank := by
  rcases floor.bank_happen visits (.turn now ticket) with hsame | ⟨_, _, hevent, hgrants⟩
  · exact hsame
  · cases hevent
    obtain ⟨visit, reply, hvisit, hsettled⟩ := h.settled_of_grants hgrants
    cases (hsettled.play hvisit rest).1.eq_of_ended hfailed

/-- Nobody makes two changes, and whoever makes one comes to a reply. -/
theorem commits (h : floor.Concluding) (events : List Event) :
    (floor.commits visits events).Nodup ∧ ∀ ticket ∈ floor.commits visits events,
      ∃ reply, (floor.play visits events).Settled ticket (.ok reply) := by
  induction events generalizing floor with
  | nil => exact ⟨.nil, fun _ hmem => absurd hmem List.not_mem_nil⟩
  | cons event rest ih =>
      obtain ⟨hnodup, hreplies⟩ := ih (h.happen event)
      rw [Floor.commits]
      cases hcommitting : floor.committing? visits event with
      | none => exact ⟨hnodup, hreplies⟩
      | some ticket =>
          obtain ⟨visit, reply, hvisit, hsettled⟩ :=
            h.settled_of_grants (grants_of_committing? hcommitting)
          refine ⟨List.nodup_cons.2 ⟨hsettled.not_mem_commits hvisit rest, hnodup⟩, ?_⟩
          intro other hother
          rcases List.mem_cons.1 hother with rfl | hlater
          · exact ⟨reply, (hsettled.play hvisit rest).1⟩
          · exact hreplies other hlater

/-- Of calls that have ended with an error, and one more, at most one has made a change. -/
theorem length_commits_le (h : floor.Concluding) {events : List Event} {failed : List Nat}
    (hfailed : ∀ ticket ∈ failed, ∃ failure,
      (floor.play visits events).calls[ticket]? = some (.ended (.error failure))) (last : Nat) :
    ((floor.commits visits events).filter fun ticket => ticket ∈ last :: failed).length ≤ 1 := by
  obtain ⟨hnodup, hreplies⟩ : (floor.commits visits events).Nodup ∧ _ := h.commits events
  have honly : ((floor.commits visits events).filter fun ticket => ticket ∈ last :: failed) ⊆ [last] := by
    intro ticket hticket
    obtain ⟨hmade, htries⟩ := List.mem_filter.1 hticket
    rcases List.mem_cons.1 (of_decide_eq_true htries) with rfl | hmem
    · exact List.mem_singleton_self _
    · obtain ⟨failure, hended⟩ := hfailed ticket hmem
      obtain ⟨reply, hsettled⟩ := hreplies ticket hmade
      cases hsettled.eq_of_ended hended
  exact (List.subperm_of_subset (hnodup.filter _) honly).length_le

end Concluding

end Floor

/-! ### For every call, wherever it is -/

/--
**A missed deadline has no effect.**  Any calls are under way on any bank, and anything has
happened in any order: turns, interruptions and sweeps.

  * A call that waits, for an answer, for its change or for keys, is told that it has
    failed.  The bank stays as it is.  Once the call has had its turns to give its keys
    back, all is as it was without it: nobody has come to another place in a line, and each
    key that it had to do with counts one less.  It needs no more than a certain number of
    turns for that, whatever the others do in between; then it is with no key and in no
    line, and its caller is told of the failure.
  * A call that ended with an error, for whatever reason, has not changed the bank in any of
    its turns.
  * So it may be made again: of any tries that ended with an error and one more, one at most
    has made a change.
  * A call whose change is made returns what the change came to, again within a certain
    number of turns.  It never ends with anything else, nothing comes of telling it that it
    has failed, and it makes no other change.
-/
theorem Floor.deadline_harmless (rules : Rules) (visits : List Visit) (bank : Bank)
    (events : List Event) :
    let start := Floor.opened rules visits bank .empty
    let floor := start.play visits events
    (∀ ticket plan failure, floor.calls[ticket]? = some (.working plan) → plan.isOver = false →
      let cut := floor.happen visits (.interrupt ticket failure)
      cut.bank = floor.bank ∧
      (∀ now, ∃ n, floor.Dropped (cut.play visits (List.replicate n (.turn now ticket))) ticket) ∧
      ∃ turns, ∀ more, turns ≤ more.countP (Event.isTurnOf ticket) →
        let later := cut.play visits more
        later.outcome? ticket = some (.error failure) ∧
          (∀ key, ¬later.locks.IsWith ticket key) ∧
          ∀ lock, ticket ∉ (later.locks.lockOf lock).line) ∧
    (∀ ticket failure, floor.calls[ticket]? = some (.ended (.error failure)) →
      ∀ earlier now rest, events = earlier ++ .turn now ticket :: rest →
        let before := start.play visits earlier
        (before.happen visits (.turn now ticket)).bank = before.bank) ∧
    (∀ failed last,
      (∀ ticket ∈ failed, ∃ failure, floor.calls[ticket]? = some (.ended (.error failure))) →
        ((start.commits visits events).filter fun ticket => ticket ∈ last :: failed).length ≤ 1) ∧
    ∀ ticket visit q next answer changed now, visits[ticket]? = some visit →
      floor.calls[ticket]? = some (.working (.ask q next)) → q.isWrite = true →
      floor.bank.perform visit.stamp q = (.ok answer, changed) →
      let made := floor.happen visits (.turn now ticket)
      made.bank = changed ∧ ∃ reply, q.reply? answer = some reply ∧
        (∃ turns, ∀ more, turns ≤ more.countP (Event.isTurnOf ticket) →
          (made.play visits more).outcome? ticket = some (.ok reply)) ∧
        ∀ more,
          let later := made.play visits more
          later.Yields ticket reply ∧
          (∀ failure, later.happen visits (.interrupt ticket failure) = later) ∧
          ∀ now, (later.happen visits (.turn now ticket)).bank = later.bank := by
  intro start floor
  have hstart : start.Concluding := Floor.concluding_opened rules visits bank .empty
  have hconcluding : floor.Concluding := hstart.play events
  have hcoherent : floor.locks.Coherent := by
    refine Floor.coherent_play visits events ?_
    rw [locks_opened]
    exact .empty
  refine ⟨?_, ?_, fun _ last hfailed => hstart.length_commits_le hfailed last, ?_⟩
  · intro ticket plan failure hcall hwaits cut
    obtain ⟨first, hfirst, -⟩ := Floor.working_of_play hcall
    rw [calls_opened] at hfirst
    obtain ⟨visit, hvisit, -⟩ := Option.map_eq_some_iff.1 hfirst
    have hcut : cut = floor.finish ticket (.error failure) :=
      Floor.interrupt_of_waiting hcall hwaits failure
    have hsettled : cut.Settled ticket (.error failure) :=
      hcut ▸ floor.settled_finish ticket (.error failure)
    have hbank : cut.bank = floor.bank := by
      rw [hcut]
      rfl
    refine ⟨hbank, ?_, ?_⟩
    · intro now
      rw [hcut]
      exact Floor.exists_dropped hcoherent hvisit failure now
    · obtain ⟨turns, hgone⟩ := hsettled.exists_gone hvisit
      refine ⟨turns, ?_⟩
      intro more hmany later
      obtain ⟨houtcome, hnone⟩ := hgone more hmany
      have hlater : later.locks.Coherent :=
        Floor.coherent_play visits more (Floor.coherent_happen visits _ hcoherent)
      exact ⟨houtcome, Locks.not_isWith_of_unclaimed hnone, hlater.not_mem_line_of_unclaimed hnone⟩
  · intro ticket failure hended earlier now rest heq before
    have hfloor : (before.happen visits (.turn now ticket)).play visits rest = floor := by
      show _ = start.play visits events
      rw [heq, play_append]
      rfl
    exact (hstart.play earlier).bank_turn (hfloor ▸ hended)
  · intro ticket visit q next answer changed now hvisit hcall hwrite hperform made
    have hmade : made = { floor with bank := changed }.setCall ticket (.working (next answer)) :=
      Floor.happen_of_granted hvisit hcall hperform now
    have hafter : made.calls[ticket]? = some (.working (next answer)) := by
      rw [hmade]
      exact Std.ExtTreeMap.getElem?_insert_self
    have hbank : made.bank = changed := by
      rw [hmade]
      rfl
    obtain ⟨reply, hreply, hsettled⟩ := hconcluding.settled hcall hwrite hafter
    obtain ⟨turns, hgone⟩ := hsettled.exists_gone hvisit
    refine ⟨hbank, reply, hreply, ⟨turns, fun more hmany => (hgone more hmany).1⟩, ?_⟩
    intro more later
    have hlater : later.Settled ticket (.ok reply) := (hsettled.play hvisit more).1
    exact ⟨hlater.yields, hlater.interrupt_eq, hlater.bank_turn⟩

/-- A transfer that has both its keys and waits for its change, while another call waits for one of them. -/
theorem Floor.deadline_harmless_sample :
    let start := Floor.opened ⟨.zero, 2, 64⟩ Sample.rivals Sample.branch .empty
    let floor := start.play Sample.rivals Sample.lookedAgain
    let missed : Event := .interrupt 0 (.deadlineExceeded 50)
    let cut := floor.happen Sample.rivals missed
    (∃ n, floor.Dropped (cut.play Sample.rivals (List.replicate n (.turn 5 0))) 0) ∧
    (∀ earlier now rest, Sample.lookedAgain ++ [missed] = earlier ++ .turn now 0 :: rest →
      let before := start.play Sample.rivals earlier
      (before.happen Sample.rivals (.turn now 0)).bank = before.bank) ∧
    ((start.commits Sample.rivals (Sample.lookedAgain ++ [missed])).filter
      fun ticket => ticket ∈ [1, 0]).length ≤ 1 ∧
    ∃ reply turns, ∀ more, turns ≤ more.countP (Event.isTurnOf 0) →
      ((floor.happen Sample.rivals (.turn 5 0)).play Sample.rivals more).outcome? 0 =
        some (.ok reply) := by
  intro start floor missed cut
  obtain ⟨hcut, -, -, hmade⟩ := Floor.deadline_harmless ⟨.zero, 2, 64⟩ Sample.rivals Sample.branch
    Sample.lookedAgain
  obtain ⟨-, hfailed, htries, -⟩ := Floor.deadline_harmless ⟨.zero, 2, 64⟩ Sample.rivals Sample.branch
    (Sample.lookedAgain ++ [missed])
  have hrecording : floor.recording? 0 =
      some (Sample.price, .transfer Sample.alice Sample.bob) := by decide +kernel
  obtain ⟨next, hcall⟩ := Floor.recording?_eq_some_iff.1 hrecording
  have hended : (start.play Sample.rivals (Sample.lookedAgain ++ [missed])).calls[0]? =
      some (.ended (.error (.deadlineExceeded 50))) := by
    rw [play_append]
    show cut.calls[0]? = _
    rw [show cut = _ from Floor.interrupt_of_waiting hcall rfl _]
    exact Std.ExtTreeMap.getElem?_insert_self
  obtain ⟨-, hdropped, -⟩ := hcut 0 _ (.deadlineExceeded 50) hcall rfl
  have hagain := htries [0] 1 fun ticket hticket => by
    obtain rfl := List.mem_singleton.1 hticket
    exact ⟨_, hended⟩
  refine ⟨hdropped 5, hfailed 0 _ hended, hagain, ?_⟩
  have hallowed : (floor.bank.perform (.series 100 0)
      (.record Sample.price (.transfer Sample.alice Sample.bob))).1.isOk = true := by decide +kernel
  rcases hperform : floor.bank.perform (.series 100 0)
      (.record Sample.price (.transfer Sample.alice Sample.bob)) with ⟨outcome, changed⟩
  cases outcome with
  | error failure =>
      rw [hperform] at hallowed
      cases hallowed
  | ok answer =>
      obtain ⟨-, reply, -, hreturns, -⟩ := hmade 0 _ _ next answer changed 5 rfl hcall rfl hperform
      exact ⟨reply, hreturns⟩

end Cashbook
