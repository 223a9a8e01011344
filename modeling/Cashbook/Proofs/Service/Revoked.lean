/-
What the removal of a card stops.

A movement looks its card up once, on the way to its keys, and from then on it knows the
account and has no more use for the card.  The removal of a card waits for no key.  So a
removal may be over and done with while a movement that has looked the card up still
stands in line, and the movement is made all the same: what is looked at a second time are
accounts, and not cards.

What a removal does stop is every movement that has not looked the card up.  The number
leads nowhere from then on, until a card is issued under it, and no movement is made for a
card that was never found.  That a call has found its card, and that it has removed it, are
both said of the queries that it has had answered: `Plan.Obeys` says of a plan what it may
ask, and when it may be done, given these, and `Floor.Follows` carries this through a run.
-/
import Cashbook.Proofs.Ledger.Ownership
import Cashbook.Proofs.Service.CriticalSection

namespace Cashbook

/-- A query, and the answer to it. -/
abbrev Answered := (q : Query) × q.Answer

/-! ### Plans and what they have been told -/

namespace Plan

variable {α β : Type}

/--
A plan that follows a rule.  The rule says, for the answers so far, what may be asked next,
and whether it is time to be done, for which it is given no query.
-/
def Obeys (rule : List Answered → Option Query → Prop) : List Answered → Plan α → Prop
  | known, .done _ => rule known none
  | _, .fail _ => True
  | known, .hold _ next => next.Obeys rule known
  | known, .ask q next =>
    rule known (some q) ∧ ∀ answer, (next answer).Obeys rule (⟨q, answer⟩ :: known)

variable {rule : List Answered → Option Query → Prop} {known : List Answered} {plan : Plan α}

theorem obeys_map (f : α → β) (h : plan.Obeys rule known) : (f <$> plan).Obeys rule known := by
  show (plan.bind fun value => Plan.done (f value)).Obeys rule known
  induction plan generalizing known with
  | done value => exact h
  | fail failure => trivial
  | hold more next ih => exact ih h
  | ask q next ih => exact ⟨h.1, fun answer => ih answer (h.2 answer)⟩

theorem obeys_ofOutcome_bind {outcome : Outcome α} {f : α → Plan β}
    (h : ∀ value, outcome = .ok value → (f value).Obeys rule known) :
    (ofOutcome outcome >>= f).Obeys rule known := by
  cases outcome with
  | ok value => exact h value rfl
  | error failure => trivial

theorem obeys_fail (failure : Failure) : (Plan.fail failure : Plan α).Obeys rule known := trivial

theorem Obeys.of_done {value : α} (h : (Plan.done value).Obeys rule known) : rule known none := h

theorem obeys_hold {keys : List AccountId} :
    (Plan.hold keys plan).Obeys rule known ↔ plan.Obeys rule known := Iff.rfl

theorem Obeys.of_ask {q : Query} {next : q.Answer → Plan α}
    (h : (Plan.ask q next).Obeys rule known) :
    rule known (some q) ∧ ∀ answer, (next answer).Obeys rule (⟨q, answer⟩ :: known) := h

theorem obeys_bind {q : Query} {f : q.Answer → Plan β} (hq : rule known (some q))
    (h : ∀ answer, (f answer).Obeys rule (⟨q, answer⟩ :: known)) :
    (query q >>= f).Obeys rule known := ⟨hq, h⟩

theorem obeys_query {q : Query} (hq : rule known (some q))
    (h : ∀ answer, rule (⟨q, answer⟩ :: known) none) : (query q).Obeys rule known := ⟨hq, h⟩

-- From here on plans are taken apart by these lemmas alone.
attribute [irreducible] Obeys

/-! ### Movements find their card -/

/-- No movement is asked for but of the account that a card was found to lead to. -/
def PaysWith (number : CardNumber) (known : List Answered) : Option Query → Prop
  | some (.record _ kind) =>
    ∃ account : Account, ⟨.accountOfCard number, account⟩ ∈ known ∧ kind.party = account.id
  | _ => True

variable {number : CardNumber} {account : Account} {amount : Amount} {kind : TransactionKind}

theorem obeys_recording (hparty : kind.party = account.id) (ids : List AccountId)
    (hfound : ⟨.accountOfCard number, account⟩ ∈ known) :
    (recording amount kind ids).Obeys (PaysWith number) known := by
  induction ids generalizing known with
  | nil => exact obeys_query ⟨account, hfound, hparty⟩ fun _ => trivial
  | cons first rest ih =>
      rw [recording_cons]
      exact obeys_bind trivial fun row =>
        obeys_ofOutcome_bind fun _ _ => ih (List.mem_cons_of_mem _ hfound)

theorem obeys_moving (order : Order) (hfound : ⟨.accountOfCard number, account⟩ ∈ known) :
    (moving ⟨amount, order⟩ account).Obeys (PaysWith number) known := by
  rw [moving_eq]
  cases order with
  | deposit card => exact obeys_hold.2 (obeys_recording rfl _ hfound)
  | withdrawal card =>
      exact obeys_ofOutcome_bind fun _ _ => obeys_hold.2 (obeys_recording rfl _ hfound)
  | transfer card destination =>
      refine obeys_ofOutcome_bind fun _ _ => obeys_bind trivial fun other => ?_
      unfold transferring
      split
      · exact obeys_fail _
      split
      · exact obeys_fail _
      · exact obeys_hold.2 (obeys_recording rfl _ (List.mem_cons_of_mem _ hfound))

theorem obeys_move {rules : Rules} {identity : String} {request : MovementRequest}
    {movement : Movement} (hmovement : rules.movement request = .ok movement) :
    (move rules identity request).Obeys (PaysWith movement.order.card) known := by
  rw [move_eq]
  refine obeys_ofOutcome_bind fun understood hunderstood => ?_
  obtain rfl := Except.ok.inj (hmovement.symm.trans hunderstood)
  exact obeys_bind trivial fun _ => obeys_bind trivial fun account =>
    obeys_ofOutcome_bind fun _ _ => obeys_moving movement.order List.mem_cons_self

/-! ### Removals remove their card -/

/-- Whoever is done has removed the card. -/
def DoneByRemoving (number : CardNumber) (known : List Answered) : Option Query → Prop
  | none => ∃ card : Card, ⟨.deleteCard number, card⟩ ∈ known
  | some _ => True

theorem obeys_removeCard {identity raw : String} (hnumber : CardNumber.read raw = .ok number) :
    (removeCard identity raw).Obeys (DoneByRemoving number) known := by
  refine obeys_ofOutcome_bind fun understood hunderstood => ?_
  obtain rfl := Except.ok.inj (hnumber.symm.trans hunderstood)
  refine obeys_bind trivial fun card => ?_
  rw [ownedAccount_bind]
  refine obeys_bind trivial fun owner => obeys_bind trivial fun account => ?_
  refine obeys_ofOutcome_bind fun _ _ => ?_
  exact obeys_query trivial fun removed => ⟨removed, List.mem_cons_self⟩

end Plan

/-! ### What calls have been told -/

namespace Floor

/-- A call has a query answered when this happens. -/
def Answers (visits : List Visit) (floor : Floor Reply) (event : Event) (ticket : Nat)
    (told : Answered) : Prop :=
  ∃ now visit next, event = .turn now ticket ∧ visits[ticket]? = some visit ∧
    floor.calls[ticket]? = some (.working (.ask told.1 next)) ∧
      (floor.bank.perform visit.stamp told.1).1 = .ok told.2

/-- At some moment of a run a call had a query answered. -/
def HasLearnt (visits : List Visit) (start : Floor Reply) (events : List Event) (ticket : Nat)
    (told : Answered) : Prop :=
  ∃ earlier event later, earlier ++ event :: later = events ∧
    (start.play visits earlier).Answers visits event ticket told

/-- A call has come to where it is by following a rule, given what it has been told. -/
def Follows (rule : List Answered → Option Query → Prop) (visits : List Visit)
    (start : Floor Reply) (events : List Event) (ticket : Nat) : Prop :=
  ∃ known, (∀ told ∈ known, HasLearnt visits start events ticket told) ∧
    (∀ plan, (start.play visits events).calls[ticket]? = some (.working plan) →
      plan.Obeys rule known) ∧
    ∀ reply, (start.play visits events).calls[ticket]? = some (.ended (.ok reply)) →
      rule known none

variable {visits : List Visit} {start floor later : Floor Reply} {events : List Event}
  {event : Event} {ticket : Nat} {committed : Option Nat} {told : Answered}
  {known : List Answered} {rule : List Answered → Option Query → Prop}

theorem HasLearnt.append (h : HasLearnt visits start events ticket told) (more : List Event) :
    HasLearnt visits start (events ++ more) ticket told := by
  obtain ⟨earlier, event, later, rfl, hanswers⟩ := h
  exact ⟨earlier, event, later ++ more, by simp, hanswers⟩

/-- What a call was told in a run it was told before something happened, just then, or later. -/
theorem HasLearnt.before_or_after {before after : List Event} {removal : Event}
    (h : HasLearnt visits start (before ++ removal :: after) ticket told) :
    HasLearnt visits start before ticket told ∨
      (start.play visits before).Answers visits removal ticket told ∨
      ∃ first event rest, first ++ event :: rest = after ∧
        (start.play visits (before ++ removal :: first)).Answers visits event ticket told := by
  obtain ⟨earlier, event, later, hsplit, hanswers⟩ := h
  rcases List.append_eq_append_iff.1 hsplit with ⟨between, rfl, hrest⟩ | ⟨between, rfl, hrest⟩
  · cases between with
    | nil =>
        obtain ⟨rfl, -⟩ := List.cons.inj hrest
        exact Or.inr (Or.inl ((List.append_nil earlier).symm ▸ hanswers))
    | cons _ more =>
        obtain ⟨rfl, -⟩ := List.cons.inj hrest
        exact Or.inl ⟨earlier, event, more, rfl, hanswers⟩
  · cases between with
    | nil =>
        obtain ⟨rfl, -⟩ := List.cons.inj hrest
        exact Or.inr (Or.inl ((List.append_nil before) ▸ hanswers))
    | cons _ more =>
        obtain ⟨rfl, hafter⟩ := List.cons.inj hrest
        exact Or.inr (Or.inr ⟨more, event, later, hafter.symm, hanswers⟩)

theorem yields_of_outcome? {reply : Reply} (h : floor.outcome? ticket = some (.ok reply)) :
    floor.Yields ticket reply := by
  unfold outcome? at h
  split at h
  · next hcall _ => exact Or.inl (Option.some.inj h ▸ hcall)
  · cases h

theorem calls_setCall (floor : Floor Reply) (ticket : Nat) (progress : Progress Reply) :
    (floor.setCall ticket progress).calls[ticket]? = some progress :=
  Std.ExtTreeMap.getElem?_insert_self

theorem calls_finish (floor : Floor Reply) (ticket : Nat) (outcome : Outcome Reply) :
    (floor.finish ticket outcome).calls[ticket]? = some (.ended outcome) :=
  Std.ExtTreeMap.getElem?_insert_self

/-- As far as it has come a call obeys a rule, given what it has been told. -/
def Obeying (rule : List Answered → Option Query → Prop) (known : List Answered)
    (floor : Floor Reply) (ticket : Nat) : Prop :=
  (∀ plan, floor.calls[ticket]? = some (.working plan) → plan.Obeys rule known) ∧
    ∀ reply, floor.calls[ticket]? = some (.ended (.ok reply)) → rule known none

theorem obeying_of_working {plan : Plan Reply} (hcall : floor.calls[ticket]? = some (.working plan))
    (h : plan.Obeys rule known) : Obeying rule known floor ticket := by
  refine ⟨fun found hfound => ?_, fun reply hreply => ?_⟩
  · cases hcall.symm.trans hfound
    exact h
  · cases hcall.symm.trans hreply

theorem obeying_of_ended {outcome : Outcome Reply}
    (hcall : floor.calls[ticket]? = some (.ended outcome))
    (h : ∀ reply, outcome = .ok reply → rule known none) : Obeying rule known floor ticket := by
  refine ⟨fun plan hplan => ?_, fun reply hreply => ?_⟩
  · cases hcall.symm.trans hplan
  · cases hcall.symm.trans hreply
    exact h reply rfl

/-- Whatever happens, a call goes on obeying its rule, given what it is told then. -/
theorem Happens.obeying (h : Happens visits floor event committed later)
    (hobeys : Obeying rule known floor ticket) :
    ∃ more, (∀ told ∈ more, told ∈ known ∨ floor.Answers visits event ticket told) ∧
      Obeying rule more later ticket := by
  have hsame : later.calls[ticket]? = floor.calls[ticket]? →
      ∃ more, (∀ told ∈ more, told ∈ known ∨ floor.Answers visits event ticket told) ∧
        Obeying rule more later ticket := by
    intro hcall
    refine ⟨known, fun _ => Or.inl, ?_⟩
    rwa [Obeying, hcall]
  have htold : ∀ told, floor.Answers visits event ticket told →
      ∀ other ∈ told :: known, other ∈ known ∨ floor.Answers visits event ticket other := by
    intro told hanswers other hother
    rcases List.mem_cons.1 hother with rfl | hknown
    · exact Or.inr hanswers
    · exact Or.inl hknown
  by_cases hown : event.ticket? = some ticket
  · cases h with
    | sweeps _ _ => cases hown
    | rests _ | starts _ _ | steps _ _ _ | leaves _ => exact hsame rfl
    | returns hcall =>
        cases hown
        exact ⟨known, fun _ => Or.inl,
          obeying_of_ended (calls_finish _ _ _) fun _ _ => (hobeys.1 _ hcall).of_done⟩
    | fails failure habout _ _ =>
        cases habout.symm.trans hown
        exact ⟨known, fun _ => Or.inl, obeying_of_ended (calls_finish _ _ _) nofun⟩
    | enters hcall _ _ =>
        cases hown
        exact ⟨known, fun _ => Or.inl,
          obeying_of_working (calls_setCall _ _ _) (Plan.obeys_hold.1 (hobeys.1 _ hcall))⟩
    | learns hvisit hcall _ hanswer =>
        cases hown
        exact ⟨_, htold _ ⟨_, _, _, rfl, hvisit, hcall, hanswer⟩,
          obeying_of_working (calls_setCall _ _ _) ((hobeys.1 _ hcall).of_ask.2 _)⟩
    | changes hvisit hcall _ hperform =>
        cases hown
        exact ⟨_, htold _ ⟨_, _, _, rfl, hvisit, hcall, by rw [hperform]⟩,
          obeying_of_working (calls_setCall _ _ _) ((hobeys.1 _ hcall).of_ask.2 _)⟩
  · exact hsame (h.of_other hown).1

theorem Follows.happen (h : Follows rule visits start events ticket) (event : Event) :
    Follows rule visits start (events ++ [event]) ticket := by
  obtain ⟨known, hlearnt, (hobeys : Obeying rule known _ ticket)⟩ := h
  obtain ⟨more, htold, hmore⟩ := ((start.play visits events).happens visits event).obeying hobeys
  rw [← play_concat] at hmore
  refine ⟨more, fun told hmem => ?_, hmore⟩
  rcases htold told hmem with hknown | hanswers
  · exact (hlearnt told hknown).append [event]
  · exact ⟨events, event, [], rfl, hanswers⟩

theorem Follows.play (h : Follows rule visits start events ticket) (more : List Event) :
    Follows rule visits start (events ++ more) ticket := by
  induction more generalizing events with
  | nil =>
      rw [List.append_nil]
      exact h
  | cons event rest ih =>
      have hrest := ih (h.happen event)
      rwa [List.append_assoc] at hrest

theorem Follows.opened {rules : Rules} {bank : Bank} {locks : Locks AccountId} {visit : Visit}
    (hvisit : visits[ticket]? = some visit) (hplan : (visit.plan rules).Obeys rule []) :
    Follows rule visits (Floor.opened rules visits bank locks) [] ticket := by
  refine ⟨[], fun told htold => absurd htold List.not_mem_nil, obeying_of_working ?_ hplan⟩
  show (Floor.opened rules visits bank locks).calls[ticket]? = _
  rw [calls_opened, hvisit]
  rfl

/-! ### Numbers that lead nowhere -/

/-- The number under which a card is issued when this happens. -/
def issuing? (visits : List Visit) (floor : Floor Reply) : Event → Option CardNumber
  | .turn _ ticket =>
    match visits[ticket]?, floor.calls[ticket]? with
    | some visit, some (.working (.ask (.addCard number id) _)) =>
      if (floor.bank.perform visit.stamp (.addCard number id)).1.isOk then some number else none
    | _, _ => none
  | .interrupt .. | .sweep .. => none

/-- The numbers under which cards are issued in a run. -/
def issued (visits : List Visit) : List Event → Floor Reply → List CardNumber
  | [], _ => []
  | event :: rest, floor =>
    (floor.issuing? visits event).toList ++ issued visits rest (floor.happen visits event)

theorem issued_append (visits : List Visit) (events more : List Event) (floor : Floor Reply) :
    floor.issued visits (events ++ more) =
      floor.issued visits events ++ (floor.play visits events).issued visits more := by
  induction events generalizing floor with
  | nil => rfl
  | cons event rest ih =>
      simp only [List.cons_append, issued, ih, List.append_assoc]
      rfl

/-- Where the bank changes, it is by a change; and a card is issued only where it is said to be. -/
theorem effect_of_happen (visits : List Visit) (hfiled : floor.bank.ledger.CardsFiled) (event : Event) :
    (floor.happen visits event).bank = floor.bank ∨
      ∃ change : Change, change.Effect floor.bank.ledger (floor.happen visits event).bank.ledger ∧
        ∀ card, change = .createCard card → floor.issuing? visits event = some card.number := by
  rcases floor.bank_happen visits event with hsame | ⟨now, ticket, rfl, hgrants⟩
  · exact Or.inl hsame
  · obtain ⟨visit, q, next, answer, hvisit, hwrite, hcall, hperform, -⟩ := hgrants
    obtain ⟨change, hchange, heffect, -⟩ := Bank.exists_effect hfiled hwrite hperform
    refine Or.inr ⟨change, heffect, ?_⟩
    rintro card rfl
    cases q <;> cases hchange
    simp only [issuing?, hvisit, hcall, hperform]
    rfl

theorem cardsFiled_happen (h : floor.bank.ledger.CardsFiled) (event : Event) :
    (floor.happen visits event).bank.ledger.CardsFiled := by
  rcases effect_of_happen visits h event with hsame | ⟨change, heffect, -⟩
  · rwa [hsame]
  · intro number card hcard
    rcases heffect.card_origin h hcard with hold | ⟨-, hnumber⟩
    · exact h number card hold
    · exact hnumber

theorem cardsFiled_play (h : floor.bank.ledger.CardsFiled) (events : List Event) :
    (floor.play visits events).bank.ledger.CardsFiled := by
  induction events generalizing floor with
  | nil => exact h
  | cons event rest ih => exact ih (cardsFiled_happen h event)

variable {number : CardNumber}

/-- A number that leads nowhere does so until a card is issued under it. -/
theorem absent_happen (hfiled : floor.bank.ledger.CardsFiled)
    (habsent : floor.bank.ledger.cards[number]? = none)
    (hunissued : floor.issuing? visits event ≠ some number) :
    (floor.happen visits event).bank.ledger.cards[number]? = none := by
  rcases effect_of_happen visits hfiled event with hsame | ⟨change, heffect, hissuing⟩
  · rwa [hsame]
  · refine Option.eq_none_iff_forall_ne_some.2 fun card hcard => ?_
    rcases heffect.card_origin hfiled hcard with hold | ⟨hcreate, rfl⟩
    · rw [habsent] at hold
      cases hold
    · exact hunissued (hissuing card hcreate)

theorem absent_play (hfiled : floor.bank.ledger.CardsFiled)
    (habsent : floor.bank.ledger.cards[number]? = none)
    (hunissued : number ∉ floor.issued visits events) :
    (floor.play visits events).bank.ledger.cards[number]? = none := by
  induction events generalizing floor with
  | nil => exact habsent
  | cons event rest ih =>
      rw [issued, List.mem_append, not_or] at hunissued
      refine ih (cardsFiled_happen hfiled event) (absent_happen hfiled habsent ?_) hunissued.2
      intro hissuing
      exact hunissued.1 (Option.mem_toList.2 hissuing)

/-- Only one query is answered at a time. -/
theorem Answers.query_eq {other : Nat} {also : Answered} (h : floor.Answers visits event ticket told)
    (hother : floor.Answers visits event other also) : told.1 = also.1 := by
  obtain ⟨now, visit, next, rfl, -, hcall, -⟩ := h
  obtain ⟨_, _, more, hevent, -, hcall', -⟩ := hother
  cases hevent
  exact (Plan.ask.inj (Progress.working.inj (Option.some.inj (hcall.symm.trans hcall')))).1

/-- A number that leads nowhere is not found. -/
theorem not_answers_of_absent {account : Account} (h : floor.bank.ledger.cards[number]? = none) :
    ¬floor.Answers visits event ticket ⟨.accountOfCard number, account⟩ := by
  intro hanswers
  obtain ⟨_, _, _, -, -, -, hok⟩ := hanswers
  obtain ⟨card, hcard, -⟩ := Ledger.accountOfCard_ok_iff.1 hok
  rw [h] at hcard
  cases hcard

/-- A removal leaves its number leading nowhere. -/
theorem absent_of_removal {card : Card}
    (h : floor.Answers visits event ticket ⟨.deleteCard number, card⟩) :
    (floor.happen visits event).bank.ledger.cards[number]? = none := by
  obtain ⟨now, visit, next, rfl, hvisit, hcall, hok⟩ := h
  rcases hperform : floor.bank.perform visit.stamp (.deleteCard number) with ⟨outcome, bank⟩
  rw [hperform] at hok
  obtain rfl : outcome = .ok card := hok
  rw [happen_of_granted hvisit hcall hperform]
  obtain ⟨-, hafter⟩ := Ledger.deleteCard_ok_iff.1
    (Bank.change_ok_iff (f := Ledger.deleteCard number).1 hperform).1
  show bank.ledger.cards[number]? = none
  rw [← hafter]
  exact Std.ExtTreeMap.getElem?_erase_self

/-! ### What a removal stops -/

variable {rules : Rules} {bank : Bank} {locks : Locks AccountId} {visit : Visit}

/-- A call that has returned the card that it was to remove has had it removed. -/
theorem learnt_of_yields {raw : String} {reply : Reply} (hvisit : visits[ticket]? = some visit)
    (hcall : visit.call = .removeCard raw) (hnumber : CardNumber.read raw = .ok number)
    (hyields : ((Floor.opened rules visits bank locks).play visits events).Yields ticket reply) :
    ∃ card, HasLearnt visits (Floor.opened rules visits bank locks) events ticket
      ⟨.deleteCard number, card⟩ := by
  have hopened : Follows (Plan.DoneByRemoving number) visits (Floor.opened rules visits bank locks) []
      ticket := by
    refine .opened hvisit ?_
    rw [Visit.plan, hcall]
    exact Plan.obeys_map _ (Plan.obeys_removeCard hnumber)
  obtain ⟨known, hlearnt, hworking, hended⟩ := hopened.play events
  obtain ⟨card, hcard⟩ : Plan.DoneByRemoving number known none := by
    rcases hyields with hover | hdone
    · exact hended reply hover
    · exact (hworking _ hdone).of_done
  exact ⟨card, hlearnt _ hcard⟩

/-- A movement that is made for a card has found the account that the card led to. -/
theorem learnt_of_recording {request : MovementRequest} {movement : Movement} {amount : Amount}
    {kind : TransactionKind} {tx : Transaction} (hvisit : visits[ticket]? = some visit)
    (hcall : visit.call = .move request) (hmovement : rules.movement request = .ok movement)
    (hmade : ((Floor.opened rules visits bank locks).play visits events).Answers visits event ticket
      ⟨.record amount kind, tx⟩) :
    ∃ account : Account, HasLearnt visits (Floor.opened rules visits bank locks) events ticket
      ⟨.accountOfCard movement.order.card, account⟩ ∧ kind.party = account.id := by
  have hopened : Follows (Plan.PaysWith movement.order.card) visits
      (Floor.opened rules visits bank locks) [] ticket := by
    refine .opened hvisit ?_
    rw [Visit.plan, hcall]
    exact Plan.obeys_map _ (Plan.obeys_move hmovement)
  obtain ⟨known, hlearnt, hworking, -⟩ := hopened.play events
  obtain ⟨-, -, next, -, -, hasking, -⟩ := hmade
  obtain ⟨account, hfound, hparty⟩ := (hworking _ hasking).of_ask.1
  exact ⟨account, hlearnt _ hfound, hparty⟩

/--
**What the removal of a card stops.**  Any calls are under way on a bank whose cards are
filed under their numbers, and whatever happens in whatever order: turns, interruptions and
sweeps.

  * A call to remove a card that has come to a reply has had the card removed.
  * Until a card is issued under it again, the number of a card that was removed leads
    nowhere.
  * A movement that is made for the number all the same is made by a call that had looked
    the card up before it was removed, and it is a movement of the account that the card
    then led to.
-/
theorem removal_stops (rules : Rules) (visits : List Visit) (bank : Bank) (locks : Locks AccountId)
    (hfiled : bank.ledger.CardsFiled) :
    let start := Floor.opened rules visits bank locks
    (∀ events remover visit raw number reply, visits[remover]? = some visit →
      visit.call = .removeCard raw → CardNumber.read raw = .ok number →
        (start.play visits events).Yields remover reply →
          ∃ before removal after card, before ++ removal :: after = events ∧
            (start.play visits before).Answers visits removal remover ⟨.deleteCard number, card⟩) ∧
    ∀ before removal after remover number card,
      (start.play visits before).Answers visits removal remover ⟨.deleteCard number, card⟩ →
      number ∉ (start.play visits (before ++ [removal])).issued visits after →
        let later := start.play visits (before ++ removal :: after)
        later.bank.ledger.accountOfCard number = .error (.notFound (.accountOfCard number)) ∧
        ∀ event ticket visit request movement amount kind tx, visits[ticket]? = some visit →
          visit.call = .move request → rules.movement request = .ok movement →
            movement.order.card = number →
              later.Answers visits event ticket ⟨.record amount kind, tx⟩ →
                ∃ account : Account, kind.party = account.id ∧
                  HasLearnt visits start before ticket ⟨.accountOfCard number, account⟩ := by
  intro start
  have hstart : start.bank.ledger.CardsFiled := by
    rwa [show start.bank = bank from bank_opened rules visits bank locks]
  refine ⟨?_, ?_⟩
  · intro events remover visit raw number reply hvisit hcall hnumber hyields
    obtain ⟨card, before, removal, after, hsplit, hanswers⟩ :=
      learnt_of_yields hvisit hcall hnumber hyields
    exact ⟨before, removal, after, card, hsplit, hanswers⟩
  · intro before removal after remover number card hremoved hunissued later
    -- The number leads nowhere after every part of what happens after the removal.
    have hnowhere : ∀ first rest, first ++ rest = after →
        (start.play visits (before ++ removal :: first)).bank.ledger.cards[number]? = none := by
      rintro first rest rfl
      rw [issued_append, List.mem_append, not_or] at hunissued
      have hgone : (start.play visits (before ++ [removal])).bank.ledger.cards[number]? = none := by
        rw [play_append]
        exact absent_of_removal hremoved
      have hlater := absent_play (cardsFiled_play hstart _) hgone hunissued.1
      rwa [← play_append, List.append_assoc] at hlater
    refine ⟨?_, ?_⟩
    · have hgone := hnowhere after [] (List.append_nil _)
      unfold Ledger.accountOfCard
      rw [hgone]
      rfl
    · intro event ticket visit request movement amount kind tx hvisit hcall hmovement hcard hmade
      obtain ⟨account, hlearnt, hparty⟩ := learnt_of_recording hvisit hcall hmovement hmade
      rw [hcard] at hlearnt
      refine ⟨account, hparty, ?_⟩
      rcases hlearnt.before_or_after with hbefore | hboth | ⟨first, asked, rest, hafter, hfound⟩
      · exact hbefore
      · exact nomatch hremoved.query_eq hboth
      · exact absurd hfound (not_answers_of_absent (hnowhere first _ hafter))

end Floor

/-! ### What it does not stop -/

namespace Sample

/-- Two deposits for a card, and its removal. -/
def takers : List Visit :=
  [⟨"alice", .move (.deposit price.value (.ofSerial 1)), .series 100 0⟩,
    ⟨"alice", .move (.deposit price.value (.ofSerial 1)), .series 100 1⟩,
    ⟨"alice", .removeCard (CardNumber.ofSerial 1).toText, .series 100 2⟩]

/-- One deposit has the key, the other has looked its card up and waits, and the card goes. -/
def untilRemoved : List Event :=
  [0, 0, 0, 0, 0, 0, 0, 1, 1, 1, 1, 1, 2, 2, 2, 2, 2].map (Event.turn 0)

/-- The first deposit is made and gives the key back, and the second takes it. -/
def untilServed : List Event := [0, 0, 0, 1, 1, 1].map (Event.turn 0)

/-- The row of the second deposit. -/
def lateRow : Transaction :=
  ⟨(Stamp.series 100 1).transaction, price, .deposit alice, false, .ofMillis 1⟩

theorem served_after_removal :
    let removed := (Floor.opened ⟨.zero, 2, 64⟩ takers branch .empty).play takers untilRemoved
    removed.isBlocked 1 = true ∧ (∃ reply, removed.outcome? 2 = some (.ok reply)) ∧
      (removed.play takers untilServed).Answers takers (.turn 0 1) 1
        ⟨.record price (.deposit alice), lateRow⟩ := by
  intro removed
  refine ⟨by decide +kernel, ?_, ?_⟩
  · have hok : (removed.outcome? 2).map Except.isOk = some true := by decide +kernel
    obtain ⟨outcome, houtcome, hisOk⟩ := Option.map_eq_some_iff.1 hok
    cases outcome with
    | ok reply => exact ⟨reply, houtcome⟩
    | error failure => cases hisOk
  · have hrecording : (removed.play takers untilServed).recording? 1 =
        some (price, .deposit alice) := by decide +kernel
    obtain ⟨next, hcall⟩ := Floor.recording?_eq_some_iff.1 hrecording
    exact ⟨0, _, next, rfl, rfl, hcall, ok_of_toOption (by decide +kernel)⟩

end Sample

namespace Floor

/--
The removal of a card would be final if no movement were made for its number once the call
that removed it has returned, where no card is issued under the number.
-/
def RemovalIsFinal (rules : Rules) (visits : List Visit) (bank : Bank) : Prop :=
  let start := Floor.opened rules visits bank .empty
  ∀ events more event remover revoking raw number reply,
    visits[remover]? = some revoking → revoking.call = .removeCard raw →
      CardNumber.read raw = .ok number →
        (start.play visits events).outcome? remover = some (.ok reply) →
          number ∉ start.issued visits (events ++ more) →
            ∀ ticket visit request movement amount kind tx, visits[ticket]? = some visit →
              visit.call = .move request → rules.movement request = .ok movement →
                movement.order.card = number →
                  ¬(start.play visits (events ++ more)).Answers visits event ticket
                    ⟨.record amount kind, tx⟩

/-- **The removal of a card is not final**: whoever has looked it up and waits is still served. -/
theorem not_removalIsFinal : ¬RemovalIsFinal ⟨.zero, 2, 64⟩ Sample.takers Sample.branch := by
  intro hfinal
  obtain ⟨-, ⟨reply, hreply⟩, hserved⟩ := Sample.served_after_removal
  rw [← play_append] at hserved
  exact hfinal Sample.untilRemoved Sample.untilServed (.turn 0 1) 2 _ _ (.ofSerial 1) reply rfl rfl
    (ok_of_toOption (by decide +kernel)) hreply (by decide +kernel) 1 _ _
    ⟨Sample.price, .deposit (.ofSerial 1)⟩ _ _ _ rfl rfl (ok_of_toOption (by decide +kernel)) rfl
    hserved

/-- The deposit that is served after the removal had looked the card up before it. -/
theorem removal_stops_sample :
    let start := Floor.opened ⟨.zero, 2, 64⟩ Sample.takers Sample.branch .empty
    ∃ before removal after card, before ++ removal :: after = Sample.untilRemoved ∧
      (start.play Sample.takers before).Answers Sample.takers removal 2
        ⟨.deleteCard (.ofSerial 1), card⟩ ∧
      ∃ account : Account, Sample.alice = account.id ∧
        HasLearnt Sample.takers start before 1 ⟨.accountOfCard (.ofSerial 1), account⟩ := by
  intro start
  have hfiled : Sample.branch.ledger.CardsFiled :=
    (Ledger.inOrder_and_transfersDistinct_after Sample.cardsIssued
      Ledger.wellFormed_empty.toInOrder Ledger.wellFormed_empty.transfersDistinct).1.cardsFiled
  obtain ⟨-, ⟨reply, hreply⟩, hserved⟩ := Sample.served_after_removal
  obtain ⟨hremoval, hstops⟩ :=
    removal_stops ⟨.zero, 2, 64⟩ Sample.takers Sample.branch .empty hfiled
  obtain ⟨before, removal, after, card, hsplit, hremoved⟩ := hremoval Sample.untilRemoved 2 _ _
    (.ofSerial 1) reply rfl rfl (ok_of_toOption (by decide +kernel)) (yields_of_outcome? hreply)
  refine ⟨before, removal, after, card, hsplit, hremoved, ?_⟩
  have hissued : CardNumber.ofSerial 1 ∉
      start.issued Sample.takers (Sample.untilRemoved ++ Sample.untilServed) := by decide +kernel
  have hrest : before ++ removal :: (after ++ Sample.untilServed) =
      Sample.untilRemoved ++ Sample.untilServed := by
    rw [← hsplit, List.append_assoc, List.cons_append]
  have hunissued : CardNumber.ofSerial 1 ∉
      (start.play Sample.takers (before ++ [removal])).issued Sample.takers
        (after ++ Sample.untilServed) := by
    rw [← hrest, List.append_cons, issued_append, List.mem_append, not_or] at hissued
    exact hissued.2
  have hlate : (start.play Sample.takers
      (before ++ removal :: (after ++ Sample.untilServed))).Answers Sample.takers (.turn 0 1) 1
        ⟨.record Sample.price (.deposit Sample.alice), Sample.lateRow⟩ := by
    rw [hrest, play_append]
    exact hserved
  obtain ⟨-, hmovements⟩ :=
    hstops before removal (after ++ Sample.untilServed) 2 (.ofSerial 1) card hremoved hunissued
  exact hmovements (.turn 0 1) 1 _ _ ⟨Sample.price, .deposit (.ofSerial 1)⟩ _ _ _ rfl rfl
    (ok_of_toOption (by decide +kernel)) rfl hlate

end Floor

end Cashbook
