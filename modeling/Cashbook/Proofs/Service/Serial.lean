/-
Calls side by side come to what they come to one after another.

Calls take turns in any order, wait for keys, are cut off and find their changes
refused.  Take those that made their change, in the order in which they made it, and let
them have the floor one after another from the same start: each returns the same reply,
and the bank ends as it did.  Keys play no part in this: what a call saw before its
change need not be seen again (`Call.repeatable_plan`), so that each call might as well
have been carried out as a whole at the moment of its change.

The invariant, `InSerial`, is about the calls that have made their change and those that
have not.  The former, carried out in that order, have led to the bank as it is; the
latter are plans under way (`Plan.Resumes`).  Whoever makes a change leaves the latter
for the former, and for all others time has merely gone on.  That calls carried out one
after another are calls that have the floor one after another is `exists_oneByOne`.
-/
import Cashbook.Proofs.Service.Alone
import Cashbook.Proofs.Service.Call
import Cashbook.Proofs.Service.Happens

namespace Cashbook

/-- The identifiers of the calls that have not made their change. -/
def unusedAfter (visits : List Visit) (order : List Nat) (id : AccountId) : Prop :=
  ∃ ticket visit, visits[ticket]? = some visit ∧ ticket ∉ order ∧ visit.stamp.account = id

/-- A call that is under way at a moment, with this much of its plan left. -/
def UnderWay (rules : Rules) (visits : List Visit) (registry : Registry) (moment : Moment)
    (ticket : Nat) (rest : Plan Reply) : Prop :=
  ∃ visit, visits[ticket]? = some visit ∧
    (visit.plan rules).Resumes visit.stamp registry moment rest

/-- How things stand when the calls of `order` have made their change. -/
structure InSerial (rules : Rules) (visits : List Visit) (start : Bank) (floor : Floor Reply)
    (order : List Nat) : Prop where
  registry : floor.bank.registry = start.registry
  nodup : order.Nodup
  visited : ∀ ticket ∈ order, ∃ visit, visits[ticket]? = some visit
  /-- Calls that have not made their change are plans under way. -/
  pending : ∃ moment : Moment, moment.ledger = floor.bank.ledger ∧
    moment.unused = unusedAfter visits order ∧
    ∀ ticket plan, floor.calls[ticket]? = some (.working plan) → ticket ∉ order →
      UnderWay rules visits start.registry moment ticket plan
  /-- Calls that have returned have made their change. -/
  returned : ∀ ticket reply, floor.calls[ticket]? = some (.ended (.ok reply)) → ticket ∈ order
  /-- Those that have made their change come to the same when they are served in that order. -/
  served : ∃ replies : List Reply,
    start.serveAll rules (order.filterMap fun ticket => visits[ticket]?) =
      (replies.map .ok, floor.bank) ∧
    List.Forall₂ floor.Yields order replies

/-- What two relations say about a list and another, they say together about each member. -/
private theorem exists_of_forall₂ {α β : Type} {R S : α → β → Prop} {l : List α} {m : List β}
    (h : List.Forall₂ R l m) (h' : List.Forall₂ S l m) {a : α} (ha : a ∈ l) :
    ∃ b, R a b ∧ S a b := by
  induction h with
  | nil => simp at ha
  | cons hr _ ih =>
      obtain ⟨hs, hrest⟩ := List.forall₂_cons.1 h'
      rcases List.mem_cons.1 ha with rfl | hmem
      · exact ⟨_, hr, hs⟩
      · exact ih hrest hmem

/-! ### Identifiers -/

section

variable {visits : List Visit} {order : List Nat} {ticket : Nat} {visit : Visit}

theorem unusedAfter_of_append {more : List Nat} {id : AccountId}
    (h : unusedAfter visits (order ++ more) id) : unusedAfter visits order id := by
  obtain ⟨other, found, hfound, hnot, hid⟩ := h
  exact ⟨other, found, hfound, fun hmem => hnot (List.mem_append_left _ hmem), hid⟩

/-- Where no two calls have the same identifier, a call that makes its change uses it up. -/
theorem not_unusedAfter (hdistinct : (visits.map fun visit => visit.stamp.account).Nodup)
    (hvisit : visits[ticket]? = some visit) :
    ¬unusedAfter visits (order ++ [ticket]) visit.stamp.account := by
  intro h
  obtain ⟨other, found, hfound, hnot, heq⟩ := h
  have hsame : other = ticket := Visit.ticket_eq hdistinct hfound hvisit heq
  exact hnot (by simp [hsame])

/-- An account that is opened by the change of a call gets an identifier that is used from then on. -/
theorem unusedAfter_opening (hdistinct : (visits.map fun visit => visit.stamp.account).Nodup)
    (hvisit : visits[ticket]? = some visit) (hout : ticket ∉ order) {q : Query} {change : Change}
    (hchange : q.change? visit.stamp = some change) {row : Account}
    (hopen : change.opening? = some row) :
    unusedAfter visits order row.id ∧ ¬unusedAfter visits (order ++ [ticket]) row.id := by
  rw [Query.id_of_opening hchange hopen]
  exact ⟨⟨ticket, visit, hvisit, hout, rfl⟩, not_unusedAfter hdistinct hvisit⟩

/-- The change of a call leads to the moment after it. -/
theorem exists_moment_after (hdistinct : (visits.map fun visit => visit.stamp.account).Nodup)
    (hvisit : visits[ticket]? = some visit) (hout : ticket ∉ order) {moment : Moment}
    (hunused : moment.unused = unusedAfter visits order) {q : Query} {change : Change}
    (hchange : q.change? visit.stamp = some change) (hrevoke : ∀ number, q ≠ .deleteCard number)
    {after : Ledger} (heffect : change.Effect moment.ledger after) :
    ∃ next : Moment, next.ledger = after ∧
      next.unused = unusedAfter visits (order ++ [ticket]) ∧ Later moment next := by
  have hopens : ∀ row, change.opening? = some row →
      unusedAfter visits order row.id ∧ ¬unusedAfter visits (order ++ [ticket]) row.id :=
    fun _ hrow => unusedAfter_opening hdistinct hvisit hout hchange hrow
  rw [← hunused] at hopens
  refine moment.exists_later heffect (Query.change?_ne_deleteCard hchange hrevoke)
    (fun row hrow => (hopens row hrow).1) ?_ fun row hrow => (hopens row hrow).2
  intro id hid
  rw [hunused]
  exact unusedAfter_of_append hid

end

namespace InSerial

variable {rules : Rules} {visits : List Visit} {start : Bank} {floor : Floor Reply}
  {order : List Nat} {ticket : Nat}

/-- Keys make no difference. -/
theorem withLocks (h : InSerial rules visits start floor order) (locks : Locks AccountId) :
    InSerial rules visits start { floor with locks } order :=
  ⟨h.registry, h.nodup, h.visited, h.pending, h.returned, h.served⟩

/-- A call that has made its change has come to a reply. -/
theorem yields_of_mem (h : InSerial rules visits start floor order) (hmem : ticket ∈ order) :
    ∃ reply, floor.Yields ticket reply := by
  obtain ⟨replies, -, hyields⟩ := h.served
  obtain ⟨reply, hreply, -⟩ := exists_of_forall₂ hyields hyields hmem
  exact ⟨reply, hreply⟩

/-- A call of which more is left than to return a reply has not made its change. -/
theorem not_mem_of_working (h : InSerial rules visits start floor order) {plan : Plan Reply}
    (hcall : floor.calls[ticket]? = some (.working plan)) (hplan : ∀ reply, plan ≠ .done reply) :
    ticket ∉ order := by
  intro hmem
  obtain ⟨reply, hended | hdone⟩ := h.yields_of_mem hmem
  · rw [hcall] at hended
    cases hended
  · rw [hcall] at hdone
    cases hdone
    exact hplan reply rfl

/-! ### One call moves on -/

/-- What the other calls have come to does not change when one moves on. -/
private theorem yields_setCall {other : Nat} {reply : Reply} (progress : Progress Reply)
    (hne : ticket ≠ other) (h : floor.Yields other reply) :
    (floor.setCall ticket progress).Yields other reply := by
  unfold Floor.Yields Floor.setCall at *
  rwa [Table.getElem?_insert_of_ne _ _ hne]

private theorem forall₂_yields_setCall {replies : List Reply} (progress : Progress Reply)
    (hself : ∀ reply, ticket ∈ order → floor.Yields ticket reply →
      (floor.setCall ticket progress).Yields ticket reply)
    (h : List.Forall₂ floor.Yields order replies) :
    List.Forall₂ (floor.setCall ticket progress).Yields order replies := by
  rw [List.forall₂_iff_get] at h ⊢
  refine ⟨h.1, ?_⟩
  intro i hi hi'
  have hyields := h.2 i hi hi'
  by_cases hne : ticket = order.get ⟨i, hi⟩
  · rw [← hne] at hyields ⊢
    exact hself _ (hne ▸ List.get_mem _ _) hyields
  · exact yields_setCall progress hne hyields

/--
One call moves on and the bank stays as it is.  If the call is under way it remains so, if
it returns it has made its change, and if it has come to a reply it keeps to it.
-/
private theorem setCall (h : InSerial rules visits start floor order) (progress : Progress Reply)
    (hworking : ∀ next (moment : Moment), progress = .working next → ticket ∉ order →
      moment.bank start.registry = floor.bank →
        (∀ plan, floor.calls[ticket]? = some (.working plan) →
          UnderWay rules visits start.registry moment ticket plan) →
            UnderWay rules visits start.registry moment ticket next)
    (hended : ∀ reply, progress = .ended (.ok reply) → ticket ∈ order)
    (hyields : ∀ reply, ticket ∈ order → floor.Yields ticket reply →
      (floor.setCall ticket progress).Yields ticket reply) :
    InSerial rules visits start (floor.setCall ticket progress) order := by
  obtain ⟨moment, hledger, hunused, hpending⟩ := h.pending
  refine ⟨h.registry, h.nodup, h.visited, ⟨moment, hledger, hunused, ?_⟩, ?_, ?_⟩
  · intro other rest hother hnot
    rcases Table.of_getElem?_insert hother with ⟨rfl, heq⟩ | ⟨-, hold⟩
    · have hbank : moment.bank start.registry = floor.bank := by
        rw [Moment.bank, hledger, ← h.registry]
      exact hworking rest moment heq.symm hnot hbank fun plan hplan => hpending _ plan hplan hnot
    · exact hpending other rest hold hnot
  · intro other reply hother
    rcases Table.of_getElem?_insert hother with ⟨rfl, heq⟩ | ⟨-, hold⟩
    · exact hended reply heq.symm
    · exact h.returned other reply hold
  · obtain ⟨replies, hserve, hall⟩ := h.served
    exact ⟨replies, hserve, forall₂_yields_setCall progress hyields hall⟩

/-- A call that has not made its change goes on with its plan. -/
theorem goOn (h : InSerial rules visits start floor order) {plan next : Plan Reply}
    (hcall : floor.calls[ticket]? = some (.working plan)) (hout : ticket ∉ order)
    (hstep : ∀ visit (moment : Moment), visits[ticket]? = some visit →
      moment.bank start.registry = floor.bank →
        (visit.plan rules).Resumes visit.stamp start.registry moment plan →
          (visit.plan rules).Resumes visit.stamp start.registry moment next) :
    InSerial rules visits start (floor.setCall ticket (.working next)) order := by
  refine h.setCall _ ?_ (by simp) fun reply hmem => absurd hmem hout
  intro rest moment heq _ hbank hplan
  cases heq
  obtain ⟨visit, hvisit, hresumes⟩ := hplan plan hcall
  exact ⟨visit, hvisit, hstep visit moment hvisit hbank hresumes⟩

/-- A call that has not made its change fails. -/
theorem fail (h : InSerial rules visits start floor order) (hout : ticket ∉ order)
    (failure : Failure) :
    InSerial rules visits start (floor.setCall ticket (.ended (.error failure))) order :=
  h.setCall _ (by simp) (by simp) fun reply hmem => absurd hmem hout

/-- A call that has made its change returns its reply. -/
theorem finish (h : InSerial rules visits start floor order) {reply : Reply}
    (hcall : floor.calls[ticket]? = some (.working (.done reply))) :
    InSerial rules visits start (floor.setCall ticket (.ended (.ok reply))) order := by
  have hmem : ticket ∈ order := by
    obtain ⟨moment, -, -, hpending⟩ := h.pending
    by_contra hout
    obtain ⟨visit, -, hresumes⟩ := hpending ticket _ hcall hout
    exact hresumes.ne_done
  refine h.setCall _ (by simp) (fun _ _ => hmem) ?_
  intro found _ hfound
  -- The reply that it was to return is the one that it returns.
  rcases hfound with hended | hdone
  · rw [hcall] at hended
    cases hended
  · rw [hcall] at hdone
    cases hdone
    exact Or.inl Std.ExtTreeMap.getElem?_insert_self

/-! ### A change is made -/

/-- A call makes its change, and with it comes to its reply. -/
theorem commit (h : InSerial rules visits start floor order)
    (hdistinct : (visits.map fun visit => visit.stamp.account).Nodup) {visit : Visit} {q : Query}
    {next : q.Answer → Plan Reply} {answer : q.Answer} {bank : Bank}
    (hvisit : visits[ticket]? = some visit)
    (hcall : floor.calls[ticket]? = some (.working (.ask q next))) (hwrite : q.isWrite = true)
    (hanswer : floor.bank.perform visit.stamp q = (.ok answer, bank)) :
    InSerial rules visits start ({ floor with bank }.setCall ticket (.working (next answer)))
      (order ++ [ticket]) := by
  have hout : ticket ∉ order := h.not_mem_of_working hcall (by simp)
  obtain ⟨moment, hledger, hunused, hpending⟩ := h.pending
  have hbank : moment.bank start.registry = floor.bank := by
    rw [Moment.bank, hledger, ← h.registry]
  obtain ⟨visit', hvisit', hresumes⟩ := hpending ticket _ hcall hout
  obtain rfl := Option.some.inj (hvisit.symm.trans hvisit')
  rw [← hbank] at hanswer
  obtain ⟨hrevoke, reply, hreply, hrun⟩ := hresumes.write hwrite hanswer
  obtain ⟨change, hchange, heffect, hregistry⟩ :=
    Bank.exists_effect moment.inOrder.cardsFiled hwrite hanswer
  obtain ⟨after, hafter, hleft, hlater⟩ :=
    exists_moment_after hdistinct hvisit hout hunused hchange hrevoke heffect
  refine ⟨hregistry, ?_, ?_, ⟨after, hafter, hleft, ?_⟩, ?_, ?_⟩
  · exact List.nodup_append.2 ⟨h.nodup, List.nodup_singleton ticket, fun a ha b hb hab =>
      hout (List.mem_singleton.1 hb ▸ hab ▸ ha)⟩
  · intro other hother
    rcases List.mem_append.1 hother with hold | hnew
    · exact h.visited other hold
    · rw [List.mem_singleton.1 hnew]
      exact ⟨visit, hvisit⟩
  · intro other rest hother hnot
    rcases Table.of_getElem?_insert hother with ⟨rfl, -⟩ | ⟨-, hold⟩
    · exact absurd (by simp) hnot
    · obtain ⟨found, hfound, hrests⟩ := hpending other rest hold fun hmem =>
        hnot (List.mem_append_left _ hmem)
      exact ⟨found, hfound, hrests.later hlater⟩
  · intro other found hother
    rcases Table.of_getElem?_insert hother with ⟨rfl, -⟩ | ⟨-, hold⟩
    · exact List.mem_append_right _ (List.mem_singleton_self _)
    · exact List.mem_append_left _ (h.returned other found hold)
  · obtain ⟨replies, hserve, hall⟩ := h.served
    refine ⟨replies ++ [reply], ?_, ?_⟩
    · have hlast : [ticket].filterMap (fun ticket => visits[ticket]?) = [visit] := by
        rw [List.filterMap_cons, hvisit]
        rfl
      rw [hbank] at hrun
      rw [List.filterMap_append, hlast, List.map_append]
      exact Bank.serveAll_concat hserve hrun
    · have hothers :
          List.Forall₂ ({ floor with bank }.setCall ticket (.working (next answer))).Yields
            order replies := forall₂_yields_setCall _ (fun _ hmem => absurd hmem hout) hall
      refine List.rel_append hothers (.cons (Or.inr ?_) .nil)
      rw [hreply]
      exact Std.ExtTreeMap.getElem?_insert_self

/-! ### Whatever happens -/

theorem of_happens (h : InSerial rules visits start floor order)
    (hdistinct : (visits.map fun visit => visit.stamp.account).Nodup) {event : Event}
    {committed : Option Nat} {later : Floor Reply}
    (hhappens : floor.Happens visits event committed later) :
    InSerial rules visits start later (order ++ committed.toList) := by
  cases committed with
  | some ticket =>
      cases hhappens with
      | changes hvisit hcall hwrite hperform =>
          exact h.commit hdistinct hvisit hcall hwrite hperform
  | none =>
      rw [Option.toList_none, List.append_nil]
      cases hhappens with
      | rests _ => exact h
      | sweeps _ _ | starts _ _ | steps _ _ _ | leaves _ => exact h.withLocks _
      | returns hcall => exact (h.withLocks _).finish hcall
      | fails failure _ hcall hunfinished =>
          exact (h.withLocks _).fail (h.not_mem_of_working hcall hunfinished) failure
      | learns hvisit hcall hread hanswer =>
          refine h.goOn hcall (h.not_mem_of_working hcall nofun) ?_
          intro found moment hfound hbank hresumes
          obtain rfl := Option.some.inj (hvisit.symm.trans hfound)
          exact hresumes.read hread (hbank ▸ hanswer)
      | enters hcall _ _ =>
          exact h.goOn hcall (h.not_mem_of_working hcall nofun) fun _ _ _ _ hresumes =>
            hresumes.hold

/-- The invariant survives whatever may happen. -/
theorem happen (h : InSerial rules visits start floor order)
    (hdistinct : (visits.map fun visit => visit.stamp.account).Nodup) (event : Event) :
    InSerial rules visits start (floor.happen visits event)
      (order ++ (floor.committing? visits event).toList) :=
  h.of_happens hdistinct (floor.happens visits event)

theorem play (hdistinct : (visits.map fun visit => visit.stamp.account).Nodup)
    (events : List Event) :
    ∀ {floor : Floor Reply} {order : List Nat}, InSerial rules visits start floor order →
      InSerial rules visits start (floor.play visits events)
        (order ++ floor.commits visits events) := by
  induction events with
  | nil =>
      intro floor order h
      rw [Floor.commits, List.append_nil]
      exact h
  | cons event rest ih =>
      intro floor order h
      rw [Floor.commits, ← List.append_assoc]
      exact ih (h.happen hdistinct event)

end InSerial

/-! ### From the start -/

theorem InSerial.opened {rules : Rules} {visits : List Visit} {bank : Bank}
    (hcommits : ∀ visit ∈ visits, visit.call.Commits) (horder : bank.ledger.InOrder)
    (hfresh : ∀ visit ∈ visits, bank.ledger.accounts[visit.stamp.account]? = none)
    (locks : Locks AccountId) :
    InSerial rules visits bank (Floor.opened rules visits bank locks) [] := by
  have hbank := Floor.bank_opened rules visits bank locks
  have habsent : ∀ id, unusedAfter visits [] id → bank.ledger.accounts[id]? = none := by
    intro id h
    obtain ⟨ticket, visit, hvisit, -, rfl⟩ := h
    exact hfresh visit (List.mem_of_getElem? hvisit)
  refine ⟨by rw [hbank], .nil, by simp, ⟨⟨bank.ledger, _, horder, habsent⟩, by rw [hbank], rfl, ?_⟩,
    ?_, [], ?_, .nil⟩
  · intro ticket plan hcall _
    rw [Floor.calls_opened, Option.map_eq_some_iff] at hcall
    obtain ⟨visit, hvisit, heq⟩ := hcall
    cases heq
    exact ⟨visit, hvisit, .start (Call.repeatable_plan
      (hcommits visit (List.mem_of_getElem? hvisit)) rules visit.identity _ _ _) _⟩
  · intro ticket reply hcall
    rw [Floor.calls_opened, Option.map_eq_some_iff] at hcall
    obtain ⟨visit, -, heq⟩ := hcall
    cases heq
  · rw [hbank]
    rfl

/-- The calls that have made their change may have the floor one after another instead. -/
theorem InSerial.exists_serial {rules : Rules} {visits : List Visit} {bank : Bank}
    {floor : Floor Reply} {order : List Nat} (h : InSerial rules visits bank floor order)
    (now : Nat) :
    ∃ turns, Floor.OneByOne now order turns ∧
      let serial := (Floor.opened rules visits bank .empty).play visits turns
      serial.bank = floor.bank ∧
        ∀ ticket ∈ order, ∃ reply, serial.calls[ticket]? = some (.ended (.ok reply)) ∧
          floor.Yields ticket reply := by
  have hidle : (Floor.opened rules visits bank .empty).locks.Idle := by
    rw [Floor.locks_opened]
    exact Locks.idle_empty
  have hworking : ∀ ticket ∈ order, ∃ visit, visits[ticket]? = some visit ∧
      (Floor.opened rules visits bank .empty).calls[ticket]? =
        some (.working (visit.plan rules)) := by
    intro ticket hmem
    obtain ⟨visit, hvisit⟩ := h.visited ticket hmem
    exact ⟨visit, hvisit, by rw [Floor.calls_opened, hvisit, Option.map_some]⟩
  obtain ⟨turns, outcomes, hone, hserve, hall, -⟩ :=
    Floor.exists_oneByOne rules visits now order _ hidle h.nodup hworking
  obtain ⟨replies, hserved, hyields⟩ := h.served
  rw [Floor.bank_opened, hserved] at hserve
  obtain ⟨rfl, hbank⟩ := Prod.mk.inj hserve
  refine ⟨turns, hone, hbank.symm, ?_⟩
  intro ticket hmem
  exact exists_of_forall₂ (List.forall₂_map_right_iff.1 hall) hyields hmem

/--
**Calls side by side come to what they come to one after another.**  Calls that open
accounts, issue cards, move money, reverse transfers and close accounts are under way on
a bank in order, whatever keys are held, and whatever happens in whatever order: turns,
interruptions and sweeps.  Take those that make their change, in the order in which they
make it.  Each does so once; whoever has returned a row is among them, and once no call
is under way they are the ones that have.  Then let them have the floor one after another
from the same start, with the same identifiers, numbers and times: each returns the same
reply, and the bank ends as it did.  No account must be opened under an identifier that
was used before.
-/
theorem Floor.serializable (rules : Rules) (visits : List Visit) (bank : Bank)
    (locks : Locks AccountId) (events : List Event) (now : Nat)
    (hcommits : ∀ visit ∈ visits, visit.call.Commits) (horder : bank.ledger.InOrder)
    (hfresh : ∀ visit ∈ visits, bank.ledger.accounts[visit.stamp.account]? = none)
    (hdistinct : (visits.map fun visit => visit.stamp.account).Nodup) :
    let start := Floor.opened rules visits bank locks
    let final := start.play visits events
    let order := start.commits visits events
    order.Nodup ∧
      (∀ ticket reply, final.calls[ticket]? = some (.ended (.ok reply)) → ticket ∈ order) ∧
      ((∀ (ticket : Nat) (plan : Plan Reply), final.calls[ticket]? ≠ some (.working plan)) →
        ∀ ticket ∈ order, ∃ reply, final.calls[ticket]? = some (.ended (.ok reply))) ∧
      ∃ turns, OneByOne now order turns ∧
        let serial := (Floor.opened rules visits bank .empty).play visits turns
        serial.bank = final.bank ∧
          ∀ ticket ∈ order, ∃ reply, serial.calls[ticket]? = some (.ended (.ok reply)) ∧
            final.Yields ticket reply := by
  intro start final order
  have h : InSerial rules visits bank final ([] ++ order) :=
    (InSerial.opened hcommits horder hfresh locks).play hdistinct events
  rw [List.nil_append] at h
  refine ⟨h.nodup, h.returned, ?_, ?_⟩
  · intro hidle ticket hmem
    obtain ⟨reply, hended | hdone⟩ := h.yields_of_mem hmem
    · exact ⟨reply, hended⟩
    · exact absurd hdone (hidle ticket _)
  · exact h.exists_serial now

/-! ### Two calls side by side -/

namespace Sample

/-- The bank after money has come in, and with one caller. -/
def bank : Bank :=
  ⟨Ledger.after (history.take 4) .empty, ⟨(∅ : Table String OwnerId).insert "alice" ⟨.ofNat 7⟩⟩⟩

/-- One account is closed, and a card of another is issued. -/
def visits : List Visit :=
  [⟨"alice", .closeAccount bob, .series 100 0⟩, ⟨"alice", .issueCard alice, .series 100 1⟩]

/-- The card is issued while the other call waits for its key. -/
def events : List Event :=
  [0, 1, 0, 1, 0, 0, 1, 1, 0, 0, 1, 0, 0].map (Event.turn 0)

end Sample

theorem Floor.serializable_sample :
    let start := Floor.opened ⟨.zero, 2, 64⟩ Sample.visits Sample.bank .empty
    let final := start.play Sample.visits Sample.events
    start.commits Sample.visits Sample.events = [1, 0] ∧
      ∃ turns, OneByOne 0 [1, 0] turns ∧
        let serial := start.play Sample.visits turns
        serial.bank = final.bank ∧
          ∀ ticket ∈ [1, 0], ∃ reply, serial.calls[ticket]? = some (.ended (.ok reply)) ∧
            final.Yields ticket reply := by
  intro start final
  have horder : start.commits Sample.visits Sample.events = [1, 0] := by decide +kernel
  have hwell := (Ledger.wellFormed_and_tracedTo_after (Sample.history.take 4) fun tx htx =>
    Sample.rolledBack_of_mem_history tx (List.mem_of_mem_take htx)).1
  obtain ⟨-, -, -, hserial⟩ := Floor.serializable ⟨.zero, 2, 64⟩ Sample.visits Sample.bank .empty
    Sample.events 0 (by simp [Sample.visits, Call.Commits]) hwell.toInOrder (by decide +kernel)
    (by decide +kernel)
  rw [horder] at hserial
  exact ⟨horder, hserial⟩

end Cashbook
