/-
What was looked at with keys held stays so.

A call that moves money looks at its accounts once it holds their keys, and then asks for
the movement.  In between others go on: they move money, reverse transfers, open and close
accounts, issue and remove cards, and the table of keys is swept.  None of them touches
the accounts whose keys the call holds.  So the movement finds what the call has seen, and
all that can go wrong with it is that the destination overflows.

The invariant, `Secure`, is about every call that is under way: it has the keys that its
plan says it has (`Standing`), what it knows is so, and what is left of its plan makes do
with that (`Plan.Guarded`).  When a call makes its change, it holds the keys of all that it
touches.  No other call holds any of these, so for every other call the moment that
follows is `Beside` the one before.
-/
import Cashbook.Proofs.Locks.Exclusion
import Cashbook.Proofs.Service.Fares
import Cashbook.Proofs.Service.GuardedCall
import Cashbook.Proofs.Service.Serial

namespace Cashbook

/-! ### Calls and their keys -/

/-- What a call that has asked for these keys, and has this much left to do, has of the locks. -/
inductive Standing (locks : Locks AccountId) (ticket : Nat) : List AccountId → Plan Reply → Prop where
  /-- It has asked for nothing. -/
  | idle {rest : Plan Reply} (unclaimed : locks.claims[ticket]? = none) :
      Standing locks ticket [] rest
  /-- It is on the way to the keys that come next in its plan. -/
  | coming {claim : Claim AccountId} {more : List AccountId} {next : Plan Reply}
      (claimed : locks.claims[ticket]? = some claim) (stays : claim.leaving = false)
      (route : claim.route = Locks.ascending more) : Standing locks ticket [] (.hold more next)
  /-- It has them all. -/
  | holding {claim : Claim AccountId} {keys : List AccountId} {rest : Plan Reply}
      (claimed : locks.claims[ticket]? = some claim) (complete : claim.IsComplete)
      (same : ∀ id, id ∈ claim.keys ↔ id ∈ keys) (asked : keys ≠ []) :
      Standing locks ticket keys rest

/-- A call that is under way at a moment, with this much of its plan left. -/
structure Proceeds (registry : Registry) (locks : Locks AccountId) (moment : Moment) (ticket : Nat)
    (stamp : Stamp) (rest : Plan Reply) (known : Moment → Prop) (keys : List AccountId) : Prop where
  knows : known moment
  stable : Stable stamp keys known
  guarded : rest.Guarded stamp registry known keys
  standing : Standing locks ticket keys rest

variable {visits : List Visit} {registry : Registry} {locks changed : Locks AccountId}
  {moment later : Moment} {ticket other : Nat} {stamp : Stamp} {known : Moment → Prop}
  {keys keys' : List AccountId} {rest rest' : Plan Reply} {claim : Claim AccountId} {id : AccountId}

/-- A ticket holds the keys that its claim says are held. -/
theorem Locks.holds_of_mem_keys (hclaim : locks.claims[ticket]? = some claim)
    (hid : id ∈ claim.keys) : locks.Holds ticket id := by
  obtain ⟨⟨key, lock⟩, hheld, rfl⟩ := List.mem_map.1 (List.mem_reverse.1 hid)
  exact ⟨claim, lock, hclaim, Or.inl hheld⟩

namespace Standing

theorem holds (h : Standing locks ticket keys rest) (hid : id ∈ keys) : locks.Holds ticket id := by
  cases h with
  | idle _ => cases hid
  | coming _ _ _ => cases hid
  | holding hclaim _ hsame _ => exact Locks.holds_of_mem_keys hclaim ((hsame id).2 hid)

/-- Only the claim of the ticket itself matters. -/
theorem of_claims (h : Standing locks ticket keys rest)
    (hclaims : changed.claims[ticket]? = locks.claims[ticket]?) :
    Standing changed ticket keys rest := by
  cases h with
  | idle hnone => exact .idle (hclaims.trans hnone)
  | coming hclaim hstays hroute => exact .coming (hclaims.trans hclaim) hstays hroute
  | holding hclaim hcomplete hsame hasked =>
      exact .holding (hclaims.trans hclaim) hcomplete hsame hasked

/-- A call that asks for no keys goes on with those that it has. -/
theorem goOn (h : Standing locks ticket keys rest) (hrest : ∀ more next, rest ≠ .hold more next) :
    Standing locks ticket keys rest' := by
  cases h with
  | idle hnone => exact .idle hnone
  | coming _ _ _ => exact absurd rfl (hrest _ _)
  | holding hclaim hcomplete hsame hasked => exact .holding hclaim hcomplete hsame hasked

/-- A call that has asked for keys and goes on has them. -/
theorem exists_claim (h : Standing locks ticket keys rest) (hasked : keys ≠ []) :
    ∃ claim, locks.claims[ticket]? = some claim ∧ claim.IsComplete ∧
      ∀ id, id ∈ claim.keys ↔ id ∈ keys := by
  cases h with
  | idle _ => exact absurd rfl hasked
  | coming _ _ _ => exact absurd rfl hasked
  | holding hclaim hcomplete hsame _ => exact ⟨_, hclaim, hcomplete, hsame⟩

end Standing

namespace Proceeds

variable {q : Query} {next : q.Answer → Plan Reply}

theorem of_claims (h : Proceeds registry locks moment ticket stamp rest known keys)
    (hclaims : changed.claims[ticket]? = locks.claims[ticket]?) :
    Proceeds registry changed moment ticket stamp rest known keys :=
  ⟨h.knows, h.stable, h.guarded, h.standing.of_claims hclaims⟩

theorem beside (h : Proceeds registry locks moment ticket stamp rest known keys)
    (hbeside : Beside stamp keys moment later) :
    Proceeds registry locks later ticket stamp rest known keys :=
  ⟨h.stable moment later h.knows hbeside, h.stable, h.guarded, h.standing⟩

/-- A question is answered. -/
theorem read (h : Proceeds registry locks moment ticket stamp (.ask q next) known keys)
    (hread : q.isWrite = false) {answer : q.Answer}
    (hanswer : ((moment.bank registry).perform stamp q).1 = .ok answer) :
    ∃ learnt, Proceeds registry locks moment ticket stamp (next answer) learnt keys := by
  obtain ⟨learnt, hstable, hlearn, hnext⟩ := h.guarded.of_read hread answer
  exact ⟨learnt, hlearn moment h.knows hanswer, hstable, hnext, h.standing.goOn (by simp)⟩

/-- Nothing is left to do but to return a reply. -/
theorem done (h : Proceeds registry locks moment ticket stamp (.ask q next) known keys)
    (later : Moment) (reply : Reply) :
    Proceeds registry locks later ticket stamp (.done reply) (fun _ => True) keys :=
  ⟨trivial, fun _ _ _ _ => trivial, Plan.guarded_done reply, h.standing.goOn (by simp)⟩

/-- A call begins to take keys. -/
theorem start {more : List AccountId} (h : Proceeds registry locks moment ticket stamp
    (.hold more rest) known keys) :
    Proceeds registry (locks.start ticket more) moment ticket stamp (.hold more rest) known keys := by
  obtain ⟨rfl, -⟩ := h.guarded.of_hold
  refine ⟨h.knows, h.stable, h.guarded, .coming Std.ExtTreeMap.getElem?_insert_self rfl rfl⟩

/-- A call takes one action on the way to its keys. -/
theorem step {more : List AccountId} (hcoherent : locks.Coherent)
    (h : Proceeds registry locks moment ticket stamp (.hold more rest) known keys)
    (hclaim : locks.claims[ticket]? = some claim) (now : Nat) :
    Proceeds registry (locks.step now ticket) moment ticket stamp (.hold more rest) known keys := by
  obtain ⟨rfl, -⟩ := h.guarded.of_hold
  refine ⟨h.knows, h.stable, h.guarded, ?_⟩
  cases h.standing with
  | idle hnone =>
      rw [hclaim] at hnone
      cases hnone
  | coming hsame hstays hroute =>
      obtain rfl := Option.some.inj (hclaim.symm.trans hsame)
      have hturned : ∀ key lock, claim.reach ≠ .returning key lock := by
        intro key lock hreach
        rw [hcoherent.turned ticket claim hclaim key lock hreach] at hstays
        cases hstays
      have hacts : Locks.Acts now ticket locks claim (locks.step now ticket) :=
        Locks.acts_step hclaim
      obtain ⟨new, hnew, hstill, hsameRoute⟩ := Locks.route_of_acts hacts hclaim hstays hturned
      exact .coming hnew hstill (hsameRoute.trans hroute)
  | holding _ _ _ hasked => exact absurd rfl hasked

/-- A call that has all its keys goes on. -/
theorem hold {more : List AccountId}
    (h : Proceeds registry locks moment ticket stamp (.hold more rest) known keys)
    (hclaim : locks.claims[ticket]? = some claim) (hcomplete : claim.IsComplete) :
    Proceeds registry locks moment ticket stamp rest known more := by
  obtain ⟨rfl, hasked, hnext⟩ := h.guarded.of_hold
  refine ⟨h.knows, h.stable.mono (fun id hid => absurd hid List.not_mem_nil), hnext, ?_⟩
  cases h.standing with
  | idle hnone =>
      rw [hclaim] at hnone
      cases hnone
  | coming hsame hstays hroute =>
      obtain rfl := Option.some.inj (hclaim.symm.trans hsame)
      refine .holding hclaim hcomplete ?_ hasked
      intro id
      rw [hcomplete.keys_eq_route, hroute, Locks.mem_ascending]
  | holding _ _ _ hnot => exact absurd rfl hnot

end Proceeds

/-- A call that is under way at a moment, and the keys and the knowledge that it has. -/
def InHand (visits : List Visit) (registry : Registry) (locks : Locks AccountId) (moment : Moment)
    (ticket : Nat) (rest : Plan Reply) : Prop :=
  ∃ visit known keys, visits[ticket]? = some visit ∧
    Proceeds registry locks moment ticket visit.stamp rest known keys

/-! ### The invariant -/

/-- How things stand when the calls of `spent` have made their change. -/
structure Secure (visits : List Visit) (registry : Registry) (floor : Floor Reply)
    (spent : List Nat) : Prop where
  registry_eq : floor.bank.registry = registry
  coherent : floor.locks.Coherent
  /-- Calls that have made their change ask for nothing more. -/
  settled : ∀ ticket ∈ spent, ∀ rest, floor.calls[ticket]? = some (.working rest) →
    ∃ reply, rest = .done reply
  underWay : ∃ moment : Moment, moment.ledger = floor.bank.ledger ∧
    moment.unused = unusedAfter visits spent ∧
    ∀ ticket rest, floor.calls[ticket]? = some (.working rest) →
      InHand visits registry floor.locks moment ticket rest

namespace Secure

variable {floor : Floor Reply} {spent : List Nat}

/-- One call moves on, with other claims and the bank as they were. -/
private theorem goOn (h : Secure visits registry floor spent) (progress : Progress Reply)
    (hcoherent : locks.Coherent)
    (hothers : ∀ other, ticket ≠ other → locks.claims[other]? = floor.locks.claims[other]?)
    (hover : ∀ rest, progress = .working rest → ticket ∈ spent → ∃ reply, rest = .done reply)
    (hself : ∀ rest (moment : Moment), progress = .working rest →
      moment.bank registry = floor.bank →
        (∀ plan, floor.calls[ticket]? = some (.working plan) →
          InHand visits registry floor.locks moment ticket plan) →
            InHand visits registry locks moment ticket rest) :
    Secure visits registry ({ floor with locks }.setCall ticket progress) spent := by
  obtain ⟨moment, hledger, hunused, hcalls⟩ := h.underWay
  refine ⟨h.registry_eq, hcoherent, ?_, moment, hledger, hunused, ?_⟩
  · intro other hother rest hcall
    rcases Table.of_getElem?_insert hcall with ⟨rfl, heq⟩ | ⟨-, hold⟩
    · exact hover rest heq.symm hother
    · exact h.settled other hother rest hold
  · intro other rest hcall
    rcases Table.of_getElem?_insert hcall with ⟨rfl, heq⟩ | ⟨hne, hold⟩
    · refine hself rest moment heq.symm ?_ (hcalls other)
      rw [Moment.bank, hledger, ← h.registry_eq]
    · obtain ⟨visit, known, keys, hvisit, hproceeds⟩ := hcalls other rest hold
      exact ⟨visit, known, keys, hvisit, hproceeds.of_claims (hothers other (Ne.symm hne))⟩

/-- A call ends. -/
theorem finish (h : Secure visits registry floor spent) (ticket : Nat) (outcome : Outcome Reply) :
    Secure visits registry (floor.finish ticket outcome) spent :=
  h.goOn (.ended outcome) (h.coherent.leave ticket)
    (fun _ hne => Locks.claims_leave_of_ne floor.locks hne) (by simp) (by simp)

/-- A call takes an action at the locks. -/
private theorem relock (h : Secure visits registry floor spent) {progress : Progress Reply}
    (hcall : floor.calls[ticket]? = some progress) (hcoherent : locks.Coherent)
    (hothers : ∀ other, ticket ≠ other → locks.claims[other]? = floor.locks.claims[other]?)
    (hself : ∀ rest (moment : Moment), progress = .working rest →
      InHand visits registry floor.locks moment ticket rest →
        InHand visits registry locks moment ticket rest) :
    Secure visits registry { floor with locks } spent := by
  have hsame : { floor with locks } = { floor with locks }.setCall ticket progress := by
    rw [Floor.setCall, Table.insert_of_getElem? hcall]
  rw [hsame]
  refine h.goOn progress hcoherent hothers ?_ ?_
  · intro rest heq hmem
    exact h.settled ticket hmem rest (heq ▸ hcall)
  · intro rest moment heq _ hplan
    exact hself rest moment heq (hplan rest (heq ▸ hcall))

theorem sweep (h : Secure visits registry floor spent) (now : AccountId → Nat) (ttl : Nat) :
    Secure visits registry (floor.sweep now ttl) spent := by
  obtain ⟨moment, hledger, hunused, hcalls⟩ := h.underWay
  refine ⟨h.registry_eq, h.coherent.sweep now ttl, h.settled, moment, hledger, hunused, ?_⟩
  intro ticket rest hcall
  obtain ⟨visit, known, keys, hvisit, hproceeds⟩ := hcalls ticket rest hcall
  exact ⟨visit, known, keys, hvisit, hproceeds.of_claims rfl⟩

/-- A call that has all its keys goes on. -/
theorem enter (h : Secure visits registry floor spent) {more : List AccountId} {next : Plan Reply}
    (hcall : floor.calls[ticket]? = some (.working (.hold more next)))
    (hclaim : floor.locks.claims[ticket]? = some claim) (hcomplete : claim.IsComplete) :
    Secure visits registry (floor.setCall ticket (.working next)) spent := by
  refine h.goOn (.working next) h.coherent (fun _ _ => rfl) ?_ ?_
  · intro rest heq hmem
    obtain ⟨reply, hdone⟩ := h.settled ticket hmem _ hcall
    cases hdone
  · intro rest moment heq _ hplan
    cases heq
    obtain ⟨visit, known, keys, hvisit, hproceeds⟩ := hplan _ hcall
    exact ⟨visit, known, more, hvisit, hproceeds.hold hclaim hcomplete⟩

/-- A call has a question answered. -/
theorem read (h : Secure visits registry floor spent) {visit : Visit} {q : Query}
    {next : q.Answer → Plan Reply} {answer : q.Answer} (hvisit : visits[ticket]? = some visit)
    (hcall : floor.calls[ticket]? = some (.working (.ask q next))) (hread : q.isWrite = false)
    (hanswer : (floor.bank.perform visit.stamp q).1 = .ok answer) :
    Secure visits registry (floor.setCall ticket (.working (next answer))) spent := by
  refine h.goOn (.working (next answer)) h.coherent (fun _ _ => rfl) ?_ ?_
  · intro rest heq hmem
    obtain ⟨reply, hdone⟩ := h.settled ticket hmem _ hcall
    cases hdone
  · intro rest moment heq hbank hplan
    cases heq
    obtain ⟨found, known, keys, hfound, hproceeds⟩ := hplan _ hcall
    obtain rfl := Option.some.inj (hvisit.symm.trans hfound)
    obtain ⟨learnt, hnext⟩ := hproceeds.read hread (hbank ▸ hanswer)
    exact ⟨visit, learnt, keys, hvisit, hnext⟩

/-! ### A change is made -/

/-- A call that asks for a change has all that the change needs. -/
theorem permitted (h : Secure visits registry floor spent) {visit : Visit} {q : Query}
    {next : q.Answer → Plan Reply} (hvisit : visits[ticket]? = some visit)
    (hcall : floor.calls[ticket]? = some (.working (.ask q next))) (hwrite : q.isWrite = true) :
    ∃ moment keys, moment.bank registry = floor.bank ∧
      q.Permitted visit.stamp keys moment ∧ Standing floor.locks ticket keys (.ask q next) ∧
        ∀ answer, ∃ reply, next answer = .done reply := by
  obtain ⟨moment, hledger, -, hcalls⟩ := h.underWay
  obtain ⟨found, known, keys, hfound, hproceeds⟩ := hcalls ticket _ hcall
  obtain rfl := Option.some.inj (hvisit.symm.trans hfound)
  obtain ⟨hpermitted, hdone⟩ := hproceeds.guarded.of_write hwrite
  refine ⟨moment, keys, ?_, hpermitted moment hproceeds.knows, hproceeds.standing, hdone⟩
  rw [Moment.bank, hledger, ← h.registry_eq]

/-- A change touches no account whose key another call holds. -/
theorem not_touches (h : Secure visits registry floor spent) {visit : Visit} {q : Query}
    {next : q.Answer → Plan Reply} (hvisit : visits[ticket]? = some visit)
    (hcall : floor.calls[ticket]? = some (.working (.ask q next))) (hwrite : q.isWrite = true)
    {change : Change} (hchange : q.change? visit.stamp = some change) (hne : ticket ≠ other)
    (hholds : floor.locks.Holds other id) : ¬ change.Touches floor.bank.ledger id := by
  intro htouches
  obtain ⟨moment, keys, hbank, hpermitted, hstanding, -⟩ := h.permitted hvisit hcall hwrite
  rw [← hbank] at htouches
  have hkey := hpermitted.mem_of_touches hchange htouches
  exact hne (h.coherent.eq_of_holds (hstanding.holds hkey) hholds)

/-- A call makes its change, and for every other call what it knows stays so. -/
theorem commit (h : Secure visits registry floor spent)
    (haccounts : (visits.map fun visit => visit.stamp.account).Nodup)
    (htransactions : (visits.map fun visit => visit.stamp.transaction).Nodup) {visit : Visit}
    {q : Query} {next : q.Answer → Plan Reply} {answer : q.Answer} {bank : Bank}
    (hvisit : visits[ticket]? = some visit)
    (hcall : floor.calls[ticket]? = some (.working (.ask q next))) (hwrite : q.isWrite = true)
    (hanswer : floor.bank.perform visit.stamp q = (.ok answer, bank)) :
    Secure visits registry ({ floor with bank }.setCall ticket (.working (next answer)))
      (spent ++ [ticket]) := by
  have hout : ticket ∉ spent := by
    intro hmem
    obtain ⟨reply, hdone⟩ := h.settled ticket hmem _ hcall
    cases hdone
  obtain ⟨-, -, -, -, -, hdone⟩ := h.permitted hvisit hcall hwrite
  obtain ⟨reply, hreply⟩ := hdone answer
  obtain ⟨moment, hledger, hunused, hcalls⟩ := h.underWay
  have hbank : moment.bank registry = floor.bank := by
    rw [Moment.bank, hledger, ← h.registry_eq]
  rw [← hbank] at hanswer
  obtain ⟨change, hchange, heffect, hregistry⟩ :=
    Bank.exists_effect moment.inOrder.cardsFiled hwrite hanswer
  obtain ⟨after, hafter, hleft, hbeside⟩ :
      ∃ after : Moment, after.ledger = bank.ledger ∧
        after.unused = unusedAfter visits (spent ++ [ticket]) ∧
        ∀ (stamp : Stamp) (keys : List AccountId),
          (∀ tx, change = .record tx → tx.id ≠ stamp.transaction) →
            (∀ id ∈ keys, ¬change.Touches moment.ledger id) → Beside stamp keys moment after := by
    have hopens : ∀ row, change.opening? = some row →
        unusedAfter visits spent row.id ∧ ¬unusedAfter visits (spent ++ [ticket]) row.id :=
      fun _ hrow => unusedAfter_opening haccounts hvisit hout hchange hrow
    rw [← hunused] at hopens
    refine moment.exists_beside heffect (fun row hrow => (hopens row hrow).1) ?_
      fun row hrow => (hopens row hrow).2
    intro id hid
    rw [hunused]
    exact unusedAfter_of_append hid
  refine ⟨hregistry, h.coherent, ?_, after, hafter, hleft, ?_⟩
  · intro other hother rest hworking
    rcases Table.of_getElem?_insert hworking with ⟨-, heq⟩ | ⟨hne, hold⟩
    · cases heq
      exact ⟨reply, hreply⟩
    · rcases List.mem_append.1 hother with hspent | hnew
      · exact h.settled other hspent rest hold
      · exact absurd (List.mem_singleton.1 hnew) hne
  · intro other rest hworking
    rcases Table.of_getElem?_insert hworking with ⟨rfl, heq⟩ | ⟨hne, hold⟩
    · cases heq
      obtain ⟨found, known, keys, hfound, hproceeds⟩ := hcalls _ _ hcall
      rw [hreply]
      exact ⟨found, _, keys, hfound, hproceeds.done after reply⟩
    · obtain ⟨found, known, keys, hfound, hproceeds⟩ := hcalls other rest hold
      refine ⟨found, known, keys, hfound, hproceeds.beside (hbeside _ _ ?_ ?_)⟩
      · intro tx hrecord heq
        subst hrecord
        rw [Query.id_of_record hchange] at heq
        exact hne (Visit.ticket_eq htransactions hvisit hfound heq).symm
      · intro id hid
        rw [hledger]
        exact h.not_touches hvisit hcall hwrite hchange (Ne.symm hne) (hproceeds.standing.holds hid)

/-! ### Whatever happens -/

theorem of_happens (h : Secure visits registry floor spent)
    (haccounts : (visits.map fun visit => visit.stamp.account).Nodup)
    (htransactions : (visits.map fun visit => visit.stamp.transaction).Nodup) {event : Event}
    {committed : Option Nat} {later : Floor Reply}
    (hhappens : floor.Happens visits event committed later) :
    ∃ spent, Secure visits registry later spent := by
  cases hhappens with
  | rests _ => exact ⟨spent, h⟩
  | sweeps now ttl => exact ⟨spent, h.sweep now ttl⟩
  | returns _ | fails _ _ _ _ => exact ⟨spent, h.finish _ _⟩
  | learns hvisit hcall hread hanswer => exact ⟨spent, h.read hvisit hcall hread hanswer⟩
  | changes hvisit hcall hwrite hperform =>
      exact ⟨_, h.commit haccounts htransactions hvisit hcall hwrite hperform⟩
  | enters hcall hclaim hcomplete => exact ⟨spent, h.enter hcall hclaim hcomplete⟩
  | starts hcall hnone =>
      refine ⟨spent, h.relock hcall (h.coherent.start hnone _)
        (fun _ hne => Table.getElem?_insert_of_ne _ _ hne) ?_⟩
      intro rest moment heq hplan
      cases heq
      obtain ⟨visit, known, keys, hvisit, hproceeds⟩ := hplan
      exact ⟨visit, known, keys, hvisit, hproceeds.start⟩
  | steps hcall hclaim _ =>
      refine ⟨spent, h.relock hcall (h.coherent.step _ _)
        (fun _ hne => Locks.claims_step_of_ne _ floor.locks hne) ?_⟩
      intro rest moment heq hplan
      cases heq
      obtain ⟨visit, known, keys, hvisit, hproceeds⟩ := hplan
      exact ⟨visit, known, keys, hvisit, hproceeds.step h.coherent hclaim _⟩
  | leaves hcall =>
      exact ⟨spent, h.relock hcall (h.coherent.step _ _)
        (fun _ hne => Locks.claims_step_of_ne _ floor.locks hne) nofun⟩

/-- The invariant survives whatever may happen. -/
theorem happen (h : Secure visits registry floor spent)
    (haccounts : (visits.map fun visit => visit.stamp.account).Nodup)
    (htransactions : (visits.map fun visit => visit.stamp.transaction).Nodup) (event : Event) :
    ∃ spent, Secure visits registry (floor.happen visits event) spent :=
  h.of_happens haccounts htransactions (floor.happens visits event)

theorem play (h : Secure visits registry floor spent)
    (haccounts : (visits.map fun visit => visit.stamp.account).Nodup)
    (htransactions : (visits.map fun visit => visit.stamp.transaction).Nodup)
    (events : List Event) : ∃ spent, Secure visits registry (floor.play visits events) spent := by
  induction events generalizing floor spent with
  | nil => exact ⟨spent, h⟩
  | cons event rest ih =>
      obtain ⟨next, hnext⟩ := h.happen haccounts htransactions event
      exact ih hnext

theorem opened (rules : Rules) {bank : Bank} (horder : bank.ledger.InOrder)
    (haccounts : ∀ visit ∈ visits, bank.ledger.accounts[visit.stamp.account]? = none)
    (htransactions : ∀ visit ∈ visits,
      bank.ledger.transactions[visit.stamp.transaction]? = none) :
    Secure visits bank.registry (Floor.opened rules visits bank .empty) [] := by
  have hbank := Floor.bank_opened rules visits bank .empty
  have hlocks := Floor.locks_opened rules visits bank .empty
  have habsent : ∀ id, unusedAfter visits [] id → bank.ledger.accounts[id]? = none := by
    intro id hid
    obtain ⟨ticket, visit, hvisit, -, rfl⟩ := hid
    exact haccounts visit (List.mem_of_getElem? hvisit)
  refine ⟨by rw [hbank], by rw [hlocks]; exact .empty, by simp,
    ⟨bank.ledger, _, horder, habsent⟩, by rw [hbank], rfl, ?_⟩
  intro ticket rest hcall
  rw [Floor.calls_opened, Option.map_eq_some_iff] at hcall
  obtain ⟨visit, hvisit, heq⟩ := hcall
  cases heq
  refine ⟨visit, Unspent visit.stamp, [], hvisit, ?_, stable_unspent, ?_, .idle ?_⟩
  · exact htransactions visit (List.mem_of_getElem? hvisit)
  · exact Call.guarded_plan visit.call rules visit.identity visit.stamp bank.registry
  · rw [hlocks]
    simp [Locks.empty]

end Secure

end Cashbook
