/-
No movement without a second look.

What a call saw on its way to its keys may have changed by the time it has them.  So it
looks at its accounts once more, at every one of them, and only then asks for its
movement.  `Plan.LooksFirst` says this of a plan, with the accounts that were looked at
since the keys were got; a look from before does not count.  All ten calls do so, and
therefore wherever a movement is about to be asked for there was a moment at which the
call had all its keys and found the account there (`Floor.Attentive.hasFound`).
-/
import Cashbook.Proofs.Service.Call
import Cashbook.Proofs.Service.Fares

namespace Cashbook

/-! ### Plans -/

namespace Query

/-- The account that a query looks at. -/
def looked : Query → List AccountId
  | .account id => [id]
  | .owner _ | .accountOfCard _ | .accounts _ | .card _ | .cards _ | .transaction _
  | .transactions _ | .newNumber | .openAccount .. | .deleteAccount _ | .addCard ..
  | .deleteCard _ | .record .. | .reverse _ => []

/-- The kind of the movement that a query asks for. -/
def movement? : Query → Option TransactionKind
  | .record _ kind => some kind
  | .owner _ | .account _ | .accountOfCard _ | .accounts _ | .card _ | .cards _ | .transaction _
  | .transactions _ | .newNumber | .openAccount .. | .deleteAccount _ | .addCard ..
  | .deleteCard _ | .reverse _ => none

end Query

namespace Plan

variable {α β : Type}

/--
A plan that has looked at some accounts with its keys held, and asks for no movement before
it has looked at all that the movement is between.
-/
def LooksFirst : List AccountId → Plan α → Prop
  | _, .done _ | _, .fail _ => True
  | _, .hold _ next => next.LooksFirst []
  | seen, .ask q next =>
    (∀ kind, q.movement? = some kind → ∀ id ∈ kind.accounts, id ∈ seen) ∧
      ∀ answer, (next answer).LooksFirst (q.looked ++ seen)

variable {plan : Plan α} {seen : List AccountId}

theorem looksFirst_map (f : α → β) (h : plan.LooksFirst seen) : (f <$> plan).LooksFirst seen := by
  show (plan.bind fun value => Plan.done (f value)).LooksFirst seen
  induction plan generalizing seen with
  | done value => trivial
  | fail failure => trivial
  | hold more next ih => exact ih h
  | ask q next ih => exact ⟨h.1, fun answer => ih answer (h.2 answer)⟩

theorem looksFirst_ofOutcome_bind {outcome : Outcome α} {f : α → Plan β}
    (h : ∀ value, outcome = .ok value → (f value).LooksFirst seen) :
    (ofOutcome outcome >>= f).LooksFirst seen := by
  cases outcome with
  | ok value => exact h value rfl
  | error failure => trivial

theorem looksFirst_done (value : α) : (Plan.done value).LooksFirst seen := trivial

theorem looksFirst_fail (failure : Failure) :
    (Plan.fail failure : Plan α).LooksFirst seen := trivial

theorem looksFirst_hold {more : List AccountId} (h : plan.LooksFirst []) :
    (Plan.hold more plan).LooksFirst seen := h

theorem LooksFirst.of_hold {more : List AccountId} (h : (Plan.hold more plan).LooksFirst seen) :
    plan.LooksFirst [] := h

theorem LooksFirst.of_ask {q : Query} {next : q.Answer → Plan α}
    (h : (Plan.ask q next).LooksFirst seen) :
    (∀ kind, q.movement? = some kind → ∀ id ∈ kind.accounts, id ∈ seen) ∧
      ∀ answer, (next answer).LooksFirst (q.looked ++ seen) := h

theorem looksFirst_record {amount : Amount} {kind : TransactionKind}
    (h : ∀ id ∈ kind.accounts, id ∈ seen) : (query (.record amount kind)).LooksFirst seen := by
  refine ⟨?_, fun _ => trivial⟩
  intro other hother
  cases hother
  exact h

/-- A query that is not a movement. -/
theorem looksFirst_bind {q : Query} {f : q.Answer → Plan β} (hq : q.movement? = none)
    (h : ∀ answer, (f answer).LooksFirst (q.looked ++ seen)) :
    (query q >>= f).LooksFirst seen := by
  refine ⟨?_, h⟩
  intro kind hkind
  rw [hq] at hkind
  cases hkind

theorem looksFirst_query {q : Query} (hq : q.movement? = none) : (query q).LooksFirst seen :=
  looksFirst_bind hq looksFirst_done

-- From here on plans are taken apart by these lemmas alone.
attribute [irreducible] LooksFirst

/-! ### Calls that move nothing -/

theorem looksFirst_openAccount (rules : Rules) (identity : String) (request : OpeningRequest) :
    (openAccount rules identity request).LooksFirst seen :=
  looksFirst_ofOutcome_bind fun _ _ => looksFirst_bind rfl fun _ => looksFirst_query rfl

theorem looksFirst_ownedAccount_bind {identity : String} {id : AccountId} {f : Account → Plan α}
    (h : ∀ account seen, (f account).LooksFirst seen) :
    (ownedAccount identity id >>= f).LooksFirst seen := by
  rw [ownedAccount_bind]
  exact looksFirst_bind rfl fun _ => looksFirst_bind rfl fun account =>
    looksFirst_ofOutcome_bind fun _ _ => h account _

theorem looksFirst_ownedAccount (identity : String) (id : AccountId) :
    (ownedAccount identity id).LooksFirst seen :=
  looksFirst_bind rfl fun _ => looksFirst_bind rfl fun account =>
    looksFirst_ofOutcome_bind fun _ _ => looksFirst_done account

theorem looksFirst_closeAccount (identity : String) (id : AccountId) :
    (closeAccount identity id).LooksFirst seen :=
  looksFirst_ownedAccount_bind fun _ _ => looksFirst_hold (looksFirst_query rfl)

theorem looksFirst_issueCard (identity : String) (id : AccountId) :
    (issueCard identity id).LooksFirst seen :=
  looksFirst_ownedAccount_bind fun _ _ => looksFirst_bind rfl fun _ => looksFirst_query rfl

theorem looksFirst_removeCard (identity raw : String) : (removeCard identity raw).LooksFirst seen :=
  looksFirst_ofOutcome_bind fun _ _ => looksFirst_bind rfl fun _ =>
    looksFirst_ownedAccount_bind fun _ _ => looksFirst_query rfl

theorem looksFirst_transactions (identity : String) (filter : Filter) :
    (transactions identity filter).LooksFirst seen := by
  unfold transactions
  cases filter.account with
  | some id => exact looksFirst_ownedAccount_bind fun _ _ => looksFirst_query rfl
  | none =>
      exact looksFirst_bind rfl fun _ => looksFirst_bind rfl fun _ => looksFirst_bind rfl fun _ =>
        looksFirst_done _

theorem looksFirst_reverse (identity : String) (request : ReversalRequest) :
    (reverse identity request).LooksFirst seen := by
  rw [reverse_eq]
  exact looksFirst_ofOutcome_bind fun _ _ => looksFirst_bind rfl fun _ =>
    looksFirst_bind rfl fun _ => looksFirst_ofOutcome_bind fun _ _ => looksFirst_bind rfl fun _ =>
      looksFirst_ofOutcome_bind fun _ _ => looksFirst_hold (looksFirst_query rfl)

/-! ### Movements -/

/-- Those that are left are looked at, and then all have been. -/
theorem looksFirst_recording {amount : Amount} {kind : TransactionKind} {ids : List AccountId}
    (hids : ∀ id ∈ kind.accounts, id ∈ seen ∨ id ∈ ids) :
    (recording amount kind ids).LooksFirst seen := by
  induction ids generalizing seen with
  | nil =>
      exact looksFirst_record fun id hid => (hids id hid).resolve_right List.not_mem_nil
  | cons first rest ih =>
      rw [recording_cons]
      refine looksFirst_bind rfl fun row => looksFirst_ofOutcome_bind fun _ _ => ih ?_
      intro id hid
      rcases hids id hid with hseen | hleft
      · exact Or.inl (List.mem_cons_of_mem _ hseen)
      · rcases List.mem_cons.1 hleft with rfl | hrest
        · exact Or.inl List.mem_cons_self
        · exact Or.inr hrest

theorem looksFirst_hold_recording (amount : Amount) (kind : TransactionKind) :
    (Plan.hold kind.accounts (recording amount kind kind.accounts)).LooksFirst seen :=
  looksFirst_hold (looksFirst_recording fun _ hid => Or.inr hid)

theorem looksFirst_moving (amount : Amount) (order : Order) (account : Account) :
    (moving ⟨amount, order⟩ account).LooksFirst seen := by
  rw [moving_eq]
  cases order with
  | deposit card => exact looksFirst_hold_recording amount (.deposit account.id)
  | withdrawal card =>
      exact looksFirst_ofOutcome_bind fun _ _ =>
        looksFirst_hold_recording amount (.withdrawal account.id)
  | transfer card destination =>
      refine looksFirst_ofOutcome_bind fun _ _ => looksFirst_bind rfl fun other => ?_
      unfold transferring
      split
      · exact looksFirst_fail _
      split
      · exact looksFirst_fail _
      · exact looksFirst_hold_recording amount (.transfer account.id other.id)

theorem looksFirst_move (rules : Rules) (identity : String) (request : MovementRequest) :
    (move rules identity request).LooksFirst seen := by
  rw [move_eq]
  exact looksFirst_ofOutcome_bind fun movement _ => looksFirst_bind rfl fun _ =>
    looksFirst_bind rfl fun account => looksFirst_ofOutcome_bind fun _ _ =>
      looksFirst_moving movement.amount movement.order account

end Plan

/-- **No call asks for a movement without a second look.** -/
theorem Call.looksFirst_plan (call : Call) (rules : Rules) (identity : String) :
    (call.plan rules identity).LooksFirst [] := by
  cases call with
  | openAccount request =>
      exact Plan.looksFirst_map _ (Plan.looksFirst_openAccount rules identity request)
  | closeAccount id => exact Plan.looksFirst_map _ (Plan.looksFirst_closeAccount identity id)
  | issueCard id => exact Plan.looksFirst_map _ (Plan.looksFirst_issueCard identity id)
  | removeCard number => exact Plan.looksFirst_map _ (Plan.looksFirst_removeCard identity number)
  | accounts =>
      exact Plan.looksFirst_map _ (Plan.looksFirst_bind rfl fun _ => Plan.looksFirst_query rfl)
  | account id => exact Plan.looksFirst_map _ (Plan.looksFirst_ownedAccount identity id)
  | cards id =>
      exact Plan.looksFirst_map _
        (Plan.looksFirst_ownedAccount_bind fun _ _ => Plan.looksFirst_query rfl)
  | transactions filter =>
      exact Plan.looksFirst_map _ (Plan.looksFirst_transactions identity filter)
  | move request => exact Plan.looksFirst_map _ (Plan.looksFirst_move rules identity request)
  | reverse request => exact Plan.looksFirst_map _ (Plan.looksFirst_reverse identity request)

/-! ### Looks that were taken -/

namespace Floor

/-- A call has all its keys, is about to look at an account, and will find this row. -/
def Finds (floor : Floor Reply) (ticket : Nat) (id : AccountId) (row : Account) : Prop :=
  ∃ claim next, floor.locks.claims[ticket]? = some claim ∧ claim.IsComplete ∧
    floor.calls[ticket]? = some (.working (.ask (.account id) next)) ∧
      floor.bank.ledger.accounts[id]? = some row

/-- At some moment of a run a call with all its keys looked at an account. -/
def HasFound (visits : List Visit) (start : Floor Reply) (events : List Event) (ticket : Nat)
    (id : AccountId) : Prop :=
  ∃ earlier later row, earlier ++ later = events ∧ (start.play visits earlier).Finds ticket id row

/-- What a call has left looks at all that the call has not looked at. -/
def Attentive (visits : List Visit) (start : Floor Reply) (events : List Event) : Prop :=
  ∀ ticket plan, (start.play visits events).calls[ticket]? = some (.working plan) →
    ∃ seen, plan.LooksFirst seen ∧
      ∀ claim, (start.play visits events).locks.claims[ticket]? = some claim → claim.IsComplete →
        ∀ id ∈ seen, HasFound visits start events ticket id

variable {visits : List Visit} {start : Floor Reply} {events : List Event} {ticket : Nat}
  {id : AccountId}

theorem HasFound.append (h : HasFound visits start events ticket id) (more : List Event) :
    HasFound visits start (events ++ more) ticket id := by
  obtain ⟨earlier, later, row, rfl, hfinds⟩ := h
  exact ⟨earlier, later ++ more, row, (List.append_assoc ..).symm, hfinds⟩

theorem Attentive.happen (h : Attentive visits start events) (event : Event) :
    Attentive visits start (events ++ [event]) := by
  intro ticket plan hplan
  rw [play_concat] at hplan ⊢
  cases (start.play visits events).fares_happen visits event ticket with
  | rests hcall hclaims =>
      rw [hcall] at hplan
      obtain ⟨seen, hlooks, hfound⟩ := h ticket plan hplan
      rw [hclaims]
      exact ⟨seen, hlooks, fun claim hclaim hcomplete id hid =>
        (hfound claim hclaim hcomplete id hid).append [event]⟩
  | reaches hbefore hafter _ =>
      -- What was looked at on the way to the keys does not count.
      rw [hafter] at hplan
      cases hplan
      obtain ⟨seen, hlooks, -⟩ := h ticket _ hbefore
      exact ⟨[], Plan.looksFirst_hold hlooks.of_hold, by simp⟩
  | enters hbefore hafter _ =>
      rw [hafter] at hplan
      cases hplan
      obtain ⟨seen, hlooks, -⟩ := h ticket _ hbefore
      exact ⟨[], hlooks.of_hold, by simp⟩
  | @learns visit q next answer hvisit hbefore hanswer hafter hclaims =>
      rw [hafter] at hplan
      cases hplan
      obtain ⟨seen, hlooks, hfound⟩ := h ticket _ hbefore
      refine ⟨q.looked ++ seen, hlooks.of_ask.2 answer, ?_⟩
      rw [hclaims]
      intro claim hclaim hcomplete id hid
      rcases List.mem_append.1 hid with hnow | hseen
      · cases q with
        | account other =>
            obtain rfl := List.mem_singleton.1 hnow
            exact ⟨events, [event], answer, rfl, claim, next, hclaim, hcomplete, hbefore,
              Ledger.account_ok_iff.1 hanswer⟩
        | _ => cases hnow
      · exact (hfound claim hclaim hcomplete id hseen).append [event]
  | ends hended =>
      rw [hended] at hplan
      cases hplan

theorem Attentive.play (h : Attentive visits start events) (more : List Event) :
    Attentive visits start (events ++ more) := by
  induction more generalizing events with
  | nil =>
      rw [List.append_nil]
      exact h
  | cons event rest ih =>
      have hrest := ih (h.happen event)
      rwa [List.append_assoc] at hrest

theorem Attentive.opened (rules : Rules) (visits : List Visit) (bank : Bank)
    (locks : Locks AccountId) : Attentive visits (Floor.opened rules visits bank locks) [] := by
  intro ticket plan hplan
  have hopened : (Floor.opened rules visits bank locks).calls[ticket]? =
      some (.working plan) := hplan
  rw [Floor.calls_opened, Option.map_eq_some_iff] at hopened
  obtain ⟨visit, -, heq⟩ := hopened
  cases heq
  exact ⟨[], Call.looksFirst_plan visit.call rules visit.identity, by simp⟩

/-- A call that has all its keys and asks for a movement has looked at the accounts. -/
theorem Attentive.hasFound (h : Attentive visits start events) {amount : Amount}
    {kind : TransactionKind} {next : (Query.record amount kind).Answer → Plan Reply}
    {claim : Claim AccountId}
    (hcall : (start.play visits events).calls[ticket]? =
      some (.working (.ask (.record amount kind) next)))
    (hclaim : (start.play visits events).locks.claims[ticket]? = some claim)
    (hcomplete : claim.IsComplete) (hid : id ∈ kind.accounts) :
    HasFound visits start events ticket id := by
  obtain ⟨seen, hlooks, hfound⟩ := h ticket _ hcall
  exact hfound claim hclaim hcomplete id (hlooks.of_ask.1 kind rfl id hid)

end Floor

end Cashbook
