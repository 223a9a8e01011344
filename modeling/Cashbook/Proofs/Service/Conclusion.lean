/-
A call ends with its change.

Every call looks at what it needs, takes its keys if it needs any, and asks for one
change at most.  That change is the last thing it asks for: nothing that could still fail
comes after it, and what the call comes to is what the change came to.  This is why a
call that fails, for whatever reason and wherever it is, has changed nothing, and why a
call whose change was made has nothing left to do but say so.
-/
import Cashbook.Proofs.Service.Call

namespace Cashbook

/-- What a call comes to whose change has this answer. -/
def Query.reply? : (q : Query) → q.Answer → Option Reply
  | .openAccount .., row | .deleteAccount _, row => some (.account row)
  | .addCard .., row | .deleteCard _, row => some (.card row)
  | .record .., row | .reverse _, row => some (.transaction row)
  | .owner _, _ | .account _, _ | .accountOfCard _, _ | .accounts _, _ | .card _, _ | .cards _, _
  | .transaction _, _ | .transactions _, _ | .newNumber, _ => none

namespace Plan

variable {α β : Type} {stamp : Stamp} {bank changed : Bank} {wrap : α → Reply}

/-- A plan that has nothing to do after its change but to come to the answer. -/
def Concludes : Plan α → (α → Reply) → Prop
  | .done _, _ | .fail _, _ => True
  | .hold _ next, wrap => next.Concludes wrap
  | .ask q next, wrap =>
    if q.isWrite = true then
      ∀ answer, ∃ value, next answer = .done value ∧ q.reply? answer = some (wrap value)
    else ∀ answer, (next answer).Concludes wrap

variable {plan : Plan α}

theorem Concludes.of_hold {keys : List AccountId} (h : (Plan.hold keys plan).Concludes wrap) :
    plan.Concludes wrap := h

theorem Concludes.of_write {q : Query} {next : q.Answer → Plan α}
    (h : (Plan.ask q next).Concludes wrap) (hwrite : q.isWrite = true) (answer : q.Answer) :
    ∃ value, next answer = .done value ∧ q.reply? answer = some (wrap value) := by
  rw [Concludes, if_pos hwrite] at h
  exact h answer

theorem Concludes.of_read {q : Query} {next : q.Answer → Plan α}
    (h : (Plan.ask q next).Concludes wrap) (hread : q.isWrite = false) (answer : q.Answer) :
    (next answer).Concludes wrap := by
  rw [Concludes, if_neg (ne_true_of_eq_false hread)] at h
  exact h answer

theorem concludes_map {f : β → α} {plan : Plan β} (h : plan.Concludes fun value => wrap (f value)) :
    (f <$> plan).Concludes wrap := by
  show (plan.bind fun value => Plan.done (f value)).Concludes wrap
  induction plan with
  | done value => trivial
  | fail failure => trivial
  | hold keys next ih => exact ih h
  | ask q next ih =>
      rw [Plan.bind, Concludes]
      split
      · next hwrite =>
        intro answer
        obtain ⟨value, hvalue, hreply⟩ := h.of_write hwrite answer
        exact ⟨f value, by rw [hvalue]; rfl, hreply⟩
      · next hread => exact fun answer => ih answer (h.of_read (by simpa using hread) answer)

theorem concludes_ofOutcome_bind {outcome : Outcome β} {f : β → Plan α}
    (h : ∀ value, (f value).Concludes wrap) : (ofOutcome outcome >>= f).Concludes wrap := by
  cases outcome with
  | ok value => exact h value
  | error failure => trivial

theorem concludes_done (value : α) : (Plan.done value).Concludes wrap := trivial

theorem concludes_fail (failure : Failure) : (Plan.fail failure : Plan α).Concludes wrap := trivial

theorem concludes_hold {keys : List AccountId} (h : plan.Concludes wrap) :
    (Plan.hold keys plan).Concludes wrap := h

/-- A question and what follows from its answer. -/
theorem concludes_read_bind {q : Query} {f : q.Answer → Plan α} (hread : q.isWrite = false)
    (h : ∀ answer, (f answer).Concludes wrap) : (query q >>= f).Concludes wrap := by
  show (Plan.ask q f).Concludes wrap
  rw [Concludes, if_neg (ne_true_of_eq_false hread)]
  exact h

/-- A question at the end. -/
theorem concludes_read {q : Query} {wrap : q.Answer → Reply} (hread : q.isWrite = false) :
    (query q).Concludes wrap :=
  concludes_read_bind hread concludes_done

/-- The change at the end. -/
theorem concludes_write {q : Query} {wrap : q.Answer → Reply}
    (hreply : ∀ answer, q.reply? answer = some (wrap answer)) : (query q).Concludes wrap := by
  rw [query, Concludes]
  split
  · exact fun answer => ⟨answer, rfl, hreply answer⟩
  · exact concludes_done

-- From here on plans are taken apart by these lemmas alone.
attribute [irreducible] Concludes

/-! ### All ten calls -/

section

variable {identity : String} {id : AccountId}

theorem concludes_ownedAccount_bind {f : Account → Plan α}
    (h : ∀ account, (f account).Concludes wrap) :
    (ownedAccount identity id >>= f).Concludes wrap := by
  rw [ownedAccount_bind]
  exact concludes_read_bind rfl fun _ => concludes_read_bind rfl fun account =>
    concludes_ofOutcome_bind fun _ => h account

theorem concludes_transactions (filter : Filter) :
    (transactions identity filter).Concludes .transactions := by
  unfold transactions
  cases filter.account with
  | some id => exact concludes_ownedAccount_bind fun _ => concludes_read rfl
  | none =>
      exact concludes_read_bind rfl fun _ => concludes_read_bind rfl fun _ =>
        concludes_read_bind rfl fun _ => concludes_done _

theorem concludes_recording {amount : Amount} {kind : TransactionKind} (ids : List AccountId) :
    (recording amount kind ids).Concludes .transaction := by
  induction ids with
  | nil => exact concludes_write fun _ => rfl
  | cons id ids ih =>
      rw [recording_cons]
      exact concludes_read_bind rfl fun _ => concludes_ofOutcome_bind fun _ => ih

theorem concludes_moving (movement : Movement) (account : Account) :
    (moving movement account).Concludes .transaction := by
  obtain ⟨amount, order⟩ := movement
  rw [moving_eq]
  cases order with
  | deposit card => exact concludes_hold (concludes_recording _)
  | withdrawal card => exact concludes_ofOutcome_bind fun _ => concludes_hold (concludes_recording _)
  | transfer card destination =>
      refine concludes_ofOutcome_bind fun _ => concludes_read_bind rfl fun other => ?_
      unfold transferring
      by_cases hcurrency : other.currency = account.currency
      · rw [if_neg (not_not.2 hcurrency)]
        by_cases hid : other.id = account.id
        · rw [if_pos hid]
          exact concludes_fail _
        · rw [if_neg hid]
          exact concludes_hold (concludes_recording _)
      · rw [if_pos hcurrency]
        exact concludes_fail _

theorem concludes_openAccount (rules : Rules) (identity : String) (request : OpeningRequest) :
    (openAccount rules identity request).Concludes .account :=
  concludes_ofOutcome_bind fun _ => concludes_read_bind rfl fun _ => concludes_write fun _ => rfl

theorem concludes_closeAccount (identity : String) (id : AccountId) :
    (closeAccount identity id).Concludes .account :=
  concludes_ownedAccount_bind fun _ => concludes_hold (concludes_write fun _ => rfl)

theorem concludes_issueCard (identity : String) (id : AccountId) :
    (issueCard identity id).Concludes .card :=
  concludes_ownedAccount_bind fun _ => concludes_read_bind rfl fun _ => concludes_write fun _ => rfl

theorem concludes_removeCard (identity : String) (raw : String) :
    (removeCard identity raw).Concludes .card :=
  concludes_ofOutcome_bind fun _ => concludes_read_bind rfl fun _ =>
    concludes_ownedAccount_bind fun _ => concludes_write fun _ => rfl

theorem concludes_move (rules : Rules) (identity : String) (request : MovementRequest) :
    (move rules identity request).Concludes .transaction := by
  rw [move_eq]
  exact concludes_ofOutcome_bind fun movement => concludes_read_bind rfl fun _ =>
    concludes_read_bind rfl fun account => concludes_ofOutcome_bind fun _ =>
      concludes_moving movement account

theorem concludes_reverse (identity : String) (request : ReversalRequest) :
    (reverse identity request).Concludes .transaction := by
  rw [reverse_eq]
  exact concludes_ofOutcome_bind fun _ => concludes_read_bind rfl fun _ =>
    concludes_read_bind rfl fun _ => concludes_ofOutcome_bind fun _ =>
      concludes_read_bind rfl fun _ => concludes_ofOutcome_bind fun _ =>
        concludes_hold (concludes_write fun _ => rfl)

end

/-! ### Alone -/

/-- A plan that is carried out with nothing else going on changes nothing, or makes its change and
comes to the answer. -/
theorem Concludes.run_cases {plan : Plan α} (h : plan.Concludes wrap) (stamp : Stamp) (bank : Bank) :
    (plan.run stamp bank).2 = bank ∨
      ∃ (q : Query) (answer : q.Answer) (value : α), q.isWrite = true ∧
        bank.perform stamp q = (.ok answer, (plan.run stamp bank).2) ∧
          (plan.run stamp bank).1 = .ok value ∧ q.reply? answer = some (wrap value) := by
  induction plan with
  | done value => exact Or.inl rfl
  | fail failure => exact Or.inl rfl
  | hold keys next ih => exact ih h.of_hold
  | ask q next ih =>
      rcases hperform : bank.perform stamp q with ⟨outcome, after⟩
      cases outcome with
      | error failure =>
          rw [run, hperform]
          exact Or.inl (Bank.perform_error hperform)
      | ok answer =>
          rw [run, hperform]
          cases hwrite : q.isWrite with
          | true =>
              obtain ⟨value, hvalue, hreply⟩ := h.of_write hwrite answer
              simp only [hvalue, run]
              exact Or.inr ⟨q, answer, value, hwrite, hperform, rfl, hreply⟩
          | false =>
              have hsame := Bank.perform_read hwrite stamp bank
              rw [hperform] at hsame
              obtain rfl : after = bank := hsame
              exact ih answer (h.of_read hwrite answer)

/-- A plan that fails has changed nothing. -/
theorem Concludes.bank_of_error (h : plan.Concludes wrap) {failure : Failure}
    (hrun : plan.run stamp bank = (.error failure, changed)) : changed = bank := by
  rcases h.run_cases stamp bank with hsame | ⟨q, answer, value, -, -, hvalue, -⟩
  · rwa [hrun] at hsame
  · rw [hrun] at hvalue
    cases hvalue

end Plan

/-- **Every call ends with its change, and comes to what the change comes to.** -/
theorem Call.concludes_plan (call : Call) (rules : Rules) (identity : String) :
    (call.plan rules identity).Concludes id := by
  cases call with
  | openAccount request => exact Plan.concludes_map (Plan.concludes_openAccount rules identity request)
  | closeAccount id => exact Plan.concludes_map (Plan.concludes_closeAccount identity id)
  | issueCard id => exact Plan.concludes_map (Plan.concludes_issueCard identity id)
  | removeCard number => exact Plan.concludes_map (Plan.concludes_removeCard identity number)
  | accounts =>
      exact Plan.concludes_map (Plan.concludes_read_bind rfl fun _ => Plan.concludes_read rfl)
  | account id =>
      exact Plan.concludes_map (Plan.concludes_read_bind rfl fun _ =>
        Plan.concludes_read_bind rfl fun account =>
          Plan.concludes_ofOutcome_bind fun _ => Plan.concludes_done account)
  | cards id =>
      exact Plan.concludes_map (Plan.concludes_ownedAccount_bind fun _ => Plan.concludes_read rfl)
  | transactions filter => exact Plan.concludes_map (Plan.concludes_transactions filter)
  | move request => exact Plan.concludes_map (Plan.concludes_move rules identity request)
  | reverse request => exact Plan.concludes_map (Plan.concludes_reverse identity request)

end Cashbook
