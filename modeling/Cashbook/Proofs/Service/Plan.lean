/-
How plans come to a value.

A question leaves the bank as it is, and so does a change that fails; a change that
succeeds has the effect that the ledger's own account of it says.  For the rest, a plan
is taken apart from the front: it comes to a value if its first step does, and what is
left of it comes to that value on what the step leaves.
-/
import Cashbook.Proofs.Ledger.Later
import Cashbook.Service.Call

namespace Cashbook

variable {bank changed : Bank} {stamp : Stamp}

/-! ### Questions and changes -/

namespace Query

/-- The change of the ledger that a query asks for. -/
def change? (stamp : Stamp) : Query → Option Change
  | .openAccount holder name currency =>
    some (.createAccount (.opened stamp.account holder name currency stamp.time))
  | .deleteAccount id => some (.deleteAccount id)
  | .addCard number id => some (.createCard ⟨number, id, stamp.time⟩)
  | .deleteCard number => some (.deleteCard number)
  | .record amount kind => some (.record ⟨stamp.transaction, amount, kind, false, stamp.time⟩)
  | .reverse id => some (.rollbackTransfer id)
  | .owner _ | .account _ | .accountOfCard _ | .accounts _ | .card _ | .cards _ | .transaction _
  | .transactions _ | .newNumber => none

theorem exists_change_of_isWrite {q : Query} (h : q.isWrite = true) (stamp : Stamp) :
    ∃ change, q.change? stamp = some change := by
  cases q with
  | openAccount _ _ _ | deleteAccount _ | addCard _ _ | deleteCard _ | record _ _ | reverse _ =>
      exact ⟨_, rfl⟩
  | owner _ | account _ | accountOfCard _ | accounts _ | card _ | cards _ | transaction _
  | transactions _ | newNumber => cases h

/-- An account that is opened gets the identifier on the stamp. -/
theorem id_of_opening {q : Query} {change : Change} {row : Account}
    (h : q.change? stamp = some change) (hopen : change.opening? = some row) :
    row.id = stamp.account := by
  cases q <;> cases h <;> cases hopen
  rfl

/-- A transaction that is recorded gets the identifier on the stamp. -/
theorem id_of_record {q : Query} {tx : Transaction} (h : q.change? stamp = some (.record tx)) :
    tx.id = stamp.transaction := by
  cases q <;> cases h
  rfl

/-- Only the revocation of a card asks for a card to be removed. -/
theorem change?_ne_deleteCard {q : Query} {change : Change} (h : q.change? stamp = some change)
    (hrevoke : ∀ number, q ≠ .deleteCard number) (number : CardNumber) :
    change ≠ .deleteCard number := by
  intro h
  subst h
  cases q <;> cases h
  exact hrevoke number rfl

end Query

namespace Bank

theorem change_ok_iff {α : Type} {f : Ledger → Outcome α × Ledger} {value : α} :
    bank.change f = (.ok value, changed) ↔
      f bank.ledger = (.ok value, changed.ledger) ∧ changed.registry = bank.registry := by
  rcases changed with ⟨ledger, registry⟩
  rcases hf : f bank.ledger with ⟨outcome, after⟩
  simp only [change, hf, Prod.mk.injEq, mk.injEq]
  constructor
  · intro h
    obtain ⟨rfl, rfl, rfl⟩ := h
    exact ⟨⟨rfl, rfl⟩, rfl⟩
  · intro h
    obtain ⟨⟨rfl, rfl⟩, rfl⟩ := h
    exact ⟨rfl, rfl, rfl⟩

/-- A question leaves the bank as it is. -/
theorem perform_read {q : Query} (h : q.isWrite = false) (stamp : Stamp) (bank : Bank) :
    (bank.perform stamp q).2 = bank := by
  cases q with
  | owner _ | account _ | accountOfCard _ | accounts _ | card _ | cards _ | transaction _
  | transactions _ | newNumber => rfl
  | openAccount _ _ _ | deleteAccount _ | addCard _ _ | deleteCard _ | record _ _ | reverse _ =>
      cases h

/-- A change of the ledger that fails leaves the bank as it is. -/
private theorem change_error {α : Type} {f : Ledger → Outcome α × Ledger}
    (hf : ∀ ledger failure changed, f ledger = (.error failure, changed) → changed = ledger)
    {failure : Failure} (h : bank.change f = (.error failure, changed)) : changed = bank := by
  rcases hr : f bank.ledger with ⟨outcome, after⟩
  simp only [change, hr, Prod.mk.injEq] at h
  obtain ⟨rfl, rfl⟩ := h
  rw [hf _ _ _ hr]

/-- Whatever fails leaves the bank as it is. -/
theorem perform_error {q : Query} {failure : Failure}
    (h : bank.perform stamp q = (.error failure, changed)) : changed = bank := by
  cases q with
  | openAccount _ _ _ | deleteAccount _ | addCard _ _ | deleteCard _ | record _ _ | reverse _ =>
      exact change_error (fun _ _ _ hf => Ledger.execute_error hf) h
  | owner _ | account _ | accountOfCard _ | accounts _ | card _ | cards _ | transaction _
  | transactions _ | newNumber => exact (Prod.mk.inj h).2.symm

private theorem settled_of_change {α : Type} (f : Ledger → Outcome α × Ledger) {value : α}
    (h : bank.change f = (.ok value, changed)) :
    Ledger.settled (f bank.ledger) = (.ok (), changed.ledger) ∧
      changed.registry = bank.registry := by
  obtain ⟨hf, hregistry⟩ := change_ok_iff.1 h
  exact ⟨Ledger.settled_ok_iff.2 ⟨value, hf⟩, hregistry⟩

/-- A change that succeeds has its effect on the ledger, and none on the callers. -/
theorem perform_effect {q : Query} {change : Change} {answer : q.Answer}
    (hfiled : bank.ledger.CardsFiled) (hq : q.change? stamp = some change)
    (h : bank.perform stamp q = (.ok answer, changed)) :
    change.Effect bank.ledger changed.ledger ∧ changed.registry = bank.registry := by
  rw [← Change.carryOut_ok_iff hfiled]
  cases q with
  | openAccount owner name currency =>
      cases hq
      exact settled_of_change
        (Ledger.createAccount (.opened stamp.account owner name currency stamp.time)) h
  | deleteAccount id =>
      cases hq
      exact settled_of_change (Ledger.deleteAccount id) h
  | addCard number account =>
      cases hq
      exact settled_of_change (Ledger.createCard ⟨number, account, stamp.time⟩) h
  | deleteCard number =>
      cases hq
      exact settled_of_change (Ledger.deleteCard number) h
  | record amount kind =>
      cases hq
      exact settled_of_change (Ledger.record ⟨stamp.transaction, amount, kind, false, stamp.time⟩) h
  | reverse id =>
      cases hq
      exact settled_of_change (Ledger.rollbackTransfer id) h
  | owner _ | account _ | accountOfCard _ | accounts _ | card _ | cards _ | transaction _
  | transactions _ | newNumber => cases hq

/-- Behind every query that may change something there is a change, and this is what it does. -/
theorem exists_effect {q : Query} {answer : q.Answer} (hfiled : bank.ledger.CardsFiled)
    (hwrite : q.isWrite = true) (h : bank.perform stamp q = (.ok answer, changed)) :
    ∃ change, q.change? stamp = some change ∧ change.Effect bank.ledger changed.ledger ∧
      changed.registry = bank.registry := by
  obtain ⟨change, hchange⟩ := Query.exists_change_of_isWrite hwrite stamp
  exact ⟨change, hchange, perform_effect hfiled hchange h⟩

end Bank

/-! ### One step after another -/

namespace Plan

variable {α β : Type}

theorem bind_assoc {γ : Type} (plan : Plan α) (f : α → Plan β) (g : β → Plan γ) :
    plan >>= f >>= g = plan >>= fun value => f value >>= g := by
  show (plan.bind f).bind g = plan.bind fun value => (f value).bind g
  induction plan with
  | done value => rfl
  | fail failure => rfl
  | ask q next ih => exact congrArg (Plan.ask q) (funext fun answer => ih answer)
  | hold keys next ih => exact congrArg (Plan.hold keys) ih

theorem run_bind (plan : Plan α) (f : α → Plan β) (bank : Bank) :
    (plan >>= f).run stamp bank =
      match plan.run stamp bank with
      | (.ok value, between) => (f value).run stamp between
      | (.error failure, between) => (.error failure, between) := by
  show (plan.bind f).run stamp bank = _
  induction plan generalizing bank with
  | done value => rfl
  | fail failure => rfl
  | ask q next ih =>
      rw [Plan.bind, run, run]
      rcases bank.perform stamp q with ⟨outcome, between⟩
      cases outcome with
      | ok answer => exact ih answer between
      | error failure => rfl
  | hold keys next ih => exact ih bank

/-- Two plans succeed if the first does, and the second does on what the first leaves. -/
theorem run_bind_ok_iff {plan : Plan α} {f : α → Plan β} {result : β} :
    (plan >>= f).run stamp bank = (.ok result, changed) ↔
      ∃ value between, plan.run stamp bank = (.ok value, between) ∧
        (f value).run stamp between = (.ok result, changed) := by
  rw [run_bind]
  rcases plan.run stamp bank with ⟨outcome, between⟩
  cases outcome <;> simp

theorem run_map_ok_iff {f : α → β} {plan : Plan α} {result : β} :
    (f <$> plan).run stamp bank = (.ok result, changed) ↔
      ∃ value, plan.run stamp bank = (.ok value, changed) ∧ f value = result := by
  show (plan >>= fun value => Plan.done (f value)).run stamp bank = _ ↔ _
  rw [run_bind_ok_iff]
  constructor
  · intro h
    obtain ⟨value, between, hrun, hdone⟩ := h
    obtain ⟨hvalue, rfl⟩ := Prod.mk.inj hdone
    exact ⟨value, hrun, Except.ok.inj hvalue⟩
  · intro h
    obtain ⟨value, hrun, rfl⟩ := h
    exact ⟨value, changed, hrun, rfl⟩

/-- A step that has been worked out already. -/
theorem run_ofOutcome_bind_ok_iff {outcome : Outcome α} {f : α → Plan β} {result : β} :
    (ofOutcome outcome >>= f).run stamp bank = (.ok result, changed) ↔
      ∃ value, outcome = .ok value ∧ (f value).run stamp bank = (.ok result, changed) := by
  cases outcome with
  | ok value =>
      show (f value).run stamp bank = _ ↔ _
      simp
  | error failure =>
      show (Except.error failure, bank) = (Except.ok result, changed) ↔ _
      simp

theorem run_query_ok_iff {q : Query} {answer : q.Answer} :
    (query q).run stamp bank = (.ok answer, changed) ↔
      bank.perform stamp q = (.ok answer, changed) := by
  rw [query, run]
  rcases bank.perform stamp q with ⟨outcome, between⟩
  cases outcome <;> simp [run]

/-- A question and what follows from its answer. -/
theorem run_read_bind_ok_iff {q : Query} (hread : q.isWrite = false) {f : q.Answer → Plan β}
    {result : β} :
    (query q >>= f).run stamp bank = (.ok result, changed) ↔
      ∃ answer, (bank.perform stamp q).1 = .ok answer ∧
        (f answer).run stamp bank = (.ok result, changed) := by
  have hsame := Bank.perform_read hread stamp bank
  simp only [run_bind_ok_iff, run_query_ok_iff]
  constructor
  · intro h
    obtain ⟨answer, between, hperform, hrest⟩ := h
    rw [hperform] at hsame
    subst hsame
    exact ⟨answer, by rw [hperform], hrest⟩
  · intro h
    obtain ⟨answer, hanswer, hrest⟩ := h
    exact ⟨answer, bank, Prod.ext hanswer hsame, hrest⟩

/-- What is asked before anything is done with an account of the caller. -/
theorem ownedAccount_bind (identity : String) (id : AccountId) (f : Account → Plan β) :
    ownedAccount identity id >>= f =
      query (.owner identity) >>= fun owner =>
        query (.account id) >>= fun account =>
          ofOutcome (account.ensureOwnedBy owner) >>= fun _ => f account := by
  simp only [ownedAccount, bind_assoc]
  rfl

/-! ### Plans that only look -/

/-- The plan neither changes anything nor takes anything from its stamp. -/
def OnlyLooks : Plan α → Prop
  | .done _ | .fail _ => True
  | .ask q next => q.isWrite = false ∧ q.usesStamp = false ∧ ∀ answer, (next answer).OnlyLooks
  | .hold _ next => next.OnlyLooks

theorem OnlyLooks.bank_eq {plan : Plan α} (h : plan.OnlyLooks) (stamp : Stamp) (bank : Bank) :
    (plan.run stamp bank).2 = bank := by
  induction plan generalizing bank with
  | done value => rfl
  | fail failure => rfl
  | hold keys next ih => exact ih h bank
  | ask q next ih =>
      obtain ⟨hread, -, hnext⟩ := h
      have hsame := Bank.perform_read hread stamp bank
      rw [run]
      rcases hperform : bank.perform stamp q with ⟨outcome, between⟩
      rw [hperform] at hsame
      obtain rfl : between = bank := hsame
      cases outcome with
      | ok answer => exact ih answer (hnext answer) between
      | error failure => rfl

theorem OnlyLooks.spends_eq {plan : Plan α} (h : plan.OnlyLooks) (stamp : Stamp) (bank : Bank) :
    plan.spends stamp bank = false := by
  induction plan generalizing bank with
  | done value => rfl
  | fail failure => rfl
  | hold keys next ih => exact ih h bank
  | ask q next ih =>
      obtain ⟨-, hkeeps, hnext⟩ := h
      rw [spends, hkeeps, Bool.false_or]
      rcases bank.perform stamp q with ⟨outcome, between⟩
      cases outcome with
      | ok answer => exact ih answer (hnext answer) between
      | error failure => rfl

theorem onlyLooks_ofOutcome_bind {outcome : Outcome α} {f : α → Plan β}
    (h : ∀ value, (f value).OnlyLooks) : (ofOutcome outcome >>= f).OnlyLooks := by
  cases outcome with
  | ok value => exact h value
  | error failure => trivial

theorem onlyLooks_read {q : Query} (hread : q.isWrite = false) (hkeeps : q.usesStamp = false) :
    (query q).OnlyLooks :=
  ⟨hread, hkeeps, fun _ => trivial⟩

theorem onlyLooks_read_bind {q : Query} (hread : q.isWrite = false) (hkeeps : q.usesStamp = false)
    {f : q.Answer → Plan β} (h : ∀ answer, (f answer).OnlyLooks) : (query q >>= f).OnlyLooks :=
  ⟨hread, hkeeps, h⟩

theorem onlyLooks_accounts (identity : String) : (accounts identity).OnlyLooks :=
  onlyLooks_read_bind rfl rfl fun _ => onlyLooks_read rfl rfl

theorem onlyLooks_cards (identity : String) (id : AccountId) : (cards identity id).OnlyLooks := by
  rw [cards, ownedAccount_bind]
  exact onlyLooks_read_bind rfl rfl fun _ => onlyLooks_read_bind rfl rfl fun _ =>
    onlyLooks_ofOutcome_bind fun _ => onlyLooks_read rfl rfl

/-! ### Plans that take from their stamp -/

/-- The plan does not come to a value without taking something from its stamp. -/
def Draws : Plan α → Prop
  | .done _ => False
  | .fail _ => True
  | .ask q next => q.usesStamp = true ∨ ∀ answer, (next answer).Draws
  | .hold _ next => next.Draws

theorem Draws.spends_eq {plan : Plan α} (h : plan.Draws) {value : α}
    (hrun : plan.run stamp bank = (.ok value, changed)) : plan.spends stamp bank = true := by
  induction plan generalizing bank with
  | done value => exact h.elim
  | fail failure => cases (Prod.mk.inj hrun).1
  | hold keys next ih => exact ih h hrun
  | ask q next ih =>
      rw [spends, Bool.or_eq_true]
      refine h.imp_right ?_
      intro hnext
      rw [run] at hrun
      rcases hperform : bank.perform stamp q with ⟨outcome, between⟩
      rw [hperform] at hrun
      cases outcome with
      | ok answer => exact ih answer (hnext answer) hrun
      | error failure => cases (Prod.mk.inj hrun).1

theorem draws_query {q : Query} (h : q.usesStamp = true) : (query q).Draws := Or.inl h

/-- What comes last may do the taking. -/
theorem draws_bind {plan : Plan α} {f : α → Plan β} (h : ∀ value, (f value).Draws) :
    (plan >>= f).Draws := by
  show (plan.bind f).Draws
  induction plan with
  | done value => exact h value
  | fail failure => trivial
  | ask q next ih => exact Or.inr fun answer => ih answer
  | hold keys next ih => exact ih

theorem draws_openAccount (rules : Rules) (identity : String) (request : OpeningRequest) :
    (openAccount rules identity request).Draws :=
  draws_bind fun _ => draws_bind fun _ => draws_query rfl

theorem draws_issueCard (identity : String) (id : AccountId) : (issueCard identity id).Draws :=
  draws_bind fun _ => draws_bind fun _ => draws_query rfl

theorem draws_move (rules : Rules) (identity : String) (request : MovementRequest) :
    (move rules identity request).Draws :=
  draws_bind fun _ => draws_bind fun _ => draws_bind fun _ => draws_bind fun _ => draws_bind fun _ =>
    draws_bind fun _ => draws_bind fun _ => draws_query rfl

end Plan

end Cashbook
