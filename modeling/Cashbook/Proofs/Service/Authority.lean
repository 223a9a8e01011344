/-
Whose rows a call may change.

Every call finds out who its caller is, and every call that changes something finds out,
each on a way of its own, that the caller owns the account that it acts for: the account
itself, the account of a card, the account at which a transfer began.  Whatever it is
asked for, by whomever and with whatever arguments, all that a call does to the rows of
others is to pay in to them by a transfer from an account of the caller, and to take back
what such a transfer paid.

One lemma a call says which change it made and that the caller is entitled to it
(`Call.served`); what that means for the rows of others is known of the change.
-/
import Cashbook.Proofs.Service.Conclusion
import Cashbook.Proofs.Service.Success

namespace Cashbook

/-- Whether a call is one that moves money. -/
def Call.MovesMoney : Call → Prop
  | .move _ | .reverse _ => True
  | .openAccount _ | .closeAccount _ | .issueCard _ | .removeCard _ | .accounts | .account _
  | .cards _ | .transactions _ => False

/-- Whether a change is one that the call may have come to when this was the reply. -/
def Call.Makes (call : Call) (reply : Reply) : Change → Prop
  | .record tx => (∃ request, call = .move request) ∧ reply = .transaction tx
  | .rollbackTransfer key => ∃ request, call = .reverse request ∧ Rules.reversal request = .ok key
  | .createAccount _ | .deleteAccount _ | .createCard _ | .deleteCard _ => ¬call.MovesMoney

/-- The call has moved an amount by a transfer. -/
def Call.Transfers (call : Call) (outcome : Outcome Reply) (amount : Amount)
    (source destination : AccountId) : Prop :=
  ∃ request tx, call = .move request ∧ outcome = .ok (.transaction tx) ∧
    tx.kind = .transfer source destination ∧ tx.amount = amount

/-- The call has moved the amount of a transfer back. -/
def Call.TakesBack (call : Call) (outcome : Outcome Reply) (before : Ledger) (amount : Amount)
    (source destination : AccountId) : Prop :=
  ∃ request key tx reply, call = .reverse request ∧ Rules.reversal request = .ok key ∧
    outcome = .ok reply ∧ before.transactions[key]? = some tx ∧
      tx.kind = .transfer source destination ∧ tx.amount = amount

/-- What a call does to rows that are not its caller's. -/
structure Call.Spares (call : Call) (outcome : Outcome Reply) (owner : OwnerId)
    (before after : Ledger) : Prop where
  /-- An account of another stays as it is unless a transfer reaches it or is taken back from it. -/
  kept : ∀ (id : AccountId) (row : Account), before.accounts[id]? = some row → row.owner ≠ owner →
    (∀ amount source, ¬call.Transfers outcome amount source id) →
      (∀ amount source, ¬call.TakesBack outcome before amount source id) →
        after.accounts[id]? = some row
  /-- A transfer comes from an account of the caller, and credits its destination. -/
  credited : ∀ amount source destination, call.Transfers outcome amount source destination →
    before.Owns owner source ∧ CreditedAt amount before.accounts after.accounts destination
  /-- A transfer that is taken back came from an account of the caller, and debits its destination. -/
  debited : ∀ amount source destination,
    call.TakesBack outcome before amount source destination → before.Owns owner source ∧
      (source ≠ destination → DebitedAt amount before.accounts after.accounts destination)
  /-- No account is opened for another. -/
  unopened : ∀ (id : AccountId) (new : Account), after.accounts[id]? = some new →
    new.owner ≠ owner → ∃ row, before.accounts[id]? = some row
  /-- The cards of such accounts are those that they were. -/
  cards : ∀ (number : CardNumber) (card : Card),
    (after.cards[number]? = some card ∧ ¬after.Owns owner card.account) ↔
      before.cards[number]? = some card ∧ ¬before.Owns owner card.account

variable {stamp : Stamp} {bank changed : Bank} {identity : String} {owner : OwnerId}

/-! ### What each call does -/

namespace Plan

/-- Where a plan ends with a question, nothing has changed. -/
theorem bank_of_run_read {q : Query} {answer : q.Answer} (hread : q.isWrite = false)
    (h : (query q).run stamp bank = (.ok answer, changed)) : changed = bank := by
  have hsame := Bank.perform_read hread stamp bank
  rw [run_query_ok_iff.1 h] at hsame
  exact hsame

theorem bank_of_run_transactions {filter : Filter} {rows : List Transaction}
    (h : (transactions identity filter).run stamp bank = (.ok rows, changed)) :
    ∃ owner, bank.registry.resolve identity = .ok owner ∧ changed = bank := by
  unfold transactions at h
  cases hfilter : filter.account with
  | some id =>
      rw [hfilter] at h
      obtain ⟨owner, account, howner, -, -, h⟩ := run_ownedAccount_bind_ok_iff.1 h
      exact ⟨owner, howner, bank_of_run_read (q := .transactions filter) rfl h⟩
  | none =>
      rw [hfilter] at h
      obtain ⟨owner, howner, h⟩ := (run_read_bind_ok_iff rfl).1 h
      obtain ⟨owned, -, h⟩ := (run_read_bind_ok_iff rfl).1 h
      obtain ⟨all, -, h⟩ := (run_read_bind_ok_iff rfl).1 h
      exact ⟨owner, howner, (Prod.mk.inj h).2.symm⟩

end Plan

/-- **A call that succeeds has made no change, or one that its caller is entitled to.** -/
theorem Call.served {rules : Rules} {call : Call} {reply : Reply} (horder : bank.ledger.InOrder)
    (h : (call.plan rules identity).run stamp bank = (.ok reply, changed)) :
    (∃ owner, bank.registry.resolve identity = .ok owner ∧ changed = bank ∧ ¬call.MovesMoney) ∨
      ∃ change, bank.Serves changed identity change ∧ call.Makes reply change := by
  cases call with
  | openAccount request =>
      obtain ⟨row, h, -⟩ := Plan.run_map_ok_iff.1 h
      obtain ⟨opening, -, -, hserves⟩ := Plan.openAccount_ok_iff.1 h
      exact Or.inr ⟨_, hserves, id⟩
  | closeAccount id =>
      obtain ⟨row, h, -⟩ := Plan.run_map_ok_iff.1 h
      exact Or.inr ⟨_, (Plan.closeAccount_ok_iff horder).1 ⟨row, h⟩, nofun⟩
  | issueCard id =>
      obtain ⟨card, h, -⟩ := Plan.run_map_ok_iff.1 h
      exact Or.inr ⟨_, (Plan.issueCard_ok_iff.1 h).2, nofun⟩
  | removeCard raw =>
      obtain ⟨card, h, -⟩ := Plan.run_map_ok_iff.1 h
      obtain ⟨number, -, -, hserves⟩ := Plan.removeCard_ok_iff.1 h
      exact Or.inr ⟨_, hserves, nofun⟩
  | move request =>
      obtain ⟨tx, hmove, rfl⟩ := Plan.run_map_ok_iff.1 h
      obtain ⟨movement, account, -, -, -, -, hserves⟩ := (Plan.move_ok_iff horder).1 hmove
      exact Or.inr ⟨_, hserves, ⟨request, rfl⟩, rfl⟩
  | reverse request =>
      obtain ⟨tx, h, -⟩ := Plan.run_map_ok_iff.1 h
      obtain ⟨key, hkey, hserves⟩ := Plan.reverse_ok_iff.1 ⟨tx, h⟩
      exact Or.inr ⟨_, hserves, request, rfl, hkey⟩
  | accounts =>
      obtain ⟨rows, h, -⟩ := Plan.run_map_ok_iff.1 h
      obtain ⟨owner, howner, h⟩ := (Plan.run_read_bind_ok_iff rfl).1 h
      exact Or.inl ⟨owner, howner, Plan.bank_of_run_read (q := .accounts owner) rfl h, nofun⟩
  | account id =>
      obtain ⟨row, h, -⟩ := Plan.run_map_ok_iff.1 h
      obtain ⟨owner, howner, h⟩ := (Plan.run_read_bind_ok_iff rfl).1 h
      obtain ⟨account, -, h⟩ := (Plan.run_read_bind_ok_iff rfl).1 h
      obtain ⟨⟨⟩, -, h⟩ := Plan.run_ofOutcome_bind_ok_iff.1 h
      exact Or.inl ⟨owner, howner, (Prod.mk.inj h).2.symm, nofun⟩
  | cards id =>
      obtain ⟨rows, h, -⟩ := Plan.run_map_ok_iff.1 h
      obtain ⟨owner, account, howner, -, -, h⟩ := Plan.run_ownedAccount_bind_ok_iff.1 h
      exact Or.inl ⟨owner, howner, Plan.bank_of_run_read (q := .cards id) rfl h, nofun⟩
  | transactions filter =>
      obtain ⟨rows, h, -⟩ := Plan.run_map_ok_iff.1 h
      obtain ⟨owner, howner, hsame⟩ := Plan.bank_of_run_transactions h
      exact Or.inl ⟨owner, howner, hsame, nofun⟩

/-! ### What others are spared -/

namespace Call

variable {call : Call} {outcome : Outcome Reply} {reply : Reply} {before after : Ledger}
  {change : Change}

theorem Transfers.movesMoney {amount : Amount} {source destination : AccountId}
    (h : call.Transfers outcome amount source destination) :
    call.MovesMoney ∧ ∃ reply, outcome = .ok reply := by
  obtain ⟨request, tx, rfl, hreply, -⟩ := h
  exact ⟨trivial, _, hreply⟩

theorem TakesBack.movesMoney {amount : Amount} {source destination : AccountId}
    (h : call.TakesBack outcome before amount source destination) :
    call.MovesMoney ∧ ∃ reply, outcome = .ok reply := by
  obtain ⟨request, key, tx, reply, rfl, -, hreply, -⟩ := h
  exact ⟨trivial, reply, hreply⟩

/-- A call that has changed nothing, and has moved no money either, spares everybody. -/
theorem spares_same (ledger : Ledger) (h : ∀ reply, outcome = .ok reply → ¬call.MovesMoney) :
    call.Spares outcome owner ledger ledger where
  kept _ _ hrow _ _ _ := hrow
  credited _ _ _ htransfers := by
    obtain ⟨hmoves, reply, hreply⟩ := htransfers.movesMoney
    exact absurd hmoves (h reply hreply)
  debited _ _ _ htakes := by
    obtain ⟨hmoves, reply, hreply⟩ := htakes.movesMoney
    exact absurd hmoves (h reply hreply)
  unopened _ new hnew _ := ⟨new, hnew⟩
  cards _ _ := Iff.rfl

/-- A call that moves money comes to a change that does. -/
theorem Makes.movesMoney (h : call.Makes reply change) : change.MovesMoney ↔ call.MovesMoney := by
  cases change with
  | record tx =>
      obtain ⟨⟨request, rfl⟩, -⟩ := h
      exact Iff.rfl
  | rollbackTransfer key =>
      obtain ⟨request, rfl, -⟩ := h
      exact Iff.rfl
  | createAccount _ | deleteAccount _ | createCard _ | deleteCard _ =>
      exact iff_of_false (fun hmoves => hmoves) h

/-- **A change that the caller is entitled to spares all others.** -/
theorem spares_of_effect (horder : before.InOrder) (hmakes : call.Makes reply change)
    (hentitled : change.Entitled owner before) (he : change.Effect before after) :
    call.Spares (.ok reply) owner before after where
  kept id row hrow hforeign htransfers htakes := by
    refine he.account_kept hrow fun htouches => ?_
    rcases hentitled.far_of_touches (Ledger.not_owns hrow hforeign) htouches with
      ⟨tx, source, rfl, hkind⟩ | ⟨key, tx, source, rfl, htx, hkind⟩
    · obtain ⟨⟨request, rfl⟩, rfl⟩ := hmakes
      exact htransfers tx.amount source ⟨request, tx, rfl, rfl, hkind, rfl⟩
    · obtain ⟨request, rfl, hkey⟩ := hmakes
      exact htakes tx.amount source ⟨request, key, tx, reply, rfl, hkey, rfl, htx, hkind, rfl⟩
  credited amount source destination h := by
    have hmoves := hmakes.movesMoney.2 h.movesMoney.1
    obtain ⟨request, tx, rfl, hreply, hkind, rfl⟩ := h
    cases change with
    | record recorded =>
        obtain ⟨-, rfl⟩ := hmakes
        obtain rfl := Reply.transaction.inj (Except.ok.inj hreply)
        have howns : before.Owns owner recorded.kind.party := hentitled
        rw [hkind] at howns
        exact ⟨howns, he.credited hkind⟩
    | rollbackTransfer key =>
        obtain ⟨other, hother, -⟩ := hmakes
        cases hother
    | createAccount _ | deleteAccount _ | createCard _ | deleteCard _ => cases hmoves
  debited amount source destination h := by
    have hmoves := hmakes.movesMoney.2 h.movesMoney.1
    obtain ⟨request, key, tx, _, rfl, hkey, -, htx, hkind, rfl⟩ := h
    cases change with
    | record recorded =>
        obtain ⟨⟨other, hother⟩, -⟩ := hmakes
        cases hother
    | rollbackTransfer other =>
        obtain ⟨_, hcall, hother⟩ := hmakes
        obtain rfl := Call.reverse.inj hcall
        obtain rfl := Except.ok.inj (hkey.symm.trans hother)
        obtain ⟨same, payer, payee, hsame, hends, howns⟩ := hentitled
        obtain rfl := Option.some.inj (htx.symm.trans hsame)
        obtain ⟨rfl, rfl⟩ := TransactionKind.transfer.inj (hkind.symm.trans hends)
        exact ⟨howns, he.debited htx hkind⟩
    | createAccount _ | deleteAccount _ | createCard _ | deleteCard _ => cases hmoves
  unopened id new hnew hforeign := by
    obtain ⟨row, hrow, -⟩ := he.account_was hentitled hnew hforeign
    exact ⟨row, hrow⟩
  cards := he.card_iff hentitled horder

/--
**No call reaches beyond what its caller owns.**  On a bank in order, alone, and with any
arguments: whoever is not registered is refused, and nothing changes.  Whoever is leaves
the accounts of others and their cards as they are, except that a transfer from an account
of theirs credits its destination, and that a transfer from an account of theirs that is
rolled back debits it.  No call changes anything about an account but its balance, and
only calls that move money change balances.
-/
theorem authority (rules : Rules) (identity : String) (call : Call) (stamp : Stamp) (bank : Bank)
    (horder : bank.ledger.InOrder) :
    let (outcome, changed) := (call.plan rules identity).run stamp bank
    changed.registry = bank.registry ∧
    (∀ stranger, bank.registry.resolve identity = .error stranger →
      (∃ failure, outcome = .error failure) ∧ changed = bank) ∧
    (∀ owner, bank.registry.resolve identity = .ok owner →
      call.Spares outcome owner bank.ledger changed.ledger) ∧
    ∀ (id : AccountId) (row new : Account), bank.ledger.accounts[id]? = some row →
      changed.ledger.accounts[id]? = some new →
        new.frame = row.frame ∧ (¬call.MovesMoney → new = row) := by
  rcases hrun : (call.plan rules identity).run stamp bank with ⟨outcome, changed⟩
  cases outcome with
  | error failure =>
      have hsame : changed = bank := by
        rcases (call.concludes_plan rules identity).run_cases stamp bank with
          hsame | ⟨q, answer, value, -, -, hvalue, -⟩
        · rwa [hrun] at hsame
        · rw [hrun] at hvalue
          cases hvalue
      subst hsame
      refine ⟨rfl, fun _ _ => ⟨⟨failure, rfl⟩, rfl⟩, fun owner _ => spares_same _ nofun, ?_⟩
      intro id row new hrow hnew
      obtain rfl := Option.some.inj (hrow.symm.trans hnew)
      exact ⟨rfl, fun _ => rfl⟩
  | ok reply =>
      rcases Call.served horder hrun with
        ⟨owner, howner, rfl, hmoves⟩ | ⟨change, ⟨owner, howner, hentitled, he, hregistry⟩, hmakes⟩
      · refine ⟨rfl, ?_, fun _ _ => spares_same _ fun _ _ => hmoves, ?_⟩
        · intro stranger hstranger
          rw [howner] at hstranger
          cases hstranger
        · intro id row new hrow hnew
          obtain rfl := Option.some.inj (hrow.symm.trans hnew)
          exact ⟨rfl, fun _ => rfl⟩
      · refine ⟨hregistry, ?_, ?_, ?_⟩
        · intro stranger hstranger
          rw [howner] at hstranger
          cases hstranger
        · intro other hother
          obtain rfl := Except.ok.inj (howner.symm.trans hother)
          exact spares_of_effect horder hmakes hentitled he
        · intro id row new hrow hnew
          exact ⟨he.frame_eq hrow hnew, fun hstill =>
            he.balance_kept (fun hmoves => hstill (hmakes.movesMoney.1 hmoves)) hrow hnew⟩

end Call

/-! ### A transfer to a neighbour -/

namespace Sample

/-- Two accounts of different owners with a card each, and money on one of them. -/
def neighbours : List Change :=
  [ .createAccount (account alice),
    .createAccount { account bob with owner := ⟨.ofNat 8⟩ },
    .createCard ⟨.ofSerial 1, alice, .ofMillis 0⟩,
    .createCard ⟨.ofSerial 2, bob, .ofMillis 0⟩,
    .record (transaction 1 (.deposit alice)) ]

/-- A bank with one caller, who owns one of the accounts. -/
def street : Bank :=
  ⟨Ledger.after neighbours .empty, ⟨(∅ : Table String OwnerId).insert "alice" ⟨.ofNat 7⟩⟩⟩

end Sample

/-- The neighbour is paid, and cannot be closed. -/
theorem Call.authority_sample :
    let amount := (Sample.transaction 1 (.deposit Sample.alice)).amount
    let paid := ((Call.move (.transfer amount.value (.ofSerial 1) (.ofSerial 2))).plan
      ⟨.zero, 2, 64⟩ "alice").run (.series 100 0) Sample.street
    let refused := ((Call.closeAccount Sample.bob).plan ⟨.zero, 2, 64⟩ "alice").run (.series 100 1)
      Sample.street
    Sample.street.ledger.Owns ⟨.ofNat 7⟩ Sample.alice ∧
      CreditedAt amount Sample.street.ledger.accounts paid.2.ledger.accounts Sample.bob ∧
        refused.2.ledger.accounts[Sample.bob]? =
          some { Sample.account Sample.bob with owner := ⟨.ofNat 8⟩ } := by
  intro amount paid refused
  have horder : Sample.street.ledger.InOrder := (Ledger.inOrder_and_transfersDistinct_after
    Sample.neighbours Ledger.wellFormed_empty.toInOrder Ledger.wellFormed_empty.transfersDistinct).1
  have howner : Sample.street.registry.resolve "alice" = .ok ⟨.ofNat 7⟩ := by decide +kernel
  obtain ⟨-, -, hpaid, -⟩ := Call.authority ⟨.zero, 2, 64⟩ "alice"
    (.move (.transfer amount.value (.ofSerial 1) (.ofSerial 2))) (.series 100 0) Sample.street horder
  obtain ⟨-, -, hrefused, -⟩ := Call.authority ⟨.zero, 2, 64⟩ "alice" (.closeAccount Sample.bob)
    (.series 100 1) Sample.street horder
  have htransfers : Call.Transfers (.move (.transfer amount.value (.ofSerial 1) (.ofSerial 2))) paid.1
      amount Sample.alice Sample.bob :=
    ⟨_, ⟨(Stamp.series 100 0).transaction, amount, .transfer Sample.alice Sample.bob, false, .ofMillis 0⟩,
      rfl, ok_of_toOption (by decide +kernel), rfl, rfl⟩
  obtain ⟨howns, hcredited⟩ := (hpaid _ howner).credited _ _ _ htransfers
  refine ⟨howns, hcredited, (hrefused _ howner).kept Sample.bob _ (by decide +kernel) (by decide) ?_ ?_⟩
  · intro _ _ h
    exact h.movesMoney.1
  · intro _ _ h
    exact h.movesMoney.1

end Cashbook
