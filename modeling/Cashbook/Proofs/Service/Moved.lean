/-
When money moves, and what is then different.

A movement is looked at three times.  The rules look at the words of the request; the call
looks at the accounts on its way to their keys, and again when it has them; and the ledger
looks at everything once more when the movement is recorded.  The three looks overlap and
come in different orders, so that a request that breaks several rules is refused for one
reason or another.  Which requests are refused does not depend on this.  The first looks
ask for nothing that the ledger does not insist on (`Plan.move_ok_iff`), and what the ledger
insists on comes down to the rows of the accounts that the cards lead to: `Order.Affordable`.
-/
import Cashbook.Proofs.Ledger.TakenBack
import Cashbook.Proofs.Rules
import Cashbook.Proofs.Service.Authority
import Cashbook.Proofs.Service.CriticalSection

namespace Cashbook

/-! ### Rows that can be changed -/

/-- An amount can come in to a balance without overflowing it. -/
def Balance.HasRoom (b : Balance) (a : Amount) : Prop := ∃ sum, b.credit a = .ok sum

/--
What an order asks of the account that it is given for, and of the one that it leads to:
money goes out where there is enough of it, and comes in where there is room for it.
-/
def Order.Affordable (ledger : Ledger) (amount : Amount) (account : Account) : Order → Prop
  | .deposit _ => account.balance.HasRoom amount
  | .withdrawal _ => account.balance.Covers amount
  | .transfer _ destination =>
    account.balance.Covers amount ∧
      ∃ other, ledger.accountOfCard destination = .ok other ∧ other.id ≠ account.id ∧
        other.currency = account.currency ∧ other.balance.HasRoom amount

variable {before after : Table AccountId Account} {ledger changed : Ledger} {amount : Amount}
  {source destination id : AccountId} {account payer payee : Account} {kind : TransactionKind}

/-- The balance of an account can go through `f` if there is an account, and `f` agrees. -/
theorem exists_rebalanced_iff {f : Balance → Outcome Balance} (hrow : before[id]? = some account) :
    (∃ after, Rebalanced f id before after) ↔ ∃ balance, f account.balance = .ok balance := by
  constructor
  · intro h
    obtain ⟨after, row, balance, hfound, hf, -⟩ := h
    obtain rfl := Option.some.inj (hfound.symm.trans hrow)
    exact ⟨balance, hf⟩
  · intro h
    obtain ⟨balance, hf⟩ := h
    exact ⟨_, account, balance, hrow, hf, rfl⟩

theorem exists_passed_iff (hne : source ≠ destination) (hpayer : before[source]? = some payer)
    (hpayee : before[destination]? = some payee) :
    (∃ after, Passed amount source destination before after) ↔
      payer.balance.Covers amount ∧ payee.balance.HasRoom amount := by
  constructor
  · intro h
    obtain ⟨after, hpass⟩ := h
    obtain ⟨⟨giver, debited, hgiver, hdown, -⟩, ⟨taker, credited, htaker, hup, -⟩, -⟩ :=
      (passed_iff hne).1 hpass
    obtain rfl := Option.some.inj (hgiver.symm.trans hpayer)
    obtain rfl := Option.some.inj (htaker.symm.trans hpayee)
    exact ⟨Balance.exists_debit_iff.1 ⟨debited, hdown⟩, credited, hup⟩
  · intro h
    obtain ⟨hcover, credited, hup⟩ := h
    obtain ⟨debited, hdown⟩ := Balance.exists_debit_iff.2 hcover
    exact exists_passed hne hpayer hdown hpayee hup

/-- **An order can be carried out if and only if the accounts can afford it.** -/
theorem Order.exists_moves_iff (horder : ledger.InOrder) (order : Order)
    (hrow : ledger.accounts[account.id]? = some account) :
    (∃ kind accounts, order.ComesTo ledger account kind ∧ kind.Moves amount ledger.accounts accounts) ↔
      order.Affordable ledger amount account := by
  cases order with
  | deposit card =>
      refine Iff.trans ?_ (exists_rebalanced_iff (f := fun balance => balance.credit amount) hrow)
      constructor
      · intro h
        obtain ⟨_, accounts, rfl, hmoves⟩ := h
        exact ⟨accounts, hmoves⟩
      · intro h
        obtain ⟨accounts, hcredited⟩ := h
        exact ⟨.deposit account.id, accounts, rfl, hcredited⟩
  | withdrawal card =>
      refine Iff.trans ?_ (Iff.trans
        (exists_rebalanced_iff (f := fun balance => balance.debit amount) hrow)
        Balance.exists_debit_iff)
      constructor
      · intro h
        obtain ⟨_, accounts, rfl, hmoves⟩ := h
        exact ⟨accounts, hmoves⟩
      · intro h
        obtain ⟨accounts, hdebited⟩ := h
        exact ⟨.withdrawal account.id, accounts, rfl, hdebited⟩
  | transfer card destination =>
      constructor
      · intro h
        obtain ⟨_, accounts, ⟨other, hother, rfl⟩, hne, ⟨payer, payee, hpayer, hpayee, hcurrency⟩,
          hpass⟩ := h
        obtain rfl := Option.some.inj (hpayer.symm.trans hrow)
        obtain rfl := Option.some.inj (hpayee.symm.trans (horder.getElem?_of_accountOfCard hother))
        obtain ⟨hcover, hroom⟩ := (exists_passed_iff hne hpayer hpayee).1 ⟨accounts, hpass⟩
        exact ⟨hcover, payee, hother, Ne.symm hne, hcurrency.symm, hroom⟩
      · intro h
        obtain ⟨hcover, other, hother, hne, hcurrency, hroom⟩ := h
        have hpayee := horder.getElem?_of_accountOfCard hother
        obtain ⟨accounts, hpass⟩ := (exists_passed_iff (Ne.symm hne) hrow hpayee).2 ⟨hcover, hroom⟩
        exact ⟨.transfer account.id other.id, accounts, ⟨other, hother, rfl⟩, Ne.symm hne,
          ⟨account, other, hrow, hpayee, hcurrency.symm⟩, hpass⟩

/-! ### What is different afterwards -/

/-- What a ledger is after a transaction has been recorded on it. -/
structure Transaction.Recorded (tx : Transaction) (before after : Ledger) : Prop where
  /-- The account that the money reached is credited with it, once. -/
  credited : ∀ id, tx.kind.destination? = some id →
    CreditedAt tx.amount before.accounts after.accounts id
  /-- The account that the money left is debited with it, once. -/
  debited : ∀ id, tx.kind.source? = some id → DebitedAt tx.amount before.accounts after.accounts id
  /-- All other accounts are those that they were. -/
  kept : ∀ id : AccountId, id ∉ tx.kind.accounts → after.accounts[id]? = before.accounts[id]?
  cards : after.cards = before.cards
  /-- There is one row more, and no other is different. -/
  row : before.transactions[tx.id]? = none ∧ after.transactions = before.transactions.insert tx.id tx

theorem Change.Effect.recorded {tx : Transaction} (he : (Change.record tx).Effect ledger changed) :
    tx.Recorded ledger changed := by
  obtain ⟨id, amount, kind, flag, createdAt⟩ := tx
  obtain ⟨accounts, hmoves, hnew, rfl⟩ := he
  cases kind with
  | transfer source destination =>
      obtain ⟨hdown, hup, hothers⟩ := (passed_iff hmoves.1).1 hmoves.2.2
      refine ⟨fun _ h => Option.some.inj h ▸ hup, fun _ h => Option.some.inj h ▸ hdown, ?_, rfl,
        hnew, rfl⟩
      intro k hk
      obtain ⟨hsource, hdestination⟩ := not_or.1 fun hor => hk (List.mem_pair.2 hor)
      exact hothers k hsource hdestination
  | deposit destination =>
      obtain ⟨hup, hothers⟩ := rebalanced_iff.1 (show Credited _ _ _ _ from hmoves)
      exact ⟨fun _ h => Option.some.inj h ▸ hup, nofun,
        fun k hk => hothers k fun heq => hk (List.mem_singleton.2 heq), rfl, hnew, rfl⟩
  | withdrawal source =>
      obtain ⟨hdown, hothers⟩ := rebalanced_iff.1 (show Debited _ _ _ _ from hmoves)
      exact ⟨nofun, fun _ h => Option.some.inj h ▸ hdown,
        fun k hk => hothers k fun heq => hk (List.mem_singleton.2 heq), rfl, hnew, rfl⟩

/-! ### Calls -/

namespace Plan

variable {stamp : Stamp} {bank after : Bank} {identity : String} {rules : Rules}
  {request : MovementRequest} {tx : Transaction}

/-- A caller who is known can move money for an account of theirs where it can afford the order. -/
theorem exists_move_iff (horder : bank.ledger.InOrder)
    (hfresh : bank.ledger.transactions[stamp.transaction]? = none) :
    (∃ tx after, (move rules identity request).run stamp bank = (.ok tx, after)) ↔
      ∃ movement owner account, rules.movement request = .ok movement ∧
        bank.registry.resolve identity = .ok owner ∧
          bank.ledger.accountOfCard movement.order.card = .ok account ∧ account.owner = owner ∧
            movement.order.Affordable bank.ledger movement.amount account := by
  constructor
  · intro h
    obtain ⟨tx, after, h⟩ := h
    obtain ⟨movement, account, hmovement, haccount, hkind, htx, owner, howner, howns,
      ⟨accounts, hmoves, -⟩, -⟩ := (move_ok_iff horder).1 h
    have hrow := horder.getElem?_of_accountOfCard haccount
    obtain ⟨same, hsame, howned⟩ : bank.ledger.Owns owner tx.kind.party := howns
    rw [hkind.party] at hsame
    obtain rfl := Option.some.inj (hsame.symm.trans hrow)
    rw [htx] at hmoves
    exact ⟨movement, owner, same, hmovement, howner, haccount, howned,
      (movement.order.exists_moves_iff horder hrow).1 ⟨tx.kind, accounts, hkind, hmoves⟩⟩
  · intro h
    obtain ⟨movement, owner, account, hmovement, howner, haccount, howned, hafford⟩ := h
    have hrow := horder.getElem?_of_accountOfCard haccount
    obtain ⟨kind, accounts, hkind, hmoves⟩ := (movement.order.exists_moves_iff horder hrow).2 hafford
    refine ⟨⟨stamp.transaction, movement.amount, kind, false, stamp.time⟩, ⟨_, bank.registry⟩,
      (move_ok_iff horder).2 ⟨movement, account, hmovement, haccount, hkind, rfl, owner, howner, ?_,
        ⟨accounts, hmoves, hfresh, rfl⟩, rfl⟩⟩
    show bank.ledger.Owns owner kind.party
    rw [hkind.party]
    exact ⟨account, hrow, howned⟩

/--
**When money moves, and what is then different.**  A call to move money comes to a bank in
order, with nothing else going on, and gets an identifier that no transaction has.

  * It succeeds if and only if the request can be understood, the caller is known, the card
    leads to an account of theirs, and the order can be afforded.
  * The transaction that it then returns has the amount and the kind that were asked for, is
    between the accounts that the cards lead to, and is not rolled back.  It has been recorded,
    and that is all that is different.
  * If it fails nothing is different.
  * Whatever is looked at on the way stands in the way of nothing that the ledger would accept.
-/
theorem moves_iff_affordable (rules : Rules) (identity : String) (request : MovementRequest)
    (stamp : Stamp) (bank : Bank) (horder : bank.ledger.InOrder)
    (hfresh : bank.ledger.transactions[stamp.transaction]? = none) :
    let (outcome, after) := (move rules identity request).run stamp bank
    ((∃ tx, outcome = .ok tx) ↔
      ∃ movement owner account, rules.movement request = .ok movement ∧
        bank.registry.resolve identity = .ok owner ∧
          bank.ledger.accountOfCard movement.order.card = .ok account ∧ account.owner = owner ∧
            movement.order.Affordable bank.ledger movement.amount account) ∧
    (∀ tx, outcome = .ok tx →
      (∃ movement account, rules.movement request = .ok movement ∧
        bank.ledger.accountOfCard movement.order.card = .ok account ∧
          movement.order.ComesTo bank.ledger account tx.kind) ∧
      (tx.id = stamp.transaction ∧ tx.amount.value = request.amount ∧
        TransactionType.parse request.type = .ok tx.kind.type ∧ tx.rolledBack = false) ∧
      tx.Recorded bank.ledger after.ledger ∧ after.registry = bank.registry) ∧
    (∀ failure, outcome = .error failure → after = bank) ∧
    ∀ movement owner account kind row changed, rules.movement request = .ok movement →
      bank.registry.resolve identity = .ok owner →
        bank.ledger.accountOfCard movement.order.card = .ok account → account.owner = owner →
          movement.order.ComesTo bank.ledger account kind →
            bank.ledger.record ⟨stamp.transaction, movement.amount, kind, false, stamp.time⟩ =
              (.ok row, changed) → outcome = .ok row ∧ after.ledger = changed := by
  rcases hrun : (move rules identity request).run stamp bank with ⟨outcome, after⟩
  refine ⟨?_, ?_, ?_, ?_⟩
  · rw [← exists_move_iff horder hfresh, hrun]
    simp
  · rintro tx rfl
    obtain ⟨movement, account, hmovement, haccount, hkind, htx, owner, -, -, heffect, hregistry⟩ :=
      (move_ok_iff horder).1 hrun
    obtain ⟨type, card, hamount, htype, -, hgiven⟩ := Rules.movement_ok_iff.1 hmovement
    refine ⟨⟨movement, account, hmovement, haccount, hkind⟩, ⟨?_, ?_, ?_, ?_⟩, heffect.recorded,
      hregistry⟩
    · rw [htx]
    · rw [htx]
      exact Rules.value_of_amount hamount
    · rw [hkind.type, Rules.type_of_order hgiven, htype]
    · rw [htx]
  · rintro failure rfl
    exact (concludes_move rules identity request).bank_of_error hrun
  · intro movement owner account kind row changed hmovement howner haccount howned hkind hrecord
    obtain ⟨accounts, hmoves, hnew, rfl, rfl⟩ := Ledger.record_ok_iff.1 hrecord
    have hrow : Change.Entitled owner bank.ledger
        (.record ⟨stamp.transaction, movement.amount, kind, false, stamp.time⟩) := by
      show bank.ledger.Owns owner kind.party
      rw [hkind.party]
      exact ⟨account, horder.getElem?_of_accountOfCard haccount, howned⟩
    have hmade : (move rules identity request).run stamp bank = (.ok _, ⟨_, bank.registry⟩) :=
      (move_ok_iff horder).2 ⟨movement, account, hmovement, haccount, hkind, rfl, owner, howner,
        hrow, ⟨accounts, hmoves, hnew, rfl⟩, rfl⟩
    rw [hrun] at hmade
    obtain ⟨rfl, rfl⟩ := Prod.mk.inj hmade
    exact ⟨rfl, rfl⟩

/-- All the money of an account can go to the account of a neighbour; more than all of it cannot. -/
theorem moves_iff_affordable_sample :
    let call := fun units => (move ⟨.zero, 2, 64⟩ "alice"
      (.transfer units (.ofSerial 1) (.ofSerial 2))).run (.series 100 0) Sample.street
    (∃ tx, (call Sample.price.value).1 = .ok tx ∧
      tx.Recorded Sample.street.ledger (call Sample.price.value).2.ledger) ∧
    (∀ tx, (call ⟨6, 0, by decide, by decide⟩).1 ≠ .ok tx) ∧
      (call ⟨6, 0, by decide, by decide⟩).2 = Sample.street := by
  intro call
  have horder : Sample.street.ledger.InOrder := (Ledger.inOrder_and_transfersDistinct_after
    Sample.neighbours Ledger.wellFormed_empty.toInOrder Ledger.wellFormed_empty.transfersDistinct).1
  have hfresh : Sample.street.ledger.transactions[(Stamp.series 100 0).transaction]? = none := by
    decide +kernel
  have hall := fun request => moves_iff_affordable ⟨.zero, 2, 64⟩ "alice" request (.series 100 0)
    Sample.street horder hfresh
  have haccount : Sample.street.ledger.accountOfCard (.ofSerial 1) =
      .ok { Sample.account Sample.alice with balance := ⟨Sample.price.value, by decide⟩ } :=
    ok_of_toOption (by decide +kernel)
  obtain ⟨hmoves, hmoved, -, -⟩ := hall (.transfer Sample.price.value (.ofSerial 1) (.ofSerial 2))
  obtain ⟨hrefuses, -, hkept, -⟩ :=
    hall (.transfer ⟨6, 0, by decide, by decide⟩ (.ofSerial 1) (.ofSerial 2))
  have hrefused : ∀ tx, (call ⟨6, 0, by decide, by decide⟩).1 ≠ .ok tx := by
    intro tx htx
    obtain ⟨movement, -, account, hmovement, -, hfound, -, hafford⟩ := hrefuses.1 ⟨tx, htx⟩
    have hmeant : movement = ⟨⟨⟨6, 0, by decide, by decide⟩, by decide⟩,
        .transfer (.ofSerial 1) (.ofSerial 2)⟩ :=
      Except.ok.inj (hmovement.symm.trans (ok_of_toOption (by decide +kernel)))
    subst hmeant
    obtain rfl := Except.ok.inj (hfound.symm.trans haccount)
    exact absurd hafford.1 (by decide)
  refine ⟨?_, hrefused, ?_⟩
  · obtain ⟨tx, htx⟩ := hmoves.2 ⟨⟨Sample.price, .transfer (.ofSerial 1) (.ofSerial 2)⟩, ⟨.ofNat 7⟩, _,
      ok_of_toOption (by decide +kernel), ok_of_toOption (by decide +kernel), haccount, rfl,
      by decide, { Sample.account Sample.bob with owner := ⟨.ofNat 8⟩ },
      ok_of_toOption (by decide +kernel), by decide, rfl, ⟨Sample.price.value, by decide⟩,
      ok_of_toOption (by decide +kernel)⟩
    exact ⟨tx, htx, (hmoved tx htx).2.2.1⟩
  · rcases houtcome : (call ⟨6, 0, by decide, by decide⟩).1 with failure | tx
    · exact hkept failure houtcome
    · exact absurd houtcome (hrefused tx)

end Plan

end Cashbook
