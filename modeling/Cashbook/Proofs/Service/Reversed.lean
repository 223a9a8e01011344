/-
When a transfer is taken back, and what is then different.

The row of a transfer is looked at by the call and once more by the ledger, which marks it
first and finds out only then whether the money can go back.  The marks of a unit that fails
are dropped, so the order is of no consequence: a transfer is taken back if and only if its
row and those of its two accounts, as they are beforehand, allow it.  This is
`Transaction.Returnable`, and what then happens is a `Ledger.Reversal`.

A row that is no transfer, or is marked already, is turned down by the call as soon as it is
read.  What the caller owns is not looked at before that, so it is turned down for everybody.
-/
import Cashbook.Proofs.Ledger.AppendOnly
import Cashbook.Proofs.Service.Moved

namespace Cashbook

/-! ### Rows that can be taken back -/

/--
An owner can have a transfer taken back that left an account of theirs and is not marked, as
long as there is room for the money where it came from and enough of it where it went.
-/
def Transaction.Returnable (ledger : Ledger) (owner : OwnerId) (tx : Transaction) : Prop :=
  tx.rolledBack = false ∧ ∃ source destination payer payee, tx.kind = .transfer source destination ∧
    (ledger.accounts[source]? = some payer ∧ payer.owner = owner ∧
      payer.balance.HasRoom tx.amount) ∧
    ledger.accounts[destination]? = some payee ∧ payee.balance.Covers tx.amount

variable {ledger : Ledger} {owner : OwnerId} {key : TransactionId} {tx : Transaction}

/-- **A transfer can be taken back for an owner if and only if three rows allow it.** -/
theorem Transaction.returnable_iff (hdistinct : ledger.TransfersDistinct)
    (htx : ledger.transactions[key]? = some tx) :
    tx.Returnable ledger owner ↔ (Change.rollbackTransfer key).Entitled owner ledger ∧
      ∃ after, (Change.rollbackTransfer key).Effect ledger after := by
  constructor
  · intro h
    obtain ⟨hflag, source, destination, payer, payee, hkind, ⟨hpayer, howned, hroom⟩, hpayee,
      hcover⟩ := h
    have hne := hdistinct key tx source destination htx hkind
    obtain ⟨accounts, hpass⟩ := (exists_passed_iff hne.symm hpayee hpayer).2 ⟨hcover, hroom⟩
    exact ⟨⟨tx, source, destination, htx, hkind, payer, hpayer, howned⟩, _,
      tx, source, destination, accounts, htx, hkind, hflag, hpass, rfl⟩
  · intro h
    obtain ⟨⟨same, source, destination, hsame, hkind, payer, hpayer, howned⟩, after, he⟩ := h
    obtain ⟨found, giver, taker, hr⟩ := Ledger.exists_reversal hdistinct he
    obtain rfl := Option.some.inj (htx.symm.trans hsame)
    obtain rfl := Option.some.inj (htx.symm.trans hr.stored)
    obtain ⟨rfl, rfl⟩ := TransactionKind.transfer.inj (hkind.symm.trans hr.kind)
    obtain ⟨row, credited, hrow, hup, -⟩ := hr.credited
    obtain ⟨payee, debited, hpayee, hdown, -⟩ := hr.debited
    obtain rfl := Option.some.inj (hpayer.symm.trans hrow)
    exact ⟨hr.unmarked, source, destination, payer, payee, hkind, ⟨hpayer, howned, credited, hup⟩,
      hpayee, Balance.exists_debit_iff.1 ⟨debited, hdown⟩⟩

/-- Why a row cannot be taken back that is no transfer, or is marked. -/
theorem Transaction.ensureReversible_error (h : tx.kind.type ≠ .transfer ∨ tx.rolledBack = true) :
    tx.ensureReversible = .error
      (if tx.kind.type = .transfer then .alreadyRolledBack tx.id else .notReversible tx.id) := by
  unfold ensureReversible
  cases hkind : tx.kind with
  | transfer source destination =>
      have hflag : tx.rolledBack = true := by simpa [hkind, TransactionKind.type] using h
      simp [hflag, TransactionKind.type]
  | deposit destination => simp [TransactionKind.type]
  | withdrawal source => simp [TransactionKind.type]

/-! ### Calls -/

namespace Plan

variable {stamp : Stamp} {bank : Bank} {identity : String} {request : ReversalRequest}

/-- A row that cannot be taken back is turned down, whoever asks. -/
theorem run_reverse_of_error {failure : Failure} (hkey : Rules.reversal request = .ok key)
    (htx : bank.ledger.transactions[key]? = some tx) (hfailure : tx.ensureReversible = .error failure) :
    (reverse identity request).run stamp bank =
      (bank.registry.resolve identity >>= fun _ => .error failure, bank) := by
  have hfound := Ledger.transaction_ok_iff.2 htx
  rw [reverse_eq, hkey]
  cases hknown : bank.registry.resolve identity with
  | error unknown =>
      simp only [ofOutcome, query, run_bind, run, Bank.perform, hknown]
      rfl
  | ok owner =>
      simp only [ofOutcome, query, run_bind, run, Bank.perform, hknown, hfound, hfailure]
      rfl

/-- A caller who is known can have a row taken back that is returnable for them. -/
theorem exists_reverse_iff (hdistinct : bank.ledger.TransfersDistinct) :
    (∃ row after, (reverse identity request).run stamp bank = (.ok row, after)) ↔
      ∃ (key : TransactionId) (owner : OwnerId) (tx : Transaction),
        Id.ofText? request.transaction = some key ∧ bank.registry.resolve identity = .ok owner ∧
          bank.ledger.transactions[key]? = some tx ∧ tx.Returnable bank.ledger owner := by
  constructor
  · intro h
    obtain ⟨row, after, h⟩ := h
    obtain ⟨key, tx, hkey, htx, -, owner, howner, hentitled, heffect, -⟩ := reverse_row_iff.1 h
    exact ⟨key, owner, tx, Rules.reversal_ok_iff.1 hkey, howner, htx,
      (Transaction.returnable_iff hdistinct htx).2 ⟨hentitled, _, heffect⟩⟩
  · intro h
    obtain ⟨key, owner, tx, hkey, howner, htx, hreturnable⟩ := h
    obtain ⟨hentitled, ledger, heffect⟩ := (Transaction.returnable_iff hdistinct htx).1 hreturnable
    exact ⟨_, ⟨ledger, bank.registry⟩, reverse_row_iff.2
      ⟨key, tx, Rules.reversal_ok_iff.2 hkey, htx, rfl, owner, howner, hentitled, heffect, rfl⟩⟩

/--
**When a transfer is taken back, and what is then different.**  A call to take a transfer back
comes to a bank whose transfers have two accounts, with nothing else going on.

  * It succeeds if and only if the text writes an identifier, the caller is known, there is a row
    of that identifier, and it is returnable for them.
  * The row that it then returns is the one that was there, marked.  The transfer has been
    reversed, and that is all that is different.
  * If it fails nothing is different.
  * A row that is no transfer, or is marked, is turned down whoever asks, and those who are known
    are told why.
-/
theorem reverses_iff_returnable (identity : String) (request : ReversalRequest) (stamp : Stamp)
    (bank : Bank) (hdistinct : bank.ledger.TransfersDistinct) :
    let result := (reverse identity request).run stamp bank
    ((∃ row, result.1 = .ok row) ↔
      ∃ (key : TransactionId) (owner : OwnerId) (tx : Transaction),
        Id.ofText? request.transaction = some key ∧ bank.registry.resolve identity = .ok owner ∧
          bank.ledger.transactions[key]? = some tx ∧ tx.Returnable bank.ledger owner) ∧
    (∀ row, result.1 = .ok row → result.2.registry = bank.registry ∧
      ∃ key tx source destination, Id.ofText? request.transaction = some key ∧
        row = { tx with rolledBack := true } ∧
          Ledger.Reversal bank.ledger result.2.ledger key tx source destination) ∧
    (∀ failure, result.1 = .error failure → result.2 = bank) ∧
    ∀ (key : TransactionId) (tx : Transaction), Id.ofText? request.transaction = some key →
      bank.ledger.transactions[key]? = some tx → tx.kind.type ≠ .transfer ∨ tx.rolledBack = true →
        (∃ failure, result.1 = .error failure) ∧
          ∀ owner, bank.registry.resolve identity = .ok owner → result.1 = .error
            (if tx.kind.type = .transfer then .alreadyRolledBack tx.id else .notReversible tx.id) := by
  intro result
  have hrun : (reverse identity request).run stamp bank = result := rfl
  clear_value result
  obtain ⟨outcome, after⟩ := result
  refine ⟨?_, ?_, ?_, ?_⟩
  · rw [← exists_reverse_iff hdistinct, hrun]
    simp
  · rintro row rfl
    obtain ⟨key, tx, hkey, htx, hrow, -, -, -, heffect, hregistry⟩ := reverse_row_iff.1 hrun
    obtain ⟨same, source, destination, hr⟩ := Ledger.exists_reversal hdistinct heffect
    obtain rfl := Option.some.inj (htx.symm.trans hr.stored)
    exact ⟨hregistry, key, tx, source, destination, Rules.reversal_ok_iff.1 hkey, hrow, hr⟩
  · rintro failure rfl
    exact (concludes_reverse identity request).bank_of_error hrun
  · intro key tx hkey htx hturned
    obtain ⟨houtcome, -⟩ := Prod.mk.inj (hrun.symm.trans (run_reverse_of_error
      (Rules.reversal_ok_iff.2 hkey) htx (Transaction.ensureReversible_error hturned)))
    rw [houtcome]
    cases bank.registry.resolve identity with
    | error unknown => exact ⟨⟨unknown, rfl⟩, nofun⟩
    | ok owner => exact ⟨⟨_, rfl⟩, fun _ _ => rfl⟩

end Plan

/-! ### Money that has changed hands -/

/-- The bank after money has come in to one account and gone on to another of the same owner. -/
def Sample.passedOn : Bank :=
  { bank with ledger := Ledger.after (history.take 5) .empty }

/-- The transfer is taken back; the deposit before it is not. -/
theorem Plan.reverses_iff_returnable_sample :
    let transfer := Sample.transaction 2 (.transfer Sample.alice Sample.bob)
    let call := fun id : TransactionId =>
      (reverse "alice" ⟨id.toText⟩).run (.series 100 0) Sample.passedOn
    Ledger.Reversal Sample.passedOn.ledger (call ⟨.ofNat 2⟩).2.ledger ⟨.ofNat 2⟩ transfer
        Sample.alice Sample.bob ∧
      call ⟨.ofNat 1⟩ = (.error (.notReversible ⟨.ofNat 1⟩), Sample.passedOn) := by
  intro transfer call
  have hdistinct : Sample.passedOn.ledger.TransfersDistinct :=
    (Ledger.inOrder_and_transfersDistinct_after (Sample.history.take 5)
      Ledger.wellFormed_empty.toInOrder Ledger.wellFormed_empty.transfersDistinct).2
  have hall := fun id : TransactionId => reverses_iff_returnable "alice" ⟨id.toText⟩ (.series 100 0)
    Sample.passedOn hdistinct
  have hread : ∀ id : TransactionId, Id.ofText? id.toText = some id := fun id =>
    Rules.reversal_ok_iff.1 (Id.parse_toText id)
  have howner : Sample.passedOn.registry.resolve "alice" = .ok ⟨.ofNat 7⟩ :=
    ok_of_toOption (by decide +kernel)
  have htransfer : Sample.passedOn.ledger.transactions[(⟨.ofNat 2⟩ : TransactionId)]? =
      some transfer := by
    decide +kernel
  have hdeposit : Sample.passedOn.ledger.transactions[(⟨.ofNat 1⟩ : TransactionId)]? =
      some (Sample.transaction 1 (.deposit Sample.alice)) := by
    decide +kernel
  constructor
  · obtain ⟨hsucceeds, hreversed, -⟩ := hall ⟨.ofNat 2⟩
    have hbob : Sample.passedOn.ledger.accounts[Sample.bob]? =
        some { Sample.account Sample.bob with balance := ⟨Sample.price.value, by decide⟩ } := by
      decide +kernel
    have hreturnable : transfer.Returnable Sample.passedOn.ledger ⟨.ofNat 7⟩ :=
      ⟨rfl, Sample.alice, Sample.bob, Sample.account Sample.alice, _, rfl,
        ⟨by decide +kernel, rfl, ⟨Sample.price.value, by decide⟩, ok_of_toOption (by decide +kernel)⟩,
        hbob, by decide⟩
    obtain ⟨row, hrow⟩ := hsucceeds.2
      ⟨⟨.ofNat 2⟩, ⟨.ofNat 7⟩, transfer, hread _, howner, htransfer, hreturnable⟩
    obtain ⟨-, key, tx, source, destination, hkey, -, hr⟩ := hreversed row hrow
    obtain rfl := Option.some.inj ((hread _).symm.trans hkey)
    obtain rfl := Option.some.inj (htransfer.symm.trans hr.stored)
    obtain ⟨rfl, rfl⟩ := TransactionKind.transfer.inj hr.kind
    exact hr
  · obtain ⟨-, -, hkept, hrefused⟩ := hall ⟨.ofNat 1⟩
    obtain ⟨-, hwhy⟩ := hrefused ⟨.ofNat 1⟩ _ (hread _) hdeposit (Or.inl (by decide))
    exact Prod.ext (hwhy _ howner) (hkept _ (hwhy _ howner))

end Cashbook
