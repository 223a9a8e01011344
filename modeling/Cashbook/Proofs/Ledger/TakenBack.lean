/-
A transfer that is taken back.

What came in at one end and went out at the other goes back the same way.  Numbers alone
would make this plain, but the two balances are decimals, and a sum is carried out at a
scale that depends on how its terms are written: on the way there the balances may have
got other scales than they had, and on the way back the sum may at first be too long to
be held.  None of this matters where nothing was rounded on the way there.  Then the old
balance is a decimal that denotes the sum on the way back, and a sum that some decimal
denotes is exact (`Decimal.add?_of_canHold`).  So the way back cannot fail, and it leads
to the very numbers that were there before.
-/
import Cashbook.Proofs.Ledger.Conservation

namespace Cashbook

open Decimal (CanHold)

/-! ### Balances -/

namespace Balance

variable {b c : Balance} {a : Amount}

/-- A credit that some decimal can hold is made, and is exact. -/
theorem exists_credit (h : CanHold (b.units + a.units)) :
    ∃ c, b.credit a = .ok c ∧ c.units = b.units + a.units := by
  obtain ⟨sum, hsum, hunits⟩ := Decimal.add?_of_canHold (a := b.value) (b := a.value) h
  obtain ⟨c, hc, rfl⟩ := Option.map_eq_some_iff.1 (map_value_credit?.trans hsum)
  exact ⟨c, credit_ok_iff.2 hc, hunits⟩

/-- A covered debit that some decimal can hold is made, and is exact. -/
theorem exists_debit (hcover : b.Covers a) (h : CanHold (b.units - a.units)) :
    ∃ c, b.debit a = .ok c ∧ c.units = b.units - a.units := by
  obtain ⟨c, hdebit⟩ := exists_debit_iff.2 hcover
  exact ⟨c, hdebit, (units_debit_eq_iff hdebit).2 h⟩

/-- What went out exactly can come in again. -/
theorem credit_of_exact_debit (h : c.units = b.units - a.units) :
    ∃ back, c.credit a = .ok back ∧ back.units = b.units := by
  have hsum : c.units + a.units = b.units := by omega
  obtain ⟨back, hback, hunits⟩ := exists_credit (b := c) (a := a) ⟨b.value, hsum.symm⟩
  exact ⟨back, hback, hunits.trans hsum⟩

/-- What came in exactly can go out again: it is covered, whatever was there before it. -/
theorem debit_of_exact_credit (h : c.units = b.units + a.units) :
    ∃ back, c.debit a = .ok back ∧ back.units = b.units := by
  have hdifference : c.units - a.units = b.units := by omega
  have hcover : c.Covers a := by
    have hb : 0 ≤ b.units := b.nonneg
    show a.units ≤ c.units
    omega
  obtain ⟨back, hback, hunits⟩ := exists_debit hcover ⟨b.value, hdifference.symm⟩
  exact ⟨back, hback, hunits.trans hdifference⟩

end Balance

/-! ### Accounts -/

/-- Nothing about an account differs, but for how its balance is written. -/
def Account.SameMoney (old new : Account) : Prop :=
  new.frame = old.frame ∧ new.balance.units = old.balance.units

variable {before after : Table AccountId Account} {amount : Amount}
  {source destination : AccountId}

/-- Money passes wherever one end can be debited and the other credited. -/
theorem exists_passed {payer payee : Account} {debited credited : Balance}
    (hne : source ≠ destination) (hpayer : before[source]? = some payer)
    (hdown : payer.balance.debit amount = .ok debited) (hpayee : before[destination]? = some payee)
    (hup : payee.balance.credit amount = .ok credited) :
    ∃ after, Passed amount source destination before after := by
  refine ⟨_, before.insert destination { payee with balance := credited },
    ⟨payee, credited, hpayee, hup, rfl⟩, payer, debited, ?_, hdown, rfl⟩
  rwa [Table.getElem?_insert_of_ne _ _ hne.symm]

/-- **Money that passed without rounding passes back**, and then all is as it was before. -/
theorem Passed.back (h : Passed amount source destination before after)
    (hne : source ≠ destination)
    (hexact : (TransactionKind.transfer source destination).MovesExactly amount before) :
    ∃ restored, Passed amount destination source after restored ∧
      (∀ id, id = source ∨ id = destination → ∃ old new, before[id]? = some old ∧
        restored[id]? = some new ∧ old.SameMoney new) ∧
      ∀ id : AccountId, id ≠ source → id ≠ destination → restored[id]? = before[id]? := by
  obtain ⟨⟨payer, debited, hpayer, hdown, hpaid⟩, ⟨payee, credited, hpayee, hup, hreceived⟩, hothers⟩ :=
    (passed_iff hne).1 h
  have hless : debited.units = payer.balance.units - amount.units :=
    hexact.2 source rfl payer debited hpayer hdown
  have hmore : credited.units = payee.balance.units + amount.units :=
    hexact.1 destination rfl payee credited hpayee hup
  obtain ⟨regained, hregain, hpayerUnits⟩ := Balance.credit_of_exact_debit hless
  obtain ⟨returned, hreturn, hpayeeUnits⟩ := Balance.debit_of_exact_credit hmore
  obtain ⟨restored, hback⟩ := exists_passed hne.symm hreceived hreturn hpaid hregain
  refine ⟨restored, hback, ?_, ?_⟩
  · -- Each end is found as the way there left it, so what it comes to is known.
    obtain ⟨⟨giver, given, hgiver, hgave, hgiven⟩, ⟨taker, taken, htaker, htook, htaken⟩, -⟩ :=
      (passed_iff hne.symm).1 hback
    obtain rfl := Option.some.inj (hgiver.symm.trans hreceived)
    obtain rfl := Option.some.inj (htaker.symm.trans hpaid)
    obtain rfl := Except.ok.inj (hgave.symm.trans hreturn)
    obtain rfl := Except.ok.inj (htook.symm.trans hregain)
    rintro id (rfl | rfl)
    · exact ⟨payer, _, hpayer, htaken, rfl, hpayerUnits⟩
    · exact ⟨payee, _, hpayee, hgiven, rfl, hpayeeUnits⟩
  · intro id hsource hdestination
    obtain ⟨-, -, hrest⟩ := (passed_iff hne.symm).1 hback
    rw [hrest id hdestination hsource, hothers id hsource hdestination]

/-! ### Ledgers -/

namespace Ledger

/--
**Taking a transfer back undoes it.**  A transfer is recorded on a ledger, whatever the
ledger, and neither of the two balances is rounded.  Then it can be rolled back: it fails
neither for want of money nor for want of a decimal.  Both accounts have the numbers that
they had before the transfer, all other accounts, all cards and all other transactions
are those that they were, and the row of the transfer differs in its flag alone.
-/
theorem rollback_undoes_record (ledger recorded : Ledger) (tx row : Transaction)
    (source destination : AccountId) (hkind : tx.kind = .transfer source destination)
    (hflag : tx.rolledBack = false) (hrecord : ledger.record tx = (.ok row, recorded))
    (hexact : tx.kind.MovesExactly tx.amount ledger.accounts) :
    ∃ restored, recorded.rollbackTransfer tx.id = (.ok { tx with rolledBack := true }, restored) ∧
      (∀ id, id = source ∨ id = destination → ∃ old new, ledger.accounts[id]? = some old ∧
        restored.accounts[id]? = some new ∧ old.SameMoney new) ∧
      (∀ id : AccountId, id ≠ source → id ≠ destination →
        restored.accounts[id]? = recorded.accounts[id]? ∧
          restored.accounts[id]? = ledger.accounts[id]?) ∧
      (restored.cards = recorded.cards ∧ restored.cards = ledger.cards) ∧
      (∀ key : TransactionId, key ≠ tx.id →
        restored.transactions[key]? = recorded.transactions[key]? ∧
          restored.transactions[key]? = ledger.transactions[key]?) ∧
      recorded.transactions[tx.id]? = some tx ∧
      restored.transactions[tx.id]? = some { tx with rolledBack := true } := by
  obtain ⟨accounts, hmoves, -, -, rfl⟩ := record_ok_iff.1 hrecord
  rw [hkind] at hmoves hexact
  obtain ⟨hne, -, hpass⟩ := hmoves
  obtain ⟨restored, hback, hends, hothers⟩ := hpass.back hne hexact
  have hstored : (ledger.transactions.insert tx.id tx)[tx.id]? = some tx :=
    Std.ExtTreeMap.getElem?_insert_self
  refine ⟨_, rollbackTransfer_ok_iff.2
    ⟨tx, source, destination, restored, hstored, hkind, hflag, hback, rfl, rfl⟩,
    hends, ?_, ⟨rfl, rfl⟩, ?_, hstored, Std.ExtTreeMap.getElem?_insert_self⟩
  · intro id hsource hdestination
    obtain ⟨-, -, hrest⟩ := (passed_iff hne.symm).1 hback
    exact ⟨hrest id hdestination hsource, hothers id hsource hdestination⟩
  · intro key hkey
    have hsame := Table.getElem?_insert_of_ne (ledger.transactions.insert tx.id tx)
      { tx with rolledBack := true } hkey.symm
    exact ⟨hsame, hsame.trans (Table.getElem?_insert_of_ne _ _ hkey.symm)⟩

/-! ### A transfer at the edge of what decimals can hold -/

/-- An account with a balance that has no room for a fourth place. -/
def brimfulAccount : Account :=
  { Sample.account Sample.alice with
    balance := ⟨⟨Decimal.limit - 5, 3, by decide, by decide⟩, by decide⟩ }

/-- One half, written with four places. -/
def halfTransfer : Transaction :=
  { Sample.transaction 1 (.transfer Sample.alice Sample.bob) with
    amount := ⟨⟨5000, 4, by decide, by decide⟩, by decide⟩ }

theorem rollback_undoes_record_sample :
    let ledger := Ledger.after [.createAccount brimfulAccount,
      .createAccount (Sample.account Sample.bob)] .empty
    let recorded := (ledger.record halfTransfer).2
    ∃ restored new, recorded.rollbackTransfer halfTransfer.id =
        (.ok { halfTransfer with rolledBack := true }, restored) ∧
      restored.accounts[Sample.alice]? = some new ∧ brimfulAccount.SameMoney new := by
  intro ledger recorded
  have hrecord : ledger.record halfTransfer = (.ok halfTransfer, recorded) :=
    eq_ok_of_toOption (by decide +kernel)
  obtain ⟨restored, hrollback, hends, -⟩ := rollback_undoes_record ledger recorded halfTransfer
    halfTransfer Sample.alice Sample.bob rfl rfl hrecord (by decide +kernel)
  obtain ⟨old, new, hold, hnew, hmoney⟩ := hends Sample.alice (Or.inl rfl)
  have hbefore : ledger.accounts[Sample.alice]? = some brimfulAccount := by decide +kernel
  obtain rfl := Option.some.inj (hold.symm.trans hbefore)
  exact ⟨restored, new, hrollback, hnew, hmoney⟩

end Ledger

end Cashbook
