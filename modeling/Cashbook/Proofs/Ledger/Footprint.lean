/-
Which rows a change depends on.

A change replaces or removes the rows of a few accounts and leaves every other account as
it is.  And whether a movement of money succeeds depends on the rows of its own accounts
alone: where they are there, differ, are of one currency, and the source covers the
amount, the one thing that can go wrong is that the destination holds too much already
for the sum to be a decimal.  So whoever keeps others away from these rows knows what
will become of the movement.
-/
import Cashbook.Proofs.Ledger.WellFormed

namespace Cashbook

variable {before after : Ledger} {change : Change} {id : AccountId} {key : TransactionId}
  {amount : Amount} {kind : TransactionKind}

/-! ### Rows that are left alone -/

/-- The accounts of which a change may replace or remove the row. -/
def Change.Touches (before : Ledger) (id : AccountId) : Change → Prop
  | .createAccount _ | .createCard _ | .deleteCard _ => False
  | .deleteAccount other => id = other
  | .record tx => id ∈ tx.kind.accounts
  | .rollbackTransfer key => ∃ tx, before.transactions[key]? = some tx ∧ id ∈ tx.kind.accounts

theorem Passed.getElem?_of_ne {source destination : AccountId} {accounts moved : Table AccountId Account}
    (h : Passed amount source destination accounts moved) (hsource : source ≠ id)
    (hdestination : destination ≠ id) : moved[id]? = accounts[id]? := by
  obtain ⟨between, hcredit, hdebit⟩ := h
  rw [Rebalanced.getElem?_of_ne hdebit hsource, Rebalanced.getElem?_of_ne hcredit hdestination]

theorem TransactionKind.Moves.getElem?_of_not_mem {accounts moved : Table AccountId Account}
    (h : kind.Moves amount accounts moved) (hout : id ∉ kind.accounts) :
    moved[id]? = accounts[id]? := by
  cases kind with
  | transfer source destination =>
      have hsource : source ≠ id := by
        rintro rfl
        exact hout List.mem_cons_self
      have hdestination : destination ≠ id := by
        rintro rfl
        exact hout (List.mem_cons_of_mem _ List.mem_cons_self)
      exact h.2.2.getElem?_of_ne hsource hdestination
  | deposit destination =>
      have hcredit : Credited amount destination accounts moved := h
      exact Rebalanced.getElem?_of_ne hcredit fun heq => hout (List.mem_singleton.2 heq.symm)
  | withdrawal source =>
      have hdebit : Debited amount source accounts moved := h
      exact Rebalanced.getElem?_of_ne hdebit fun heq => hout (List.mem_singleton.2 heq.symm)

namespace Change.Effect

/-- An account that a change does not touch is there afterwards as it was. -/
theorem account_kept (he : change.Effect before after) {row : Account}
    (hrow : before.accounts[id]? = some row) (hout : ¬ change.Touches before id) :
    after.accounts[id]? = some row := by
  cases change with
  | createAccount opened =>
      obtain ⟨hfree, rfl⟩ := he
      have hne : opened.id ≠ id := by
        intro heq
        rw [heq, hrow] at hfree
        cases hfree
      rw [← hrow]
      exact Table.getElem?_insert_of_ne _ _ hne
  | deleteAccount other =>
      obtain ⟨-, rfl⟩ := he
      rw [← hrow]
      exact Table.getElem?_erase_of_ne _ (Ne.symm hout)
  | createCard card =>
      obtain ⟨-, -, rfl⟩ := he
      exact hrow
  | deleteCard number =>
      obtain ⟨-, rfl⟩ := he
      exact hrow
  | record tx =>
      obtain ⟨accounts, hmoves, -, rfl⟩ := he
      rw [← hrow]
      exact hmoves.getElem?_of_not_mem hout
  | rollbackTransfer key =>
      obtain ⟨tx, source, destination, accounts, htx, hkind, -, hpass, rfl⟩ := he
      have hends : id ∉ tx.kind.accounts := fun hmem => hout ⟨tx, htx, hmem⟩
      rw [hkind] at hends
      have hsource : source ≠ id := by
        rintro rfl
        exact hends List.mem_cons_self
      have hdestination : destination ≠ id := by
        rintro rfl
        exact hends (List.mem_cons_of_mem _ List.mem_cons_self)
      rw [← hrow]
      exact hpass.getElem?_of_ne hdestination hsource

/-- A transaction never comes to be of another kind or between other accounts. -/
theorem kind_kept (he : change.Effect before after) {tx : Transaction}
    (htx : before.transactions[key]? = some tx) :
    ∃ new, after.transactions[key]? = some new ∧ new.kind = tx.kind := by
  rcases he.transaction_cases htx with ⟨-, hkept⟩ | ⟨-, -, -, hmarked⟩
  · exact ⟨tx, hkept, rfl⟩
  · exact ⟨_, hmarked, rfl⟩

/-- A transaction that is not there is there after a change only if the change records it. -/
theorem transaction_absent (he : change.Effect before after)
    (hnone : before.transactions[key]? = none) (hother : ∀ tx, change = .record tx → tx.id ≠ key) :
    after.transactions[key]? = none := by
  rw [Option.eq_none_iff_forall_ne_some]
  intro new hnew
  rcases he.transaction_was hnew with ⟨tx, htx⟩ | ⟨hrecord, hid⟩
  · rw [hnone] at htx
    cases htx
  · exact hother new hrecord hid

end Change.Effect

/-! ### What becomes of a movement -/

/-- The accounts of a movement are there and may have it, as far as the one that it leaves goes. -/
def TransactionKind.Ready (amount : Amount) (accounts : Table AccountId Account) :
    TransactionKind → Prop
  | .transfer source destination =>
    source ≠ destination ∧ ∃ payer payee, accounts[source]? = some payer ∧
      accounts[destination]? = some payee ∧ payer.currency = payee.currency ∧
        payer.ensureCovers amount = .ok ()
  | .deposit destination => ∃ row, accounts[destination]? = some row
  | .withdrawal source => ∃ row, accounts[source]? = some row ∧ row.ensureCovers amount = .ok ()

theorem Balance.credit_ok_or_overflow (b : Balance) (a : Amount) :
    (∃ balance, b.credit a = .ok balance) ∨ b.credit a = .error (.invalid .balanceOverflow) := by
  unfold credit
  cases b.credit? a with
  | none => exact Or.inr rfl
  | some balance => exact Or.inl ⟨balance, rfl⟩

namespace Statement

variable {ledger : Ledger} {row : Account} {failure : Failure}

theorem run_requireAccount (hrow : ledger.accounts[id]? = some row) :
    (requireAccount id).run ledger = (.ok row, ledger) :=
  run_requireAccount_ok_iff.2 ⟨hrow, rfl⟩

/-- An amount that does not go in to an account stops whatever was to follow. -/
theorem run_addBalance_bind_error {β : Type} (hrow : ledger.accounts[id]? = some row)
    (herror : row.balance.credit amount = .error failure) (f : Account → Statement β) :
    (addBalance id amount >>= f).run ledger = (.error failure, ledger) := by
  have hdeposit : row.deposit amount = .error failure := by
    rw [Account.deposit, herror]
    rfl
  have hadd : (addBalance id amount).run ledger = (.error failure, ledger) := by
    rw [addBalance, run_bind, run_requireAccount hrow]
    simp only [hdeposit]
    rfl
  rw [run_bind, hadd]

end Statement

namespace Ledger

open Statement

variable {ledger : Ledger} {tx : Transaction}

/-- A movement that comes to a value without its row is recorded under a new identifier. -/
private theorem record_of_moves {accounts : Table AccountId Account}
    (hmoves : tx.kind.Moves tx.amount ledger.accounts accounts)
    (hnew : ledger.transactions[tx.id]? = none) : ∃ changed, ledger.record tx = (.ok tx, changed) :=
  ⟨_, record_ok_iff.2 ⟨accounts, hmoves, hnew, rfl, rfl⟩⟩

private theorem record_error {failure : Failure} {left : Ledger}
    (hmove : (move tx.kind tx.amount).run ledger = (.error failure, left)) :
    ledger.record tx = (.error failure, ledger) := by
  have hrun : (Statement.record tx).run ledger = (.error failure, left) := by
    rw [Statement.record, run_bind, hmove]
  rw [Ledger.record, execute_eq _ _ (Or.inl (leavesCards_record tx).keepsCards), hrun]

/-- **A movement that its accounts are ready for is recorded, or the destination overflows.** -/
theorem record_of_ready (hready : tx.kind.Ready tx.amount ledger.accounts)
    (hnew : ledger.transactions[tx.id]? = none) :
    (∃ changed, ledger.record tx = (.ok tx, changed)) ∨
      ledger.record tx = (.error (.invalid .balanceOverflow), ledger) := by
  obtain ⟨key, amount, kind, flag, time⟩ := tx
  cases kind with
  | deposit destination =>
      obtain ⟨row, hrow⟩ := hready
      rcases row.balance.credit_ok_or_overflow amount with ⟨balance, hcredit⟩ | hover
      · exact Or.inl (record_of_moves ⟨row, balance, hrow, hcredit, rfl⟩ hnew)
      · exact Or.inr (record_error (run_addBalance_bind_error hrow hover _))
  | withdrawal source =>
      obtain ⟨row, hrow, hcovers⟩ := hready
      obtain ⟨balance, hdebit⟩ := Account.ensureCovers_ok_iff.1 hcovers
      exact Or.inl (record_of_moves ⟨row, balance, hrow, hdebit, rfl⟩ hnew)
  | transfer source destination =>
      obtain ⟨hne, payer, payee, hpayer, hpayee, hcurrency, hcovers⟩ := hready
      rcases payee.balance.credit_ok_or_overflow amount with ⟨credited, hcredit⟩ | hover
      · -- The credit leaves the source alone, which still covers the amount.
        obtain ⟨debited, hdebit⟩ := Account.ensureCovers_ok_iff.1 hcovers
        have hstill : (ledger.accounts.insert destination { payee with balance := credited })[source]? =
            some payer := by
          rw [Table.getElem?_insert_of_ne _ _ (Ne.symm hne)]
          exact hpayer
        exact Or.inl (record_of_moves ⟨hne, ⟨payer, payee, hpayer, hpayee, hcurrency⟩, _,
          ⟨payee, credited, hpayee, hcredit, rfl⟩, payer, debited, hstill, hdebit, rfl⟩ hnew)
      · have hmove : (move (.transfer source destination) amount).run ledger =
            (.error (.invalid .balanceOverflow), ledger) := by
          simp only [move, if_neg hne]
          rw [run_bind, run_requireAccount hpayer]
          simp only
          rw [run_bind, run_requireAccount hpayee]
          simp only [if_pos hcurrency]
          exact run_addBalance_bind_error hpayee hover _
        exact Or.inr (record_error hmove)

end Ledger

end Cashbook
