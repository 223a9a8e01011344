/-
When statements succeed, and what they then leave.

For each statement there is one lemma of the form "it comes to this value and leaves
this ledger if and only if ...", where the right-hand side speaks of rows and tables
only.  Nothing later opens a statement again.

Money moves by two steps, one account credited and one debited, and the two are one
notion: an account whose balance goes through a function that may fail.
-/
import Cashbook.Proofs.Statement.Run

namespace Cashbook

/-! ### Rows whose balance changes -/

/-- The accounts after the balance of one of them went through `f`. -/
def Rebalanced (f : Balance → Outcome Balance) (id : AccountId)
    (before after : Table AccountId Account) : Prop :=
  ∃ row balance, before[id]? = some row ∧ f row.balance = .ok balance ∧
    after = before.insert id { row with balance }

/-- The accounts after an amount came in to one of them. -/
def Credited (amount : Amount) :
    AccountId → Table AccountId Account → Table AccountId Account → Prop :=
  Rebalanced fun balance => balance.credit amount

/-- The accounts after an amount went out of one of them. -/
def Debited (amount : Amount) :
    AccountId → Table AccountId Account → Table AccountId Account → Prop :=
  Rebalanced fun balance => balance.debit amount

/-- The accounts after an amount left one of them for another. -/
def Passed (amount : Amount) (source destination : AccountId)
    (before after : Table AccountId Account) : Prop :=
  ∃ between, Credited amount destination before between ∧ Debited amount source between after

/-- The accounts after the money of a transaction moved. -/
def TransactionKind.Moves (amount : Amount) (before after : Table AccountId Account) :
    TransactionKind → Prop
  | .transfer source destination =>
    source ≠ destination ∧
      (∃ payer payee, before[source]? = some payer ∧ before[destination]? = some payee ∧
        payer.currency = payee.currency) ∧
      Passed amount source destination before after
  | .deposit destination => Credited amount destination before after
  | .withdrawal source => Debited amount source before after

namespace Account

theorem deposit_ok_iff {account changed : Account} {amount : Amount} :
    account.deposit amount = .ok changed ↔
      ∃ balance, account.balance.credit amount = .ok balance ∧
        changed = { account with balance } := by
  unfold deposit
  cases account.balance.credit amount <;> simp [Except.map, eq_comm]

theorem withdraw_ok_iff {account changed : Account} {amount : Amount} :
    account.withdraw amount = .ok changed ↔
      ∃ balance, account.balance.debit amount = .ok balance ∧
        changed = { account with balance } := by
  unfold withdraw
  cases account.balance.debit amount <;> simp [Except.map, eq_comm]

theorem ensureOwnedBy_ok_iff {account : Account} {owner : OwnerId} :
    account.ensureOwnedBy owner = .ok () ↔ account.owner = owner := by
  unfold ensureOwnedBy
  by_cases h : account.owner = owner <;> simp [h]

theorem ensureCovers_ok_iff {account : Account} {amount : Amount} :
    account.ensureCovers amount = .ok () ↔
      ∃ balance, account.balance.debit amount = .ok balance := by
  unfold ensureCovers
  cases account.balance.debit amount <;> simp [Except.map]

end Account

namespace Transaction

theorem ensureReversible_ok_iff {tx : Transaction} {source destination : AccountId} :
    tx.ensureReversible = .ok (source, destination) ↔
      tx.kind = .transfer source destination ∧ tx.rolledBack = false := by
  unfold ensureReversible
  cases tx.kind with
  | transfer s d => cases tx.rolledBack <;> simp
  | deposit d => simp
  | withdrawal s => simp

theorem markRolledBack_ok_iff {tx marked : Transaction} :
    tx.markRolledBack = .ok marked ↔
      (∃ source destination, tx.kind = .transfer source destination) ∧ tx.rolledBack = false ∧
        marked = { tx with rolledBack := true } := by
  unfold markRolledBack ensureReversible
  cases tx.kind with
  | transfer s d => cases tx.rolledBack <;> simp [Except.map, eq_comm]
  | deposit d => simp [Except.map]
  | withdrawal s => simp [Except.map]

end Transaction

/-! ### Statements one after another -/

namespace Statement

variable {α β : Type} {ledger changed : Ledger}

theorem run_bind (s : Statement α) (f : α → Statement β) (ledger : Ledger) :
    (s >>= f).run ledger =
      match s.run ledger with
      | (.ok value, between) => (f value).run between
      | (.error failure, between) => (.error failure, between) := by
  show (s.bind f).run ledger = _
  induction s generalizing ledger with
  | done value => rfl
  | fail failure => rfl
  | account id next ih => exact ih _ _
  | card number next ih => exact ih _ _
  | transaction id next ih => exact ih _ _
  | setAccount id row next ih => exact ih _
  | setCard number row next ih => exact ih _
  | setTransaction id row next ih => exact ih _
  | dropCards owner next ih => exact ih _

/-- Two statements succeed if the first does, and the second does on what the first leaves. -/
theorem run_bind_ok_iff {s : Statement α} {f : α → Statement β} {result : β} :
    (s >>= f).run ledger = (.ok result, changed) ↔
      ∃ value between, s.run ledger = (.ok value, between) ∧
        (f value).run between = (.ok result, changed) := by
  rw [run_bind]
  rcases s.run ledger with ⟨outcome, between⟩
  cases outcome <;> simp

@[simp] theorem run_pure_ok_iff {value result : α} :
    (pure value : Statement α).run ledger = (.ok result, changed) ↔
      value = result ∧ ledger = changed := by
  show (Except.ok value, ledger) = _ ↔ _
  simp

@[simp] theorem run_done_ok_iff {value result : α} :
    (done value).run ledger = (.ok result, changed) ↔ value = result ∧ ledger = changed :=
  run_pure_ok_iff

@[simp] theorem run_fail_ok_iff {failure : Failure} {result : α} :
    (fail failure : Statement α).run ledger = (.ok result, changed) ↔ False := by
  show (Except.error failure, ledger) = _ ↔ _
  simp

@[simp] theorem run_ofOutcome_ok_iff {outcome : Outcome α} {result : α} :
    (ofOutcome outcome).run ledger = (.ok result, changed) ↔
      outcome = .ok result ∧ ledger = changed := by
  cases outcome <;> simp [ofOutcome]

theorem run_findAccount (id : AccountId) :
    (findAccount id).run ledger = (.ok ledger.accounts[id]?, ledger) := rfl

theorem run_findCard (number : CardNumber) :
    (findCard number).run ledger = (.ok ledger.cards[number]?, ledger) := rfl

theorem run_findTransaction (id : TransactionId) :
    (findTransaction id).run ledger = (.ok ledger.transactions[id]?, ledger) := rfl

/-! ### Accounts -/

theorem run_requireAccount_ok_iff {id : AccountId} {row : Account} :
    (requireAccount id).run ledger = (.ok row, changed) ↔
      ledger.accounts[id]? = some row ∧ ledger = changed := by
  rw [requireAccount, run_bind, run_findAccount]
  cases ledger.accounts[id]? <;> simp

theorem run_insertAccount_ok_iff {row : Account} :
    (insertAccount row).run ledger = (.ok (), changed) ↔
      ledger.accounts[row.id]? = none ∧ ledger.setAccount row.id (some row) = changed := by
  rw [insertAccount, run_bind, run_findAccount]
  cases ledger.accounts[row.id]? <;> simp [putAccount, run]

theorem run_deleteAccount_ok_iff {id : AccountId} {row : Account} :
    (deleteAccount id).run ledger = (.ok row, changed) ↔
      ledger.accounts[id]? = some row ∧ row.balance.isZero = true ∧
        (ledger.dropCards id).setAccount id none = changed := by
  rw [deleteAccount, run_bind_ok_iff]
  constructor
  · intro h
    obtain ⟨found, between, hfound, hrest⟩ := h
    obtain ⟨hrow, rfl⟩ := run_requireAccount_ok_iff.1 hfound
    split at hrest
    · next hz =>
      obtain ⟨rfl, rfl⟩ := run_done_ok_iff.1 hrest
      exact ⟨hrow, hz, rfl⟩
    · exact absurd hrest (by simp)
  · intro h
    obtain ⟨hrow, hz, rfl⟩ := h
    refine ⟨row, ledger, run_requireAccount_ok_iff.2 ⟨hrow, rfl⟩, ?_⟩
    rw [if_pos hz]
    rfl

/-- Both changes of a balance are a look-up, a calculation that may fail, and a write. -/
private theorem run_rebalance_ok_iff {id : AccountId} {f : Account → Outcome Account}
    {row : Account} :
    (requireAccount id >>= fun old => ofOutcome (f old) >>= fun new =>
        .setAccount id (some new) (.done new)).run ledger = (.ok row, changed) ↔
      ∃ old, ledger.accounts[id]? = some old ∧ f old = .ok row ∧
        changed = ledger.setAccount id (some row) := by
  simp only [run_bind_ok_iff, run_requireAccount_ok_iff, run_ofOutcome_ok_iff]
  constructor
  · intro h
    obtain ⟨old, _, ⟨hold, rfl⟩, new, _, ⟨hnew, rfl⟩, hrest⟩ := h
    obtain ⟨rfl, rfl⟩ := run_done_ok_iff.1 hrest
    exact ⟨old, hold, hnew, rfl⟩
  · intro h
    obtain ⟨old, hold, hnew, rfl⟩ := h
    exact ⟨old, ledger, ⟨hold, rfl⟩, row, ledger, ⟨hnew, rfl⟩, rfl⟩

/-- A credit, and then another statement that does not look at the credited row. -/
theorem run_addBalance_bind_ok_iff {id : AccountId} {amount : Amount} {rest : Statement β}
    {result : β} :
    (addBalance id amount >>= fun _ => rest).run ledger = (.ok result, changed) ↔
      ∃ accounts, Credited amount id ledger.accounts accounts ∧
        rest.run { ledger with accounts } = (.ok result, changed) := by
  simp only [addBalance, run_bind_ok_iff (f := fun _ : Account => rest), run_rebalance_ok_iff,
    Account.deposit_ok_iff]
  constructor
  · intro h
    obtain ⟨_, _, ⟨old, hold, ⟨balance, hb, rfl⟩, rfl⟩, hrest⟩ := h
    exact ⟨_, ⟨old, balance, hold, hb, rfl⟩, hrest⟩
  · intro h
    obtain ⟨_, ⟨old, balance, hold, hb, rfl⟩, hrest⟩ := h
    exact ⟨_, _, ⟨old, hold, ⟨balance, hb, rfl⟩, rfl⟩, hrest⟩

/-- A debit, and then another statement that does not look at the debited row. -/
theorem run_subtractBalance_bind_ok_iff {id : AccountId} {amount : Amount} {rest : Statement β}
    {result : β} :
    (subtractBalance id amount >>= fun _ => rest).run ledger = (.ok result, changed) ↔
      ∃ accounts, Debited amount id ledger.accounts accounts ∧
        rest.run { ledger with accounts } = (.ok result, changed) := by
  simp only [subtractBalance, run_bind_ok_iff (f := fun _ : Account => rest), run_rebalance_ok_iff,
    Account.withdraw_ok_iff]
  constructor
  · intro h
    obtain ⟨_, _, ⟨old, hold, ⟨balance, hb, rfl⟩, rfl⟩, hrest⟩ := h
    exact ⟨_, ⟨old, balance, hold, hb, rfl⟩, hrest⟩
  · intro h
    obtain ⟨_, ⟨old, balance, hold, hb, rfl⟩, hrest⟩ := h
    exact ⟨_, _, ⟨old, hold, ⟨balance, hb, rfl⟩, rfl⟩, hrest⟩

/-! ### Cards -/

theorem run_insertCard_ok_iff {row : Card} :
    (insertCard row).run ledger = (.ok (), changed) ↔
      (∃ account, ledger.accounts[row.account]? = some account) ∧
        ledger.cards[row.number]? = none ∧ ledger.setCard row.number (some row) = changed := by
  rw [insertCard, run_bind, requireAccount, run_bind, run_findAccount]
  cases ledger.accounts[row.account]? with
  | none => simp [run]
  | some account =>
      show (findCard row.number >>= _).run ledger = _ ↔ _
      rw [run_bind, run_findCard]
      cases ledger.cards[row.number]? <;> simp [run]

theorem run_deleteCard_ok_iff {number : CardNumber} {row : Card} :
    (deleteCard number).run ledger = (.ok row, changed) ↔
      ledger.cards[number]? = some row ∧ ledger.setCard number none = changed := by
  rw [deleteCard, run_bind, run_findCard]
  cases ledger.cards[number]? <;> simp [run]

/-! ### Transactions -/

theorem run_insertTransaction_ok_iff {row : Transaction} :
    (insertTransaction row).run ledger = (.ok (), changed) ↔
      ledger.transactions[row.id]? = none ∧ ledger.setTransaction row.id row = changed := by
  rw [insertTransaction, run_bind, run_findTransaction]
  cases ledger.transactions[row.id]? <;> simp [putTransaction, run]

theorem run_markRolledBack_ok_iff {id : TransactionId} {marked : Transaction} :
    (markRolledBack id).run ledger = (.ok marked, changed) ↔
      ∃ tx, ledger.transactions[id]? = some tx ∧
        (∃ source destination, tx.kind = .transfer source destination) ∧ tx.rolledBack = false ∧
          marked = { tx with rolledBack := true } ∧ changed = ledger.setTransaction id marked := by
  rw [markRolledBack, run_bind, run_findTransaction]
  cases ledger.transactions[id]? with
  | none => simp
  | some tx =>
      show (ofOutcome tx.markRolledBack >>= _).run ledger = _ ↔ _
      simp only [run_bind_ok_iff, run_ofOutcome_ok_iff, Transaction.markRolledBack_ok_iff]
      constructor
      · intro h
        obtain ⟨_, _, ⟨⟨hkind, hflag, rfl⟩, rfl⟩, hrest⟩ := h
        obtain ⟨rfl, rfl⟩ := run_done_ok_iff.1 hrest
        exact ⟨tx, rfl, hkind, hflag, rfl, rfl⟩
      · intro h
        obtain ⟨tx', htx, hkind, hflag, rfl, rfl⟩ := h
        obtain rfl := Option.some.inj htx
        exact ⟨_, ledger, ⟨⟨hkind, hflag, rfl⟩, rfl⟩, rfl⟩

/-- Crediting one account and debiting another, and then another statement. -/
theorem run_pass_bind_ok_iff {source destination : AccountId} {amount : Amount} {rest : Statement β}
    {result : β} :
    (addBalance destination amount >>= fun _ => subtractBalance source amount >>= fun _ =>
        rest).run ledger = (.ok result, changed) ↔
      ∃ accounts, Passed amount source destination ledger.accounts accounts ∧
        rest.run { ledger with accounts } = (.ok result, changed) := by
  simp only [run_addBalance_bind_ok_iff, run_subtractBalance_bind_ok_iff]
  constructor
  · intro h
    obtain ⟨between, hcredit, after, hdebit, hrest⟩ := h
    exact ⟨after, ⟨between, hcredit, hdebit⟩, hrest⟩
  · intro h
    obtain ⟨after, ⟨between, hcredit, hdebit⟩, hrest⟩ := h
    exact ⟨between, hcredit, after, hdebit, hrest⟩

theorem run_move_ok_iff {kind : TransactionKind} {amount : Amount} :
    (move kind amount).run ledger = (.ok (), changed) ↔
      ∃ accounts, kind.Moves amount ledger.accounts accounts ∧
        { ledger with accounts } = changed := by
  cases kind with
  | deposit destination =>
      simp only [move, run_addBalance_bind_ok_iff, run_pure_ok_iff, true_and]
      rfl
  | withdrawal source =>
      simp only [move, run_subtractBalance_bind_ok_iff, run_pure_ok_iff, true_and]
      rfl
  | transfer source destination =>
      simp only [move]
      by_cases hself : source = destination
      · simp [TransactionKind.Moves, hself]
      rw [if_neg hself]
      simp only [run_bind_ok_iff (f := fun _ : Account => _), run_requireAccount_ok_iff]
      constructor
      · intro h
        obtain ⟨payer, _, ⟨hpayer, rfl⟩, payee, _, ⟨hpayee, rfl⟩, hrest⟩ := h
        split at hrest
        · next hc =>
          obtain ⟨accounts, hpass, hchanged⟩ := run_pass_bind_ok_iff.1 hrest
          exact ⟨accounts, ⟨hself, ⟨payer, payee, hpayer, hpayee, hc⟩, hpass⟩,
            (run_pure_ok_iff.1 hchanged).2⟩
        · exact absurd hrest (by simp)
      · intro h
        obtain ⟨accounts, ⟨-, ⟨payer, payee, hpayer, hpayee, hc⟩, hpass⟩, rfl⟩ := h
        refine ⟨payer, ledger, ⟨hpayer, rfl⟩, payee, ledger, ⟨hpayee, rfl⟩, ?_⟩
        rw [if_pos hc]
        exact run_pass_bind_ok_iff.2 ⟨accounts, hpass, rfl⟩

theorem run_record_ok_iff {tx row : Transaction} :
    (record tx).run ledger = (.ok row, changed) ↔
      ∃ accounts, tx.kind.Moves tx.amount ledger.accounts accounts ∧
        ledger.transactions[tx.id]? = none ∧ tx = row ∧
          { ledger with
            accounts
            transactions := ledger.transactions.insert tx.id tx } = changed := by
  constructor
  · intro h
    obtain ⟨⟨⟩, _, hmove, hrest⟩ := run_bind_ok_iff.1 h
    obtain ⟨accounts, hmoves, rfl⟩ := run_move_ok_iff.1 hmove
    obtain ⟨⟨⟩, _, hinsert, hdone⟩ := run_bind_ok_iff.1 hrest
    obtain ⟨hnew, rfl⟩ := run_insertTransaction_ok_iff.1 hinsert
    obtain ⟨rfl, rfl⟩ := run_pure_ok_iff.1 hdone
    exact ⟨accounts, hmoves, hnew, rfl, rfl⟩
  · intro h
    obtain ⟨accounts, hmoves, hnew, rfl, rfl⟩ := h
    exact run_bind_ok_iff.2 ⟨(), _, run_move_ok_iff.2 ⟨accounts, hmoves, rfl⟩,
      run_bind_ok_iff.2 ⟨(), _, run_insertTransaction_ok_iff.2 ⟨hnew, rfl⟩, rfl⟩⟩

theorem run_reverseTransfer_ok_iff {id : TransactionId} {row : Transaction} :
    (reverseTransfer id).run ledger = (.ok row, changed) ↔
      ∃ tx source destination accounts, ledger.transactions[id]? = some tx ∧
        tx.kind = .transfer source destination ∧ tx.rolledBack = false ∧
          Passed tx.amount destination source ledger.accounts accounts ∧
            row = { tx with rolledBack := true } ∧
              { ledger with
                accounts
                transactions := ledger.transactions.insert id row } = changed := by
  constructor
  · intro h
    obtain ⟨_, _, hmark, hrest⟩ := run_bind_ok_iff.1 h
    obtain ⟨tx, htx, ⟨source, destination, hkind⟩, hflag, rfl, rfl⟩ :=
      run_markRolledBack_ok_iff.1 hmark
    obtain ⟨_, amount, kind, flag, createdAt⟩ := tx
    change kind = _ at hkind
    subst hkind
    obtain ⟨accounts, hpass, hchanged⟩ := run_pass_bind_ok_iff.1 hrest
    obtain ⟨rfl, rfl⟩ := run_pure_ok_iff.1 hchanged
    exact ⟨_, source, destination, accounts, htx, rfl, hflag, hpass, rfl, rfl⟩
  · intro h
    obtain ⟨tx, source, destination, accounts, htx, hkind, hflag, hpass, rfl, rfl⟩ := h
    obtain ⟨_, amount, kind, flag, createdAt⟩ := tx
    change kind = _ at hkind
    subst hkind
    refine run_bind_ok_iff.2 ⟨_, _, run_markRolledBack_ok_iff.2
      ⟨_, htx, ⟨source, destination, rfl⟩, hflag, rfl, rfl⟩, ?_⟩
    exact run_pass_bind_ok_iff.2 ⟨accounts, hpass, rfl⟩

end Statement

end Cashbook
