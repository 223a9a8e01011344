/-
The journal only grows, and a transfer is reversed at most once.

Transactions are recorded under new identifiers and never removed, so the one thing that
can happen to a row of the journal is that it is marked, and the one change that marks it
is its own reversal.  What a row will be after any further requests is therefore known
but for one bit: whether its reversal succeeded among them.  `transaction_after` says
this as an equation.  That a second reversal fails is a consequence: the first left the
row marked, and a marked row is not reversed.

The other half is what a reversal does in its one step.  The mark, the credit and the
debit are three writes of one unit of work; either all are there afterwards or none is,
and a reversal that failed is no obstacle to a later one.
-/
import Cashbook.Proofs.Ledger.Conservation
import Cashbook.Proofs.Ledger.WellFormed

namespace Cashbook

/-- The transaction that a change reverses. -/
def Change.reversing? : Change → Option TransactionId
  | .rollbackTransfer id => some id
  | .createAccount _ | .deleteAccount _ | .createCard _ | .deleteCard _ | .record _ => none

theorem Change.reversing?_eq_some_iff {change : Change} {key : TransactionId} :
    change.reversing? = some key ↔ change = .rollbackTransfer key := by
  cases change <;> simp [reversing?]

namespace Ledger

/-- The transactions whose reversal succeeds, in the order of the reversals. -/
def reversed (changes : List Change) (ledger : Ledger) : List TransactionId :=
  (successes changes ledger).filterMap fun success => success.2.reversing?

/-- A row of the journal that is there before and after has its mark at one of the two times only. -/
def Flips (before after : Ledger) (key : TransactionId) : Prop :=
  ∃ tx new, before.transactions[key]? = some tx ∧ after.transactions[key]? = some new ∧
    tx.rolledBack ≠ new.rolledBack

/-- A transfer is reversed: its row is marked, the money goes back once, and that is all. -/
structure Reversal (before after : Ledger) (key : TransactionId) (tx : Transaction)
    (source destination : AccountId) : Prop where
  stored : before.transactions[key]? = some tx
  kind : tx.kind = .transfer source destination
  unmarked : tx.rolledBack = false
  distinct : source ≠ destination
  marked : after.transactions[key]? = some { tx with rolledBack := true }
  credited : CreditedAt tx.amount before.accounts after.accounts source
  debited : DebitedAt tx.amount before.accounts after.accounts destination
  otherAccounts : ∀ id : AccountId, id ≠ source → id ≠ destination →
    after.accounts[id]? = before.accounts[id]?
  otherTransactions : ∀ other : TransactionId, other ≠ key →
    after.transactions[other]? = before.transactions[other]?
  cards : after.cards = before.cards

/-- A transfer that is not marked, whose source takes the money and whose destination has it. -/
def Reversible (ledger : Ledger) (key : TransactionId) : Prop :=
  ∃ tx source destination, ledger.transactions[key]? = some tx ∧
    tx.kind = .transfer source destination ∧ tx.rolledBack = false ∧
      (∃ payer balance, ledger.accounts[source]? = some payer ∧
        payer.balance.credit tx.amount = .ok balance) ∧
      ∃ payee balance, ledger.accounts[destination]? = some payee ∧
        payee.balance.debit tx.amount = .ok balance

variable {ledger next before after : Ledger} {change : Change} {key : TransactionId}
  {tx row : Transaction}

/-! ### A row of the journal from one moment to another -/

/-- A change that succeeds adds to the reversals what it reverses. -/
theorem reversed_cons_ok {changed : Ledger} (h : change.carryOut ledger = (.ok (), changed))
    (rest : List Change) :
    reversed (change :: rest) ledger = change.reversing?.toList ++ reversed rest changed := by
  rw [reversed, (after_cons_ok h rest).2, List.filterMap_cons]
  cases change.reversing? <;> simp [reversed]

theorem reversed_cons_error {changed : Ledger} {failure : Failure}
    (h : change.carryOut ledger = (.error failure, changed)) (rest : List Change) :
    reversed (change :: rest) ledger = reversed rest ledger := by
  rw [reversed, (after_cons_error h rest).2, reversed]

/--
**A row of the journal stays.**  After any further requests it is there as it was, marked
if its reversal succeeded among them, which happens to transfers without a mark only.
-/
theorem transaction_after (more : List Change) (horder : ledger.InOrder)
    (htx : ledger.transactions[key]? = some tx) :
    (Ledger.after more ledger).transactions[key]? =
        some (if key ∈ reversed more ledger then { tx with rolledBack := true } else tx) ∧
      (key ∈ reversed more ledger → tx.kind.type = .transfer ∧ tx.rolledBack = false) := by
  induction more generalizing ledger tx with
  | nil => simpa [Ledger.after, reversed, successes] using htx
  | cons change rest ih =>
      rcases hc : change.carryOut ledger with ⟨outcome, changed⟩
      cases outcome with
      | error failure =>
          rw [(after_cons_error hc rest).1, reversed_cons_error hc]
          exact ih horder htx
      | ok value =>
          have he := (Change.carryOut_ok_iff horder.cardsFiled).1 hc
          have hmem : key ∈ reversed (change :: rest) ledger ↔
              change = .rollbackTransfer key ∨ key ∈ reversed rest changed := by
            simp [reversed_cons_ok hc, Change.reversing?_eq_some_iff]
          rw [(after_cons_ok hc rest).1]
          rcases he.transaction_cases htx with ⟨hne, hkept⟩ | ⟨rfl, htype, hflag, hmarked⟩
          · simp only [hmem, hne, false_or]
            exact ih (horder.step he) hkept
          · -- The row is marked from here on, and no later reversal concerns it.
            obtain ⟨hlater, -⟩ := ih (horder.step he) hmarked
            simp only [hmem, true_or, if_true]
            rw [hlater]
            exact ⟨by simp, fun _ => ⟨htype, hflag⟩⟩

/-- No transfer is reversed twice. -/
theorem nodup_reversed (changes : List Change) (horder : ledger.InOrder) :
    (reversed changes ledger).Nodup := by
  induction changes generalizing ledger with
  | nil => simp [reversed, successes]
  | cons change rest ih =>
      rcases hc : change.carryOut ledger with ⟨outcome, changed⟩
      cases outcome with
      | error failure =>
          rw [reversed_cons_error hc]
          exact ih horder
      | ok value =>
          have he := (Change.carryOut_ok_iff horder.cardsFiled).1 hc
          have hrest := ih (horder.step he)
          rw [reversed_cons_ok hc]
          cases hkey : change.reversing? with
          | none => simpa using hrest
          | some key =>
              obtain rfl := Change.reversing?_eq_some_iff.1 hkey
              have horder' := horder.step he
              obtain ⟨tx, source, destination, accounts, -, -, -, -, rfl⟩ := he
              refine List.nodup_cons.2 ⟨?_, hrest⟩
              intro hagain
              -- The first reversal left a mark, and only rows without one are reversed.
              have hunmarked := (transaction_after rest horder'
                Std.ExtTreeMap.getElem?_insert_self).2 hagain
              exact absurd hunmarked.2 (by simp)

/-! ### The step in which a transfer is reversed -/

/-- A reversal succeeds exactly if it can do all that a reversal does, and then it does that. -/
theorem rollbackTransfer_ok_iff_reversal (hdistinct : ledger.TransfersDistinct) :
    ledger.rollbackTransfer key = (.ok row, next) ↔
      ∃ tx source destination, row = { tx with rolledBack := true } ∧
        Reversal ledger next key tx source destination := by
  rw [rollbackTransfer_ok_iff]
  constructor
  · intro h
    obtain ⟨tx, source, destination, accounts, htx, hkind, hflag, hpass, rfl, rfl⟩ := h
    have hne := hdistinct key tx source destination htx hkind
    obtain ⟨hdebit, hcredit, hothers⟩ := (passed_iff hne.symm).1 hpass
    exact ⟨tx, source, destination, rfl, {
      stored := htx
      kind := hkind
      unmarked := hflag
      distinct := hne
      marked := Std.ExtTreeMap.getElem?_insert_self
      credited := hcredit
      debited := hdebit
      otherAccounts := fun id hsource hdestination => hothers id hdestination hsource
      otherTransactions := fun other hother => Table.getElem?_insert_of_ne _ _ hother.symm
      cards := rfl }⟩
  · intro h
    obtain ⟨tx, source, destination, rfl, hr⟩ := h
    refine ⟨tx, source, destination, next.accounts, hr.stored, hr.kind, hr.unmarked,
      (passed_iff hr.distinct.symm).2 ⟨hr.debited, hr.credited,
        fun id hdestination hsource => hr.otherAccounts id hsource hdestination⟩, rfl, ?_⟩
    have htransactions :
        ledger.transactions.insert key { tx with rolledBack := true } = next.transactions := by
      refine Table.ext_getElem? ?_
      intro k
      by_cases hk : k = key
      · rw [hk, hr.marked, Std.ExtTreeMap.getElem?_insert_self]
      · rw [hr.otherTransactions k hk, Table.getElem?_insert_of_ne _ _ (Ne.symm hk)]
    rw [htransactions, ← hr.cards]

/-- A change that reverses a transfer does just what a reversal does. -/
theorem exists_reversal (hdistinct : before.TransfersDistinct)
    (he : (Change.rollbackTransfer key).Effect before after) :
    ∃ tx source destination, Reversal before after key tx source destination := by
  obtain ⟨tx, source, destination, accounts, htx, hkind, hflag, hpass, hafter⟩ := he
  have hok : before.rollbackTransfer key = (.ok { tx with rolledBack := true }, after) :=
    rollbackTransfer_ok_iff.2
      ⟨tx, source, destination, accounts, htx, hkind, hflag, hpass, rfl, hafter.symm⟩
  obtain ⟨tx, source, destination, -, hreversal⟩ := (rollbackTransfer_ok_iff_reversal hdistinct).1 hok
  exact ⟨tx, source, destination, hreversal⟩

/-- Whether a reversal succeeds depends on three rows as they are now. -/
theorem exists_rollbackTransfer_ok_iff (hdistinct : ledger.TransfersDistinct) :
    (∃ row next, ledger.rollbackTransfer key = (.ok row, next)) ↔ ledger.Reversible key := by
  constructor
  · intro h
    obtain ⟨row, next, hok⟩ := h
    obtain ⟨tx, source, destination, -, hr⟩ := (rollbackTransfer_ok_iff_reversal hdistinct).1 hok
    obtain ⟨payer, credited, hpayer, hup, -⟩ := hr.credited
    obtain ⟨payee, debited, hpayee, hdown, -⟩ := hr.debited
    exact ⟨tx, source, destination, hr.stored, hr.kind, hr.unmarked, ⟨payer, credited, hpayer, hup⟩,
      payee, debited, hpayee, hdown⟩
  · intro h
    obtain ⟨tx, source, destination, htx, hkind, hflag, ⟨payer, credited, hpayer, hup⟩,
      payee, debited, hpayee, hdown⟩ := h
    have hne := hdistinct key tx source destination htx hkind
    -- The credit leaves the destination alone, which still has the money.
    have hstill : (ledger.accounts.insert source { payer with balance := credited })[destination]? =
        some payee := by rwa [Table.getElem?_insert_of_ne _ _ hne]
    exact ⟨_, _, rollbackTransfer_ok_iff.2 ⟨tx, source, destination, _, htx, hkind, hflag,
      ⟨_, ⟨payer, credited, hpayer, hup, rfl⟩, payee, debited, hstill, hdown, rfl⟩, rfl, rfl⟩⟩

/-- A row of the journal gets its mark in the step in which it is reversed, and in no other. -/
theorem flips_iff (horder : ledger.InOrder) :
    Flips ledger (change.carryOut ledger).2 key ↔
      change = .rollbackTransfer key ∧ (change.carryOut ledger).1 = .ok () := by
  rcases hc : change.carryOut ledger with ⟨outcome, changed⟩
  cases outcome with
  | error failure =>
      obtain rfl := Change.carryOut_error hc
      simp only [reduceCtorEq, and_false, iff_false]
      intro h
      obtain ⟨tx, new, htx, hnew, hne⟩ := h
      obtain rfl := Option.some.inj (htx.symm.trans hnew)
      exact hne rfl
  | ok value =>
      have he := (Change.carryOut_ok_iff horder.cardsFiled).1 hc
      constructor
      · intro h
        obtain ⟨tx, new, htx, hnew, hne⟩ := h
        rcases he.transaction_cases htx with ⟨-, hkept⟩ | ⟨hchange, -⟩
        · obtain rfl := Option.some.inj (hnew.symm.trans hkept)
          exact absurd rfl hne
        · exact ⟨hchange, rfl⟩
      · intro h
        obtain ⟨rfl, -⟩ := h
        obtain ⟨tx, source, destination, accounts, htx, -, hflag, -, rfl⟩ := he
        exact ⟨tx, _, htx, Std.ExtTreeMap.getElem?_insert_self, by simp [hflag]⟩

/-! ### Along a history -/

/--
**The journal is append-only and each transfer is reversed at most once.**  On a ledger
with a history, and after any further requests, a row of the journal is what it was but
for the mark of a reversal that succeeded in between, and only a transfer without a mark
is ever reversed.  No transfer is reversed twice in a history.  A row gets its mark in
the step in which its reversal succeeds and in no other, and in that step the source is
credited and the destination debited with the amount, once, while all else stays.  A
reversal that fails changes nothing, and one that is tried later succeeds or not by the
rows that it meets then.
-/
theorem appendOnly_after (changes more : List Change) :
    let ledger := Ledger.after changes .empty
    (∀ (key : TransactionId) (tx : Transaction), ledger.transactions[key]? = some tx →
      (Ledger.after more ledger).transactions[key]? =
          some (if key ∈ reversed more ledger then { tx with rolledBack := true } else tx) ∧
        (key ∈ reversed more ledger → tx.kind.type = .transfer ∧ tx.rolledBack = false)) ∧
    (reversed changes .empty).Nodup ∧
    (∀ (change : Change) (key : TransactionId), Flips ledger (change.carryOut ledger).2 key ↔
      change = .rollbackTransfer key ∧ (change.carryOut ledger).1 = .ok ()) ∧
    (∀ key row next, ledger.rollbackTransfer key = (.ok row, next) ↔
      ∃ tx source destination, row = { tx with rolledBack := true } ∧
        Reversal ledger next key tx source destination) ∧
    (∀ key failure next, ledger.rollbackTransfer key = (.error failure, next) → next = ledger) ∧
    ∀ key, (∃ row next, ledger.rollbackTransfer key = (.ok row, next)) ↔ ledger.Reversible key := by
  intro ledger
  obtain ⟨horder, hdistinct⟩ := inOrder_and_transfersDistinct_after changes
    wellFormed_empty.toInOrder wellFormed_empty.transfersDistinct
  refine ⟨?_, nodup_reversed changes wellFormed_empty.toInOrder, ?_, ?_, ?_, ?_⟩
  · exact fun key tx htx => transaction_after more horder htx
  · exact fun change key => flips_iff horder
  · exact fun key row next => rollbackTransfer_ok_iff_reversal hdistinct
  · exact fun key failure next h => execute_error h
  · exact fun key => exists_rollbackTransfer_ok_iff hdistinct

/-- A transfer that is reversed, and then cannot be reversed again. -/
theorem appendOnly_after_sample :
    let ledger := Ledger.after (Sample.history.take 6) .empty
    let transfer := Sample.transaction 2 (.transfer Sample.alice Sample.bob)
    let later := Ledger.after (Sample.history.drop 6) ledger
    reversed (Sample.history.drop 6) ledger = [transfer.id] ∧
      later.transactions[transfer.id]? = some { transfer with rolledBack := true } ∧
        Reversal ledger (ledger.rollbackTransfer transfer.id).2 transfer.id transfer Sample.alice
          Sample.bob ∧
          ¬later.Reversible transfer.id := by
  intro ledger transfer later
  obtain ⟨hrows, -, -, hreversal, -, -⟩ :=
    appendOnly_after (Sample.history.take 6) (Sample.history.drop 6)
  have hreversed : reversed (Sample.history.drop 6) ledger = [transfer.id] := by decide +kernel
  have hrow : later.transactions[transfer.id]? = some { transfer with rolledBack := true } := by
    obtain ⟨hlater, -⟩ := hrows transfer.id transfer (by decide +kernel)
    rw [hlater, if_pos (by rw [hreversed]; exact List.mem_singleton_self _)]
  refine ⟨hreversed, hrow, ?_, ?_⟩
  · have hok : ledger.rollbackTransfer transfer.id =
        (.ok { transfer with rolledBack := true }, (ledger.rollbackTransfer transfer.id).2) :=
      eq_ok_of_toOption (by decide +kernel)
    obtain ⟨tx, source, destination, -, hr⟩ := (hreversal _ _ _).1 hok
    have htx : ledger.transactions[transfer.id]? = some transfer := by decide +kernel
    obtain rfl := Option.some.inj (htx.symm.trans hr.stored)
    obtain ⟨rfl, rfl⟩ := TransactionKind.transfer.inj hr.kind
    exact hr
  · intro h
    obtain ⟨tx, source, destination, htx, -, hflag, -⟩ := h
    obtain rfl := Option.some.inj (hrow.symm.trans htx)
    exact absurd hflag (by simp)

end Ledger

end Cashbook
