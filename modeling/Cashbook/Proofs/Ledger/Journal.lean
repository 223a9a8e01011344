/-
The journal accounts for every balance.

The transactions of a ledger are its journal.  Those that were rolled back do not
count; of the others, what came in to an account less what went out of it is what its
balance has changed by since it was opened.

The journal and the accounts are two tables, and each change of the ledger has to
treat both alike.  A transaction that is recorded moves its balances and joins the rows
that count, a transfer that is rolled back moves them back and leaves those rows, and
nothing else does either.  A closed account leaves its transactions behind, which is
harmless as long as its identifier is not given away again: a new account must not
find transactions of its own.  Rounding breaks the books, so the theorem is about
histories in which no change had to round.
-/
import Mathlib.Tactic.Abel
import Cashbook.Proofs.Ledger.WellFormed

namespace Cashbook

/-- Nothing is rounded when a change is carried out on a ledger. -/
def Change.IsExact (ledger : Ledger) : Change → Prop
  | .record tx => tx.kind.MovesExactly tx.amount ledger.accounts
  | .rollbackTransfer id => ∀ (tx : Transaction) (source destination : AccountId),
    ledger.transactions[id]? = some tx → tx.kind = .transfer source destination →
      (TransactionKind.transfer destination source).MovesExactly tx.amount ledger.accounts
  | .createAccount _ | .deleteAccount _ | .createCard _ | .deleteCard _ => True

instance (ledger : Ledger) (change : Change) : Decidable (change.IsExact ledger) :=
  match change with
  | .createAccount _ | .deleteAccount _ | .createCard _ | .deleteCard _ => isTrue trivial
  | .record tx => inferInstanceAs (Decidable (tx.kind.MovesExactly tx.amount ledger.accounts))
  | .rollbackTransfer id =>
    match htx : ledger.transactions[id]? with
    | none => isTrue fun tx source destination h => by simp [htx] at h
    | some old =>
      match hold : old.kind with
      | .deposit _ | .withdrawal _ => isTrue fun tx source destination h hkind => by
          rw [← Option.some.inj (htx.symm.trans h), hold] at hkind
          cases hkind
      | .transfer source destination => decidable_of_iff
          ((TransactionKind.transfer destination source).MovesExactly old.amount ledger.accounts)
          ⟨fun hexact tx s d h hkind => by
              rw [← Option.some.inj (htx.symm.trans h), hold] at hkind
              cases hkind
              rwa [← Option.some.inj (htx.symm.trans h)],
            fun hexact => hexact old source destination htx hold⟩

/-- Moving money back undoes the shift. -/
theorem TransactionKind.shift_transfer_comm (source destination : AccountId) (amount : Amount)
    (id : AccountId) :
    (transfer destination source).shift amount id =
      -(transfer source destination).shift amount id := by
  rw [shift, shift, Int.neg_sub]
  rfl

namespace Ledger

/-- The sum of the transactions not rolled back that have an account at one of their ends. -/
def moved (atEnd? : TransactionKind → Option AccountId) (ledger : Ledger) (id : AccountId) : Int :=
  ledger.transactions.total (fun tx => !tx.rolledBack && atEnd? tx.kind == some id)
    fun tx => tx.amount.units

/-- What came in to an account by transactions that were not rolled back. -/
def received (ledger : Ledger) (id : AccountId) : Int :=
  ledger.moved TransactionKind.destination? id

/-- What went out of an account by transactions that were not rolled back. -/
def spent (ledger : Ledger) (id : AccountId) : Int := ledger.moved TransactionKind.source? id

/-- Every account holds what it was opened with, and what the journal says since. -/
def Reconciled (ledger : Ledger) (opened : List Account) : Prop :=
  ∀ (id : AccountId) (row : Account), ledger.accounts[id]? = some row →
    ∃ first ∈ opened, first.id = id ∧
      row.balance.units = first.balance.units + ledger.received id - ledger.spent id

variable {ledger before after : Ledger} {change : Change} {opened : List Account}

/-! ### The rows that count -/

section

variable (atEnd? : TransactionKind → Option AccountId) (accounts : Table AccountId Account)
  (id : AccountId)

/-- A transaction that is recorded adds its amount at both its ends. -/
theorem moved_record {tx : Transaction} (hnew : ledger.transactions[tx.id]? = none)
    (hflag : tx.rolledBack = false) :
    moved atEnd? { ledger with accounts, transactions := ledger.transactions.insert tx.id tx } id =
      ledger.moved atEnd? id + if atEnd? tx.kind = some id then tx.amount.units else 0 := by
  rw [moved, Table.total_insert_of_new _ _ tx hnew, Int.add_comm]
  simp [moved, hflag]

/-- A transaction that is rolled back takes its amount away again. -/
theorem moved_rollback {key : TransactionId} {tx : Transaction}
    (htx : ledger.transactions[key]? = some tx) (hflag : tx.rolledBack = false) :
    moved atEnd? { ledger with
        accounts
        transactions := ledger.transactions.insert key { tx with rolledBack := true } } id =
      ledger.moved atEnd? id - if atEnd? tx.kind = some id then tx.amount.units else 0 := by
  have hsum := Table.total_insert_of_some
    (fun tx => !tx.rolledBack && atEnd? tx.kind == some id) (fun tx => tx.amount.units)
    { tx with rolledBack := true } htx
  rw [moved, moved, eq_sub_iff_add_eq]
  simpa [hflag] using hsum

/-- Nothing was moved at an account that no transaction touches. -/
theorem moved_of_untouched (hend : ∀ kind, atEnd? kind = some id → id ∈ kind.accounts)
    (h : ∀ (key : TransactionId) (tx : Transaction), ledger.transactions[key]? = some tx →
      id ∉ tx.kind.accounts) : ledger.moved atEnd? id = 0 := by
  refine Table.total_eq_zero _ _ ?_
  intro key tx htx
  have hne : atEnd? tx.kind ≠ some id := fun hid => h key tx htx (hend tx.kind hid)
  simp [hne]

end

/-! ### One change -/

/-- The books stay in order when balances and journal move by the same shift. -/
private theorem Reconciled.move (h : before.Reconciled opened) (shift : AccountId → Int)
    (halike : Alike before.accounts after.accounts)
    (hbalance : ∀ (id : AccountId) (row new : Account), before.accounts[id]? = some row →
      after.accounts[id]? = some new → new.balance.units = row.balance.units + shift id)
    (hjournal : ∀ id, after.received id - after.spent id =
      before.received id - before.spent id + shift id) : after.Reconciled opened := by
  intro id new hnew
  obtain ⟨row, hrow, -⟩ := halike.was hnew
  obtain ⟨first, hmem, hid, hsum⟩ := h id row hrow
  refine ⟨first, hmem, hid, ?_⟩
  have hb := hbalance id row new hrow hnew
  have hj := hjournal id
  omega

/--
Every change keeps the books in order, if it does not round and does not open an account
under an identifier that was given away before.
-/
theorem Reconciled.step (h : before.Reconciled opened) (hwell : before.WellFormed)
    (htrace : before.TracedTo opened) (he : change.Effect before after)
    (hflag : ∀ tx, change = .record tx → tx.rolledBack = false) (hexact : change.IsExact before)
    (hfresh : ∀ row, change.opening? = some row → ∀ first ∈ opened, first.id ≠ row.id) :
    after.Reconciled (opened ++ change.opening?.toList) := by
  cases change with
  | createAccount row =>
      obtain ⟨-, rfl⟩ := he
      intro id new hnew
      rcases Table.of_getElem?_insert hnew with ⟨rfl, rfl⟩ | ⟨-, hold⟩
      · -- No transaction touches the new account, as none touches an account that was never opened.
        have huntouched : ∀ (key : TransactionId) (tx : Transaction),
            before.transactions[key]? = some tx → new.id ∉ tx.kind.accounts := by
          intro key tx htx hid
          obtain ⟨first, hmem, hfirst⟩ := htrace.touched key tx htx new.id hid
          exact hfresh new rfl first hmem hfirst
        have hin : before.received new.id = 0 := moved_of_untouched _ _
          (fun kind hid => TransactionKind.mem_accounts_iff.2 (Or.inr hid)) huntouched
        have hout : before.spent new.id = 0 := moved_of_untouched _ _
          (fun kind hid => TransactionKind.mem_accounts_iff.2 (Or.inl hid)) huntouched
        refine ⟨new, by simp [Change.opening?], rfl, ?_⟩
        show new.balance.units = new.balance.units + before.received new.id - before.spent new.id
        omega
      · obtain ⟨first, hmem, hid, hsum⟩ := h id new hold
        exact ⟨first, List.mem_append_left _ hmem, hid, hsum⟩
  | deleteAccount id =>
      obtain ⟨-, rfl⟩ := he
      rw [Change.opening?, Option.toList_none, List.append_nil]
      exact fun k row hrow => h k row (Table.of_getElem?_erase hrow).2
  | createCard row =>
      obtain ⟨-, -, rfl⟩ := he
      rw [Change.opening?, Option.toList_none, List.append_nil]
      exact h
  | deleteCard number =>
      obtain ⟨-, rfl⟩ := he
      rw [Change.opening?, Option.toList_none, List.append_nil]
      exact h
  | record tx =>
      obtain ⟨accounts, hmoves, hnew, rfl⟩ := he
      rw [Change.opening?, Option.toList_none, List.append_nil]
      refine h.move (tx.kind.shift tx.amount) hmoves.alike
        (fun id row new hrow hnew => hmoves.units hexact hrow hnew)
        ?_
      intro id
      rw [received, spent, moved_record _ _ id hnew (hflag tx rfl),
        moved_record _ _ id hnew (hflag tx rfl), TransactionKind.shift, received, spent]
      abel
  | rollbackTransfer key =>
      obtain ⟨tx, source, destination, accounts, htx, hkind, hunset, hpass, rfl⟩ := he
      rw [Change.opening?, Option.toList_none, List.append_nil]
      have hne : source ≠ destination := hwell.transfersDistinct key tx source destination htx hkind
      refine h.move (fun id => -tx.kind.shift tx.amount id) hpass.alike ?_ ?_
      · intro id row new hrow hnew
        rw [hpass.units (Ne.symm hne) (hexact tx source destination htx hkind) hrow hnew, hkind,
          TransactionKind.shift_transfer_comm]
      · intro id
        rw [received, spent, moved_rollback _ _ id htx hunset, moved_rollback _ _ id htx hunset,
          TransactionKind.shift, received, spent]
        abel

theorem reconciled_empty : Reconciled .empty [] := fun _ _ h => absurd h (by simp [empty])

/-! ### Along a history -/

/--
**The journal accounts for every balance.**  Where no identifier of an account was given
away twice and no change had to round, every account holds exactly what it was opened
with, and what came in to it since less what went out, by transactions that were not
rolled back.
-/
theorem reconciled_after (changes : List Change)
    (hfresh : ((Ledger.opened changes .empty).map Account.id).Nodup)
    (hflag : ∀ tx, .record tx ∈ changes → tx.rolledBack = false)
    (hexact : ∀ success ∈ successes changes .empty, success.2.IsExact success.1) :
    (Ledger.after changes .empty).Reconciled (Ledger.opened changes .empty) := by
  have hrun := after_induction
    (P := fun sofar l => (l.WellFormed ∧ l.TracedTo sofar) ∧
      ((sofar.map Account.id).Nodup → l.Reconciled sofar)) changes [] .empty
    ⟨⟨wellFormed_empty, tracedTo_empty⟩, fun _ => reconciled_empty⟩ ?_
  · simpa using hrun.2 (by simpa using hfresh)
  intro success hmem sofar changed hbefore hok
  obtain ⟨met, change⟩ := success
  obtain ⟨⟨hwell, htrace⟩, hbooks⟩ := hbefore
  have he := (Change.carryOut_ok_iff hwell.cardsFiled).1 hok
  have hflag' : ∀ tx, change = .record tx → tx.rolledBack = false := by
    intro tx h
    subst h
    exact hflag tx (mem_of_mem_successes hmem)
  refine ⟨⟨hwell.step he hflag', htrace.step he⟩, ?_⟩
  intro hnodup
  rw [List.map_append, List.nodup_append] at hnodup
  refine (hbooks hnodup.1).step hwell htrace he hflag' (hexact _ hmem) ?_
  intro row hrow first hfirst heq
  exact hnodup.2.2 first.id (List.mem_map_of_mem hfirst) row.id (by simp [hrow]) heq

theorem reconciled_after_sample :
    (Ledger.after Sample.history .empty).Reconciled (Ledger.opened Sample.history .empty) :=
  reconciled_after Sample.history (by decide +kernel) Sample.rolledBack_of_mem_history
    (by decide +kernel)

end Ledger

end Cashbook
