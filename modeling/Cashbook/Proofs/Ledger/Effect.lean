/-
What each change of a ledger does.

A ledger is changed in six ways, each a unit of work around one statement.  For each
of them one lemma says when it succeeds and which rows it then replaces.  That it does
nothing when it fails is `execute_error`, once for all six.
-/
import Cashbook.Proofs.Statement.Success

namespace Cashbook

/-! ### Statements that leave cards alone

All statements but three neither store a card nor remove one, so that they need not be
asked where cards are filed.
-/

namespace Statement

variable {α β : Type}

/-- Whether the statement neither stores a card nor removes one. -/
def LeavesCards : Statement α → Prop
  | .done _ | .fail _ => True
  | .account _ next => ∀ row, (next row).LeavesCards
  | .card _ next => ∀ row, (next row).LeavesCards
  | .transaction _ next => ∀ row, (next row).LeavesCards
  | .setAccount _ _ next => next.LeavesCards
  | .setTransaction _ _ next => next.LeavesCards
  | .setCard .. | .dropCards .. => False

theorem LeavesCards.keepsCards {s : Statement α} (h : s.LeavesCards) : s.KeepsCards := by
  induction s with
  | done value => trivial
  | fail failure => trivial
  | account id next ih => exact fun row => ih row (h row)
  | card number next ih => exact fun row => ih row (h row)
  | transaction id next ih => exact fun row => ih row (h row)
  | setAccount id row next ih => exact ih h
  | setTransaction id row next ih => exact ih h
  | setCard number row next ih => exact h.elim
  | dropCards owner next ih => exact h.elim

theorem LeavesCards.filesCards {s : Statement α} (h : s.LeavesCards) : s.FilesCards := by
  induction s with
  | done value => trivial
  | fail failure => trivial
  | account id next ih => exact fun row => ih row (h row)
  | card number next ih => exact fun row => ih row (h row)
  | transaction id next ih => exact fun row => ih row (h row)
  | setAccount id row next ih => exact ih h
  | setTransaction id row next ih => exact ih h
  | setCard number row next ih => exact h.elim
  | dropCards owner next ih => exact h.elim

theorem leavesCards_bind {s : Statement α} {f : α → Statement β} (hs : s.LeavesCards)
    (hf : ∀ value, (f value).LeavesCards) : (s >>= f).LeavesCards := by
  show (s.bind f).LeavesCards
  induction s with
  | done value => exact hf value
  | fail failure => trivial
  | account id next ih => exact fun row => ih row (hs row)
  | card number next ih => exact fun row => ih row (hs row)
  | transaction id next ih => exact fun row => ih row (hs row)
  | setAccount id row next ih => exact ih hs
  | setTransaction id row next ih => exact ih hs
  | setCard number row next ih => exact hs.elim
  | dropCards owner next ih => exact hs.elim

theorem leavesCards_ofOutcome (outcome : Outcome α) : (ofOutcome outcome).LeavesCards := by
  cases outcome <;> trivial

theorem leavesCards_requireAccount (id : AccountId) : (requireAccount id).LeavesCards := by
  intro row
  cases row <;> trivial

theorem leavesCards_insertAccount (row : Account) : (insertAccount row).LeavesCards := by
  intro found
  cases found <;> trivial

theorem leavesCards_addBalance (id : AccountId) (amount : Amount) :
    (addBalance id amount).LeavesCards :=
  leavesCards_bind (leavesCards_requireAccount id) fun _ =>
    leavesCards_bind (leavesCards_ofOutcome _) fun _ => trivial

theorem leavesCards_subtractBalance (id : AccountId) (amount : Amount) :
    (subtractBalance id amount).LeavesCards :=
  leavesCards_bind (leavesCards_requireAccount id) fun _ =>
    leavesCards_bind (leavesCards_ofOutcome _) fun _ => trivial

theorem leavesCards_insertTransaction (row : Transaction) :
    (insertTransaction row).LeavesCards := by
  intro found
  cases found <;> trivial

theorem leavesCards_markRolledBack (id : TransactionId) : (markRolledBack id).LeavesCards := by
  refine leavesCards_bind (s := findTransaction id) (fun _ => trivial) ?_
  intro found
  cases found with
  | none => trivial
  | some tx => exact leavesCards_bind (leavesCards_ofOutcome _) fun _ => trivial

theorem leavesCards_move (kind : TransactionKind) (amount : Amount) :
    (move kind amount).LeavesCards := by
  cases kind with
  | deposit destination => exact leavesCards_bind (leavesCards_addBalance _ _) fun _ => trivial
  | withdrawal source => exact leavesCards_bind (leavesCards_subtractBalance _ _) fun _ => trivial
  | transfer source destination =>
      simp only [move]
      split
      · trivial
      refine leavesCards_bind (leavesCards_requireAccount _) fun payer =>
        leavesCards_bind (leavesCards_requireAccount _) ?_
      intro payee
      split
      · exact leavesCards_bind (leavesCards_addBalance _ _) fun _ =>
          leavesCards_bind (leavesCards_subtractBalance _ _) fun _ => trivial
      · trivial

theorem leavesCards_record (tx : Transaction) : (record tx).LeavesCards :=
  leavesCards_bind (leavesCards_move _ _) fun _ =>
    leavesCards_bind (leavesCards_insertTransaction tx) fun _ => trivial

theorem leavesCards_reverseTransfer (id : TransactionId) : (reverseTransfer id).LeavesCards := by
  refine leavesCards_bind (leavesCards_markRolledBack id) ?_
  intro tx
  split
  · exact leavesCards_bind (leavesCards_addBalance _ _) fun _ =>
      leavesCards_bind (leavesCards_subtractBalance _ _) fun _ => trivial
  · trivial
  · trivial

/-! The other three: what they store is filed under its number, and only the deletion of an
account removes cards by account. -/

theorem keepsCards_bind {s : Statement α} {f : α → Statement β} (hs : s.KeepsCards)
    (hf : ∀ value, (f value).KeepsCards) : (s >>= f).KeepsCards := by
  show (s.bind f).KeepsCards
  induction s with
  | done value => exact hf value
  | fail failure => trivial
  | account id next ih => exact fun row => ih row (hs row)
  | card number next ih => exact fun row => ih row (hs row)
  | transaction id next ih => exact fun row => ih row (hs row)
  | setAccount id row next ih => exact ih hs
  | setCard number row next ih => exact ih hs
  | setTransaction id row next ih => exact ih hs
  | dropCards owner next ih => exact hs

theorem filesCards_bind {s : Statement α} {f : α → Statement β} (hs : s.FilesCards)
    (hf : ∀ value, (f value).FilesCards) : (s >>= f).FilesCards := by
  show (s.bind f).FilesCards
  induction s with
  | done value => exact hf value
  | fail failure => trivial
  | account id next ih => exact fun row => ih row (hs row)
  | card number next ih => exact fun row => ih row (hs row)
  | transaction id next ih => exact fun row => ih row (hs row)
  | setAccount id row next ih => exact ih hs
  | setCard number row next ih => exact ⟨hs.1, ih hs.2⟩
  | setTransaction id row next ih => exact ih hs
  | dropCards owner next ih => exact ih hs

theorem keepsCards_insertCard (row : Card) : (insertCard row).KeepsCards := by
  refine keepsCards_bind (leavesCards_requireAccount row.account).keepsCards ?_
  intro _ found
  cases found <;> trivial

theorem filesCards_insertCard (row : Card) : (insertCard row).FilesCards := by
  refine filesCards_bind (leavesCards_requireAccount row.account).filesCards ?_
  intro _ found
  cases found with
  | some _ => trivial
  | none => exact ⟨fun card hcard => by rw [Option.mem_some_iff.1 hcard], trivial⟩

theorem keepsCards_deleteCard (number : CardNumber) : (deleteCard number).KeepsCards := by
  intro found
  cases found <;> trivial

theorem filesCards_deleteCard (number : CardNumber) : (deleteCard number).FilesCards := by
  intro found
  cases found with
  | some _ => exact ⟨fun card hcard => (Option.not_mem_none card hcard).elim, trivial⟩
  | none => trivial

theorem filesCards_deleteAccount (id : AccountId) : (deleteAccount id).FilesCards := by
  intro found
  cases found with
  | none => trivial
  | some row =>
      show FilesCards (if row.balance.isZero = true then _ else _)
      split <;> trivial

end Statement

/-! ### The six changes -/

namespace Ledger

open Statement

variable {ledger changed : Ledger}

theorem createAccount_ok_iff {row result : Account} :
    ledger.createAccount row = (.ok result, changed) ↔
      ledger.accounts[row.id]? = none ∧ row = result ∧
        { ledger with accounts := ledger.accounts.insert row.id row } = changed := by
  have hkeeps : KeepsCards (insertAccount row >>= fun _ => pure row) :=
    keepsCards_bind (leavesCards_insertAccount row).keepsCards fun _ => trivial
  unfold createAccount
  rw [execute_ok_iff (Or.inl hkeeps), run_bind_ok_iff]
  constructor
  · intro h
    obtain ⟨⟨⟩, _, hinsert, hdone⟩ := h
    obtain ⟨hnew, rfl⟩ := run_insertAccount_ok_iff.1 hinsert
    obtain ⟨rfl, rfl⟩ := run_pure_ok_iff.1 hdone
    exact ⟨hnew, rfl, rfl⟩
  · intro h
    obtain ⟨hnew, rfl, rfl⟩ := h
    exact ⟨(), _, run_insertAccount_ok_iff.2 ⟨hnew, rfl⟩, rfl⟩

/-- An account goes together with its cards, where cards are filed under their numbers. -/
theorem deleteAccount_ok_iff (h : ledger.CardsFiled) {id : AccountId} {result : Account} :
    ledger.deleteAccount id = (.ok result, changed) ↔
      ledger.accounts[id]? = some result ∧ result.balance.isZero = true ∧
        { ledger.dropCards id with accounts := ledger.accounts.erase id } = changed := by
  unfold deleteAccount
  rw [execute_ok_iff (Or.inr ⟨h, filesCards_deleteAccount id⟩), run_deleteAccount_ok_iff]
  rfl

theorem createCard_ok_iff {row result : Card} :
    ledger.createCard row = (.ok result, changed) ↔
      (∃ account, ledger.accounts[row.account]? = some account) ∧
        ledger.cards[row.number]? = none ∧ row = result ∧
          { ledger with cards := ledger.cards.insert row.number row } = changed := by
  have hkeeps : KeepsCards (insertCard row >>= fun _ => pure row) :=
    keepsCards_bind (keepsCards_insertCard row) fun _ => trivial
  unfold createCard
  rw [execute_ok_iff (Or.inl hkeeps), run_bind_ok_iff]
  constructor
  · intro h
    obtain ⟨⟨⟩, _, hinsert, hdone⟩ := h
    obtain ⟨haccount, hnew, rfl⟩ := run_insertCard_ok_iff.1 hinsert
    obtain ⟨rfl, rfl⟩ := run_pure_ok_iff.1 hdone
    exact ⟨haccount, hnew, rfl, rfl⟩
  · intro h
    obtain ⟨haccount, hnew, rfl, rfl⟩ := h
    exact ⟨(), _, run_insertCard_ok_iff.2 ⟨haccount, hnew, rfl⟩, rfl⟩

theorem deleteCard_ok_iff {number : CardNumber} {result : Card} :
    ledger.deleteCard number = (.ok result, changed) ↔
      ledger.cards[number]? = some result ∧
        { ledger with cards := ledger.cards.erase number } = changed := by
  unfold deleteCard
  rw [execute_ok_iff (Or.inl (keepsCards_deleteCard number)), run_deleteCard_ok_iff]
  rfl

theorem record_ok_iff {tx result : Transaction} :
    ledger.record tx = (.ok result, changed) ↔
      ∃ accounts, tx.kind.Moves tx.amount ledger.accounts accounts ∧
        ledger.transactions[tx.id]? = none ∧ tx = result ∧
          { ledger with
            accounts
            transactions := ledger.transactions.insert tx.id tx } = changed := by
  unfold record
  rw [execute_ok_iff (Or.inl (leavesCards_record tx).keepsCards), run_record_ok_iff]

theorem rollbackTransfer_ok_iff {id : TransactionId} {result : Transaction} :
    ledger.rollbackTransfer id = (.ok result, changed) ↔
      ∃ tx source destination accounts, ledger.transactions[id]? = some tx ∧
        tx.kind = .transfer source destination ∧ tx.rolledBack = false ∧
          Passed tx.amount destination source ledger.accounts accounts ∧
            result = { tx with rolledBack := true } ∧
              { ledger with
                accounts
                transactions := ledger.transactions.insert id result } = changed := by
  unfold rollbackTransfer
  rw [execute_ok_iff (Or.inl (leavesCards_reverseTransfer id).keepsCards), run_reverseTransfer_ok_iff]

end Ledger

end Cashbook
