/-
Statements one after another in one unit.

A unit that is under way need not end with its first failure: it may try one statement
after another, each on whatever those before it have left waiting, a failed one
included, and have all of it kept at the end.  Nobody who works with such a unit should
have to think of a change set.  So it is compared with the plain way of doing the same:
each statement carried out at once, on the tables that those before it left.

What one statement adds to that is `stage_eq_run`; it asks that cards are filed under
their numbers, and what carries it along the sequence is that no statement files a card
under any other.
-/
import Cashbook.Proofs.Ledger.History

namespace Cashbook

/-! ### The statements of a unit -/

/-- The statements that a unit of work is made of. -/
inductive Clause where
  | requireAccount (id : AccountId)
  | insertAccount (row : Account)
  | deleteAccount (id : AccountId)
  | addBalance (id : AccountId) (amount : Amount)
  | subtractBalance (id : AccountId) (amount : Amount)
  | insertCard (row : Card)
  | deleteCard (number : CardNumber)
  | insertTransaction (row : Transaction)
  | markRolledBack (id : TransactionId)
  | record (tx : Transaction)
  | reverseTransfer (id : TransactionId)

/-- What a statement of a unit comes to. -/
inductive Clause.Answer where
  | stored
  | account (row : Account)
  | card (row : Card)
  | transaction (row : Transaction)
deriving DecidableEq

namespace Clause

/-- The program of a statement. -/
def statement : Clause → Statement Answer
  | .requireAccount id => .account <$> Statement.requireAccount id
  | .insertAccount row => (fun _ => .stored) <$> Statement.insertAccount row
  | .deleteAccount id => .account <$> Statement.deleteAccount id
  | .addBalance id amount => .account <$> Statement.addBalance id amount
  | .subtractBalance id amount => .account <$> Statement.subtractBalance id amount
  | .insertCard row => (fun _ => .stored) <$> Statement.insertCard row
  | .deleteCard number => .card <$> Statement.deleteCard number
  | .insertTransaction row => (fun _ => .stored) <$> Statement.insertTransaction row
  | .markRolledBack id => .transaction <$> Statement.markRolledBack id
  | .record tx => .transaction <$> Statement.record tx
  | .reverseTransfer id => .transaction <$> Statement.reverseTransfer id

/-- No statement of a unit files a card under a number that is not its own. -/
theorem filesCards_statement (clause : Clause) : clause.statement.FilesCards := by
  -- Every statement is followed by wrapping up its answer, which writes nothing.
  have hwrap : ∀ {α : Type} {s : Statement α} (f : α → Answer), s.FilesCards →
      (f <$> s).FilesCards := fun _ hs => Statement.filesCards_bind hs fun _ => trivial
  cases clause with
  | requireAccount id => exact hwrap _ (Statement.leavesCards_requireAccount id).filesCards
  | insertAccount row => exact hwrap _ (Statement.leavesCards_insertAccount row).filesCards
  | deleteAccount id => exact hwrap _ (Statement.filesCards_deleteAccount id)
  | addBalance id amount => exact hwrap _ (Statement.leavesCards_addBalance id amount).filesCards
  | subtractBalance id amount =>
      exact hwrap _ (Statement.leavesCards_subtractBalance id amount).filesCards
  | insertCard row => exact hwrap _ (Statement.filesCards_insertCard row)
  | deleteCard number => exact hwrap _ (Statement.filesCards_deleteCard number)
  | insertTransaction row => exact hwrap _ (Statement.leavesCards_insertTransaction row).filesCards
  | markRolledBack id => exact hwrap _ (Statement.leavesCards_markRolledBack id).filesCards
  | record tx => exact hwrap _ (Statement.leavesCards_record tx).filesCards
  | reverseTransfer id => exact hwrap _ (Statement.leavesCards_reverseTransfer id).filesCards

end Clause

/-! ### Both ways of carrying a sequence out -/

namespace Statement

variable {α : Type}

/-- Carries each statement out at once, whatever became of those before it. -/
def runEach : List (Statement α) → Ledger → List (Outcome α) × Ledger
  | [], ledger => ([], ledger)
  | s :: rest, ledger =>
    let (outcome, ledger) := s.run ledger
    let (outcomes, ledger) := runEach rest ledger
    (outcome :: outcomes, ledger)

/-- What waits is filed where it was before a statement that files its cards. -/
theorem cardsFiled_stage {σ : Type} [Store σ] (store : σ) (s : Statement α) :
    ∀ changes : ChangeSet, changes.CardsFiled → s.FilesCards →
      (s.stage store changes).2.CardsFiled := by
  induction s with
  | done value => exact fun _ h _ => h
  | fail failure => exact fun _ h _ => h
  | account id next ih | card number next ih | transaction id next ih =>
      intro changes h hf
      unfold stage
      split
      · exact ih _ changes h (hf _)
      · split
        · exact ih _ changes h (hf _)
        · exact h
  | setAccount id row next ih => exact fun _ h hf => ih _ h hf
  | setCard number row next ih => exact fun _ h hf => ih _ (h.insert hf.1) hf.2
  | setTransaction id row next ih => exact fun _ h hf => ih _ h hf
  | dropCards account next ih =>
      intro changes h hf
      unfold stage
      split
      · exact ih _ (h.dropCards _) hf
      · exact h

end Statement

/-- A unit of work that is under way: the store as it finds it, and the writes that wait. -/
structure Underway (σ : Type) where
  store : σ
  changes : ChangeSet

namespace Underway

section

variable {σ α : Type} [Store σ]

/-- A unit in which nothing waits yet. -/
def opened (store : σ) : Underway σ := ⟨store, .empty⟩

/-- Tries a statement; what it has written waits, even if it failed. -/
def perform (s : Statement α) (unit : Underway σ) : Outcome α × Underway σ :=
  let (outcome, changes) := s.stage unit.store unit.changes
  (outcome, { unit with changes })

/-- Tries one statement after another, whatever became of those before it. -/
def performEach : List (Statement α) → Underway σ → List (Outcome α) × Underway σ
  | [], unit => ([], unit)
  | s :: rest, unit =>
    let (outcome, unit) := unit.perform s
    let (outcomes, unit) := performEach rest unit
    (outcome :: outcomes, unit)

/-- Has all that waits kept. -/
def commit (unit : Underway σ) : Outcome Unit × σ := Cashbook.commit unit.changes unit.store

/-- A unit that is under way is a unit of several bodies, and leaves the store alone. -/
theorem performEach_eq (statements : List (Statement α)) (unit : Underway σ) :
    unit.performEach statements =
      ((Work.each (statements.map Statement.work) unit.store unit.changes).1,
        ⟨unit.store, (Work.each (statements.map Statement.work) unit.store unit.changes).2⟩) := by
  induction statements generalizing unit with
  | nil => rfl
  | cons s rest ih =>
      show ((unit.perform s).1 :: ((unit.perform s).2.performEach rest).1,
        ((unit.perform s).2.performEach rest).2) = _
      rw [ih]
      rfl

end

variable {α : Type} {statements : List (Statement α)}

/--
What a unit shows is what the tables under its writes show: the induction is on the
statements, and the ledger under the change set is what goes on from one to the next.
-/
theorem performEach_eq_runEach (unit : Underway Ledger) (hfiled : unit.store.CardsFiled)
    (hwaiting : unit.changes.CardsFiled) (hfiles : ∀ s ∈ statements, s.FilesCards) :
    (unit.performEach statements).1 =
        (Statement.runEach statements (unit.store.apply unit.changes)).1 ∧
      (unit.performEach statements).2.store = unit.store ∧
        unit.store.apply (unit.performEach statements).2.changes =
          (Statement.runEach statements (unit.store.apply unit.changes)).2 := by
  induction statements generalizing unit with
  | nil => exact ⟨rfl, rfl, rfl⟩
  | cons s rest ih =>
      have hs : s.FilesCards := hfiles s List.mem_cons_self
      obtain ⟨houtcome, hunder⟩ :=
        s.stage_eq_run unit.store unit.changes (Or.inr ⟨hfiled, hwaiting, hs⟩)
      have hrest := ih (unit.perform s).2 hfiled
        (s.cardsFiled_stage unit.store unit.changes hwaiting hs)
        fun t ht => hfiles t (List.mem_cons_of_mem s ht)
      have hnext : (unit.perform s).2.store.apply (unit.perform s).2.changes =
          (s.run (unit.store.apply unit.changes)).2 := hunder
      rw [hnext] at hrest
      obtain ⟨houtcomes, hstore, hlast⟩ := hrest
      exact ⟨congrArg₂ List.cons houtcome houtcomes, hstore, hlast⟩

/--
**A unit shows what the tables would.**  Whatever statements are tried in it, with
whatever arguments, and whichever of them fail: on a ledger whose cards are filed under
their numbers each comes to what it would come to if all before it had been carried out
at once, in the parts that they did carry out; the ledger is not touched; and when the
writes are kept, its tables are those that carrying everything out at once would leave.
-/
theorem faithful (clauses : List Clause) (ledger : Ledger) (hfiled : ledger.CardsFiled) :
    let statements := clauses.map Clause.statement
    let (outcomes, unit) := (opened ledger).performEach statements
    let (direct, changed) := Statement.runEach statements ledger
    outcomes = direct ∧ unit.store = ledger ∧ unit.commit = (.ok (), changed) := by
  have hfiles : ∀ s ∈ clauses.map Clause.statement, s.FilesCards := by
    intro s hs
    obtain ⟨clause, -, rfl⟩ := List.mem_map.1 hs
    exact clause.filesCards_statement
  have h := performEach_eq_runEach (opened ledger) hfiled ChangeSet.cardsFiled_empty hfiles
  have hopened : (opened ledger).store.apply (opened ledger).changes = ledger :=
    ledger.apply_empty
  rw [hopened] at h
  obtain ⟨houtcomes, hstore, hlast⟩ := h
  refine ⟨houtcomes, hstore, ?_⟩
  rw [commit, hstore, Ledger.commit_eq]
  exact congrArg (Prod.mk (Except.ok ())) hlast

end Underway

namespace Sample

/-- A card moves to another account, which goes with it and is opened anew; a transfer that is not
covered has credited that account before it fails. -/
def unit : List Clause :=
  [ .insertCard ⟨.ofSerial 1, alice, .ofMillis 0⟩,
    .deleteCard (.ofSerial 1),
    .insertCard ⟨.ofSerial 1, bob, .ofMillis 0⟩,
    .deleteAccount bob,
    .insertAccount (account bob),
    .record (transaction 1 (.transfer alice bob)),
    .requireAccount bob ]

/-- Two empty accounts. -/
def pair : Ledger := (Ledger.empty.setAccount alice (account alice)).setAccount bob (account bob)

end Sample

theorem Underway.faithful_sample :
    let statements := Sample.unit.map Clause.statement
    let (outcomes, unit) := (opened Sample.pair).performEach statements
    let (direct, changed) := Statement.runEach statements Sample.pair
    Sample.pair.CardsFiled ∧ outcomes = direct ∧ unit.commit = (.ok (), changed) ∧
      outcomes.map Except.isOk = [true, true, true, true, true, false, true] ∧
        changed.cards.isEmpty = true := by
  have hfiled : Sample.pair.CardsFiled := by
    intro number card hcard
    cases hcard
  obtain ⟨houtcomes, -, hcommit⟩ := faithful Sample.unit Sample.pair hfiled
  exact ⟨hfiled, houtcomes, hcommit, by decide +kernel, by decide +kernel⟩

end Cashbook
