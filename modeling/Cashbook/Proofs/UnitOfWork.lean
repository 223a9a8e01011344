/-
A unit of work is kept as a whole or not at all.

`atomically` runs a body beside the store and turns to the store at most once: with the
whole change set if the body came to a value, and with the request to let go if it
failed.  The store may refuse either.  That this is all it does cannot be read off the
store itself, which may be of any kind and may forget what it was asked, so a unit is
watched: `Watched` writes down every request that reaches the store and otherwise makes
no difference.

For a ledger nothing is ever refused.  A change that fails leaves all three tables as
they were, however much was waiting in its change set; one that succeeds leaves, under
every key, the row that waited there, and where none waited the row of before.
-/
import Cashbook.Proofs.Ledger.History

namespace Cashbook

/-! ### Watching a store -/

/-- What a unit of work may ask of a store, other than to read. -/
inductive Demand where
  | apply (changes : ChangeSet)
  | discard

/-- A store, and what was asked of it, the first first. -/
structure Watched (σ : Type) where
  store : σ
  asked : List Demand

section

variable {σ α : Type} [Store σ]

instance : Store (Watched σ) where
  account? w id := Store.account? w.store id
  card? w number := Store.card? w.store number
  cardsOf w account := Store.cardsOf w.store account
  transaction? w id := Store.transaction? w.store id
  apply changes w :=
    let (outcome, store) := Store.apply changes w.store
    (outcome, ⟨store, w.asked ++ [.apply changes]⟩)
  discard w :=
    let (outcome, store) := Store.discard w.store
    (outcome, ⟨store, w.asked ++ [.discard]⟩)

/-- The same body on a store that is watched. -/
def Work.watched (body : Work σ α) : Work (Watched σ) α :=
  fun w changes => body w.store changes

/-- What a unit with this body has asked of the store when it is over, and what it came to. -/
structure Settles (body : Work σ α) (store : σ) (outcome : Outcome α) (asked : List Demand) :
    Prop where
  /-- The store is turned to at most once. -/
  once : asked.length ≤ 1
  /-- It is given the writes of a body that came to a value, if there are any, and all of them. -/
  applied_iff : ∀ changes, .apply changes ∈ asked ↔
    (∃ value, body store .empty = (.ok value, changes)) ∧ changes.isEmpty = false
  /-- It is told to let go exactly if the body failed. -/
  discarded_iff : .discard ∈ asked ↔ ∃ cause changes, body store .empty = (.error cause, changes)
  kept : ∀ value changes, body store .empty = (.ok value, changes) →
    changes.isEmpty = true ∨ (Store.apply changes store).1 = .ok () → outcome = .ok value
  refused : ∀ value changes failure, body store .empty = (.ok value, changes) →
    changes.isEmpty = false → (Store.apply changes store).1 = .error failure →
      outcome = .error (.commitFailed failure)
  undone : ∀ cause changes, body store .empty = (.error cause, changes) →
    (Store.discard store).1 = .ok () → outcome = .error cause
  notUndone : ∀ cause changes failure, body store .empty = (.error cause, changes) →
    (Store.discard store).1 = .error failure → outcome = .error (.rollbackFailed cause failure)

/-! ### What a unit asks -/

/-- A commit is one request, or none if nothing waits. -/
theorem commit_eq_mapError (changes : ChangeSet) (store : σ) :
    commit changes store =
      if changes.isEmpty then (.ok (), store)
      else ((Store.apply changes store).1.mapError .commitFailed,
        (Store.apply changes store).2) := by
  unfold commit
  by_cases hempty : changes.isEmpty = true
  · rw [if_pos hempty, if_pos hempty]
  · rw [if_neg hempty, if_neg hempty]
    rcases Store.apply changes store with ⟨outcome, after⟩
    cases outcome <;> rfl

theorem commit_watched (changes : ChangeSet) (store : σ) :
    commit changes (⟨store, []⟩ : Watched σ) =
      ((commit changes store).1,
        ⟨(commit changes store).2, if changes.isEmpty then [] else [.apply changes]⟩) := by
  rw [commit_eq_mapError, commit_eq_mapError]
  by_cases hempty : changes.isEmpty = true
  · rw [if_pos hempty, if_pos hempty, if_pos hempty]
  · rw [if_neg hempty, if_neg hempty, if_neg hempty]
    rfl

/-- A body that comes to a value has its writes handed over. -/
theorem atomically_of_ok {body : Work σ α} {store : σ} {value : α} {changes : ChangeSet}
    (h : body store .empty = (.ok value, changes)) :
    atomically body store =
      ((commit changes store).1.map fun _ => value, (commit changes store).2) := by
  unfold atomically
  rw [h]
  rcases hcommit : commit changes store with ⟨outcome, after⟩
  cases outcome <;> simp only [hcommit] <;> rfl

/-- A body that fails has the store let go. -/
theorem atomically_of_error {body : Work σ α} {store : σ} {cause : Failure} {changes : ChangeSet}
    (h : body store .empty = (.error cause, changes)) :
    atomically body store = (match (Store.discard store).1 with
      | .ok () => .error cause
      | .error failure => .error (.rollbackFailed cause failure), (Store.discard store).2) := by
  unfold atomically
  rw [h]
  rcases Store.discard store with ⟨outcome, after⟩
  cases outcome <;> rfl

/-- Watching makes no difference to a unit. -/
theorem atomically_watched (body : Work σ α) (store : σ) :
    atomically body.watched ⟨store, []⟩ = ((atomically body store).1,
      ⟨(atomically body store).2, match body store .empty with
        | (.ok _, changes) => if changes.isEmpty then [] else [.apply changes]
        | (.error _, _) => [.discard]⟩) := by
  rcases h : body store .empty with ⟨outcome, changes⟩
  cases outcome with
  | ok value =>
      have hwatched : body.watched ⟨store, []⟩ .empty = (.ok value, changes) := h
      rw [atomically_of_ok hwatched, atomically_of_ok h, commit_watched]
  | error cause =>
      have hwatched : body.watched ⟨store, []⟩ .empty = (.error cause, changes) := h
      rw [atomically_of_error hwatched, atomically_of_error h]
      rfl

variable {body : Work σ α} {store : σ} {changes : ChangeSet}

theorem settles_of_ok {value : α} (h : body store .empty = (.ok value, changes)) :
    Settles body store ((commit changes store).1.map fun _ => value)
      (if changes.isEmpty then [] else [.apply changes]) := by
  have hsame : ∀ value' changes', body store .empty = (.ok value', changes') →
      value = value' ∧ changes = changes' := by
    intro value' changes' h'
    rw [h] at h'
    exact ⟨Except.ok.inj (Prod.mk.inj h').1, (Prod.mk.inj h').2⟩
  have hnever : ∀ cause changes', body store .empty ≠ (.error cause, changes') := by
    intro cause changes' h'
    rw [h] at h'
    cases (Prod.mk.inj h').1
  refine ⟨?_, ?_, ?_, ?_, ?_, fun cause changes' h' => absurd h' (hnever cause changes'),
    fun cause changes' failure h' => absurd h' (hnever cause changes')⟩
  · split <;> simp
  · intro changes'
    by_cases hempty : changes.isEmpty = true
    · have hnone : ¬((∃ value', body store .empty = (.ok value', changes')) ∧
          changes'.isEmpty = false) := by
        intro hboth
        obtain ⟨⟨value', h'⟩, hsome⟩ := hboth
        rw [← (hsame value' changes' h').2, hempty] at hsome
        cases hsome
      rw [if_pos hempty]
      simpa using hnone
    · rw [if_neg hempty, List.mem_singleton]
      constructor
      · intro heq
        obtain rfl := Demand.apply.inj heq
        exact ⟨⟨value, h⟩, Bool.not_eq_true _ ▸ hempty⟩
      · intro hboth
        obtain ⟨⟨value', h'⟩, -⟩ := hboth
        rw [(hsame value' changes' h').2]
  · constructor
    · intro hmem
      split at hmem <;> simp at hmem
    · intro hfailed
      obtain ⟨cause, changes', h'⟩ := hfailed
      exact absurd h' (hnever cause changes')
  · intro value' changes' h' hkept
    obtain ⟨rfl, rfl⟩ := hsame value' changes' h'
    rw [commit_eq_mapError]
    by_cases hempty : changes.isEmpty = true
    · rw [if_pos hempty]
      rfl
    · rw [if_neg hempty, hkept.resolve_left hempty]
      rfl
  · intro value' changes' failure h' hsome happly
    obtain ⟨rfl, rfl⟩ := hsame value' changes' h'
    rw [commit_eq_mapError, if_neg (by rw [hsome]; simp), happly]
    rfl

theorem settles_of_error {cause : Failure} (h : body store .empty = (.error cause, changes)) :
    Settles body store (match (Store.discard store).1 with
      | .ok () => .error cause
      | .error failure => .error (.rollbackFailed cause failure)) [.discard] := by
  have hsame : ∀ cause' changes', body store .empty = (.error cause', changes') →
      cause = cause' := by
    intro cause' changes' h'
    rw [h] at h'
    exact Except.error.inj (Prod.mk.inj h').1
  have hnever : ∀ value changes', body store .empty ≠ (.ok value, changes') := by
    intro value changes' h'
    rw [h] at h'
    cases (Prod.mk.inj h').1
  refine ⟨by simp, ?_, ?_, fun value changes' h' => absurd h' (hnever value changes'),
    fun value changes' failure h' => absurd h' (hnever value changes'), ?_, ?_⟩
  · intro changes'
    constructor
    · simp
    · intro hboth
      obtain ⟨⟨value, h'⟩, -⟩ := hboth
      exact absurd h' (hnever value changes')
  · exact ⟨fun _ => ⟨cause, changes, h⟩, fun _ => List.mem_singleton_self _⟩
  · intro cause' changes' h' hdiscard
    rw [hdiscard, hsame cause' changes' h']
  · intro cause' changes' failure h' hdiscard
    rw [hdiscard, hsame cause' changes' h']

theorem settles (body : Work σ α) (store : σ) :
    Settles body store (atomically body.watched ⟨store, []⟩).1
      (atomically body.watched ⟨store, []⟩).2.asked := by
  rw [atomically_watched]
  rcases h : body store .empty with ⟨outcome, changes⟩
  cases outcome with
  | ok value =>
      rw [atomically_of_ok h]
      exact settles_of_ok h
  | error cause =>
      rw [atomically_of_error h]
      exact settles_of_error h

end

/-! ### What a ledger takes -/

/-- After a change set is kept, every key has the row that waited, or else the row of before. -/
structure Ledger.Takes (before : Ledger) (changes : ChangeSet) (after : Ledger) : Prop where
  accounts : ∀ id : AccountId,
    after.accounts[id]? = changes.accounts[id]?.getD before.accounts[id]?
  cards : ∀ number : CardNumber,
    after.cards[number]? = changes.cards[number]?.getD before.cards[number]?
  transactions : ∀ id : TransactionId,
    after.transactions[id]? = changes.transactions[id]?.or before.transactions[id]?

namespace Ledger

variable {α : Type}

/-- The writes that wait when a statement has run as the body of a unit. -/
def waiting (ledger : Ledger) (s : Statement α) : ChangeSet := (s.stage ledger .empty).2

theorem takes_apply (ledger : Ledger) (changes : ChangeSet) :
    ledger.Takes changes (ledger.apply changes) where
  accounts := accounts_apply ledger changes
  cards := cards_apply ledger changes
  transactions := transactions_apply ledger changes

/-- A unit of work that succeeds leaves what waited. -/
theorem takes_of_execute {s : Statement α} {ledger changed : Ledger} {value : α}
    (h : execute s ledger = (.ok value, changed)) : ledger.Takes (ledger.waiting s) changed := by
  rcases hs : s.stage ledger .empty with ⟨outcome, changes⟩
  have hbody : (s.work : Work Ledger α) ledger .empty = (outcome, changes) := hs
  unfold execute at h
  cases outcome with
  | ok found =>
      rw [atomically_of_ok hbody, commit_eq] at h
      have hchanged : ledger.apply changes = changed := (Prod.mk.inj h).2
      rw [← hchanged, waiting, hs]
      exact takes_apply ledger changes
  | error cause =>
      rw [atomically_of_error hbody] at h
      cases (Prod.mk.inj h).1

end Ledger

/-- The writes that wait when the body of a change has run. -/
def Change.waiting (ledger : Ledger) : Change → ChangeSet
  | .createAccount row => ledger.waiting (do Statement.insertAccount row; pure row)
  | .deleteAccount id => ledger.waiting (.deleteAccount id)
  | .createCard row => ledger.waiting (do Statement.insertCard row; pure row)
  | .deleteCard number => ledger.waiting (.deleteCard number)
  | .record tx => ledger.waiting (.record tx)
  | .rollbackTransfer id => ledger.waiting (.reverseTransfer id)

theorem Change.takes_of_carryOut {change : Change} {ledger changed : Ledger}
    (h : change.carryOut ledger = (.ok (), changed)) :
    ledger.Takes (change.waiting ledger) changed := by
  cases change with
  | createAccount _ | deleteAccount _ | createCard _ | deleteCard _ | record _
  | rollbackTransfer _ =>
      obtain ⟨value, hvalue⟩ := Ledger.settled_ok_iff.1 h
      exact Ledger.takes_of_execute hvalue

/--
**A unit of work is kept as a whole or not at all.**  Each of the six changes of a ledger
either fails and leaves it as it was, or leaves the rows that waited in its unit and no
others, which, where cards are filed under their numbers, is the effect of the change.
And a unit with any body on any store, whatever the store refuses, turns to the store at
most once: with the whole change set after a body that came to a value, with the request
to let go after one that failed.  It comes to that value or that failure, unless the
store refused, which is then what it reports.
-/
theorem atomically_all_or_none :
    (∀ (ledger : Ledger) (change : Change),
      match change.carryOut ledger with
      | (.error _, changed) => changed = ledger
      | (.ok (), changed) =>
        ledger.Takes (change.waiting ledger) changed ∧
          (ledger.CardsFiled → change.Effect ledger changed)) ∧
      ∀ {σ α : Type} [Store σ] (body : Work σ α) (store : σ),
        let seen := atomically body.watched ⟨store, []⟩
        (seen.1, seen.2.store) = atomically body store ∧
          Settles body store seen.1 seen.2.asked := by
  constructor
  · intro ledger change
    rcases h : change.carryOut ledger with ⟨outcome, changed⟩
    cases outcome with
    | error failure => exact Change.carryOut_error h
    | ok value =>
        exact ⟨Change.takes_of_carryOut h, fun hfiled => (Change.carryOut_ok_iff hfiled).1 h⟩
  · intro σ α _ body store seen
    have hseen : seen = atomically body.watched ⟨store, []⟩ := rfl
    refine ⟨?_, settles body store⟩
    rw [hseen, atomically_watched]

/-- A transfer that its source does not cover has credited the destination before it fails. -/
example :
    let ledger := Ledger.after (Sample.history.take 2) .empty
    let change := Change.record (Sample.transaction 1 (.transfer Sample.alice Sample.bob))
    (change.waiting ledger).accounts.keys = [Sample.bob] ∧
      (change.carryOut ledger).1.toOption = none := by
  decide +kernel

end Cashbook
