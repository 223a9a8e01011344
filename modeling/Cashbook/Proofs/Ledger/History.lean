/-
The history of a ledger.

A ledger that starts empty and is asked for one change after another has a history:
the list of what it was asked for, whether or not it agreed.  A request that fails
leaves no trace (`execute_error`), so a property of every ledger with a history is a
property that the empty ledger has and every successful change keeps.  `after_induction`
says so once, with the accounts opened so far at hand, as most properties compare an
account with what it was when it was opened.

`Change.Effect` collects what the six changes do, so that an invariant is one case
analysis with six cases.
-/
import Cashbook.Proofs.Ledger.Effect

namespace Cashbook

/-- One of the six changes that a ledger can be asked for. -/
inductive Change where
  | createAccount (row : Account)
  | deleteAccount (id : AccountId)
  | createCard (row : Card)
  | deleteCard (number : CardNumber)
  | record (tx : Transaction)
  | rollbackTransfer (id : TransactionId)

/-- What a change came to, but for the row that it came to. -/
def Ledger.settled {α : Type} : Outcome α × Ledger → Outcome Unit × Ledger
  | (outcome, ledger) => (outcome.map fun _ => (), ledger)

namespace Change

/-- Whether a change succeeds on a ledger, and the ledger after it. -/
def carryOut (ledger : Ledger) : Change → Outcome Unit × Ledger
  | .createAccount row => Ledger.settled (ledger.createAccount row)
  | .deleteAccount id => Ledger.settled (ledger.deleteAccount id)
  | .createCard row => Ledger.settled (ledger.createCard row)
  | .deleteCard number => Ledger.settled (ledger.deleteCard number)
  | .record tx => Ledger.settled (ledger.record tx)
  | .rollbackTransfer id => Ledger.settled (ledger.rollbackTransfer id)

/-- The account that a change opens. -/
def opening? : Change → Option Account
  | .createAccount row => some row
  | .deleteAccount _ | .createCard _ | .deleteCard _ | .record _ | .rollbackTransfer _ => none

/-- What a change does to a ledger when it succeeds. -/
def Effect (before after : Ledger) : Change → Prop
  | .createAccount row =>
    before.accounts[row.id]? = none ∧
      after = { before with accounts := before.accounts.insert row.id row }
  | .deleteAccount id =>
    (∃ row, before.accounts[id]? = some row ∧ row.balance.isZero = true) ∧
      after = { before.dropCards id with accounts := before.accounts.erase id }
  | .createCard row =>
    (∃ account, before.accounts[row.account]? = some account) ∧ before.cards[row.number]? = none ∧
      after = { before with cards := before.cards.insert row.number row }
  | .deleteCard number =>
    (∃ card, before.cards[number]? = some card) ∧
      after = { before with cards := before.cards.erase number }
  | .record tx =>
    ∃ accounts, tx.kind.Moves tx.amount before.accounts accounts ∧
      before.transactions[tx.id]? = none ∧
        after = { before with accounts, transactions := before.transactions.insert tx.id tx }
  | .rollbackTransfer id =>
    ∃ tx source destination accounts, before.transactions[id]? = some tx ∧
      tx.kind = .transfer source destination ∧ tx.rolledBack = false ∧
        Passed tx.amount destination source before.accounts accounts ∧
          after = { before with
            accounts
            transactions := before.transactions.insert id { tx with rolledBack := true } }

end Change

/-- Whether an outcome is this value can be computed. -/
theorem ok_of_toOption {α : Type} {outcome : Outcome α} {value : α}
    (h : outcome.toOption = some value) : outcome = .ok value := by
  cases outcome with
  | ok found => exact congrArg Except.ok (Option.some.inj h)
  | error failure => simp [Except.toOption] at h

namespace Ledger

theorem settled_ok_iff {α : Type} {result : Outcome α × Ledger} {changed : Ledger} :
    settled result = (.ok (), changed) ↔ ∃ value, result = (.ok value, changed) := by
  rcases result with ⟨outcome, after⟩
  cases outcome <;> simp [settled, Except.map]

theorem settled_error_iff {α : Type} {result : Outcome α × Ledger} {failure : Failure}
    {changed : Ledger} :
    settled result = (.error failure, changed) ↔ result = (.error failure, changed) := by
  rcases result with ⟨outcome, after⟩
  cases outcome <;> simp [settled, Except.map]

/-- Whether a change came to this value can be computed. -/
theorem eq_ok_of_toOption {α : Type} {result : Outcome α × Ledger} {value : α}
    (h : result.1.toOption = some value) : result = (.ok value, result.2) :=
  Prod.ext (ok_of_toOption h) rfl

end Ledger

namespace Change

variable {ledger changed : Ledger} {change : Change}

/-- A change that fails leaves the ledger as it was. -/
theorem carryOut_error {failure : Failure}
    (h : change.carryOut ledger = (.error failure, changed)) : changed = ledger := by
  cases change <;> exact Ledger.execute_error (Ledger.settled_error_iff.1 h)

/-- Where cards are filed, a change succeeds exactly if it can have its effect. -/
theorem carryOut_ok_iff (hfiled : ledger.CardsFiled) :
    change.carryOut ledger = (.ok (), changed) ↔ change.Effect ledger changed := by
  cases change with
  | createAccount row =>
      rw [carryOut, Ledger.settled_ok_iff]
      simp only [Ledger.createAccount_ok_iff, Effect]
      exact ⟨fun ⟨_, hnew, _, hc⟩ => ⟨hnew, hc.symm⟩, fun ⟨hnew, hc⟩ => ⟨row, hnew, rfl, hc.symm⟩⟩
  | deleteAccount id =>
      rw [carryOut, Ledger.settled_ok_iff]
      simp only [Ledger.deleteAccount_ok_iff hfiled, Effect]
      exact ⟨fun ⟨row, hrow, hz, hc⟩ => ⟨⟨row, hrow, hz⟩, hc.symm⟩,
        fun ⟨⟨row, hrow, hz⟩, hc⟩ => ⟨row, hrow, hz, hc.symm⟩⟩
  | createCard row =>
      rw [carryOut, Ledger.settled_ok_iff]
      simp only [Ledger.createCard_ok_iff, Effect]
      exact ⟨fun ⟨_, ha, hnew, _, hc⟩ => ⟨ha, hnew, hc.symm⟩,
        fun ⟨ha, hnew, hc⟩ => ⟨row, ha, hnew, rfl, hc.symm⟩⟩
  | deleteCard number =>
      rw [carryOut, Ledger.settled_ok_iff]
      simp only [Ledger.deleteCard_ok_iff, Effect]
      exact ⟨fun ⟨card, hcard, hc⟩ => ⟨⟨card, hcard⟩, hc.symm⟩,
        fun ⟨⟨card, hcard⟩, hc⟩ => ⟨card, hcard, hc.symm⟩⟩
  | record tx =>
      rw [carryOut, Ledger.settled_ok_iff]
      simp only [Ledger.record_ok_iff, Effect]
      exact ⟨fun ⟨_, accounts, hm, hnew, _, hc⟩ => ⟨accounts, hm, hnew, hc.symm⟩,
        fun ⟨accounts, hm, hnew, hc⟩ => ⟨tx, accounts, hm, hnew, rfl, hc.symm⟩⟩
  | rollbackTransfer id =>
      rw [carryOut, Ledger.settled_ok_iff]
      simp only [Ledger.rollbackTransfer_ok_iff, Effect]
      constructor
      · intro h
        obtain ⟨_, tx, source, destination, accounts, htx, hkind, hflag, hpass, rfl, hc⟩ := h
        exact ⟨tx, source, destination, accounts, htx, hkind, hflag, hpass, hc.symm⟩
      · intro h
        obtain ⟨tx, source, destination, accounts, htx, hkind, hflag, hpass, hc⟩ := h
        exact ⟨_, tx, source, destination, accounts, htx, hkind, hflag, hpass, rfl, hc.symm⟩

/--
**What can become of a transaction.**  It stays as it is, or the change is its own
reversal, which marks a transfer that was not marked before.
-/
theorem Effect.transaction_cases {before after : Ledger} (he : change.Effect before after)
    {key : TransactionId} {tx : Transaction} (htx : before.transactions[key]? = some tx) :
    (change ≠ .rollbackTransfer key ∧ after.transactions[key]? = some tx) ∨
      (change = .rollbackTransfer key ∧ tx.kind.type = .transfer ∧ tx.rolledBack = false ∧
        after.transactions[key]? = some { tx with rolledBack := true }) := by
  cases change with
  | createAccount row =>
      obtain ⟨-, rfl⟩ := he
      exact Or.inl ⟨nofun, htx⟩
  | deleteAccount id =>
      obtain ⟨-, rfl⟩ := he
      exact Or.inl ⟨nofun, htx⟩
  | createCard row =>
      obtain ⟨-, -, rfl⟩ := he
      exact Or.inl ⟨nofun, htx⟩
  | deleteCard number =>
      obtain ⟨-, rfl⟩ := he
      exact Or.inl ⟨nofun, htx⟩
  | record recorded =>
      obtain ⟨accounts, -, hfree, rfl⟩ := he
      -- A transaction is recorded under a new key only.
      have hne : recorded.id ≠ key := by
        rintro rfl
        rw [hfree] at htx
        cases htx
      refine Or.inl ⟨nofun, ?_⟩
      rw [← htx]
      exact Table.getElem?_insert_of_ne _ _ hne
  | rollbackTransfer other =>
      obtain ⟨old, source, destination, accounts, hold, hkind, hflag, -, rfl⟩ := he
      by_cases hother : other = key
      · subst hother
        obtain rfl := Option.some.inj (hold.symm.trans htx)
        exact Or.inr ⟨rfl, by rw [hkind]; rfl, hflag, Std.ExtTreeMap.getElem?_insert_self⟩
      · refine Or.inl ⟨fun h => hother (rollbackTransfer.inj h), ?_⟩
        rw [← htx]
        exact Table.getElem?_insert_of_ne _ _ hother

/-- A transaction that is there after a change was there, or is the one that was recorded. -/
theorem Effect.transaction_was {before after : Ledger} (he : change.Effect before after)
    {key : TransactionId} {new : Transaction} (hnew : after.transactions[key]? = some new) :
    (∃ tx, before.transactions[key]? = some tx) ∨ (change = .record new ∧ new.id = key) := by
  cases change with
  | createAccount row =>
      obtain ⟨-, rfl⟩ := he
      exact Or.inl ⟨new, hnew⟩
  | deleteAccount id =>
      obtain ⟨-, rfl⟩ := he
      exact Or.inl ⟨new, hnew⟩
  | createCard row =>
      obtain ⟨-, -, rfl⟩ := he
      exact Or.inl ⟨new, hnew⟩
  | deleteCard number =>
      obtain ⟨-, rfl⟩ := he
      exact Or.inl ⟨new, hnew⟩
  | record recorded =>
      obtain ⟨accounts, -, -, rfl⟩ := he
      rcases Table.of_getElem?_insert hnew with ⟨rfl, rfl⟩ | ⟨-, hold⟩
      · exact Or.inr ⟨rfl, rfl⟩
      · exact Or.inl ⟨new, hold⟩
  | rollbackTransfer other =>
      obtain ⟨old, source, destination, accounts, hold, -, -, -, rfl⟩ := he
      rcases Table.of_getElem?_insert hnew with ⟨rfl, -⟩ | ⟨-, hkept⟩
      · exact Or.inl ⟨old, hold⟩
      · exact Or.inl ⟨new, hkept⟩

end Change

/-! ### One change after another -/

namespace Ledger

/-- The ledger after it was asked for these changes, the first of the list first. -/
def after (changes : List Change) (ledger : Ledger) : Ledger :=
  changes.foldl (fun ledger change => (change.carryOut ledger).2) ledger

/-- The changes of a list that succeed, each with the ledger that it met. -/
def successes : List Change → Ledger → List (Ledger × Change)
  | [], _ => []
  | change :: rest, ledger =>
    match change.carryOut ledger with
    | (.ok (), changed) => (ledger, change) :: successes rest changed
    | (.error _, changed) => successes rest changed

section

variable {change : Change} {ledger changed : Ledger}

/-- A change that succeeds is followed by the others on the changed ledger. -/
theorem after_cons_ok (h : change.carryOut ledger = (.ok (), changed)) (rest : List Change) :
    after (change :: rest) ledger = after rest changed ∧
      successes (change :: rest) ledger = (ledger, change) :: successes rest changed := by
  rw [after, List.foldl_cons, successes, h]
  exact ⟨rfl, rfl⟩

/-- A change that fails might as well not have been asked for. -/
theorem after_cons_error {failure : Failure}
    (h : change.carryOut ledger = (.error failure, changed)) (rest : List Change) :
    after (change :: rest) ledger = after rest ledger ∧
      successes (change :: rest) ledger = successes rest ledger := by
  have hsame : changed = ledger := Change.carryOut_error h
  rw [after, List.foldl_cons, successes, h, hsame]
  exact ⟨rfl, rfl⟩

end

theorem mem_of_mem_successes {changes : List Change} {ledger met : Ledger} {change : Change}
    (h : (met, change) ∈ successes changes ledger) : change ∈ changes := by
  induction changes generalizing ledger with
  | nil => exact absurd h (by simp [successes])
  | cons first rest ih =>
      rw [successes] at h
      split at h
      · rcases List.mem_cons.1 h with heq | hrest
        · rw [(Prod.mk.inj heq).2]
          exact List.mem_cons_self
        · exact List.mem_cons_of_mem _ (ih hrest)
      · exact List.mem_cons_of_mem _ (ih h)

/-- The accounts that a list of changes opens, as they are when they are opened. -/
def opened (changes : List Change) (ledger : Ledger) : List Account :=
  (successes changes ledger).filterMap fun success => success.2.opening?

/--
**What the start has and every success keeps, the end has.**  The property may speak of
the accounts opened so far, of which there are `before` at the start.
-/
theorem after_induction {P : List Account → Ledger → Prop} :
    ∀ (changes : List Change) (before : List Account) (ledger : Ledger), P before ledger →
      (∀ success ∈ successes changes ledger, ∀ sofar changed, P sofar success.1 →
        success.2.carryOut success.1 = (.ok (), changed) →
          P (sofar ++ success.2.opening?.toList) changed) →
      P (before ++ opened changes ledger) (after changes ledger) := by
  intro changes
  induction changes with
  | nil =>
      intro before ledger start _
      simpa [opened, successes, after] using start
  | cons change rest ih =>
      intro before ledger start step
      rcases hc : change.carryOut ledger with ⟨outcome, changed⟩
      cases outcome with
      | error failure =>
          obtain ⟨hafter, hs⟩ := after_cons_error hc rest
          rw [hs] at step
          rw [hafter, opened, hs]
          exact ih before ledger start step
      | ok value =>
          obtain ⟨hafter, hs⟩ := after_cons_ok hc rest
          rw [hs] at step
          have hopened : before ++ opened (change :: rest) ledger =
              (before ++ change.opening?.toList) ++ opened rest changed := by
            rw [opened, hs, List.filterMap_cons, List.append_assoc]
            cases change.opening? <;> rfl
          rw [hafter, hopened]
          exact ih _ changed (step (ledger, change) (by simp) before changed start hc)
            (fun success hmem => step success (by simp [hmem]))

end Ledger

/-! ### A short history -/

namespace Sample

def alice : AccountId := ⟨.ofNat 1⟩

def bob : AccountId := ⟨.ofNat 2⟩

/-- An empty account. -/
def account (id : AccountId) : Account := .opened id ⟨.ofNat 7⟩ "savings" .usd (.ofMillis 0)

/-- A transaction of five whole units. -/
def transaction (n : Nat) (kind : TransactionKind) : Transaction :=
  ⟨⟨.ofNat n⟩, ⟨⟨5, 0, by decide, Decimal.zero.scale_le⟩, by decide⟩, kind, false, .ofMillis 0⟩

/-- Money comes in, changes hands, is asked for in vain, and comes back. -/
def history : List Change :=
  [ .createAccount (account alice),
    .createAccount (account bob),
    .createCard ⟨.ofSerial 1, alice, .ofMillis 0⟩,
    .record (transaction 1 (.deposit alice)),
    .record (transaction 2 (.transfer alice bob)),
    .record (transaction 3 (.withdrawal alice)),
    .rollbackTransfer ⟨.ofNat 2⟩,
    .deleteAccount bob ]

theorem rolledBack_of_mem_history (tx : Transaction) (h : .record tx ∈ history) :
    tx.rolledBack = false := by
  simp only [history, List.mem_cons, reduceCtorEq, Change.record.injEq, List.not_mem_nil, false_or,
    or_false] at h
  rcases h with rfl | rfl | rfl <;> rfl

end Sample

end Cashbook
