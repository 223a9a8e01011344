/-
Statements carried out at once.

`Statement.stage` keeps the writes of a statement beside the tables until the whole
unit is known to succeed.  A reader of the statements thinks of something simpler:
every write goes to the tables as soon as it is made.  `Statement.run` is that, and
`execute_eq` says that a unit of work on a ledger comes to what `run` comes to, and
leaves what `run` leaves if it came to a value, and the old ledger if it failed.

The invariant behind it is that the ledger which `run` works on is at every point the
stored ledger with the change set applied to it.  One statement needs more than that:
removing the cards of an account looks them up by account and removes them by number,
so it asks that cards are filed under their own numbers.
-/
import Cashbook.Ledger
import Cashbook.Proofs.Table

namespace Cashbook

/-! ### A ledger under a change set -/

namespace Ledger

/-- The ledger with an account stored or removed. -/
def setAccount (ledger : Ledger) (id : AccountId) (row : Option Account) : Ledger :=
  { ledger with accounts := Table.set ledger.accounts id row }

/-- The ledger with a card stored or removed. -/
def setCard (ledger : Ledger) (number : CardNumber) (row : Option Card) : Ledger :=
  { ledger with cards := Table.set ledger.cards number row }

/-- The ledger with a transaction stored. -/
def setTransaction (ledger : Ledger) (id : TransactionId) (row : Transaction) : Ledger :=
  { ledger with transactions := ledger.transactions.insert id row }

/-- The ledger without the cards of an account. -/
def dropCards (ledger : Ledger) (account : AccountId) : Ledger :=
  { ledger with
    cards := (ledger.cardsOf account).foldl (fun t card => t.erase card.number) ledger.cards }

/-- Every card is filed under its own number. -/
def CardsFiled (ledger : Ledger) : Prop :=
  ∀ (number : CardNumber) (card : Card), ledger.cards[number]? = some card → card.number = number

theorem ext_getElem? {l m : Ledger} (ha : ∀ id : AccountId, l.accounts[id]? = m.accounts[id]?)
    (hc : ∀ number : CardNumber, l.cards[number]? = m.cards[number]?)
    (ht : ∀ id : TransactionId, l.transactions[id]? = m.transactions[id]?) : l = m := by
  cases l
  cases m
  simp only [mk.injEq]
  exact ⟨Table.ext_getElem? ha, Table.ext_getElem? hc, Table.ext_getElem? ht⟩

variable (ledger : Ledger) (changes : ChangeSet)

theorem accounts_apply (id : AccountId) :
    (ledger.apply changes).accounts[id]? = changes.accounts[id]?.getD ledger.accounts[id]? :=
  Table.getElem?_foldl_set _ _ _

theorem cards_apply (number : CardNumber) :
    (ledger.apply changes).cards[number]? = changes.cards[number]?.getD ledger.cards[number]? :=
  Table.getElem?_foldl_set _ _ _

theorem transactions_apply (id : TransactionId) :
    (ledger.apply changes).transactions[id]? =
      changes.transactions[id]?.or ledger.transactions[id]? :=
  Table.getElem?_foldl_insert _ _ _

/-- Applying no changes changes nothing. -/
theorem apply_of_isEmpty {changes : ChangeSet} (h : changes.isEmpty = true) :
    ledger.apply changes = ledger := by
  simp only [ChangeSet.isEmpty, Bool.and_eq_true, Std.ExtTreeMap.isEmpty_iff] at h
  obtain ⟨⟨ha, hc⟩, ht⟩ := h
  refine ext_getElem? ?_ ?_ ?_
  · intro id
    rw [accounts_apply, ha, Std.ExtTreeMap.getElem?_empty, Option.getD_none]
  · intro number
    rw [cards_apply, hc, Std.ExtTreeMap.getElem?_empty, Option.getD_none]
  · intro id
    rw [transactions_apply, ht, Std.ExtTreeMap.getElem?_empty, Option.none_or]

theorem apply_empty : ledger.apply .empty = ledger :=
  apply_of_isEmpty ledger rfl

/-! A write into the change set is a write to the ledger under it. -/

theorem apply_insert_account (id : AccountId) (row : Option Account) :
    ledger.apply { changes with accounts := changes.accounts.insert id row } =
      (ledger.apply changes).setAccount id row := by
  refine ext_getElem? ?_ ?_ ?_
  · intro k
    rw [accounts_apply, setAccount, Table.getElem?_set, Std.ExtTreeMap.getElem?_insert,
      accounts_apply]
    split <;> rfl
  · intro k
    rw [cards_apply]
    exact (cards_apply ledger changes k).symm
  · intro k
    rw [transactions_apply]
    exact (transactions_apply ledger changes k).symm

theorem apply_insert_card (number : CardNumber) (row : Option Card) :
    ledger.apply { changes with cards := changes.cards.insert number row } =
      (ledger.apply changes).setCard number row := by
  refine ext_getElem? ?_ ?_ ?_
  · intro k
    rw [accounts_apply]
    exact (accounts_apply ledger changes k).symm
  · intro k
    rw [cards_apply, setCard, Table.getElem?_set, Std.ExtTreeMap.getElem?_insert, cards_apply]
    split <;> rfl
  · intro k
    rw [transactions_apply]
    exact (transactions_apply ledger changes k).symm

theorem apply_insert_transaction (id : TransactionId) (row : Transaction) :
    ledger.apply { changes with transactions := changes.transactions.insert id row } =
      (ledger.apply changes).setTransaction id row := by
  refine ext_getElem? ?_ ?_ ?_
  · intro k
    rw [accounts_apply]
    exact (accounts_apply ledger changes k).symm
  · intro k
    rw [cards_apply]
    exact (cards_apply ledger changes k).symm
  · intro k
    rw [transactions_apply, setTransaction, Std.ExtTreeMap.getElem?_insert,
      Std.ExtTreeMap.getElem?_insert, transactions_apply]
    split <;> rfl

/-! ### Removing the cards of an account -/

theorem mem_cardsOf {ledger : Ledger} {account : AccountId} {card : Card} :
    card ∈ ledger.cardsOf account ↔
      (∃ number : CardNumber, ledger.cards[number]? = some card) ∧ card.account = account := by
  rw [cardsOf, List.mem_filter, Table.mem_rows, beq_iff_eq]

/-- Where cards are filed under their numbers, those of an account are looked up by number. -/
theorem CardsFiled.mem_cardsOf {ledger : Ledger} (h : ledger.CardsFiled) {account : AccountId}
    {card : Card} :
    card ∈ ledger.cardsOf account ↔
      ledger.cards[card.number]? = some card ∧ card.account = account := by
  rw [Ledger.mem_cardsOf]
  refine and_congr_left fun _ => ⟨?_, fun hn => ⟨_, hn⟩⟩
  intro h
  obtain ⟨number, hn⟩ := h
  rw [h number card hn]
  exact hn

theorem getElem?_dropCards (ledger : Ledger) (account : AccountId) (number : CardNumber) :
    (ledger.dropCards account).cards[number]? =
      if number ∈ (ledger.cardsOf account).map Card.number then none else ledger.cards[number]? :=
  Table.getElem?_foldl_of_answer (fun t card => t.erase card.number) Card.number none
    (fun t _ _ hne => Table.getElem?_erase_of_ne t hne)
    (fun _ _ => Std.ExtTreeMap.getElem?_erase_self) _ _ _

/-- Where cards are filed under their numbers, a card goes exactly if it leads to the account. -/
theorem cards_dropCards {ledger : Ledger} (h : ledger.CardsFiled) (account : AccountId)
    (number : CardNumber) :
    (ledger.dropCards account).cards[number]? =
      ledger.cards[number]?.filter fun card => card.account != account := by
  rw [getElem?_dropCards]
  split
  · next hm =>
    obtain ⟨card, hc, rfl⟩ := List.mem_map.1 hm
    obtain ⟨hkey, rfl⟩ := h.mem_cardsOf.1 hc
    rw [hkey, Option.filter_some_neg (by simp)]
  · next hm =>
    cases hc : ledger.cards[number]? with
    | none => rfl
    | some card =>
        have hne : card.account ≠ account := by
          intro ha
          exact hm (List.mem_map.2 ⟨card, mem_cardsOf.2 ⟨⟨number, hc⟩, ha⟩, h number card hc⟩)
        rw [Option.filter_some_pos (by simpa using hne)]

end Ledger

namespace ChangeSet

/-- Every card among the changes is filed under its own number. -/
def CardsFiled (changes : ChangeSet) : Prop :=
  ∀ (number : CardNumber) (card : Card), changes.cards[number]? = some (some card) →
    card.number = number

theorem getElem?_dropCards (changes : ChangeSet) (cards : List Card) (number : CardNumber) :
    (changes.dropCards cards).cards[number]? =
      if number ∈ cards.map Card.number then some none else changes.cards[number]? :=
  Table.getElem?_foldl_of_answer (fun t card => t.insert card.number none) Card.number (some none)
    (fun t _ _ hne => Table.getElem?_insert_of_ne t none hne)
    (fun _ _ => Std.ExtTreeMap.getElem?_insert_self) _ _ _

theorem cardsFiled_empty : ChangeSet.CardsFiled .empty := by
  intro number card hn
  rw [ChangeSet.empty, Std.ExtTreeMap.getElem?_empty] at hn
  exact absurd hn (by simp)

/-- A card that joins the changes under its own number is filed there. -/
theorem CardsFiled.insert {changes : ChangeSet} (h : changes.CardsFiled) {number : CardNumber}
    {row : Option Card} (hrow : ∀ card ∈ row, card.number = number) :
    CardsFiled { changes with cards := changes.cards.insert number row } := by
  intro k card hk
  rcases Table.of_getElem?_insert hk with ⟨rfl, hcard⟩ | ⟨-, hold⟩
  · exact hrow card hcard.symm
  · exact h k card hold

/-- A removal among the changes files no card. -/
theorem CardsFiled.dropCards {changes : ChangeSet} (h : changes.CardsFiled) (cards : List Card) :
    (changes.dropCards cards).CardsFiled := by
  intro number card hn
  rw [getElem?_dropCards] at hn
  split at hn
  · exact absurd hn (by simp)
  · exact h number card hn

end ChangeSet

namespace Ledger

/-- Cards filed under their numbers in a ledger and in the changes to it stay so. -/
theorem CardsFiled.apply {ledger : Ledger} {changes : ChangeSet} (h : ledger.CardsFiled)
    (hc : changes.CardsFiled) : (ledger.apply changes).CardsFiled := by
  intro number card hn
  rw [cards_apply] at hn
  cases hs : changes.cards[number]? with
  | none =>
      rw [hs, Option.getD_none] at hn
      exact h number card hn
  | some row =>
      rw [hs, Option.getD_some] at hn
      subst hn
      exact hc number card hs

/-- A unit of work finds the cards of an account that the changed ledger has. -/
theorem mem_stagedCardsOf {ledger : Ledger} {changes : ChangeSet} (h : ledger.CardsFiled)
    (hc : changes.CardsFiled) {account : AccountId} {cards : List Card}
    (hs : stagedCardsOf ledger changes account = .ok cards) {card : Card} :
    card ∈ cards ↔ card ∈ (ledger.apply changes).cardsOf account := by
  have hcards : cards = (ledger.cardsOf account).filter
      (fun card => !changes.cards.contains card.number) ++ changes.cardsOf account := by
    injection hs with hs
    exact hs.symm
  have hstaged : card ∈ changes.cardsOf account ↔
      changes.cards[card.number]? = some (some card) ∧ card.account = account := by
    simp only [ChangeSet.cardsOf, List.mem_filter, List.mem_filterMap, id_eq, exists_eq_right,
      Table.mem_rows, beq_iff_eq]
    refine and_congr_left fun _ => ⟨?_, fun hn => ⟨_, hn⟩⟩
    intro h
    obtain ⟨number, hn⟩ := h
    rw [hc number card hn]
    exact hn
  rw [hcards, List.mem_append, List.mem_filter, hstaged, h.mem_cardsOf, (h.apply hc).mem_cardsOf,
    cards_apply]
  simp only [Std.ExtTreeMap.contains_eq_isSome_getElem?, Bool.not_eq_true',
    Option.isSome_eq_false_iff]
  cases changes.cards[card.number]? <;> simp

end Ledger

/-! ### Both ways of carrying a statement out -/

namespace Statement

variable {α β : Type}

/-- Carries a statement out at once: reads see the ledger, and writes go to it. -/
def run : Statement α → Ledger → Outcome α × Ledger
  | .done value, ledger => (.ok value, ledger)
  | .fail failure, ledger => (.error failure, ledger)
  | .account id next, ledger => (next ledger.accounts[id]?).run ledger
  | .card number next, ledger => (next ledger.cards[number]?).run ledger
  | .transaction id next, ledger => (next ledger.transactions[id]?).run ledger
  | .setAccount id row next, ledger => next.run (ledger.setAccount id row)
  | .setCard number row next, ledger => next.run (ledger.setCard number row)
  | .setTransaction id row next, ledger => next.run (ledger.setTransaction id row)
  | .dropCards owner next, ledger => next.run (ledger.dropCards owner)

/-- Whether the statement never removes all cards of an account. -/
def KeepsCards : Statement α → Prop
  | .done _ | .fail _ => True
  | .account _ next => ∀ row, (next row).KeepsCards
  | .card _ next => ∀ row, (next row).KeepsCards
  | .transaction _ next => ∀ row, (next row).KeepsCards
  | .setAccount _ _ next => next.KeepsCards
  | .setCard _ _ next => next.KeepsCards
  | .setTransaction _ _ next => next.KeepsCards
  | .dropCards .. => False

/-- Whether the statement files every card that it stores under the card's own number. -/
def FilesCards : Statement α → Prop
  | .done _ | .fail _ => True
  | .account _ next => ∀ row, (next row).FilesCards
  | .card _ next => ∀ row, (next row).FilesCards
  | .transaction _ next => ∀ row, (next row).FilesCards
  | .setAccount _ _ next => next.FilesCards
  | .setCard number row next => (∀ card ∈ row, card.number = number) ∧ next.FilesCards
  | .setTransaction _ _ next => next.FilesCards
  | .dropCards _ next => next.FilesCards

/-- A statement may remove the cards of accounts only where cards are filed and stay so. -/
def Orderly (s : Statement α) (ledger : Ledger) (changes : ChangeSet) : Prop :=
  s.KeepsCards ∨ (ledger.CardsFiled ∧ changes.CardsFiled ∧ s.FilesCards)

/-- A removal waiting among the changes takes the cards from the ledger under them. -/
theorem apply_dropCards {ledger : Ledger} {changes : ChangeSet} (h : ledger.CardsFiled)
    (hc : changes.CardsFiled) {account : AccountId} {cards : List Card}
    (hs : stagedCardsOf ledger changes account = .ok cards) :
    ledger.apply (changes.dropCards cards) = (ledger.apply changes).dropCards account := by
  refine Ledger.ext_getElem? ?_ ?_ ?_
  · intro k
    rw [Ledger.accounts_apply]
    exact (Ledger.accounts_apply ledger changes k).symm
  · intro k
    have hnumbers : k ∈ cards.map Card.number ↔
        k ∈ ((ledger.apply changes).cardsOf account).map Card.number := by
      simp only [List.mem_map, Ledger.mem_stagedCardsOf h hc hs]
    rw [Ledger.cards_apply, ChangeSet.getElem?_dropCards, Ledger.getElem?_dropCards]
    by_cases hk : k ∈ cards.map Card.number
    · rw [if_pos hk, if_pos (hnumbers.1 hk), Option.getD_some]
    · rw [if_neg hk, if_neg (fun hm => hk (hnumbers.2 hm)), Ledger.cards_apply]
  · intro k
    rw [Ledger.transactions_apply]
    exact (Ledger.transactions_apply ledger changes k).symm

/--
**Staging a statement is carrying it out.**  It comes to the same outcome, and its
change set turns the stored ledger into the one that carrying it out at once leaves.
The induction is on the statement, with the change set arbitrary.
-/
theorem stage_eq_run (ledger : Ledger) (s : Statement α) :
    ∀ changes : ChangeSet, s.Orderly ledger changes →
      (s.stage ledger changes).1 = (s.run (ledger.apply changes)).1 ∧
        ledger.apply (s.stage ledger changes).2 = (s.run (ledger.apply changes)).2 := by
  induction s with
  | done value =>
      intro changes _
      unfold stage run
      exact ⟨rfl, rfl⟩
  | fail failure =>
      intro changes _
      unfold stage run
      exact ⟨rfl, rfl⟩
  | account id next ih =>
      intro changes h
      have hnext : ∀ row, (next row).Orderly ledger changes := fun row =>
        h.imp (fun hk => hk row) (fun hf => ⟨hf.1, hf.2.1, hf.2.2 row⟩)
      unfold stage run
      rw [Ledger.accounts_apply]
      cases changes.accounts[id]? with
      | some row => exact ih row changes (hnext row)
      | none => exact ih _ changes (hnext _)
  | card number next ih =>
      intro changes h
      have hnext : ∀ row, (next row).Orderly ledger changes := fun row =>
        h.imp (fun hk => hk row) (fun hf => ⟨hf.1, hf.2.1, hf.2.2 row⟩)
      unfold stage run
      rw [Ledger.cards_apply]
      cases changes.cards[number]? with
      | some row => exact ih row changes (hnext row)
      | none => exact ih _ changes (hnext _)
  | transaction id next ih =>
      intro changes h
      have hnext : ∀ row, (next row).Orderly ledger changes := fun row =>
        h.imp (fun hk => hk row) (fun hf => ⟨hf.1, hf.2.1, hf.2.2 row⟩)
      unfold stage run
      rw [Ledger.transactions_apply]
      cases changes.transactions[id]? with
      | some row => exact ih (some row) changes (hnext _)
      | none => exact ih _ changes (hnext _)
  | setAccount id row next ih =>
      intro changes h
      unfold stage run
      rw [← Ledger.apply_insert_account]
      exact ih _ h
  | setCard number row next ih =>
      intro changes h
      unfold stage run
      rw [← Ledger.apply_insert_card]
      exact ih _ (h.imp id fun hf => ⟨hf.1, hf.2.1.insert hf.2.2.1, hf.2.2.2⟩)
  | setTransaction id row next ih =>
      intro changes h
      unfold stage run
      rw [← Ledger.apply_insert_transaction]
      exact ih _ h
  | dropCards account next ih =>
      intro changes h
      obtain ⟨hl, hc, hf⟩ := h.resolve_left id
      unfold stage run
      cases hs : stagedCardsOf ledger changes account with
      | error failure => exact absurd hs (by simp [stagedCardsOf, Store.cardsOf, Except.map])
      | ok cards =>
          rw [← apply_dropCards hl hc hs]
          exact ih _ (Or.inr ⟨hl, hc.dropCards cards, hf⟩)

end Statement

namespace Ledger

variable {α : Type}

theorem commit_eq (changes : ChangeSet) (ledger : Ledger) :
    commit changes ledger = (.ok (), ledger.apply changes) := by
  unfold commit
  split
  · next h => rw [apply_of_isEmpty ledger h]
  · rfl

/--
**A unit of work is its statement carried out, or nothing.**  It comes to what the
statement comes to, and leaves what the statement leaves, or the old ledger if it failed.
-/
theorem execute_eq (s : Statement α) (ledger : Ledger)
    (h : s.KeepsCards ∨ (ledger.CardsFiled ∧ s.FilesCards)) :
    execute s ledger =
      match s.run ledger with
      | (.ok value, changed) => (.ok value, changed)
      | (.error failure, _) => (.error failure, ledger) := by
  obtain ⟨hvalue, hledger⟩ := s.stage_eq_run ledger .empty
    (h.imp id fun hf => ⟨hf.1, ChangeSet.cardsFiled_empty, hf.2⟩)
  rw [apply_empty] at hvalue hledger
  unfold execute atomically Statement.work
  rcases hs : s.stage ledger .empty with ⟨outcome, changes⟩
  rcases hr : s.run ledger with ⟨outcome', changed⟩
  rw [hs, hr] at hvalue hledger
  simp only at hvalue hledger
  subst hvalue hledger
  cases outcome with
  | ok value => simp only [commit_eq]
  | error failure => rfl

/-- A unit of work that fails leaves the ledger as it was. -/
theorem execute_error {s : Statement α} {ledger changed : Ledger} {failure : Failure}
    (h : execute s ledger = (.error failure, changed)) : changed = ledger := by
  unfold execute atomically at h
  rcases hs : s.work ledger .empty with ⟨outcome, changes⟩
  rw [hs] at h
  cases outcome with
  | ok value =>
      simp only [commit_eq] at h
      exact absurd (congrArg Prod.fst h) (by simp)
  | error cause => exact (congrArg Prod.snd h).symm

/-- A unit of work succeeds as its statement does. -/
theorem execute_ok_iff {s : Statement α} {ledger changed : Ledger} {value : α}
    (h : s.KeepsCards ∨ (ledger.CardsFiled ∧ s.FilesCards)) :
    execute s ledger = (.ok value, changed) ↔ s.run ledger = (.ok value, changed) := by
  rw [execute_eq s ledger h]
  rcases s.run ledger with ⟨outcome, after⟩
  cases outcome <;> simp

end Ledger

end Cashbook
