/-
What is still true of a ledger later.

Whoever looked at a ledger a while ago knows something about it now, although others
have changed it since.  An account that is still there has the owner and the currency
that it had; a card still leads to its account as long as there is one; a transaction
is still there and was at most rolled back.  This takes two things.  Identifiers must
not be given away twice, or an account that was seen may have been replaced by another.
And cards must not be revoked one by one.

`Later` collects this as a preorder on moments of a ledger.
-/
import Cashbook.Proofs.Ledger.WellFormed

namespace Cashbook

/-! ### What looking up finds -/

namespace Ledger

variable {ledger : Ledger}

theorem account_ok_iff {id : AccountId} {row : Account} :
    ledger.account id = .ok row ↔ ledger.accounts[id]? = some row := by
  unfold account
  cases ledger.accounts[id]? <;> simp

theorem card_ok_iff {number : CardNumber} {row : Card} :
    ledger.card number = .ok row ↔ ledger.cards[number]? = some row := by
  unfold card
  cases ledger.cards[number]? <;> simp

theorem transaction_ok_iff {id : TransactionId} {tx : Transaction} :
    ledger.transaction id = .ok tx ↔ ledger.transactions[id]? = some tx := by
  unfold transaction
  cases ledger.transactions[id]? <;> simp

theorem accountOfCard_ok_iff {number : CardNumber} {row : Account} :
    ledger.accountOfCard number = .ok row ↔
      ∃ card, ledger.cards[number]? = some card ∧ ledger.accounts[card.account]? = some row := by
  unfold accountOfCard
  cases ledger.cards[number]? with
  | none => simp
  | some card =>
      rw [Option.bind_some]
      cases hrow : ledger.accounts[card.account]? <;> simp [hrow]

/-- The account that a card leads to is filed under its own identifier. -/
theorem InOrder.getElem?_of_accountOfCard (h : ledger.InOrder) {number : CardNumber} {row : Account}
    (hcard : ledger.accountOfCard number = .ok row) : ledger.accounts[row.id]? = some row := by
  obtain ⟨card, -, hrow⟩ := accountOfCard_ok_iff.1 hcard
  rwa [h.accountsFiled card.account row hrow]

end Ledger

/-! ### Moments -/

/-- A ledger at one moment, and the identifiers that no account has had until then. -/
structure Moment where
  ledger : Ledger
  unused : AccountId → Prop
  inOrder : ledger.InOrder
  absent : ∀ id, unused id → ledger.accounts[id]? = none

/-- What one moment may still count on at another. -/
structure Later (earlier later : Moment) : Prop where
  unused : ∀ id, later.unused id → earlier.unused id
  /-- An account that is gone stays gone. -/
  gone : ∀ id : AccountId, ¬earlier.unused id → earlier.ledger.accounts[id]? = none →
    later.ledger.accounts[id]? = none
  /-- An account that is there differs from what it was in its balance alone. -/
  frames : ∀ (id : AccountId) (row new : Account), earlier.ledger.accounts[id]? = some row →
    later.ledger.accounts[id]? = some new → new.frame = row.frame
  /-- A card stays with its account. -/
  cards : ∀ (number : CardNumber) (card : Card), earlier.ledger.cards[number]? = some card →
    (∃ row, later.ledger.accounts[card.account]? = some row) →
      later.ledger.cards[number]? = some card
  /-- A transaction is at most rolled back. -/
  transactions : ∀ (id : TransactionId) (tx : Transaction),
    earlier.ledger.transactions[id]? = some tx →
      ∃ new, later.ledger.transactions[id]? = some new ∧ (new.rolledBack = false → new = tx)

namespace Later

variable {first second third : Moment}

theorem refl (moment : Moment) : Later moment moment where
  unused _ h := h
  gone _ _ h := h
  frames _ _ _ hrow hnew := by rw [Option.some.inj (hrow.symm.trans hnew)]
  cards _ _ hcard _ := hcard
  transactions _ tx htx := ⟨tx, htx, fun _ => rfl⟩

/-- An account that is there before and after was there in between. -/
theorem between (h : Later first second) (h' : Later second third) {id : AccountId}
    {row new : Account} (hrow : first.ledger.accounts[id]? = some row)
    (hnew : third.ledger.accounts[id]? = some new) :
    ∃ mid, second.ledger.accounts[id]? = some mid := by
  cases hmid : second.ledger.accounts[id]? with
  | some mid => exact ⟨mid, rfl⟩
  | none =>
      -- It was used at first, so it would have stayed gone.
      have hused : ¬second.unused id := by
        intro hunused
        rw [first.absent id (h.unused id hunused)] at hrow
        simp at hrow
      rw [h'.gone id hused hmid] at hnew
      simp at hnew

theorem trans (h : Later first second) (h' : Later second third) : Later first third where
  unused id hunused := h.unused id (h'.unused id hunused)
  gone id hused hnone := by
    have hmid := h.gone id hused hnone
    exact h'.gone id (fun hunused => hused (h.unused id hunused)) hmid
  frames id row new hrow hnew := by
    obtain ⟨mid, hmid⟩ := h.between h' hrow hnew
    rw [h'.frames id mid new hmid hnew, h.frames id row mid hrow hmid]
  cards number card hcard hleads := by
    obtain ⟨row, hrow⟩ := first.inOrder.cardsLead number card hcard
    obtain ⟨new, hnew⟩ := hleads
    obtain ⟨mid, hmid⟩ := h.between h' hrow hnew
    exact h'.cards number card (h.cards number card hcard ⟨mid, hmid⟩) ⟨new, hnew⟩
  transactions id tx htx := by
    obtain ⟨mid, hmid, hsame⟩ := h.transactions id tx htx
    obtain ⟨new, hnew, hsame'⟩ := h'.transactions id mid hmid
    refine ⟨new, hnew, ?_⟩
    intro hflag
    obtain rfl := hsame' hflag
    exact hsame hflag

/-- A card that led to an account leads to it as long as the account is there. -/
theorem accountOfCard (h : Later first second) {number : CardNumber} {row new : Account}
    (hcard : first.ledger.accountOfCard number = .ok row)
    (hnew : second.ledger.accounts[row.id]? = some new) :
    second.ledger.accountOfCard number = .ok new ∧ new.frame = row.frame := by
  obtain ⟨card, hfound, hrow⟩ := Ledger.accountOfCard_ok_iff.1 hcard
  rw [first.inOrder.accountsFiled card.account row hrow] at hnew
  have hkept := h.cards number card hfound ⟨new, hnew⟩
  exact ⟨Ledger.accountOfCard_ok_iff.2 ⟨card, hkept, hnew⟩, h.frames _ row new hrow hnew⟩

end Later

/-! ### One change -/

variable {before after : Ledger} {change : Change} {id : AccountId}

/-- An account that is not there is there after a change only if the change opens it. -/
theorem Change.Effect.absent (he : change.Effect before after) (hnone : before.accounts[id]? = none)
    (hopen : ∀ row, change.opening? = some row → row.id ≠ id) : after.accounts[id]? = none := by
  cases change with
  | createAccount row =>
      obtain ⟨-, rfl⟩ := he
      rw [← hnone]
      exact Table.getElem?_insert_of_ne _ _ (hopen row rfl)
  | deleteAccount other =>
      obtain ⟨-, rfl⟩ := he
      rw [Option.eq_none_iff_forall_ne_some]
      intro row hrow
      rw [(Table.of_getElem?_erase hrow).2] at hnone
      simp at hnone
  | createCard row =>
      obtain ⟨-, -, rfl⟩ := he
      exact hnone
  | deleteCard number =>
      obtain ⟨-, rfl⟩ := he
      exact hnone
  | record tx =>
      obtain ⟨accounts, hmoves, -, rfl⟩ := he
      have hid := hmoves.alike id
      rwa [hnone, Option.map_none, Option.map_eq_none_iff] at hid
  | rollbackTransfer key =>
      obtain ⟨tx, source, destination, accounts, -, -, -, hpass, rfl⟩ := he
      have hid := hpass.alike id
      rwa [hnone, Option.map_none, Option.map_eq_none_iff] at hid

/-- A change touches the balances of accounts that are there, and nothing else about them. -/
theorem Change.Effect.frame_eq (he : change.Effect before after) {row new : Account}
    (hrow : before.accounts[id]? = some row) (hnew : after.accounts[id]? = some new) :
    new.frame = row.frame := by
  -- Where the accounts are those of before but for their balances, or some of them, this is plain.
  have halike : Alike before.accounts after.accounts → new.frame = row.frame := by
    intro h
    obtain ⟨old, hold, hframe⟩ := h.was hnew
    rw [← hframe, Option.some.inj (hold.symm.trans hrow)]
  cases change with
  | createAccount opened =>
      obtain ⟨hfree, rfl⟩ := he
      rcases Table.of_getElem?_insert hnew with ⟨rfl, -⟩ | ⟨-, hold⟩
      · rw [hfree] at hrow
        simp at hrow
      · rw [Option.some.inj (hold.symm.trans hrow)]
  | deleteAccount other =>
      obtain ⟨-, rfl⟩ := he
      rw [Option.some.inj ((Table.of_getElem?_erase hnew).2.symm.trans hrow)]
  | createCard card =>
      obtain ⟨-, -, rfl⟩ := he
      exact halike (.refl _)
  | deleteCard number =>
      obtain ⟨-, rfl⟩ := he
      exact halike (.refl _)
  | record tx =>
      obtain ⟨accounts, hmoves, -, rfl⟩ := he
      exact halike hmoves.alike
  | rollbackTransfer key =>
      obtain ⟨tx, source, destination, accounts, -, -, -, hpass, rfl⟩ := he
      exact halike hpass.alike

/-- An account that is there after a change was there but for its balance, or is the one opened. -/
theorem Change.Effect.account_origin (he : change.Effect before after) {new : Account}
    (hnew : after.accounts[id]? = some new) :
    (∃ row, before.accounts[id]? = some row ∧ new.frame = row.frame) ∨
      (change = .createAccount new ∧ new.id = id) := by
  cases hrow : before.accounts[id]? with
  | some row => exact Or.inl ⟨row, rfl, he.frame_eq hrow hnew⟩
  | none =>
      cases change with
      | createAccount opened =>
          obtain ⟨-, rfl⟩ := he
          rcases Table.of_getElem?_insert hnew with ⟨rfl, rfl⟩ | ⟨-, hold⟩
          · exact Or.inr ⟨rfl, rfl⟩
          · rw [hrow] at hold
            cases hold
      | deleteAccount _ | createCard _ | deleteCard _ | record _ | rollbackTransfer _ =>
          rw [he.absent hrow nofun] at hnew
          cases hnew

/-- A card that is there after a change was there, or is the one issued. -/
theorem Change.Effect.card_origin (he : change.Effect before after) (hfiled : before.CardsFiled)
    {number : CardNumber} {card : Card} (hcard : after.cards[number]? = some card) :
    before.cards[number]? = some card ∨ (change = .createCard card ∧ card.number = number) := by
  cases change with
  | createAccount opened =>
      obtain ⟨-, rfl⟩ := he
      exact Or.inl hcard
  | deleteAccount other =>
      obtain ⟨-, rfl⟩ := he
      have hkept : (before.dropCards other).cards[number]? = some card := hcard
      rw [Ledger.cards_dropCards hfiled, Option.filter_eq_some_iff] at hkept
      exact Or.inl hkept.1
  | createCard issued =>
      obtain ⟨-, -, rfl⟩ := he
      rcases Table.of_getElem?_insert hcard with ⟨rfl, rfl⟩ | ⟨-, hold⟩
      · exact Or.inr ⟨rfl, rfl⟩
      · exact Or.inl hold
  | deleteCard revoked =>
      obtain ⟨-, rfl⟩ := he
      exact Or.inl (Table.of_getElem?_erase hcard).2
  | record tx =>
      obtain ⟨accounts, -, -, rfl⟩ := he
      exact Or.inl hcard
  | rollbackTransfer key =>
      obtain ⟨tx, source, destination, accounts, -, -, -, -, rfl⟩ := he
      exact Or.inl hcard

/-- An account that is there stays until it is closed. -/
theorem Change.Effect.account_stays (he : change.Effect before after)
    (hclose : change ≠ .deleteAccount id) {row : Account} (hrow : before.accounts[id]? = some row) :
    ∃ new, after.accounts[id]? = some new ∧ new.frame = row.frame := by
  cases change with
  | createAccount opened =>
      obtain ⟨hfree, rfl⟩ := he
      have hne : opened.id ≠ id := by
        rintro rfl
        rw [hfree] at hrow
        cases hrow
      exact ⟨row, (Table.getElem?_insert_of_ne _ _ hne).trans hrow, rfl⟩
  | deleteAccount other =>
      obtain ⟨-, rfl⟩ := he
      have hne : other ≠ id := fun h => hclose (by rw [h])
      exact ⟨row, (Table.getElem?_erase_of_ne _ hne).trans hrow, rfl⟩
  | createCard card =>
      obtain ⟨-, -, rfl⟩ := he
      exact ⟨row, hrow, rfl⟩
  | deleteCard number =>
      obtain ⟨-, rfl⟩ := he
      exact ⟨row, hrow, rfl⟩
  | record tx =>
      obtain ⟨accounts, hmoves, -, rfl⟩ := he
      exact hmoves.alike.is hrow
  | rollbackTransfer key =>
      obtain ⟨tx, source, destination, accounts, -, -, -, hpass, rfl⟩ := he
      exact hpass.alike.is hrow

/-- A card goes when it is revoked, or together with its account. -/
theorem Change.Effect.card_kept (he : change.Effect before after) (hfiled : before.CardsFiled)
    (hrevoke : ∀ number, change ≠ .deleteCard number) {number : CardNumber} {card : Card}
    (hcard : before.cards[number]? = some card)
    (hleads : ∃ row, after.accounts[card.account]? = some row) :
    after.cards[number]? = some card := by
  cases change with
  | createAccount opened =>
      obtain ⟨-, rfl⟩ := he
      exact hcard
  | deleteAccount other =>
      obtain ⟨-, rfl⟩ := he
      obtain ⟨row, hrow⟩ := hleads
      have hne := (Table.of_getElem?_erase hrow).1
      show (before.dropCards other).cards[number]? = some card
      rw [Ledger.cards_dropCards hfiled, Option.filter_eq_some_iff]
      exact ⟨hcard, by simpa using hne⟩
  | createCard issued =>
      obtain ⟨-, hfree, rfl⟩ := he
      have hne : issued.number ≠ number := by
        intro h
        subst h
        rw [hfree] at hcard
        simp at hcard
      rw [← hcard]
      exact Table.getElem?_insert_of_ne _ _ hne
  | deleteCard revoked => exact absurd rfl (hrevoke revoked)
  | record tx =>
      obtain ⟨accounts, -, -, rfl⟩ := he
      exact hcard
  | rollbackTransfer key =>
      obtain ⟨tx, source, destination, accounts, -, -, -, -, rfl⟩ := he
      exact hcard

/-- A transaction stays; all that can happen to it is that it is rolled back. -/
theorem Change.Effect.transaction_kept (he : change.Effect before after) {key : TransactionId}
    {tx : Transaction} (htx : before.transactions[key]? = some tx) :
    ∃ new, after.transactions[key]? = some new ∧ (new.rolledBack = false → new = tx) := by
  rcases he.transaction_cases htx with ⟨-, hkept⟩ | ⟨-, -, -, hmarked⟩
  · exact ⟨tx, hkept, fun _ => rfl⟩
  · exact ⟨_, hmarked, nofun⟩

/-- The moment after a change, at which the identifier of an account that was opened is used. -/
theorem Moment.exists_next (moment : Moment) (he : change.Effect moment.ledger after)
    {unused : AccountId → Prop} (hfewer : ∀ id, unused id → moment.unused id)
    (hused : ∀ row, change.opening? = some row → ¬unused row.id) :
    ∃ next : Moment, next.ledger = after ∧ next.unused = unused := by
  refine ⟨⟨after, unused, moment.inOrder.step he, ?_⟩, rfl, rfl⟩
  intro id hid
  refine he.absent (moment.absent id (hfewer id hid)) ?_
  intro row hrow heq
  exact hused row hrow (heq ▸ hid)

/--
**A change leads to a later moment**, unless it revokes a card or opens an account under
an identifier that was used before.  The identifier of an account that it opens is used
from then on.
-/
theorem Moment.exists_later (moment : Moment) (he : change.Effect moment.ledger after)
    (hrevoke : ∀ number, change ≠ .deleteCard number)
    (hopen : ∀ row, change.opening? = some row → moment.unused row.id)
    {unused : AccountId → Prop} (hfewer : ∀ id, unused id → moment.unused id)
    (hused : ∀ row, change.opening? = some row → ¬unused row.id) :
    ∃ next : Moment, next.ledger = after ∧ next.unused = unused ∧ Later moment next := by
  obtain ⟨next, rfl, rfl⟩ := moment.exists_next he hfewer hused
  exact ⟨next, rfl, rfl, {
    unused := hfewer
    gone := fun id hid hnone => he.absent hnone fun row hrow heq => hid (heq ▸ hopen row hrow)
    frames := fun id row new hrow hnew => he.frame_eq hrow hnew
    cards := fun number card hcard hleads =>
      he.card_kept moment.inOrder.cardsFiled hrevoke hcard hleads
    transactions := fun id tx htx => he.transaction_kept htx }⟩

end Cashbook
