/-
Ledgers in which accounts can be told apart by name.

Nothing in a ledger keeps an owner from having two accounts of one name, or an account from
having two cards.  Where nobody opens an account under a name that its owner uses already,
and nobody issues a second card, it does not come to that: names then find accounts, and
accounts find cards.  `Change.Tidies` is what a change must not do, and the invariant is
proved from it by where the rows of a changed ledger come from.
-/
import Cashbook.Proofs.Ledger.Later

namespace Cashbook

namespace Ledger

/-- Rows are in order, no owner has two accounts of one name, and no account has two cards. -/
structure Tidy (ledger : Ledger) : Prop extends InOrder ledger where
  namesDistinct : ∀ (id other : AccountId) (row old : Account), ledger.accounts[id]? = some row →
    ledger.accounts[other]? = some old → row.owner = old.owner → row.name = old.name → id = other
  oneCard : ∀ (number other : CardNumber) (card old : Card), ledger.cards[number]? = some card →
    ledger.cards[other]? = some old → card.account = old.account → number = other

/-- The owner has no account of this name. -/
def NameFree (ledger : Ledger) (owner : OwnerId) (name : String) : Prop :=
  ∀ (id : AccountId) (row : Account), ledger.accounts[id]? = some row → row.owner = owner →
    row.name ≠ name

/-- The account has no card. -/
def Cardless (ledger : Ledger) (id : AccountId) : Prop :=
  ∀ (number : CardNumber) (card : Card), ledger.cards[number]? = some card → card.account ≠ id

end Ledger

/-- The change neither opens an account under a name that is in use nor issues a second card. -/
def Change.Tidies (before : Ledger) : Change → Prop
  | .createAccount row => before.NameFree row.owner row.name
  | .createCard card => before.Cardless card.account
  | .deleteAccount _ | .deleteCard _ | .record _ | .rollbackTransfer _ => True

@[simp] theorem Account.frame_name (row : Account) : row.frame.name = row.name := rfl

namespace Ledger

variable {ledger before after : Ledger} {change : Change}

/-! ### The invariant -/

theorem tidy_empty : Tidy .empty where
  toInOrder := wellFormed_empty.toInOrder
  namesDistinct _ _ _ _ h := absurd h (by simp [empty])
  oneCard _ _ _ _ h := absurd h (by simp [empty])

/-- An account of a changed ledger has the owner and the name of one that was there, or is new. -/
private theorem origin_of_tidies (he : change.Effect before after) (htidies : change.Tidies before)
    {id : AccountId} {new : Account} (hnew : after.accounts[id]? = some new) :
    (∃ row, before.accounts[id]? = some row ∧ row.owner = new.owner ∧ row.name = new.name) ∨
      (change = .createAccount new ∧ new.id = id ∧ before.NameFree new.owner new.name) := by
  rcases he.account_origin hnew with ⟨row, hrow, hframe⟩ | ⟨rfl, hid⟩
  · refine Or.inl ⟨row, hrow, ?_, ?_⟩
    · rw [← Account.frame_owner row, ← hframe, Account.frame_owner]
    · rw [← Account.frame_name row, ← hframe, Account.frame_name]
  · exact Or.inr ⟨rfl, hid, htidies⟩

/-- **A change that opens no second account of a name and issues no second card keeps a ledger tidy.** -/
theorem Tidy.step (h : before.Tidy) (he : change.Effect before after)
    (htidies : change.Tidies before) : after.Tidy where
  toInOrder := h.toInOrder.step he
  namesDistinct id other row old hrow hold howner hname := by
    rcases origin_of_tidies he htidies hrow with
      ⟨was, hwas, howner', hname'⟩ | ⟨hcreate, hid, hfree⟩ <;>
    rcases origin_of_tidies he htidies hold with
      ⟨first, hfirst, howner'', hname''⟩ | ⟨hcreate', hid', hfree'⟩
    · exact h.namesDistinct id other was first hwas hfirst
        (by rw [howner', howner, howner'']) (by rw [hname', hname, hname''])
    · exact absurd (hname'.trans hname) (hfree' id was hwas (howner'.trans howner))
    · exact absurd (hname''.trans hname.symm) (hfree other first hfirst (howner''.trans howner.symm))
    · obtain rfl := Change.createAccount.inj (hcreate.symm.trans hcreate')
      rw [← hid, hid']
  oneCard number other card old hcard hold haccount := by
    rcases he.card_origin h.cardsFiled hcard with hwas | ⟨rfl, hnumber⟩
    · rcases he.card_origin h.cardsFiled hold with hfirst | ⟨rfl, hnumber⟩
      · exact h.oneCard number other card old hwas hfirst haccount
      · exact absurd haccount (htidies number card hwas)
    · rcases he.card_origin h.cardsFiled hold with hfirst | ⟨hcreate, hnumber'⟩
      · exact absurd haccount.symm (htidies other old hfirst)
      · obtain rfl := Change.createCard.inj hcreate
        rw [← hnumber, hnumber']

/-! ### What looking up finds -/

theorem mem_accountsOf {owner : OwnerId} {row : Account} :
    row ∈ ledger.accountsOf owner ↔
      (∃ id : AccountId, ledger.accounts[id]? = some row) ∧ row.owner = owner := by
  rw [accountsOf, List.mem_mergeSort, List.mem_filter, Table.mem_rows, beq_iff_eq]

theorem mem_cardsByAge (h : ledger.CardsFiled) {id : AccountId} {card : Card} :
    card ∈ ledger.cardsByAge id ↔ ledger.cards[card.number]? = some card ∧ card.account = id := by
  rw [cardsByAge, List.mem_mergeSort, h.mem_cardsOf]

/-- The account that is found by its name is one of that name. -/
theorem InOrder.of_find? (h : ledger.InOrder) {owner : OwnerId} {name : String} {row : Account}
    (hfind : (ledger.accountsOf owner).find? (fun account => account.name == name) = some row) :
    ledger.accounts[row.id]? = some row ∧ row.owner = owner ∧ row.name = name := by
  obtain ⟨⟨id, hrow⟩, howner⟩ := mem_accountsOf.1 (List.mem_of_find?_eq_some hfind)
  have hname : row.name = name := by simpa using List.find?_some hfind
  rw [h.accountsFiled id row hrow]
  exact ⟨hrow, howner, hname⟩

/-- Where accounts can be told apart by name, the one of a name is found by it. -/
theorem Tidy.find? (h : ledger.Tidy) {id : AccountId} {row : Account}
    (hrow : ledger.accounts[id]? = some row) :
    (ledger.accountsOf row.owner).find? (fun account => account.name == row.name) = some row := by
  cases hfind : (ledger.accountsOf row.owner).find? (fun account => account.name == row.name) with
  | some found =>
      obtain ⟨hfound, howner, hname⟩ := h.toInOrder.of_find? hfind
      obtain rfl := h.namesDistinct _ _ _ _ hfound hrow howner hname
      rw [Option.some.inj (hfound.symm.trans hrow)]
  | none =>
      have hnone := List.find?_eq_none.1 hfind row (mem_accountsOf.2 ⟨⟨id, hrow⟩, rfl⟩)
      exact absurd (beq_self_eq_true row.name) hnone

theorem nameFree_of_find? {owner : OwnerId} {name : String}
    (hfind : (ledger.accountsOf owner).find? (fun account => account.name == name) = none) :
    ledger.NameFree owner name := by
  intro id row hrow howner hname
  have hnone := List.find?_eq_none.1 hfind row (mem_accountsOf.2 ⟨⟨id, hrow⟩, howner⟩)
  exact hnone (by rw [hname, beq_self_eq_true])

/-- Where the owner has no account of a name, none is found by it. -/
theorem NameFree.find?_eq_none {owner : OwnerId} {name : String} (h : ledger.NameFree owner name) :
    (ledger.accountsOf owner).find? (fun account => account.name == name) = none := by
  refine List.find?_eq_none.2 fun row hmem hname => ?_
  obtain ⟨⟨id, hrow⟩, howner⟩ := mem_accountsOf.1 hmem
  exact h id row hrow howner (beq_iff_eq.1 hname)

/-- Where an account has one card at most, that one is the first. -/
theorem Tidy.head? (h : ledger.Tidy) {number : CardNumber} {card : Card}
    (hcard : ledger.cards[number]? = some card) :
    (ledger.cardsByAge card.account).head? = some card := by
  have hnumber := h.cardsFiled number card hcard
  have hmem : card ∈ ledger.cardsByAge card.account :=
    (mem_cardsByAge h.cardsFiled).2 ⟨by rw [hnumber]; exact hcard, rfl⟩
  cases hhead : (ledger.cardsByAge card.account).head? with
  | some first =>
      obtain ⟨hfirst, haccount⟩ := (mem_cardsByAge h.cardsFiled).1 (List.mem_of_head? hhead)
      have hsame := h.oneCard first.number number first card hfirst hcard haccount
      rw [hsame, hcard] at hfirst
      exact hfirst.symm
  | none =>
      rw [List.head?_eq_none_iff] at hhead
      rw [hhead] at hmem
      cases hmem

theorem CardsFiled.of_head? (h : ledger.CardsFiled) {id : AccountId} {card : Card}
    (hhead : (ledger.cardsByAge id).head? = some card) :
    ledger.cards[card.number]? = some card ∧ card.account = id :=
  (mem_cardsByAge h).1 (List.mem_of_head? hhead)

theorem CardsFiled.cardless_of_head? (h : ledger.CardsFiled) {id : AccountId}
    (hhead : (ledger.cardsByAge id).head? = none) : ledger.Cardless id := by
  intro number card hcard haccount
  have hmem : card ∈ ledger.cardsByAge id :=
    (mem_cardsByAge h).2 ⟨by rw [h number card hcard]; exact hcard, haccount⟩
  rw [List.head?_eq_none_iff] at hhead
  rw [hhead] at hmem
  cases hmem

end Ledger

end Cashbook
