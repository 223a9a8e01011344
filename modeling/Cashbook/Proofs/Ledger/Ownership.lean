/-
Changes that an owner is entitled to.

A change is made for one owner.  `Change.Entitled` says what it has to have to do with
them: it opens an account of theirs, or closes one, issues or revokes a card of one,
moves money into or out of one, or moves the money of a transfer back that left one.
From this follows what such a change does not do to others.  An account of another is
changed only at the far end of a transfer, and a card of such an account not at all.

The change says where it acts; that the account there is one of the owner's is asked of
the ledger before it.  So the argument goes row by row, by what the change touches.
-/
import Cashbook.Proofs.Ledger.Footprint
import Cashbook.Proofs.Ledger.Later

namespace Cashbook

/-- The account is there and is of this owner. -/
def Ledger.Owns (ledger : Ledger) (owner : OwnerId) (id : AccountId) : Prop :=
  ∃ row, ledger.accounts[id]? = some row ∧ row.owner = owner

/-- The account for which money is moved: the one that pays, or that a deposit goes into. -/
def TransactionKind.party : TransactionKind → AccountId
  | .transfer source _ | .withdrawal source => source
  | .deposit destination => destination

namespace Change

/-- What the change acts for is of this owner. -/
def Entitled (owner : OwnerId) (before : Ledger) : Change → Prop
  | .createAccount row => row.owner = owner
  | .deleteAccount id => before.Owns owner id
  | .createCard row => before.Owns owner row.account
  | .deleteCard number =>
    ∃ card, before.cards[number]? = some card ∧ before.Owns owner card.account
  | .record tx => before.Owns owner tx.kind.party
  | .rollbackTransfer key => ∃ tx source destination, before.transactions[key]? = some tx ∧
    tx.kind = .transfer source destination ∧ before.Owns owner source

/-- Whether a change moves money. -/
def MovesMoney : Change → Prop
  | .record _ | .rollbackTransfer _ => True
  | .createAccount _ | .deleteAccount _ | .createCard _ | .deleteCard _ => False

end Change

variable {before after : Ledger} {change : Change} {owner : OwnerId} {id : AccountId}
  {row new : Account} {tx : Transaction} {key : TransactionId} {source destination : AccountId}

theorem Ledger.not_owns (hrow : before.accounts[id]? = some row) (hforeign : row.owner ≠ owner) :
    ¬before.Owns owner id := by
  intro howns
  obtain ⟨found, hfound, howner⟩ := howns
  rw [Option.some.inj (hrow.symm.trans hfound)] at hforeign
  exact hforeign howner

namespace Change

/-- An account of another is touched at the far end of a transfer only. -/
theorem Entitled.far_of_touches (h : change.Entitled owner before)
    (hforeign : ¬before.Owns owner id) (htouches : change.Touches before id) :
    (∃ tx source, change = .record tx ∧ tx.kind = .transfer source id) ∨
      ∃ key tx source, change = .rollbackTransfer key ∧ before.transactions[key]? = some tx ∧
        tx.kind = .transfer source id := by
  cases change with
  | createAccount _ | createCard _ | deleteCard _ => cases htouches
  | deleteAccount other =>
      obtain rfl : id = other := htouches
      exact absurd h hforeign
  | record tx =>
      have hmem : id ∈ tx.kind.accounts := htouches
      have hparty : before.Owns owner tx.kind.party := h
      cases hkind : tx.kind with
      | transfer source destination =>
          rw [hkind] at hmem hparty
          rcases List.mem_pair.1 hmem with rfl | rfl
          · exact absurd hparty hforeign
          · exact Or.inl ⟨tx, source, rfl, hkind⟩
      | deposit _ | withdrawal _ =>
          rw [hkind] at hmem hparty
          obtain rfl := List.mem_singleton.1 hmem
          exact absurd hparty hforeign
  | rollbackTransfer key =>
      obtain ⟨tx, htx, hmem⟩ := htouches
      obtain ⟨same, source, destination, hsame, hkind, howns⟩ := h
      obtain rfl := Option.some.inj (htx.symm.trans hsame)
      rw [hkind] at hmem
      rcases List.mem_pair.1 hmem with rfl | rfl
      · exact absurd howns hforeign
      · exact Or.inr ⟨key, tx, source, rfl, htx, hkind⟩

namespace Effect

/-- A transfer that is recorded credits its destination. -/
theorem credited (he : (Change.record tx).Effect before after)
    (hkind : tx.kind = .transfer source destination) :
    CreditedAt tx.amount before.accounts after.accounts destination := by
  obtain ⟨accounts, hmoves, -, rfl⟩ := he
  rw [hkind] at hmoves
  exact ((passed_iff hmoves.1).1 hmoves.2.2).2.1

/-- A transfer that is rolled back debits what was its destination. -/
theorem debited (he : (Change.rollbackTransfer key).Effect before after)
    (htx : before.transactions[key]? = some tx) (hkind : tx.kind = .transfer source destination)
    (hne : source ≠ destination) :
    DebitedAt tx.amount before.accounts after.accounts destination := by
  obtain ⟨same, payer, payee, accounts, hsame, hends, -, hpass, rfl⟩ := he
  obtain rfl := Option.some.inj (htx.symm.trans hsame)
  obtain ⟨rfl, rfl⟩ := TransactionKind.transfer.inj (hkind.symm.trans hends)
  exact ((passed_iff hne.symm).1 hpass).1

/-- An account of another that is there after a change was there before it. -/
theorem account_was (he : change.Effect before after) (hentitled : change.Entitled owner before)
    (hnew : after.accounts[id]? = some new) (hforeign : new.owner ≠ owner) :
    ∃ row, before.accounts[id]? = some row ∧ new.frame = row.frame := by
  rcases he.account_origin hnew with hwas | ⟨rfl, -⟩
  · exact hwas
  · exact absurd hentitled hforeign

/-- An account of another that was there before a change is there after it. -/
theorem account_is (he : change.Effect before after) (hentitled : change.Entitled owner before)
    (hrow : before.accounts[id]? = some row) (hforeign : ¬before.Owns owner id) :
    ∃ new, after.accounts[id]? = some new := by
  have hclose : change ≠ .deleteAccount id := by
    rintro rfl
    exact hforeign hentitled
  obtain ⟨new, hnew, -⟩ := he.account_stays hclose hrow
  exact ⟨new, hnew⟩

/-- A change that moves no money leaves balances alone. -/
theorem balance_kept (he : change.Effect before after) (hmoves : ¬change.MovesMoney)
    (hrow : before.accounts[id]? = some row) (hnew : after.accounts[id]? = some new) : new = row := by
  cases change with
  | createAccount opened =>
      obtain ⟨hfree, rfl⟩ := he
      rcases Table.of_getElem?_insert hnew with ⟨rfl, -⟩ | ⟨-, hold⟩
      · rw [hfree] at hrow
        cases hrow
      · exact Option.some.inj (hold.symm.trans hrow)
  | deleteAccount other =>
      obtain ⟨-, rfl⟩ := he
      exact Option.some.inj ((Table.of_getElem?_erase hnew).2.symm.trans hrow)
  | createCard issued =>
      obtain ⟨-, -, rfl⟩ := he
      exact Option.some.inj (hnew.symm.trans hrow)
  | deleteCard revoked =>
      obtain ⟨-, rfl⟩ := he
      exact Option.some.inj (hnew.symm.trans hrow)
  | record _ | rollbackTransfer _ => exact absurd trivial hmoves

/-- Whoever owns an account that was there before owned it then. -/
theorem owns_iff (he : change.Effect before after) (hrow : before.accounts[id]? = some row)
    (hnew : after.accounts[id]? = some new) : after.Owns owner id ↔ before.Owns owner id := by
  have howner : new.owner = row.owner := by
    rw [← Account.frame_owner new, he.frame_eq hrow hnew, Account.frame_owner]
  simp [Ledger.Owns, hrow, hnew, howner]

/-- The cards of accounts that are not the owner's are those that they were. -/
theorem card_iff (he : change.Effect before after) (hentitled : change.Entitled owner before)
    (horder : before.InOrder) (number : CardNumber) (card : Card) :
    (after.cards[number]? = some card ∧ ¬after.Owns owner card.account) ↔
      before.cards[number]? = some card ∧ ¬before.Owns owner card.account := by
  constructor
  · intro h
    obtain ⟨hcard, hforeign⟩ := h
    obtain ⟨new, hnew⟩ := (horder.step he).cardsLead number card hcard
    obtain ⟨row, hrow, -⟩ := he.account_was hentitled hnew fun howner => hforeign ⟨new, hnew, howner⟩
    rw [he.owns_iff hrow hnew] at hforeign
    rcases he.card_origin horder.cardsFiled hcard with hwas | ⟨rfl, -⟩
    · exact ⟨hwas, hforeign⟩
    · exact absurd hentitled hforeign
  · intro h
    obtain ⟨hcard, hforeign⟩ := h
    obtain ⟨row, hrow⟩ := horder.cardsLead number card hcard
    obtain ⟨new, hnew⟩ := he.account_is hentitled hrow hforeign
    refine ⟨?_, by rwa [he.owns_iff hrow hnew]⟩
    by_cases hrevoke : ∃ revoked, change = .deleteCard revoked
    · obtain ⟨revoked, rfl⟩ := hrevoke
      obtain ⟨found, hfound, howns⟩ := hentitled
      obtain ⟨-, rfl⟩ := he
      have hne : revoked ≠ number := by
        rintro rfl
        obtain rfl := Option.some.inj (hcard.symm.trans hfound)
        exact hforeign howns
      rw [← hcard]
      exact Table.getElem?_erase_of_ne _ hne
    · exact he.card_kept horder.cardsFiled (fun revoked heq => hrevoke ⟨revoked, heq⟩) hcard
        ⟨new, hnew⟩

end Effect

end Change

end Cashbook
