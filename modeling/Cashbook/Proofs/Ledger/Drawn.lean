/-
Ledgers whose identifiers come from stamps.

Whatever a ledger is keyed by was on the stamp of some call: the identifiers of its accounts
and of its transactions, and the numbers of its cards.  As long as no two stamps agree in any
of them, what is on the next stamp is new, also to the transactions whose accounts are gone.
-/
import Cashbook.Proofs.Ledger.Later
import Cashbook.Service.Query

namespace Cashbook

/-- No two of the first stamps agree in an identifier or a card number, and the numbers are sound. -/
structure Fresh (stamps : Nat → Stamp) (count : Nat) : Prop where
  accounts : ∀ i < count, ∀ j < count, (stamps i).account = (stamps j).account → i = j
  transactions : ∀ i < count, ∀ j < count, (stamps i).transaction = (stamps j).transaction → i = j
  cards : ∀ i < count, ∀ j < count, (stamps i).card = (stamps j).card → i = j
  sound : ∀ i < count, (stamps i).card.IsSound

theorem Fresh.mono {stamps : Nat → Stamp} {few many : Nat} (h : Fresh stamps many)
    (hle : few ≤ many) : Fresh stamps few where
  accounts i hi j hj := h.accounts i (Nat.lt_of_lt_of_le hi hle) j (Nat.lt_of_lt_of_le hj hle)
  transactions i hi j hj := h.transactions i (Nat.lt_of_lt_of_le hi hle) j (Nat.lt_of_lt_of_le hj hle)
  cards i hi j hj := h.cards i (Nat.lt_of_lt_of_le hi hle) j (Nat.lt_of_lt_of_le hj hle)
  sound i hi := h.sound i (Nat.lt_of_lt_of_le hi hle)

/-- Whatever the ledger is keyed by was on one of the stamps used. -/
structure Ledger.DrawnFrom (stamps : Nat → Stamp) (used : Nat) (ledger : Ledger) : Prop where
  accounts : ∀ (id : AccountId) (row : Account), ledger.accounts[id]? = some row →
    ∃ i < used, (stamps i).account = id
  transactions : ∀ (key : TransactionId) (tx : Transaction), ledger.transactions[key]? = some tx →
    ∃ i < used, (stamps i).transaction = key
  /-- The accounts of a transaction need not be there any more. -/
  ends : ∀ (key : TransactionId) (tx : Transaction), ledger.transactions[key]? = some tx →
    ∀ id ∈ tx.kind.accounts, ∃ i < used, (stamps i).account = id
  cards : ∀ (number : CardNumber) (card : Card), ledger.cards[number]? = some card →
    ∃ i < used, (stamps i).card = number

/-- What the change adds is keyed by what is on one of the stamps used. -/
def Change.DrawnFrom (stamps : Nat → Stamp) (used : Nat) : Change → Prop
  | .createAccount row => ∃ i < used, (stamps i).account = row.id
  | .createCard card => ∃ i < used, (stamps i).card = card.number
  | .record tx => ∃ i < used, (stamps i).transaction = tx.id
  | .deleteAccount _ | .deleteCard _ | .rollbackTransfer _ => True

namespace Ledger.DrawnFrom

variable {stamps : Nat → Stamp} {used later count : Nat} {ledger before after : Ledger}
  {change : Change}

theorem empty (stamps : Nat → Stamp) (used : Nat) : Ledger.DrawnFrom stamps used .empty where
  accounts _ _ h := absurd h (by simp [Ledger.empty])
  transactions _ _ h := absurd h (by simp [Ledger.empty])
  ends _ _ h := absurd h (by simp [Ledger.empty])
  cards _ _ h := absurd h (by simp [Ledger.empty])

private theorem exists_lt_mono {p : Nat → Prop} (hle : used ≤ later) (h : ∃ i < used, p i) :
    ∃ i < later, p i := by
  obtain ⟨i, hi, hp⟩ := h
  exact ⟨i, Nat.lt_of_lt_of_le hi hle, hp⟩

theorem mono (h : ledger.DrawnFrom stamps used) (hle : used ≤ later) :
    ledger.DrawnFrom stamps later where
  accounts id row hrow := exists_lt_mono hle (h.accounts id row hrow)
  transactions key tx htx := exists_lt_mono hle (h.transactions key tx htx)
  ends key tx htx id hid := exists_lt_mono hle (h.ends key tx htx id hid)
  cards number card hcard := exists_lt_mono hle (h.cards number card hcard)

/-- **A change that draws on stamps leads to a ledger that does.** -/
theorem step (h : before.DrawnFrom stamps used) (horder : before.InOrder)
    (he : change.Effect before after) (hle : used ≤ later) (hdraws : change.DrawnFrom stamps later) :
    after.DrawnFrom stamps later where
  accounts id row hrow := by
    rcases he.account_origin hrow with ⟨old, hold, -⟩ | ⟨rfl, rfl⟩
    · exact exists_lt_mono hle (h.accounts id old hold)
    · exact hdraws
  transactions key tx htx := by
    rcases he.transaction_was htx with ⟨old, hold⟩ | ⟨rfl, rfl⟩
    · exact exists_lt_mono hle (h.transactions key old hold)
    · exact hdraws
  ends key tx htx id hid := by
    rcases he.transaction_was htx with ⟨old, hold⟩ | ⟨rfl, rfl⟩
    · have hkind : tx.kind = old.kind := by
        rcases he.transaction_cases hold with ⟨-, hkept⟩ | ⟨-, -, -, hmarked⟩
        · rw [Option.some.inj (htx.symm.trans hkept)]
        · rw [Option.some.inj (htx.symm.trans hmarked)]
      exact exists_lt_mono hle (h.ends key old hold id (hkind ▸ hid))
    · -- The accounts of a transaction are there when it is recorded.
      obtain ⟨accounts, hmoves, -⟩ := he
      obtain ⟨row, hrow⟩ := hmoves.found hid
      exact exists_lt_mono hle (h.accounts id row hrow)
  cards number card hcard := by
    rcases he.card_origin horder.cardsFiled hcard with hold | ⟨rfl, rfl⟩
    · exact exists_lt_mono hle (h.cards number card hold)
    · exact hdraws

/-! ### What is on the next stamp -/

private theorem not_drawn {α : Type} {key : Nat → α} (hused : used < count)
    (hdifferent : ∀ i < count, ∀ j < count, key i = key j → i = j) :
    ¬∃ i < used, key i = key used := by
  intro h
  obtain ⟨i, hi, heq⟩ := h
  exact Nat.ne_of_lt hi (hdifferent i (Nat.lt_trans hi hused) used hused heq)

theorem account_new (h : ledger.DrawnFrom stamps used) (hfresh : Fresh stamps count)
    (hused : used < count) : ledger.accounts[(stamps used).account]? = none := by
  rw [Option.eq_none_iff_forall_ne_some]
  exact fun row hrow => not_drawn hused hfresh.accounts (h.accounts _ row hrow)

theorem end_new (h : ledger.DrawnFrom stamps used) (hfresh : Fresh stamps count)
    (hused : used < count) {key : TransactionId} {tx : Transaction}
    (htx : ledger.transactions[key]? = some tx) : (stamps used).account ∉ tx.kind.accounts :=
  fun hmem => not_drawn hused hfresh.accounts (h.ends key tx htx _ hmem)

theorem transaction_new (h : ledger.DrawnFrom stamps used) (hfresh : Fresh stamps count)
    (hused : used < count) : ledger.transactions[(stamps used).transaction]? = none := by
  rw [Option.eq_none_iff_forall_ne_some]
  exact fun tx htx => not_drawn hused hfresh.transactions (h.transactions _ tx htx)

theorem card_new (h : ledger.DrawnFrom stamps used) (hfresh : Fresh stamps count)
    (hused : used < count) : ledger.cards[(stamps used).card]? = none := by
  rw [Option.eq_none_iff_forall_ne_some]
  exact fun card hcard => not_drawn hused hfresh.cards (h.cards _ card hcard)

theorem card_sound (h : ledger.DrawnFrom stamps used) (hfresh : Fresh stamps count)
    (hused : used ≤ count) {number : CardNumber} {card : Card}
    (hcard : ledger.cards[number]? = some card) : number.IsSound := by
  obtain ⟨i, hi, rfl⟩ := h.cards number card hcard
  exact hfresh.sound i (Nat.lt_of_lt_of_le hi hused)

end Ledger.DrawnFrom

end Cashbook
