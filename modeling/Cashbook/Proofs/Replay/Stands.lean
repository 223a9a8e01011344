/-
Replays that stand as a book says.

Between two rows every account has a card, so looking an account up never issues one: it
finds what there is and takes nothing from a stamp.  Only in the middle of an opening is
there an account without a card.  `Stands` collects this with what else a replay keeps from
row to row, and says how much of the stamps has been used.
-/
import Cashbook.Proofs.Ledger.Drawn
import Cashbook.Proofs.Replay.Cache
import Cashbook.Proofs.Replay.Shown

namespace Cashbook

variable {α : Type} {users : List String} {rules : Rules} {stamps : Nat → Stamp}
  {used count later : Nat} {bare bare' : Option AccountId} {book book' : Book} {r : Replay Desk}
  {address : Address} {user identity : String} {change : Change} {changed : Bank}
  {before after : Ledger} {plan : Plan α}

/-! ### Cards -/

/-- Every account has a card, but for the bare one, if there is one. -/
def Ledger.CardedBut (bare : Option AccountId) (ledger : Ledger) : Prop :=
  ∀ (id : AccountId) (row : Account), ledger.accounts[id]? = some row → bare ≠ some id →
    ¬ledger.Cardless id

namespace Ledger

theorem cardedBut_empty : CardedBut none .empty :=
  fun _ _ h => absurd h (by simp [empty])

/-- An account that is opened is bare, and no longer once it is issued a card. -/
theorem CardedBut.step (h : before.CardedBut bare) (hfiled : before.CardsFiled)
    (he : change.Effect before after) (hrevoke : ∀ number, change ≠ .deleteCard number)
    (hopen : ∀ row, change.opening? = some row → bare' = some row.id)
    (hissue : ∀ id, bare = some id → bare' ≠ some id →
      ∃ card, change = .createCard card ∧ card.account = id) : after.CardedBut bare' := by
  intro id new hnew hbare hcardless
  rcases he.account_origin hnew with ⟨row, hrow, -⟩ | ⟨rfl, rfl⟩
  · by_cases hwas : bare = some id
    · obtain ⟨card, rfl, hcard⟩ := hissue id hwas hbare
      obtain ⟨-, -, rfl⟩ := he
      exact hcardless card.number card Std.ExtTreeMap.getElem?_insert_self hcard
    · refine h id row hrow hwas fun number card hcard haccount => ?_
      exact hcardless number card
        (he.card_kept hfiled hrevoke hcard ⟨new, haccount ▸ hnew⟩) haccount
  · exact hbare (hopen new rfl)

end Ledger

/-! ### Stamps -/

namespace Desk

theorem le_usedAfter (plan : Plan α) (desk : Desk) : desk.used ≤ desk.usedAfter plan := by
  unfold usedAfter
  split <;> omega

theorem usedAfter_le (plan : Plan α) (desk : Desk) : desk.usedAfter plan ≤ desk.used + 1 := by
  unfold usedAfter
  split <;> omega

/-- A plan that draws on its stamp uses it up when it succeeds. -/
theorem usedAfter_of_ok (hplan : plan.Draws) {desk : Desk} {value : α}
    (hrun : plan.run (desk.stamps desk.used) desk.bank = (.ok value, changed)) :
    desk.usedAfter plan = desk.used + 1 := by
  rw [usedAfter, hplan.spends_eq hrun, if_pos rfl]

end Desk

/-! ### Standing replays -/

/-- The replay is sound and as the book says; so many stamps at most have been used. -/
structure Replay.Stands (users : List String) (rules : Rules) (stamps : Nat → Stamp) (count : Nat)
    (bare : Option AccountId) (book : Book) (r : Replay Desk) : Prop where
  sound : r.Sound users
  rules_eq : r.teller.rules = rules
  stamps_eq : r.teller.stamps = stamps
  used_le : r.teller.used ≤ count
  drawn : r.teller.bank.ledger.DrawnFrom stamps r.teller.used
  carded : r.teller.bank.ledger.CardedBut bare
  shows : book.Shows users r.teller.bank.ledger r.references

namespace Replay.Stands

theorem start (users : List String) (rules : Rules) (stamps : Nat → Stamp) :
    (Replay.start (Desk.start rules stamps)).Stands users rules stamps 0 none .empty where
  sound := sound_start rules stamps users
  rules_eq := rfl
  stamps_eq := rfl
  used_le := Nat.le_refl 0
  drawn := .empty stamps 0
  carded := Ledger.cardedBut_empty
  shows := .empty users

theorem mono (h : r.Stands users rules stamps count bare book) (hle : count ≤ later) :
    r.Stands users rules stamps later bare book :=
  { h with used_le := Nat.le_trans h.used_le hle }

theorem stamp_eq (h : r.Stands users rules stamps count bare book) :
    r.stamp = stamps r.teller.used := by
  rw [Replay.stamp, h.stamps_eq]

theorem register (h : r.Stands users rules stamps count bare book) (huser : user ∈ users) :
    (r.registered user).Stands users rules stamps count bare book :=
  { h with sound := h.sound.register huser }

/-- What is remembered of accounts has no part in it, as long as it is so. -/
theorem remembering (h : r.Stands users rules stamps count bare book) {handles : Table Address Handle}
    (hsound : Replay.Sound users { r with handles }) :
    Replay.Stands users rules stamps count bare book { r with handles } :=
  { h with sound := hsound }

/-- A call that changes nothing may still use up a stamp. -/
theorem idle (h : r.Stands users rules stamps count bare book) (plan : Plan α) :
    Replay.Stands users rules stamps (count + 1) bare book
      (r.settle r.teller.bank (r.teller.usedAfter plan)) where
  sound := h.sound.settle_same _
  rules_eq := h.rules_eq
  stamps_eq := h.stamps_eq
  used_le := Nat.le_trans (r.teller.usedAfter_le plan) (Nat.succ_le_succ h.used_le)
  drawn := h.drawn.mono (r.teller.le_usedAfter plan)
  carded := h.carded
  shows := h.shows

/-- A call that makes a change, and the change of the book that goes with it. -/
theorem serve (h : r.Stands users rules stamps count bare book)
    (hserves : r.teller.bank.Serves changed identity change)
    (htidies : change.Tidies r.teller.bank.ledger) (hclose : ∀ id, change ≠ .deleteAccount id)
    (hrevoke : ∀ number, change ≠ .deleteCard number)
    (hdraws : change.DrawnFrom stamps (r.teller.usedAfter plan))
    (hcarded : changed.ledger.CardedBut bare') (hshows : book'.Shows users changed.ledger r.references) :
    Replay.Stands users rules stamps (count + 1) bare' book'
      (r.settle changed (r.teller.usedAfter plan)) where
  sound := h.sound.serve hserves htidies hclose hrevoke _
  rules_eq := h.rules_eq
  stamps_eq := h.stamps_eq
  used_le := Nat.le_trans (r.teller.usedAfter_le plan) (Nat.succ_le_succ h.used_le)
  drawn := by
    obtain ⟨-, -, -, heffect, -⟩ := hserves
    exact h.drawn.step h.sound.bank.tidy.toInOrder heffect (r.teller.le_usedAfter plan) hdraws
  carded := hcarded
  shows := hshows

theorem biUnique_lies (h : r.Stands users rules stamps count bare book)
    (hdistinct : OwnersDistinct users) :
    Relator.BiUnique (Address.Lies users r.teller.bank.ledger.accounts) :=
  h.sound.bank.tidy.biUnique_lies hdistinct

/-- The card of a handle is one that reading lets through. -/
theorem card_sound (h : r.Stands users rules stamps count bare book) (hfresh : Fresh stamps count)
    {handle : Handle} (hleads : address.LeadsTo r.teller.bank handle) : handle.card.IsSound := by
  obtain ⟨card, hcard, -⟩ := hleads.card
  exact h.drawn.card_sound hfresh h.used_le hcard

end Replay.Stands

/-! ### Looking accounts up -/

/-- Where the book has an entry, there is an account with a card. -/
theorem Replay.Stands.exists_leadsTo (h : r.Stands users rules stamps count none book)
    (hdistinct : OwnersDistinct users) {entry : Entry} (hentry : book.entries[address]? = some entry) :
    ∃ handle, address.LeadsTo r.teller.bank handle := by
  obtain ⟨id, row, hlies, hrow, -⟩ := (h.shows.entries address entry).1 hentry
  have hnames := (h.sound.bank.names_iff hdistinct).2 hlies
  have hcarded := h.carded id row hrow nofun
  simp only [Ledger.Cardless, not_forall, not_not] at hcarded
  obtain ⟨number, card, hcard, haccount⟩ := hcarded
  exact ⟨⟨id, number⟩, hnames, card, hcard, haccount⟩

/-- Where there is an account, the book has its entry. -/
theorem Replay.Stands.entry_eq (h : r.Stands users rules stamps count bare book)
    (hdistinct : OwnersDistinct users) {id : AccountId} (hnames : address.Names r.teller.bank id)
    {row : Account} (hrow : r.teller.bank.ledger.accounts[id]? = some row) :
    book.entries[address]? = some row.entry :=
  h.shows.entries.entry_eq ((h.sound.bank.names_iff hdistinct).1 hnames) hrow

/-- Where the book has no entry, there is no account. -/
theorem Replay.Stands.isFree (h : r.Stands users rules stamps count bare book)
    (huser : address.user ∈ users) (hentry : book.entries[address]? = none) :
    address.IsFree r.teller.bank := by
  intro id row hrow howner hname
  have hlies : address.Lies users r.teller.bank.ledger.accounts id :=
    ⟨huser, row, hrow, howner, hname⟩
  rw [h.shows.entries.entry_eq hlies hrow] at hentry
  cases hentry

end Cashbook
