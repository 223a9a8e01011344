/-
What a replay remembers is so.

A replay remembers an account by the address under which it found or opened it, together
with a card.  That this stays right takes an invariant over everything that a replay works
with: the ledger is tidy, callers have the owners that their names give, and every account
that is remembered is the one at that address.  It is proved task by task, and it has to
hold after a task that fails as well, since the next row is worked on from there.

An owner is known by an identifier that is derived from the name of the caller.  Should two
callers come to the same identifier, each would find the accounts of the other; so the
callers that a file mentions are taken to have different ones.
-/
import Cashbook.Proofs.Ledger.Tidy
import Cashbook.Proofs.Replay.Task
import Cashbook.Proofs.Service.Conclusion
import Cashbook.Proofs.Service.Success

namespace Cashbook

/-! ### Callers -/

namespace Registry

variable {registry : Registry} {identity user : String} {owner : OwnerId}

theorem resolve_ok_iff : registry.resolve user = .ok owner ↔ registry.owners[user]? = some owner := by
  unfold resolve
  cases registry.owners[user]? <;> simp

/-- Whoever was known stays known. -/
theorem register_of_some (h : registry.owners[user]? = some owner) :
    (registry.register identity).2.owners[user]? = some owner := by
  unfold register
  cases hidentity : registry.owners[identity]? with
  | some known => exact h
  | none =>
      have hne : identity ≠ user := by
        rintro rfl
        rw [hidentity] at h
        cases h
      exact (Table.getElem?_insert_of_ne _ _ hne).trans h

/-- Whoever is known then was known, or has just been registered. -/
theorem of_register (h : (registry.register identity).2.owners[user]? = some owner) :
    registry.owners[user]? = some owner ∨ (user = identity ∧ owner = ownerOf identity) := by
  unfold register at h
  cases hidentity : registry.owners[identity]? with
  | some known =>
      rw [hidentity] at h
      exact Or.inl h
  | none =>
      rw [hidentity] at h
      rcases Table.of_getElem?_insert h with hnew | ⟨-, hold⟩
      · exact Or.inr hnew
      · exact Or.inl hold

theorem exists_register_self (registry : Registry) (identity : String) :
    ∃ owner, (registry.register identity).2.owners[identity]? = some owner := by
  unfold register
  cases hidentity : registry.owners[identity]? with
  | some known => exact ⟨known, hidentity⟩
  | none => exact ⟨_, Std.ExtTreeMap.getElem?_insert_self⟩

/-- Registering someone who is known changes nothing. -/
theorem register_known (h : registry.owners[identity]? = some owner) :
    (registry.register identity).2 = registry := by
  unfold register
  rw [h]

end Registry

/-- Different callers have different owner identifiers. -/
def OwnersDistinct (users : List String) : Prop :=
  ∀ user ∈ users, ∀ other ∈ users, ownerOf user = ownerOf other → user = other

/-- The caller is known by the identifier that their name gives. -/
def Bank.Knows (bank : Bank) (user : String) : Prop :=
  bank.registry.owners[user]? = some (ownerOf user)

/-! ### Banks that a replay works with -/

/-- A tidy ledger, and nobody who is known otherwise than by their name. -/
structure Bank.Sound (users : List String) (bank : Bank) : Prop where
  tidy : bank.ledger.Tidy
  registered : ∀ (user : String) (owner : OwnerId), bank.registry.owners[user]? = some owner →
    owner = ownerOf user ∧ user ∈ users
  /-- Every account is of someone who is known. -/
  owned : ∀ (id : AccountId) (row : Account), bank.ledger.accounts[id]? = some row →
    ∃ user : String, bank.registry.owners[user]? = some row.owner

/-- The account is the one at this address. -/
structure Address.Names (bank : Bank) (address : Address) (id : AccountId) : Prop where
  knows : bank.Knows address.user
  account : ∃ row, bank.ledger.accounts[id]? = some row ∧ row.owner = ownerOf address.user ∧
    row.name = address.account

/-- The handle is that of the account at this address, with a card of it. -/
structure Address.LeadsTo (bank : Bank) (address : Address) (handle : Handle) : Prop
    extends address.Names bank handle.account where
  card : ∃ card, bank.ledger.cards[handle.card]? = some card ∧ card.account = handle.account

/-- There is no account at this address. -/
def Address.IsFree (bank : Bank) (address : Address) : Prop :=
  bank.ledger.NameFree (ownerOf address.user) address.account

variable {users : List String} {bank changed : Bank} {user identity : String} {change : Change}
  {address : Address} {handle : Handle} {id : AccountId}

namespace Bank

theorem sound_empty (users : List String) : Bank.Sound users .empty where
  tidy := Ledger.tidy_empty
  registered _ _ h := absurd h (by simp [empty, Registry.empty])
  owned _ _ h := absurd h (by simp [empty, Ledger.empty])

namespace Sound

/-- More callers than those who are known may be named. -/
theorem mono {more : List String} (h : bank.Sound users) (hsub : users ⊆ more) : bank.Sound more where
  tidy := h.tidy
  registered user owner howner := (h.registered user owner howner).imp id (@hsub user)
  owned := h.owned

theorem knows (h : bank.Sound users) {owner : OwnerId}
    (howner : bank.registry.resolve user = .ok owner) : owner = ownerOf user ∧ bank.Knows user := by
  have hsome := Registry.resolve_ok_iff.1 howner
  obtain ⟨rfl, -⟩ := h.registered user owner hsome
  exact ⟨rfl, hsome⟩

theorem register (h : bank.Sound users) (huser : user ∈ users) :
    Bank.Sound users { bank with registry := (bank.registry.register user).2 } where
  tidy := h.tidy
  registered other owner hother := by
    rcases Registry.of_register hother with hold | ⟨rfl, rfl⟩
    · exact h.registered other owner hold
    · exact ⟨rfl, huser⟩
  owned id row hrow := by
    obtain ⟨owner, howner⟩ := h.owned id row hrow
    exact ⟨owner, Registry.register_of_some howner⟩

theorem knows_register (h : bank.Sound users) (huser : user ∈ users) :
    Bank.Knows { bank with registry := (bank.registry.register user).2 } user := by
  obtain ⟨owner, howner⟩ := bank.registry.exists_register_self user
  obtain ⟨rfl, -⟩ := (h.register huser).registered user owner howner
  exact howner

/-- A change that is made for a caller keeps a bank sound, if it keeps the ledger tidy. -/
theorem serve (h : bank.Sound users) (hserves : bank.Serves changed identity change)
    (htidies : change.Tidies bank.ledger) : changed.Sound users := by
  obtain ⟨owner, howner, hentitled, heffect, hregistry⟩ := hserves
  refine ⟨h.tidy.step heffect htidies, ?_, ?_⟩
  · rw [hregistry]
    exact h.registered
  · intro id row hrow
    rw [hregistry]
    rcases heffect.account_origin hrow with ⟨old, hold, hframe⟩ | ⟨rfl, -⟩
    · obtain ⟨user, huser⟩ := h.owned id old hold
      refine ⟨user, ?_⟩
      rw [← Account.frame_owner row, hframe, Account.frame_owner]
      exact huser
    · obtain rfl : row.owner = owner := hentitled
      exact ⟨identity, Registry.resolve_ok_iff.1 howner⟩

end Sound

end Bank

namespace Address

/-- Addresses are the same if both parts are. -/
theorem eq_of_parts {other : Address} (huser : address.user = other.user)
    (haccount : address.account = other.account) : address = other := by
  cases address
  cases other
  exact congr (congrArg Address.mk huser) haccount

/-- What is at an address stays there when someone is registered. -/
theorem Names.register (h : address.Names bank id) (user : String) :
    address.Names { bank with registry := (bank.registry.register user).2 } id :=
  ⟨Registry.register_of_some h.knows, h.account⟩

theorem LeadsTo.register (h : address.LeadsTo bank handle) (user : String) :
    address.LeadsTo { bank with registry := (bank.registry.register user).2 } handle :=
  ⟨h.toNames.register user, h.card⟩

/-- What is at an address stays there until it is closed. -/
theorem Names.serve (h : address.Names bank id) (hserves : bank.Serves changed identity change)
    (hclose : change ≠ .deleteAccount id) : address.Names changed id := by
  obtain ⟨owner, -, -, heffect, hregistry⟩ := hserves
  obtain ⟨row, hrow, howner, hname⟩ := h.account
  obtain ⟨new, hnew, hframe⟩ := heffect.account_stays hclose hrow
  refine ⟨?_, new, hnew, ?_, ?_⟩
  · rw [Bank.Knows, hregistry]
    exact h.knows
  · rw [← Account.frame_owner new, hframe, Account.frame_owner, howner]
  · rw [← Account.frame_name new, hframe, Account.frame_name, hname]

theorem LeadsTo.serve (h : address.LeadsTo bank handle) (hfiled : bank.ledger.CardsFiled)
    (hserves : bank.Serves changed identity change)
    (hclose : change ≠ .deleteAccount handle.account)
    (hrevoke : ∀ number, change ≠ .deleteCard number) : address.LeadsTo changed handle := by
  have hnames := h.toNames.serve hserves hclose
  obtain ⟨owner, -, -, heffect, -⟩ := hserves
  obtain ⟨card, hcard, haccount⟩ := h.card
  obtain ⟨row, hrow, -⟩ := hnames.account
  exact ⟨hnames, card,
    heffect.card_kept hfiled hrevoke hcard ⟨row, by rw [haccount]; exact hrow⟩, haccount⟩

/-- There is one account at an address at most, and it has one card. -/
theorem LeadsTo.eq (htidy : bank.ledger.Tidy) (h : address.LeadsTo bank handle) {other : Handle}
    (hother : address.LeadsTo bank other) : handle = other := by
  obtain ⟨row, hrow, howner, hname⟩ := h.account
  obtain ⟨same, hsame, howner', hname'⟩ := hother.account
  have haccount : handle.account = other.account :=
    htidy.namesDistinct _ _ row same hrow hsame (howner.trans howner'.symm) (hname.trans hname'.symm)
  obtain ⟨card, hcard, hleads⟩ := h.card
  obtain ⟨second, hsecond, hleads'⟩ := hother.card
  have hnumber : handle.card = other.card :=
    htidy.oneCard _ _ card second hcard hsecond (by rw [hleads, hleads', haccount])
  cases handle
  cases other
  exact congr (congrArg Handle.mk haccount) hnumber

/-- An account is at one address only, where owners can be told apart. -/
theorem Names.address_eq (hsound : bank.Sound users) (hdistinct : OwnersDistinct users)
    (h : address.Names bank id) {other : Address} (hother : other.Names bank id) : address = other := by
  obtain ⟨row, hrow, howner, hname⟩ := h.account
  obtain ⟨same, hsame, howner', hname'⟩ := hother.account
  obtain rfl := Option.some.inj (hrow.symm.trans hsame)
  have huser : address.user = other.user :=
    hdistinct _ (hsound.registered _ _ h.knows).2 _ (hsound.registered _ _ hother.knows).2
      (howner.symm.trans howner')
  exact eq_of_parts huser (hname.symm.trans hname')

end Address

/-! ### Replays -/

namespace Replay

/-- A sound bank, and nothing remembered that is not so. -/
structure Sound (users : List String) (r : Replay Desk) : Prop where
  bank : r.teller.bank.Sound users
  remembered : ∀ (address : Address) (handle : Handle), r.handles[address]? = some handle →
    address.LeadsTo r.teller.bank handle

variable {r : Replay Desk}

theorem sound_start (rules : Rules) (stamps : Nat → Stamp) (users : List String) :
    (Replay.start (Desk.start rules stamps)).Sound users where
  bank := Bank.sound_empty users
  remembered _ _ h := absurd h (by simp [Replay.start])

theorem Sound.mono {more : List String} (h : r.Sound users) (hsub : users ⊆ more) : r.Sound more :=
  ⟨h.bank.mono hsub, h.remembered⟩

/-- The replay after a caller has been made known. -/
def registered (r : Replay Desk) (user : String) : Replay Desk :=
  { r with teller := Teller.register user r.teller }

theorem Sound.register (h : r.Sound users) (huser : user ∈ users) :
    (r.registered user).Sound users where
  bank := h.bank.register huser
  remembered address handle hhandle := (h.remembered address handle hhandle).register user

/-- The replay after its teller has carried something out. -/
def settle (r : Replay Desk) (bank : Bank) (used : Nat) : Replay Desk :=
  { r with teller := { r.teller with bank, used } }

theorem Sound.settle_same (h : r.Sound users) (used : Nat) :
    (r.settle r.teller.bank used).Sound users := ⟨h.bank, h.remembered⟩

/-- A change made for a caller keeps a replay sound, as long as no account is closed. -/
theorem Sound.serve (h : r.Sound users) (hserves : r.teller.bank.Serves changed identity change)
    (htidies : change.Tidies r.teller.bank.ledger) (hclose : ∀ id, change ≠ .deleteAccount id)
    (hrevoke : ∀ number, change ≠ .deleteCard number) (used : Nat) :
    (r.settle changed used).Sound users where
  bank := h.bank.serve hserves htidies
  remembered address handle hhandle :=
    (h.remembered address handle hhandle).serve h.bank.tidy.cardsFiled hserves (hclose _) hrevoke

theorem Sound.keepHandle (h : r.Sound users) (hleads : address.LeadsTo r.teller.bank handle) :
    Sound users { r with handles := r.handles.insert address handle } where
  bank := h.bank
  remembered other found hfound := by
    rcases Table.of_getElem?_insert hfound with ⟨rfl, rfl⟩ | ⟨-, hold⟩
    · exact hleads
    · exact h.remembered other found hold

/-- When the account at an address has been closed and is forgotten, what is left is still so. -/
theorem Sound.close (h : r.Sound users) (hdistinct : OwnersDistinct users)
    (hleads : address.LeadsTo r.teller.bank handle)
    (hserves : r.teller.bank.Serves changed identity (.deleteAccount handle.account)) (used : Nat) :
    Sound users { r.settle changed used with handles := r.handles.erase address } where
  bank := h.bank.serve hserves trivial
  remembered other found hfound := by
    obtain ⟨hne, hold⟩ := Table.of_getElem?_erase hfound
    have hother := h.remembered other found hold
    refine hother.serve h.bank.tidy.cardsFiled hserves ?_ nofun
    intro hsame
    have haccount := Change.deleteAccount.inj hsame
    have hnames : address.Names r.teller.bank found.account := haccount ▸ hleads.toNames
    exact hne (hother.toNames.address_eq h.bank hdistinct hnames)

end Replay

end Cashbook
