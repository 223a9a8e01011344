/-
Ledgers that a book shows.

A book shows a ledger, together with what the references of a replay stand for, if its
entries mirror the accounts and if behind each reference there is the transfer that can
still be taken back.  Each change of the ledger that a row can make has its change of the
book; what the two say of everything else stays as it was.

A transfer cannot be taken back once it has been, nor when one of its accounts is gone.  That
an account which is gone stays gone takes identifiers that are not given away twice.
-/
import Cashbook.Proofs.Replay.Mirror
import Cashbook.Proofs.Replay.Sound

namespace Cashbook

/-! ### Where accounts are -/

/-- The account is the one at this address, for all that is known of the users. -/
def Address.Lies (users : List String) (accounts : Table AccountId Account) (address : Address)
    (id : AccountId) : Prop :=
  address.user ∈ users ∧
    ∃ row, accounts[id]? = some row ∧ row.owner = ownerOf address.user ∧ row.name = address.account

variable {users : List String} {bank : Bank} {ledger before after : Ledger}
  {accounts changed : Table AccountId Account} {address : Address} {id : AccountId}
  {change : Change} {references : Table String TransactionId} {tx : Transaction}
  {remittance? : Option Remittance} {book : Book}

/-- Whoever has an account is known. -/
theorem Bank.Sound.names_iff (h : bank.Sound users) (hdistinct : OwnersDistinct users) :
    address.Names bank id ↔ address.Lies users bank.ledger.accounts id := by
  constructor
  · intro hnames
    exact ⟨(h.registered _ _ hnames.knows).2, hnames.account⟩
  · intro hlies
    obtain ⟨huser, row, hrow, howner, hname⟩ := hlies
    obtain ⟨user, hknown⟩ := h.owned id row hrow
    obtain ⟨hderived, hmem⟩ := h.registered user row.owner hknown
    obtain rfl := hdistinct user hmem address.user huser (hderived.symm.trans howner)
    exact ⟨by rw [Bank.Knows, ← howner]; exact hknown, row, hrow, howner, hname⟩

/-- No account is at two addresses, and no address has two. -/
theorem Ledger.Tidy.biUnique_lies (h : ledger.Tidy) (hdistinct : OwnersDistinct users) :
    Relator.BiUnique (Address.Lies users ledger.accounts) := by
  constructor
  · intro address id other hlies hother
    obtain ⟨huser, row, hrow, howner, hname⟩ := hlies
    obtain ⟨huser', same, hsame, howner', hname'⟩ := hother
    obtain rfl := Option.some.inj (hrow.symm.trans hsame)
    exact Address.eq_of_parts (hdistinct _ huser _ huser' (howner.symm.trans howner'))
      (hname.symm.trans hname')
  · intro address id other hlies hother
    obtain ⟨-, row, hrow, howner, hname⟩ := hlies
    obtain ⟨-, old, hold, howner', hname'⟩ := hother
    exact h.namesDistinct _ _ row old hrow hold (howner.trans howner'.symm) (hname.trans hname'.symm)

/-- Balances have no part in where accounts are. -/
theorem Alike.lies_eq (h : Alike accounts changed) :
    Address.Lies users changed = Address.Lies users accounts := by
  funext address id
  refine propext (and_congr_right fun _ => ?_)
  constructor
  · intro hlies
    obtain ⟨new, hnew, howner, hname⟩ := hlies
    obtain ⟨row, hrow, hframe⟩ := h.was hnew
    refine ⟨row, hrow, ?_, ?_⟩
    · rw [← Account.frame_owner, hframe, Account.frame_owner, howner]
    · rw [← Account.frame_name, hframe, Account.frame_name, hname]
  · intro hlies
    obtain ⟨row, hrow, howner, hname⟩ := hlies
    obtain ⟨new, hnew, hframe⟩ := h.is hrow
    refine ⟨new, hnew, ?_, ?_⟩
    · rw [← Account.frame_owner, hframe, Account.frame_owner, howner]
    · rw [← Account.frame_name, hframe, Account.frame_name, hname]

/-- An account stays where it is until it is closed. -/
theorem Change.Effect.lies (he : change.Effect before after) (hclose : change ≠ .deleteAccount id)
    (h : address.Lies users before.accounts id) : address.Lies users after.accounts id := by
  obtain ⟨huser, row, hrow, howner, hname⟩ := h
  obtain ⟨new, hnew, hframe⟩ := he.account_stays hclose hrow
  refine ⟨huser, new, hnew, ?_, ?_⟩
  · rw [← Account.frame_owner, hframe, Account.frame_owner, howner]
  · rw [← Account.frame_name, hframe, Account.frame_name, hname]

/-! ### Transfers that can be taken back -/

/-- What the book says of a transaction that a reference stands for. -/
def Transaction.Awaits (users : List String) (ledger : Ledger) (tx : Transaction) :
    Option Remittance → Prop
  | some remittance =>
    tx.rolledBack = false ∧ tx.amount = remittance.amount ∧
      ∃ payer payee, tx.kind = .transfer payer payee ∧
        remittance.source.Lies users ledger.accounts payer ∧
          remittance.destination.Lies users ledger.accounts payee
  | none =>
    ∀ payer payee, tx.kind = .transfer payer payee → tx.rolledBack = false →
      ledger.accounts[payer]? = none ∨ ledger.accounts[payee]? = none

/-- What can be taken back still can, and what cannot still cannot. -/
theorem Transaction.Awaits.step (h : tx.Awaits users before remittance?)
    (he : change.Effect before after) (hclose : ∀ id, change ≠ .deleteAccount id)
    (hopen : ∀ row, change.opening? = some row → row.id ∉ tx.kind.accounts) :
    tx.Awaits users after remittance? := by
  cases remittance? with
  | some remittance =>
      obtain ⟨hflag, hamount, payer, payee, hkind, hsource, hdestination⟩ := h
      exact ⟨hflag, hamount, payer, payee, hkind, he.lies (hclose payer) hsource,
        he.lies (hclose payee) hdestination⟩
  | none =>
      intro payer payee hkind hflag
      have hends : ∀ row, change.opening? = some row → row.id ≠ payer ∧ row.id ≠ payee := by
        intro row hrow
        have hmem := hopen row hrow
        rw [hkind] at hmem
        exact ⟨fun heq => hmem (heq ▸ List.mem_cons_self),
          fun heq => hmem (heq ▸ List.mem_cons_of_mem _ List.mem_cons_self)⟩
      refine (h payer payee hkind hflag).imp ?_ ?_
      · exact fun hnone => he.absent hnone fun row hrow => (hends row hrow).1
      · exact fun hnone => he.absent hnone fun row hrow => (hends row hrow).2

/-- With an account that is closed goes what could be taken back from it or to it. -/
theorem Transaction.Awaits.close (h : tx.Awaits users before remittance?)
    (hone : Relator.BiUnique (Address.Lies users before.accounts))
    (he : (Change.deleteAccount id).Effect before after)
    (hlies : address.Lies users before.accounts id) :
    tx.Awaits users after (remittance?.filter fun remittance =>
      remittance.source ≠ address ∧ remittance.destination ≠ address) := by
  have hgone : after.accounts[id]? = none := by
    obtain ⟨-, rfl⟩ := he
    exact Std.ExtTreeMap.getElem?_erase_self
  cases remittance? with
  | none =>
      intro payer payee hkind hflag
      exact (h payer payee hkind hflag).imp (he.absent · nofun) (he.absent · nofun)
  | some remittance =>
      obtain ⟨hflag, hamount, payer, payee, hkind, hsource, hdestination⟩ := h
      by_cases hfar : remittance.source ≠ address ∧ remittance.destination ≠ address
      · rw [Option.filter_some, if_pos (decide_eq_true hfar)]
        have hstays : ∀ {other : Address} {k : AccountId}, other ≠ address →
            other.Lies users before.accounts k → other.Lies users after.accounts k := by
          intro other k hne hother
          refine he.lies ?_ hother
          intro hsame
          obtain rfl := Change.deleteAccount.inj hsame
          exact hne (hone.1 hother hlies)
        exact ⟨hflag, hamount, payer, payee, hkind, hstays hfar.1 hsource, hstays hfar.2 hdestination⟩
      · rw [Option.filter_some, if_neg (by simpa using hfar)]
        intro payer' payee' hkind' _
        obtain ⟨rfl, rfl⟩ := TransactionKind.transfer.inj (hkind.symm.trans hkind')
        rcases not_and_or.1 hfar with hsame | hsame
        · obtain rfl := not_not.1 hsame
          exact Or.inl (hone.2 hsource hlies ▸ hgone)
        · obtain rfl := not_not.1 hsame
          exact Or.inr (hone.2 hdestination hlies ▸ hgone)

/-! ### Shown ledgers -/

/-- What two optional values have to do with each other carries over to where one is mapped. -/
private theorem rel_map {α β γ : Type} {R : α → β → Prop} {R' : γ → β → Prop} {f : α → γ}
    {a : Option α} {b : Option β} (h : Option.Rel R a b)
    (himp : ∀ x y, b = some y → R x y → R' (f x) y) : Option.Rel R' (a.map f) b := by
  cases h with
  | none => exact .none
  | some hR => exact .some (himp _ _ rfl hR)

namespace Book

/-- The book says what the ledger says, and what is behind the references. -/
structure Shows (users : List String) (book : Book) (ledger : Ledger)
    (references : Table String TransactionId) : Prop where
  entries : Mirrors (Address.Lies users ledger.accounts) book.entries ledger.accounts
  pending : ∀ label : String,
    Option.Rel (fun remittance? key => ∃ tx, ledger.transactions[key]? = some tx ∧
      tx.Awaits users ledger remittance?) book.references[label]? references[label]?
  /-- No two references stand for one transaction. -/
  different : ∀ (label other : String) (key : TransactionId), references[label]? = some key →
    references[other]? = some key → label = other

namespace Shows

theorem empty (users : List String) : Book.empty.Shows users .empty ∅ where
  entries address entry := by simp [Book.empty, Ledger.empty]
  pending label := by
    simp only [Book.empty, Std.ExtTreeMap.getElem?_empty]
    exact .none
  different label other key h := absurd h (by simp)

/-- Whatever a reference stands for is there. -/
theorem recorded (h : book.Shows users ledger references) {label : String} {key : TransactionId}
    (hkey : references[label]? = some key) : ∃ tx, ledger.transactions[key]? = some tx := by
  have hpending := h.pending label
  rw [hkey] at hpending
  generalize book.references[label]? = shown at hpending
  cases hpending with
  | some hawaits =>
      obtain ⟨tx, htx, -⟩ := hawaits
      exact ⟨tx, htx⟩

/-- The book knows which references have been given away. -/
theorem contains_eq (h : book.Shows users ledger references) (label : String) :
    references.contains label = book.references.contains label := by
  have hpending := h.pending label
  rw [Std.ExtTreeMap.contains_eq_isSome_getElem?, Std.ExtTreeMap.contains_eq_isSome_getElem?]
  generalize book.references[label]? = shown at hpending
  generalize references[label]? = key at hpending
  cases hpending <;> rfl

/-- A reference whose transaction is not rolled back stands for what it did. -/
theorem pending_step (h : book.Shows users before references) (he : change.Effect before after)
    (hclose : ∀ id, change ≠ .deleteAccount id)
    (hopen : ∀ row, change.opening? = some row → ∀ (key : TransactionId) (tx : Transaction),
      before.transactions[key]? = some tx → row.id ∉ tx.kind.accounts)
    {label : String} (hother : ∀ key, references[label]? = some key → change ≠ .rollbackTransfer key) :
    Option.Rel (fun remittance? key => ∃ tx, after.transactions[key]? = some tx ∧
      tx.Awaits users after remittance?) book.references[label]? references[label]? := by
  rw [← Option.map_id' (x := book.references[label]?)]
  refine rel_map (h.pending label) fun remittance? key hkey hawaits => ?_
  obtain ⟨tx, htx, hawaits⟩ := hawaits
  rcases he.transaction_cases htx with ⟨-, hkept⟩ | ⟨hrolled, -⟩
  · exact ⟨tx, hkept, hawaits.step he hclose fun row hrow => hopen row hrow key tx htx⟩
  · exact absurd hrolled (hother key hkey)

/-- What is behind the references does not change when no account is closed and none of the
transactions is taken back. -/
private theorem pending_kept (h : book.Shows users before references)
    (he : change.Effect before after) (hclose : ∀ id, change ≠ .deleteAccount id)
    (hroll : ∀ key, change ≠ .rollbackTransfer key)
    (hopen : ∀ row, change.opening? = some row → ∀ (key : TransactionId) (tx : Transaction),
      before.transactions[key]? = some tx → row.id ∉ tx.kind.accounts) (label : String) :
    Option.Rel (fun remittance? key => ∃ tx, after.transactions[key]? = some tx ∧
      tx.Awaits users after remittance?) book.references[label]? references[label]? :=
  h.pending_step he hclose hopen fun key _ => hroll key

/-- An account is opened at an address that has none. -/
theorem create (h : book.Shows users before references) (hdistinct : OwnersDistinct users)
    {row : Account} (he : (Change.createAccount row).Effect before after)
    (huser : address.user ∈ users) (howner : row.owner = ownerOf address.user)
    (hname : row.name = address.account) (hfree : before.NameFree row.owner row.name)
    (hends : ∀ (key : TransactionId) (tx : Transaction), before.transactions[key]? = some tx →
      row.id ∉ tx.kind.accounts) :
    Shows users { book with entries := book.entries.insert address row.entry } after references where
  different := h.different
  pending := by
    refine h.pending_kept he nofun nofun fun opened hopened key tx htx => ?_
    obtain rfl := Option.some.inj hopened
    exact hends key tx htx
  entries := by
    obtain ⟨hnew, rfl⟩ := he
    intro other entry
    by_cases hother : address = other
    · subst hother
      rw [Std.ExtTreeMap.getElem?_insert_self]
      constructor
      · intro hentry
        exact ⟨row.id, row, ⟨huser, row, Std.ExtTreeMap.getElem?_insert_self, howner, hname⟩,
          Std.ExtTreeMap.getElem?_insert_self, Option.some.inj hentry⟩
      · intro hentry
        obtain ⟨id, new, ⟨-, same, hsame, howner', hname'⟩, hfound, rfl⟩ := hentry
        obtain rfl := Option.some.inj (hfound.symm.trans hsame)
        rcases Table.of_getElem?_insert hfound with ⟨-, rfl⟩ | ⟨-, hold⟩
        · rfl
        · exact absurd (hname'.trans hname.symm) (hfree id new hold (howner'.trans howner.symm))
    · rw [Table.getElem?_insert_of_ne _ _ hother, h.entries other entry]
      constructor
      · intro hentry
        obtain ⟨id, old, ⟨huser', same, hsame, hat⟩, hold, heq⟩ := hentry
        have hkept : (before.accounts.insert row.id row)[id]? = before.accounts[id]? := by
          refine Table.getElem?_insert_of_ne _ _ ?_
          rintro rfl
          rw [hnew] at hold
          cases hold
        exact ⟨id, old, ⟨huser', same, hkept.trans hsame, hat⟩, hkept.trans hold, heq⟩
      · intro hentry
        obtain ⟨id, new, ⟨huser', same, hsame, howner', hname'⟩, hfound, heq⟩ := hentry
        obtain rfl := Option.some.inj (hfound.symm.trans hsame)
        rcases Table.of_getElem?_insert hfound with ⟨-, rfl⟩ | ⟨-, hold⟩
        · exact absurd (Address.eq_of_parts (hdistinct _ huser _ huser' (howner.symm.trans howner'))
            (hname.symm.trans hname')) hother
        · exact ⟨id, new, ⟨huser', new, hold, howner', hname'⟩, hold, heq⟩

/-- The book says nothing of cards. -/
theorem issue (h : book.Shows users before references) {card : Card}
    (he : (Change.createCard card).Effect before after) : book.Shows users after references where
  different := h.different
  pending := h.pending_kept he nofun nofun nofun
  entries := by
    obtain ⟨-, -, rfl⟩ := he
    exact h.entries

/-- Money moves. -/
theorem record (h : book.Shows users before references)
    (hone : Relator.BiUnique (Address.Lies users before.accounts))
    (he : (Change.record tx).Effect before after) {route : Route}
    (hmeans : route.Means (Address.Lies users before.accounts) tx.kind) :
    ∃ entries, route.follow tx.amount book.entries = some entries ∧
      Shows users { book with entries } after references := by
  have hpending := h.pending_kept he nofun nofun nofun
  obtain ⟨accounts, hmoves, -, rfl⟩ := he
  obtain ⟨entries, hfollow, hmirrors⟩ := h.entries.moves hone hmeans hmoves
  rw [← hmoves.alike.lies_eq] at hmirrors
  exact ⟨entries, hfollow, hmirrors, hpending, h.different⟩

/-- A reference is given away for a transaction that has none. -/
theorem refer (h : book.Shows users ledger references) {key : TransactionId}
    (htx : ledger.transactions[key]? = some tx) (hawaits : tx.Awaits users ledger remittance?)
    (hnew : ∀ label : String, references[label]? ≠ some key) (label : String) :
    Shows users { book with references := book.references.insert label remittance? } ledger
      (references.insert label key) where
  entries := h.entries
  pending other := by
    by_cases hother : label = other
    · subst hother
      rw [Std.ExtTreeMap.getElem?_insert_self, Std.ExtTreeMap.getElem?_insert_self]
      exact .some ⟨tx, htx, hawaits⟩
    · rw [Table.getElem?_insert_of_ne _ _ hother, Table.getElem?_insert_of_ne _ _ hother]
      exact h.pending other
  different one other found hone hother := by
    rcases Table.of_getElem?_insert hone with ⟨rfl, rfl⟩ | ⟨-, hfirst⟩
    · rcases Table.of_getElem?_insert hother with ⟨rfl, -⟩ | ⟨-, hsecond⟩
      · rfl
      · exact absurd hsecond (hnew other)
    · rcases Table.of_getElem?_insert hother with ⟨-, rfl⟩ | ⟨-, hsecond⟩
      · exact absurd hfirst (hnew one)
      · exact h.different one other found hfirst hsecond

/-- A transfer is taken back. -/
theorem reverse (h : book.Shows users before references)
    (hone : Relator.BiUnique (Address.Lies users before.accounts)) {key : TransactionId}
    (he : (Change.rollbackTransfer key).Effect before after) {label : String}
    (hkey : references[label]? = some key) (htx : before.transactions[key]? = some tx)
    {remittance : Remittance} (hawaits : tx.Awaits users before (some remittance)) :
    ∃ entries, Entry.pass remittance.amount remittance.destination remittance.source book.entries =
        some entries ∧
      Shows users ⟨entries, book.references.insert label none⟩ after references := by
  have hothers : ∀ other, other ≠ label → _ := fun other hother =>
    h.pending_step he nofun nofun fun found hfound hrolled =>
      hother (h.different other label key (Change.rollbackTransfer.inj hrolled ▸ hfound) hkey)
  obtain ⟨same, payer, payee, accounts, hsame, hkind, -, hpassed, rfl⟩ := he
  obtain rfl := Option.some.inj (htx.symm.trans hsame)
  obtain ⟨-, hamount, payer', payee', hkind', hsource, hdestination⟩ := hawaits
  obtain ⟨rfl, rfl⟩ := TransactionKind.transfer.inj (hkind.symm.trans hkind')
  obtain ⟨entries, hpass, hmirrors⟩ := h.entries.passed hone hdestination hsource hpassed
  rw [← hpassed.alike.lies_eq] at hmirrors
  rw [hamount] at hpass
  refine ⟨entries, hpass, hmirrors, fun other => ?_, h.different⟩
  by_cases hother : label = other
  · subst hother
    rw [Std.ExtTreeMap.getElem?_insert_self, hkey]
    exact .some ⟨_, Std.ExtTreeMap.getElem?_insert_self, fun _ _ _ hflag => nomatch hflag⟩
  · rw [Table.getElem?_insert_of_ne _ _ hother]
    exact hothers other (Ne.symm hother)

/-- An account is closed. -/
theorem close (h : book.Shows users before references)
    (hone : Relator.BiUnique (Address.Lies users before.accounts))
    (he : (Change.deleteAccount id).Effect before after)
    (hlies : address.Lies users before.accounts id) :
    Shows users
      { entries := book.entries.erase address
        references := book.references.map fun _ remittance? => remittance?.filter fun remittance =>
          remittance.source ≠ address ∧ remittance.destination ≠ address } after references where
  different := h.different
  entries := by
    obtain ⟨-, rfl⟩ := he
    intro other entry
    show _ ↔ ∃ k row, Address.Lies users (before.accounts.erase id) other k ∧
      (before.accounts.erase id)[k]? = some row ∧ row.entry = entry
    by_cases hother : address = other
    · subst hother
      rw [Std.ExtTreeMap.getElem?_erase_self]
      refine ⟨nofun, ?_⟩
      intro hentry
      obtain ⟨k, row, ⟨huser, same, hsame, hat⟩, -, -⟩ := hentry
      obtain ⟨hne, hold⟩ := Table.of_getElem?_erase hsame
      exact absurd (hone.2 ⟨huser, same, hold, hat⟩ hlies) hne
    · rw [Table.getElem?_erase_of_ne _ hother, h.entries other entry]
      constructor
      · intro hentry
        obtain ⟨k, row, ⟨huser, same, hsame, hat⟩, hrow, heq⟩ := hentry
        have hne : id ≠ k := by
          rintro rfl
          exact hother (hone.1 hlies ⟨huser, same, hsame, hat⟩)
        have hkept := Table.getElem?_erase_of_ne before.accounts hne
        exact ⟨k, row, ⟨huser, same, hkept.trans hsame, hat⟩, hkept.trans hrow, heq⟩
      · intro hentry
        obtain ⟨k, row, ⟨huser, same, hsame, hat⟩, hrow, heq⟩ := hentry
        exact ⟨k, row, ⟨huser, same, (Table.of_getElem?_erase hsame).2, hat⟩,
          (Table.of_getElem?_erase hrow).2, heq⟩
  pending label := by
    rw [Std.ExtTreeMap.getElem?_map]
    refine rel_map (h.pending label) fun remittance? key _ hawaits => ?_
    obtain ⟨tx, htx, hawaits⟩ := hawaits
    rcases he.transaction_cases htx with ⟨-, hkept⟩ | ⟨hrolled, -⟩
    · exact ⟨tx, hkept, hawaits.close hone he hlies⟩
    · cases hrolled

end Shows

end Book

end Cashbook
