/-
What a call protects with its keys.

A call reads a few rows, takes the keys of the accounts that it is going to touch, reads
what matters once more, and asks for one change.  While it is at it others change the
bank, but not everything.  `Beside` says what they leave alone: an account that has been
seen keeps its owner and its currency, a transaction keeps its accounts, and the accounts
whose keys a call holds keep their rows altogether.

`Plan.Guarded` says that a call makes do with this.  It carries along what the call has
learnt, which must be something that others leave alone, and asks two things of the
change at the end: it touches no account of which the call has not got the key, and, if it
moves money, its accounts are ready for it.  All ten calls are guarded.
-/
import Cashbook.Proofs.Ledger.Footprint
import Cashbook.Proofs.Service.Call

namespace Cashbook

/-! ### What others leave alone -/

/-- What does not change between two moments for a call that holds these keys all the while. -/
structure Beside (stamp : Stamp) (keys : List AccountId) (earlier later : Moment) : Prop where
  unused : ∀ id, later.unused id → earlier.unused id
  /-- An account that is gone stays gone. -/
  gone : ∀ id : AccountId, ¬earlier.unused id → earlier.ledger.accounts[id]? = none →
    later.ledger.accounts[id]? = none
  /-- An account that is there differs from what it was in its balance alone. -/
  frames : ∀ (id : AccountId) (row new : Account), earlier.ledger.accounts[id]? = some row →
    later.ledger.accounts[id]? = some new → new.frame = row.frame
  /-- An account whose key is held is as it was. -/
  kept : ∀ id ∈ keys, ∀ row : Account, earlier.ledger.accounts[id]? = some row →
    later.ledger.accounts[id]? = some row
  /-- A transaction stays between its accounts. -/
  kinds : ∀ (id : TransactionId) (tx : Transaction), earlier.ledger.transactions[id]? = some tx →
    ∃ new, later.ledger.transactions[id]? = some new ∧ new.kind = tx.kind
  /-- The identifier that the call has for a transaction is not used by others. -/
  unspent : earlier.ledger.transactions[stamp.transaction]? = none →
    later.ledger.transactions[stamp.transaction]? = none

/-- What is true at a moment is true at all that follow while the keys are held. -/
def Stable (stamp : Stamp) (keys : List AccountId) (known : Moment → Prop) : Prop :=
  ∀ earlier later, known earlier → Beside stamp keys earlier later → known later

/-- No transaction has the identifier of the stamp. -/
def Unspent (stamp : Stamp) (moment : Moment) : Prop :=
  moment.ledger.transactions[stamp.transaction]? = none

/-- An account was seen: if it is there, it is the one that was seen, but for its balance. -/
def Seen (row : Account) (moment : Moment) : Prop :=
  ¬moment.unused row.id ∧
    ∀ now : Account, moment.ledger.accounts[row.id]? = some now → now.frame = row.frame

/-- Accounts were looked at with their keys held: they are there, and the source has the money. -/
def Checked (amount : Amount) (kind : TransactionKind) (ids : List AccountId) (moment : Moment) :
    Prop :=
  ∀ id ∈ ids, ∃ row, moment.ledger.accounts[id]? = some row ∧
    (kind.source? = some id → row.ensureCovers amount = .ok ())

variable {stamp : Stamp} {registry : Registry} {keys fewer : List AccountId} {moment : Moment}
  {known known' : Moment → Prop} {amount : Amount} {kind : TransactionKind}

theorem Beside.mono {earlier later : Moment} (h : Beside stamp keys earlier later)
    (hfewer : ∀ id ∈ fewer, id ∈ keys) : Beside stamp fewer earlier later :=
  ⟨h.unused, h.gone, h.frames, fun id hid => h.kept id (hfewer id hid), h.kinds, h.unspent⟩

theorem Stable.mono (h : Stable stamp fewer known) (hfewer : ∀ id ∈ fewer, id ∈ keys) :
    Stable stamp keys known :=
  fun earlier later hearlier hbeside => h earlier later hearlier (hbeside.mono hfewer)

theorem Stable.and (h : Stable stamp keys known) (h' : Stable stamp keys known') :
    Stable stamp keys fun moment => known moment ∧ known' moment :=
  fun earlier later hearlier hbeside =>
    ⟨h earlier later hearlier.1 hbeside, h' earlier later hearlier.2 hbeside⟩

theorem stable_unspent : Stable stamp keys (Unspent stamp) :=
  fun _ _ hearlier hbeside => hbeside.unspent hearlier

theorem stable_seen (row : Account) : Stable stamp keys (Seen row) := by
  intro earlier later hearlier hbeside
  obtain ⟨hused, hframe⟩ := hearlier
  refine ⟨fun hunused => hused (hbeside.unused _ hunused), ?_⟩
  intro new hnew
  cases hold : earlier.ledger.accounts[row.id]? with
  | none =>
      rw [hbeside.gone row.id hused hold] at hnew
      cases hnew
  | some old => rw [hbeside.frames row.id old new hold hnew, hframe old hold]

theorem stable_checked {ids : List AccountId} (hids : ∀ id ∈ ids, id ∈ keys) :
    Stable stamp keys (Checked amount kind ids) := by
  intro earlier later hearlier hbeside id hid
  obtain ⟨row, hrow, hcovers⟩ := hearlier id hid
  exact ⟨row, hbeside.kept id (hids id hid) row hrow, hcovers⟩

/-- An account that a card leads to has been seen. -/
theorem seen_of_accountOfCard {number : CardNumber} {row : Account}
    (h : moment.ledger.accountOfCard number = .ok row) : Seen row moment := by
  obtain ⟨card, -, hrow⟩ := Ledger.accountOfCard_ok_iff.1 h
  have hid := moment.inOrder.accountsFiled card.account row hrow
  refine ⟨?_, ?_⟩
  · intro hunused
    rw [hid] at hunused
    rw [moment.absent card.account hunused] at hrow
    cases hrow
  · intro now hnow
    rw [hid, hrow] at hnow
    rw [Option.some.inj hnow]

/-- A change leads to a moment that is beside all who do not hold the keys of what it touches. -/
theorem Moment.exists_beside (moment : Moment) {change : Change} {after : Ledger}
    (he : change.Effect moment.ledger after)
    (hopen : ∀ row, change.opening? = some row → moment.unused row.id)
    {unused : AccountId → Prop} (hfewer : ∀ id, unused id → moment.unused id)
    (hused : ∀ row, change.opening? = some row → ¬unused row.id) :
    ∃ next : Moment, next.ledger = after ∧ next.unused = unused ∧
      ∀ (stamp : Stamp) (keys : List AccountId),
        (∀ tx, change = .record tx → tx.id ≠ stamp.transaction) →
          (∀ id ∈ keys, ¬change.Touches moment.ledger id) → Beside stamp keys moment next := by
  obtain ⟨next, rfl, rfl⟩ := moment.exists_next he hfewer hused
  refine ⟨next, rfl, rfl, ?_⟩
  intro stamp keys hother hout
  exact {
    unused := hfewer
    gone := fun id hid hnone => he.absent hnone fun row hrow heq => hid (heq ▸ hopen row hrow)
    frames := fun id row new hrow hnew => he.frame_eq hrow hnew
    kept := fun id hid row hrow => he.account_kept hrow (hout id hid)
    kinds := fun id tx htx => he.kind_kept htx
    unspent := fun hnone => he.transaction_absent hnone hother }

/-! ### Guarded plans -/

/-- What has to be so where a call that holds these keys asks for a change. -/
def Query.Permitted (stamp : Stamp) (keys : List AccountId) (moment : Moment) : Query → Prop
  | .openAccount .. | .addCard .. | .deleteCard _ => True
  | .deleteAccount id => id ∈ keys
  | .record amount kind =>
    keys = kind.accounts ∧ kind.Ready amount moment.ledger.accounts ∧ Unspent stamp moment
  | .reverse id =>
    ∃ tx, moment.ledger.transactions[id]? = some tx ∧ ∀ id ∈ tx.kind.accounts, id ∈ keys
  | .owner _ | .account _ | .accountOfCard _ | .accounts _ | .card _ | .cards _ | .transaction _
  | .transactions _ | .newNumber => False

/-- A change that is permitted touches no account whose key is not held. -/
theorem Query.Permitted.mem_of_touches {q : Query} (h : q.Permitted stamp keys moment)
    {change : Change} (hchange : q.change? stamp = some change) {id : AccountId}
    (htouches : change.Touches moment.ledger id) : id ∈ keys := by
  cases q with
  | openAccount owner name currency =>
      cases hchange
      cases htouches
  | addCard number account =>
      cases hchange
      cases htouches
  | deleteCard number =>
      cases hchange
      cases htouches
  | deleteAccount other =>
      cases hchange
      rw [show id = other from htouches]
      exact h
  | record amount kind =>
      cases hchange
      rw [h.1]
      exact htouches
  | reverse key =>
      cases hchange
      obtain ⟨tx, htx, hkeys⟩ := h
      obtain ⟨same, hsame, hmem⟩ := htouches
      obtain rfl := Option.some.inj (htx.symm.trans hsame)
      exact hkeys id hmem
  | owner _ | account _ | accountOfCard _ | accounts _ | card _ | cards _ | transaction _
  | transactions _ | newNumber => cases h

namespace Plan

variable {α β : Type} {rest : Plan α}

/--
A plan that asks for keys once, ends with its change if it has one, and then has the keys
and the knowledge that the change needs.
-/
def Guarded (stamp : Stamp) (registry : Registry) :
    (Moment → Prop) → List AccountId → Plan α → Prop
  | _, _, .done _ | _, _, .fail _ => True
  | known, keys, .hold more next =>
    keys = [] ∧ more ≠ [] ∧ next.Guarded stamp registry known more
  | known, keys, .ask q next =>
    if q.isWrite = true then
      (∀ moment, known moment → q.Permitted stamp keys moment) ∧
        ∀ answer, ∃ value, next answer = .done value
    else
      ∀ answer, ∃ learnt : Moment → Prop, Stable stamp keys learnt ∧
        (∀ moment, known moment → ((moment.bank registry).perform stamp q).1 = .ok answer →
          learnt moment) ∧
        (next answer).Guarded stamp registry learnt keys

/-- Whoever knows more is guarded as well. -/
theorem Guarded.mono (h : rest.Guarded stamp registry known keys)
    (hmore : ∀ moment, known' moment → known moment) : rest.Guarded stamp registry known' keys := by
  induction rest generalizing keys with
  | done value => trivial
  | fail failure => trivial
  | hold more next ih => exact ⟨h.1, h.2.1, ih h.2.2⟩
  | ask q next ih =>
      rw [Guarded] at h ⊢
      split at h
      · next hwrite =>
        rw [if_pos hwrite]
        exact ⟨fun moment hmoment => h.1 moment (hmore moment hmoment), h.2⟩
      · next hread =>
        rw [if_neg hread]
        intro answer
        obtain ⟨learnt, hstable, hlearn, hnext⟩ := h answer
        exact ⟨learnt, hstable, fun moment hmoment => hlearn moment (hmore moment hmoment), hnext⟩

theorem Guarded.of_hold {more : List AccountId}
    (h : (Plan.hold more rest).Guarded stamp registry known keys) :
    keys = [] ∧ more ≠ [] ∧ rest.Guarded stamp registry known more := h

theorem Guarded.of_write {q : Query} {next : q.Answer → Plan α}
    (h : (Plan.ask q next).Guarded stamp registry known keys) (hwrite : q.isWrite = true) :
    (∀ moment, known moment → q.Permitted stamp keys moment) ∧
      ∀ answer, ∃ value, next answer = .done value := by
  rwa [Guarded, if_pos hwrite] at h

theorem Guarded.of_read {q : Query} {next : q.Answer → Plan α}
    (h : (Plan.ask q next).Guarded stamp registry known keys) (hread : q.isWrite = false)
    (answer : q.Answer) :
    ∃ learnt : Moment → Prop, Stable stamp keys learnt ∧
      (∀ moment, known moment → ((moment.bank registry).perform stamp q).1 = .ok answer →
        learnt moment) ∧
      (next answer).Guarded stamp registry learnt keys := by
  rw [Guarded, if_neg (ne_true_of_eq_false hread)] at h
  exact h answer

theorem guarded_map (f : α → β) (h : rest.Guarded stamp registry known keys) :
    (f <$> rest).Guarded stamp registry known keys := by
  show (rest.bind fun value => Plan.done (f value)).Guarded stamp registry known keys
  induction rest generalizing known keys with
  | done value => trivial
  | fail failure => trivial
  | hold more next ih => exact ⟨h.1, h.2.1, ih h.2.2⟩
  | ask q next ih =>
      rw [Guarded] at h
      rw [Plan.bind, Guarded]
      split at h
      · next hwrite =>
        rw [if_pos hwrite]
        refine ⟨h.1, ?_⟩
        intro answer
        obtain ⟨value, hvalue⟩ := h.2 answer
        exact ⟨f value, by rw [hvalue]; rfl⟩
      · next hread =>
        rw [if_neg hread]
        intro answer
        obtain ⟨learnt, hstable, hlearn, hnext⟩ := h answer
        exact ⟨learnt, hstable, hlearn, ih answer hnext⟩

theorem guarded_ofOutcome_bind {outcome : Outcome α} {f : α → Plan β}
    (h : ∀ value, outcome = .ok value → (f value).Guarded stamp registry known keys) :
    (ofOutcome outcome >>= f).Guarded stamp registry known keys := by
  cases outcome with
  | ok value => exact h value rfl
  | error failure => trivial

theorem guarded_done (value : α) : (Plan.done value).Guarded stamp registry known keys := trivial

theorem guarded_fail (failure : Failure) :
    (Plan.fail failure : Plan α).Guarded stamp registry known keys := trivial

theorem guarded_hold {more : List AccountId} (hsome : more ≠ [])
    (h : rest.Guarded stamp registry known more) :
    (Plan.hold more rest).Guarded stamp registry known [] := ⟨rfl, hsome, h⟩

theorem guarded_write {q : Query} (hwrite : q.isWrite = true)
    (h : ∀ moment, known moment → q.Permitted stamp keys moment) :
    (query q).Guarded stamp registry known keys := by
  rw [query, Guarded, if_pos hwrite]
  exact ⟨h, fun answer => ⟨answer, rfl⟩⟩

/-- A question from whose answer something is learnt. -/
theorem guarded_read_bind {q : Query} (hread : q.isWrite = false) {f : q.Answer → Plan β}
    (learnt : q.Answer → Moment → Prop) (hstable : ∀ answer, Stable stamp keys (learnt answer))
    (hlearn : ∀ answer moment, known moment →
      ((moment.bank registry).perform stamp q).1 = .ok answer → learnt answer moment)
    (h : ∀ answer, (f answer).Guarded stamp registry (learnt answer) keys) :
    (query q >>= f).Guarded stamp registry known keys := by
  show (Plan.ask q f).Guarded stamp registry known keys
  rw [Guarded, if_neg (ne_true_of_eq_false hread)]
  exact fun answer => ⟨learnt answer, hstable answer, hlearn answer, h answer⟩

/-- A question from whose answer nothing is learnt that will be needed. -/
theorem guarded_look_bind {q : Query} (hread : q.isWrite = false) {f : q.Answer → Plan β}
    (hstable : Stable stamp keys known) (h : ∀ answer, (f answer).Guarded stamp registry known keys) :
    (query q >>= f).Guarded stamp registry known keys :=
  guarded_read_bind hread (fun _ => known) (fun _ => hstable) (fun _ _ hknown _ => hknown) h

/-- A question at the end. -/
theorem guarded_read {q : Query} (hread : q.isWrite = false) (hstable : Stable stamp keys known) :
    (query q).Guarded stamp registry known keys :=
  guarded_look_bind hread hstable fun answer => guarded_done answer

-- From here on plans are taken apart by these lemmas alone.
attribute [irreducible] Guarded

end Plan

end Cashbook
