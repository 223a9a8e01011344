/-
What becomes of a row.

A row that is done achieves what it is about, and `Achieves` says by which call.  A row that
fails has done no more than prepare for that call.

There is one exception.  An account is opened by two calls, and the second, which issues its
card, may be refused when the first has been carried out.  The account is stranded then: it
is there, although the row has failed.
-/
import Cashbook.Proofs.Replay.Looked
import Cashbook.Proofs.Replay.Stands

namespace Cashbook

variable {r : Replay Desk} {op : Operation}

/-! ### What rows are about -/

/-- The kind of transaction that comes of an operation, if it moves money. -/
def OperationKind.movement? : OperationKind → Option TransactionType
  | .deposit => some .deposit
  | .withdrawal => some .withdrawal
  | .transfer => some .transfer
  | .opening | .rollback | .close => none

theorem OperationKind.eq_transfer {kind : OperationKind} (h : kind.movement? = some .transfer) :
    kind = .transfer := by
  cases kind <;> cases h
  rfl

theorem OperationKind.ne_rollback {kind : OperationKind} (h : kind.movement?.isSome = true) :
    kind ≠ .rollback := by
  rintro rfl
  cases h

namespace Replay

/-- The row has an account opened; whether a card is issued for it is another matter. -/
structure Opens (r : Replay Desk) (op : Operation) (account : Account) (opened : Bank) : Prop where
  kind : op.kind = .opening
  fresh : ∀ label, op.reference = some label → r.references[label]? = none
  vacant : r.Lacks (addressOf op)
  called : ∃ currency, op.currency = some currency ∧
    (Plan.openAccount r.teller.rules op.user ⟨op.account, currency⟩).run r.stamp
      (r.registered op.user).teller.bank = (.ok account, opened)

/-- The row has an account opened, and the card that is to be issued for it has a number in use. -/
def Strands (r : Replay Desk) (op : Operation) (account : Account) (opened : Bank) : Prop :=
  r.Opens op account opened ∧
    ∃ card, r.teller.bank.ledger.cards[(r.teller.stamps (r.teller.used + 1)).card]? = some card

/-- The movement that a row asks for, by the cards of the accounts that have been looked up. -/
inductive Asks (looked : Replay Desk) (op : Operation) : MovementRequest → Prop
  | deposit {value : Decimal} {handle : Handle} (hkind : op.kind = .deposit)
      (hvalue : op.amount = some value) (hhandle : looked.handles[addressOf op]? = some handle) :
      Asks looked op (.deposit value handle.card)
  | withdrawal {value : Decimal} {handle : Handle} (hkind : op.kind = .withdrawal)
      (hvalue : op.amount = some value) (hhandle : looked.handles[addressOf op]? = some handle) :
      Asks looked op (.withdrawal value handle.card)
  | transfer {value : Decimal} {raw : String} {address : Address} {source destination : Handle}
      (hkind : op.kind = .transfer) (hvalue : op.amount = some value)
      (hraw : op.counterparty = some raw) (haddress : Address.parse raw = .ok address)
      (hsource : looked.handles[addressOf op]? = some source)
      (hdestination : looked.handles[address]? = some destination) :
      Asks looked op (.transfer value source.card destination.card)

theorem Asks.exists_type {looked : Replay Desk} {request : MovementRequest}
    (h : looked.Asks op request) :
    ∃ type, op.kind.movement? = some type ∧ request.type = type.name := by
  cases h with
  | deposit hkind _ _ => exact ⟨.deposit, by rw [hkind]; rfl, rfl⟩
  | withdrawal hkind _ _ => exact ⟨.withdrawal, by rw [hkind]; rfl, rfl⟩
  | transfer hkind _ _ _ _ _ => exact ⟨.transfer, by rw [hkind]; rfl, rfl⟩

/-- The replay once the reference of a row stands for a transaction. -/
def refer (op : Operation) (id : TransactionId) (r : Replay Desk) : Replay Desk :=
  match op.reference with
  | some label => { r with references := r.references.insert label id }
  | none => r

/-- The row does what it is about, and this is what it leaves. -/
inductive Achieves (r : Replay Desk) (op : Operation) : Replay Desk → Prop
  | opened {account : Account} {card : Card} {opened issued : Bank} {used : Nat}
      (hopens : r.Opens op account opened)
      (hissued : (Plan.issueCard op.user account.id).run (r.teller.stamps (r.teller.used + 1)) opened =
        (.ok card, issued)) :
      Achieves r op { (r.registered op.user).settle issued used with
        handles := r.handles.insert (addressOf op) ⟨account.id, card.number⟩ }
  | moved {looked : Replay Desk} {request : MovementRequest} {tx : Transaction} {changed : Bank}
      {used : Nat} (hprepares : r.Prepares looked) (hasks : looked.Asks op request)
      (hmoved : (Plan.move looked.teller.rules op.user request).run looked.stamp looked.teller.bank =
        (.ok tx, changed)) :
      Achieves r op ((looked.settle changed used).refer op tx.id)
  | reversed {label : String} {id : TransactionId} {tx : Transaction} {changed : Bank} {used : Nat}
      (hkind : op.kind = .rollback) (hlabel : op.reference = some label)
      (hbound : r.references[label]? = some id)
      (hreversed : (Plan.reverse op.user ⟨id.toText⟩).run r.stamp (r.registered op.user).teller.bank =
        (.ok tx, changed)) :
      Achieves r op ((r.registered op.user).settle changed used)
  | closed {looked : Replay Desk} {handle : Handle} {account : Account} {changed : Bank} {used : Nat}
      (hkind : op.kind = .close) (hprepares : r.Prepares looked)
      (hhandle : looked.handles[addressOf op]? = some handle)
      (hclosed : (Plan.closeAccount op.user handle.account).run looked.stamp looked.teller.bank =
        (.ok account, changed)) :
      Achieves r op { looked.settle changed used with handles := looked.handles.erase (addressOf op) }

/-- The row does not do what it is about, and this is what it leaves. -/
def Misses (r : Replay Desk) (op : Operation) (after : Replay Desk) : Prop :=
  r.Prepares after ∨
    ∃ account opened used, r.Strands op account opened ∧
      after = (r.registered op.user).settle opened used

end Replay

namespace Replay.Opens

variable {account other : Account} {opened changed : Bank}

/-- What the call says that has opened the account. -/
theorem made (h : r.Opens op account opened) :
    ∃ currency opening, r.teller.rules.opening ⟨op.account, currency⟩ = .ok opening ∧
      account = .opened r.stamp.account account.owner opening.name opening.currency r.stamp.time ∧
        (r.registered op.user).teller.bank.Serves opened op.user (.createAccount account) := by
  obtain ⟨currency, -, hrun⟩ := h.called
  obtain ⟨opening, hmade⟩ := Plan.openAccount_ok_iff.1 hrun
  exact ⟨currency, opening, hmade⟩

theorem serves (h : r.Opens op account opened) :
    (r.registered op.user).teller.bank.Serves opened op.user (.createAccount account) := by
  obtain ⟨-, -, -, -, hserves⟩ := h.made
  exact hserves

theorem effect (h : r.Opens op account opened) :
    (Change.createAccount account).Effect r.teller.bank.ledger opened.ledger := by
  obtain ⟨-, -, -, heffect, -⟩ := h.serves
  exact heffect

/-- The account is of whoever asks. -/
theorem owner (h : r.Opens op account opened) :
    (r.registered op.user).teller.bank.registry.resolve op.user = .ok account.owner := by
  obtain ⟨owner, howner, hentitled, -, -⟩ := h.serves
  rw [howner, show account.owner = owner from hentitled]

/-- The account has the name that the row gives, and that is not empty. -/
theorem name_eq (h : r.Opens op account opened) :
    account.name = Text.trim op.account ∧ op.account ≠ "" := by
  obtain ⟨currency, opening, hopening, hrow, -⟩ := h.made
  obtain ⟨hsome, -, -, hname⟩ := Rules.opening_ok_iff.1 hopening
  refine ⟨by rw [hrow]; exact hname, fun hempty => ?_⟩
  rw [show (⟨op.account, currency⟩ : OpeningRequest).name = "" from hempty] at hsome
  exact absurd hsome (by decide)

/-- There is no money in it. -/
theorem balance_eq (h : r.Opens op account opened) : account.balance = .zero := by
  obtain ⟨currency, opening, -, hrow, -⟩ := h.made
  rw [hrow]
  rfl

/-- The cards are those of before. -/
theorem cards (h : r.Opens op account opened) :
    opened.ledger.cards = r.teller.bank.ledger.cards := by
  obtain ⟨-, hafter⟩ := h.effect
  rw [hafter]

/-- A row has one account opened at most. -/
theorem unique (h : r.Opens op account opened) (h' : r.Opens op other changed) :
    account = other ∧ opened = changed := by
  obtain ⟨currency, hcurrency, hrun⟩ := h.called
  obtain ⟨same, hsame, hrun'⟩ := h'.called
  obtain rfl := Option.some.inj (hcurrency.symm.trans hsame)
  obtain ⟨hvalue, hchanged⟩ := Prod.mk.inj (hrun.symm.trans hrun')
  exact ⟨Except.ok.inj hvalue, hchanged⟩

end Replay.Opens

namespace Task

open Replay

/-! ### Every row -/

/-- What is left of an opening once the account is there. -/
theorem achieves_issue {account : Account} {opened : Bank} (hopens : r.Opens op account opened) :
    Leads (· = (r.registered op.user).settle opened (r.teller.used + 1))
      (Replay.serve (fun _ => Plan.issueCard op.user account.id) >>= fun card =>
        Replay.keepHandle (addressOf op) ⟨account.id, card.number⟩)
      (fun _ => r.Achieves op) (r.Misses op) := by
  intro s hs
  obtain rfl := hs
  rcases hrun : (Plan.issueCard op.user account.id).run (r.teller.stamps (r.teller.used + 1)) opened with
    ⟨outcome, issued⟩
  have hserve := on_serve_of_run ((r.registered op.user).settle opened (r.teller.used + 1))
    (fun _ => Plan.issueCard op.user account.id) hrun
  cases outcome with
  | ok card =>
      rw [on_bind_of_ok hserve]
      exact .ok (.opened hopens hrun)
  | error failure =>
      rw [on_bind_of_error hserve]
      obtain rfl := (Plan.concludes_issueCard op.user account.id).bank_of_error hrun
      refine .error (Or.inr ⟨account, issued, _, ⟨hopens, ?_⟩, rfl⟩)
      -- With a number of its own the card would have been issued.
      by_contra hunused
      have hfree : issued.ledger.cards[(r.teller.stamps (r.teller.used + 1)).card]? = none := by
        rw [hopens.cards, Option.eq_none_iff_forall_ne_some]
        exact fun card hcard => hunused ⟨card, hcard⟩
      obtain ⟨card, after, hok⟩ := Plan.exists_issueCard_ok hopens.serves hfree
      cases hrun.symm.trans hok

theorem achieves_openAccount (hkind : op.kind = .opening)
    (hfresh : ∀ label, op.reference = some label → r.references[label]? = none) :
    Leads (· = r.registered op.user) (Replay.openAccount op) (fun _ => r.Achieves op) (r.Misses op) := by
  have hregister := Prepares.register r op.user
  rw [openAccount_eq]
  refine ((looks_lookup (r.registered op.user) (addressOf op)).mono (fun _ h => h) (fun _ _ h => h)
    fun s hs => Or.inl (hregister.trans hs)).bind ?_
  intro found
  cases found with
  | some handle => exact leads_refuse fun s hs => Or.inl (hregister.trans hs.1)
  | none =>
      refine (leads_demand (R := fun currency s => op.currency = some currency ∧
        r.Lacks (addressOf op) ∧ s = r.registered op.user) ?_ ?_).bind ?_
      · intro currency hcurrency s hs
        exact ⟨hcurrency, lacks_registered.1 hs.1, hs.2.trans (registered_registered r op.user)⟩
      · intro _ s hs
        exact Or.inl (hs.2 ▸ hregister.trans (.register _ op.user))
      intro currency
      refine Leads.bind (R := fun account s => ∃ opened, r.Opens op account opened ∧
        s = (r.registered op.user).settle opened (r.teller.used + 1)) ?_ ?_
      · refine leads_serve (fun rules => Plan.concludes_openAccount rules op.user _) ?_ ?_
        · intro s hs account opened hrun
          obtain ⟨hcurrency, hvacant, rfl⟩ := hs
          have hused := Desk.usedAfter_of_ok (Plan.draws_openAccount r.teller.rules op.user _) hrun
          refine ⟨opened, ⟨hkind, hfresh, hvacant, currency, hcurrency, hrun⟩, ?_⟩
          exact congrArg ((r.registered op.user).settle opened) hused
        · intro s hs
          obtain ⟨-, -, rfl⟩ := hs
          exact Or.inl (hregister.trans (.idle _ _))
      · intro account s hs
        obtain ⟨opened, hopens, rfl⟩ := hs
        exact achieves_issue hopens _ rfl

/-- Money is moved, or the call is refused. -/
theorem achieves_move {looked : Replay Desk} {request : MovementRequest}
    (hprepares : r.Prepares looked) (hasks : looked.Asks op request) :
    Leads (· = looked) (Replay.move op request) (fun _ => r.Achieves op) (r.Misses op) := by
  unfold Replay.move
  refine Leads.bind (R := fun tx s => r.Achieves op (s.refer op tx.id)) ?_ ?_
  · refine leads_serve (fun rules => Plan.concludes_move rules op.user request) ?_ ?_
    · intro s hs tx changed hrun
      obtain rfl := hs
      exact .moved hprepares hasks hrun
    · intro s hs
      obtain rfl := hs
      exact Or.inl (hprepares.trans (.idle s _))
  · intro tx
    simp only [Replay.refer]
    cases op.reference with
    | some label => exact leads_modify fun _ hs => hs
    | none => exact leads_pure fun _ hs => hs

theorem achieves_rollback (hkind : op.kind = .rollback) :
    Leads (· = r.registered op.user) (Replay.rollback op) (fun _ => r.Achieves op) (r.Misses op) := by
  have hregister := Prepares.register r op.user
  unfold Replay.rollback
  refine (leads_demand (R := fun label s => op.reference = some label ∧ s = r.registered op.user)
    (fun label hlabel s hs => ⟨hlabel, hs⟩) fun _ s hs => Or.inl (hs ▸ hregister)).bind ?_
  intro label
  refine leads_get_bind ?_
  intro s hs
  obtain ⟨hlabel, rfl⟩ := hs
  cases hbound : (r.registered op.user).references[label]? with
  | none => exact leads_refuse fun s hs => Or.inl (hs ▸ hregister)
  | some id =>
      refine Leads.bind (R := fun _ => r.Achieves op) ?_ fun _ => leads_pure fun _ h => h
      refine leads_serve (fun _ => Plan.concludes_reverse op.user ⟨id.toText⟩) ?_ ?_
      · intro s hs tx changed hrun
        obtain rfl := hs
        exact .reversed hkind hlabel hbound hrun
      · intro s hs
        obtain rfl := hs
        exact Or.inl (hregister.trans (.idle _ _))

theorem achieves_close {looked : Replay Desk} (hkind : op.kind = .close)
    (hprepares : r.Prepares looked) (hhandle : looked.handles[addressOf op]? = some handle) :
    Leads (· = looked)
      (Replay.serve (fun _ => Plan.closeAccount op.user handle.account) >>= fun _ =>
        Replay.dropHandle (addressOf op))
      (fun _ => r.Achieves op) (r.Misses op) := by
  refine Leads.bind (R := fun _ s => r.Achieves op { s with handles := s.handles.erase (addressOf op) })
    ?_ fun account => leads_modify fun _ h => h
  refine leads_serve (fun _ => Plan.concludes_closeAccount op.user handle.account) ?_ ?_
  · intro s hs account changed hrun
    obtain rfl := hs
    exact .closed hkind hprepares hhandle hrun
  · intro s hs
    obtain rfl := hs
    exact Or.inl (hprepares.trans (.idle s _))

/-- An account is looked up for a row, and something is done with it. -/
theorem achieves_require_bind {f : Handle → Task Desk Unit}
    (hf : ∀ handle looked, r.Prepares looked → looked.handles[addressOf op]? = some handle →
      Leads (· = looked) (f handle) (fun _ => r.Achieves op) (r.Misses op)) :
    Leads (· = r.registered op.user) (Replay.require (addressOf op) >>= f) (fun _ => r.Achieves op)
      (r.Misses op) := by
  have hregister := Prepares.register r op.user
  refine ((prepares_require (r.registered op.user) (addressOf op)).mono (fun _ h => h)
    (fun _ _ h => h) fun s hs => Or.inl (hregister.trans hs)).bind ?_
  intro handle
  refine leads_of_each fun s hs => ?_
  exact hf handle s (hregister.trans hs.1) hs.2

theorem achieves_amount_bind {looked : Replay Desk} {f : Decimal → Task Desk Unit}
    (hprepares : r.Prepares looked)
    (hf : ∀ value, op.amount = some value →
      Leads (· = looked) (f value) (fun _ => r.Achieves op) (r.Misses op)) :
    Leads (· = looked) (Replay.amountOf op >>= f) (fun _ => r.Achieves op) (r.Misses op) := by
  refine (leads_demand (R := fun value s => op.amount = some value ∧ s = looked)
    (fun value hvalue s hs => ⟨hvalue, hs⟩) fun _ s hs => Or.inl (hs ▸ hprepares)).bind ?_
  intro value s hs
  exact hf value hs.1 s hs.2

theorem achieves_transfer (hkind : op.kind = .transfer) :
    Leads (· = r.registered op.user) (Replay.transfer op) (fun _ => r.Achieves op) (r.Misses op) := by
  rw [transfer_eq]
  refine achieves_require_bind fun source looked hprepares hsource => ?_
  refine Leads.bind (R := fun address s => s = looked ∧
    ∃ raw, op.counterparty = some raw ∧ Address.parse raw = .ok address) ?_ ?_
  · refine (leads_demand (R := fun raw s => op.counterparty = some raw ∧ s = looked)
      (fun raw hraw s hs => ⟨hraw, hs⟩) fun _ s hs => Or.inl (hs ▸ hprepares)).bind ?_
    intro raw
    exact leads_liftExcept (fun address haddress s hs => ⟨hs.2, raw, hs.1, haddress⟩)
      fun _ s hs => Or.inl (hs.2 ▸ hprepares)
  intro address s hs
  obtain ⟨rfl, raw, hraw, haddress⟩ := hs
  refine ((prepares_require s address).mono (fun _ h => h) (fun _ _ h => h)
    fun t ht => Or.inl (hprepares.trans ht)).bind ?_ s rfl
  intro destination t ht
  have hall : r.Prepares t := hprepares.trans ht.1
  refine achieves_amount_bind hall (fun value hvalue => ?_) t rfl
  exact achieves_move hall
    (.transfer hkind hvalue hraw haddress (ht.1.handles _ _ hsource) ht.2)

/-- A row is refused if its reference stands for a movement, unless it is a rollback. -/
theorem on_ensureFresh (op : Operation) (r : Replay Desk) :
    on (Replay.ensureFresh op) r =
      (match op.reference with
        | some label =>
          if op.kind ≠ .rollback ∧ r.references.contains label = true then
            .error (.alreadyExists (.reference label))
          else .ok ()
        | none => .ok (), r) := by
  unfold Replay.ensureFresh
  cases op.reference with
  | none => rfl
  | some label =>
      rw [on_bind_of_ok (on_get r)]
      by_cases hbound : op.kind ≠ .rollback ∧ r.references.contains label = true
      · simp only [if_pos hbound]
        rfl
      · simp only [if_neg hbound]
        rfl

theorem on_ensureFresh_of_none (r : Replay Desk) (h : op.reference = none) :
    on (Replay.ensureFresh op) r = (.ok (), r) := by
  rw [on_ensureFresh, h]

/-- A row that is not a rollback has no reference that is in use, or is refused. -/
theorem leads_ensureFresh_registered (r : Replay Desk) (op : Operation) :
    Leads (· = r.registered op.user) (Replay.ensureFresh op)
      (fun _ s => s = r.registered op.user ∧
        (op.kind ≠ .rollback → ∀ label, op.reference = some label → r.references[label]? = none))
      (· = r.registered op.user) := by
  intro s hs
  obtain rfl := hs
  rw [on_ensureFresh]
  cases op.reference with
  | none => exact .ok ⟨rfl, nofun⟩
  | some label =>
      by_cases hbound : op.kind ≠ .rollback ∧ (r.registered op.user).references.contains label = true
      · simp only [if_pos hbound]
        exact .error rfl
      · simp only [if_neg hbound]
        refine .ok ⟨rfl, fun hkind same hsame => ?_⟩
        obtain rfl := Option.some.inj hsame
        by_contra hsome
        refine hbound ⟨hkind, ?_⟩
        rw [Std.ExtTreeMap.contains_eq_isSome_getElem?]
        exact Option.isSome_iff_ne_none.2 hsome

/--
**What becomes of a row.**  It achieves what it is about; or it has done nothing but prepare, or
has left an account stranded.
-/
theorem achieves_apply (r : Replay Desk) (op : Operation) :
    Leads (· = r) (Replay.apply op) (fun _ => r.Achieves op) (r.Misses op) := by
  intro s hs
  obtain rfl := hs
  unfold Replay.apply
  rw [on_bind_of_ok (on_register op.user s)]
  refine ((leads_ensureFresh_registered s op).mono (fun _ h => h) (fun _ _ h => h)
    fun t ht => Or.inl (ht ▸ .register s op.user)).bind ?_ _ rfl
  intro _ t ht
  obtain ⟨rfl, hfresh⟩ := ht
  cases hkind : op.kind with
  | opening => exact achieves_openAccount hkind (hfresh (hkind ▸ nofun)) _ rfl
  | deposit =>
      refine achieves_require_bind (fun handle looked hprepares hhandle => ?_) _ rfl
      exact achieves_amount_bind hprepares fun value hvalue =>
        achieves_move hprepares (.deposit hkind hvalue hhandle)
  | withdrawal =>
      refine achieves_require_bind (fun handle looked hprepares hhandle => ?_) _ rfl
      exact achieves_amount_bind hprepares fun value hvalue =>
        achieves_move hprepares (.withdrawal hkind hvalue hhandle)
  | transfer => exact achieves_transfer hkind _ rfl
  | rollback => exact achieves_rollback hkind _ rfl
  | close =>
      exact achieves_require_bind (fun handle looked hprepares hhandle =>
        achieves_close hkind hprepares hhandle) _ rfl

end Task

end Cashbook
