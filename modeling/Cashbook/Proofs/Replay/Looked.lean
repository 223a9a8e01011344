/-
What is done on the way.

On the way to the call that a row is about, accounts are looked up.  The most that this does is
to make callers known, to remember accounts and to issue cards; a call that is refused does
nothing.  `Prepares` collects what all of this leaves as it was: the money and the journal,
every card, every account that is remembered, and what references stand for.
-/
import Cashbook.Proofs.Ledger.Evolution
import Cashbook.Proofs.Replay.Kept

namespace Cashbook

variable {α : Type} {r s t : Replay Desk} {address : Address} {handle : Handle} {id : AccountId}
  {identity : String} {card : Card} {changed : Bank}

namespace Replay

/-! ### What may be done on the way -/

/-- On the way from the one replay to the other nothing was done that a row is about. -/
structure Prepares (r s : Replay Desk) : Prop where
  evolves : r.teller.bank.ledger.Evolves s.teller.bank.ledger
  accounts : s.teller.bank.ledger.accounts = r.teller.bank.ledger.accounts
  transactions : s.teller.bank.ledger.transactions = r.teller.bank.ledger.transactions
  cards : ∀ (number : CardNumber) (card : Card), r.teller.bank.ledger.cards[number]? = some card →
    s.teller.bank.ledger.cards[number]? = some card
  handles : ∀ (address : Address) (handle : Handle), r.handles[address]? = some handle →
    s.handles[address]? = some handle
  references : s.references = r.references

namespace Prepares

/-- Where the ledger, the accounts that are remembered and the references are the same. -/
theorem of_eq (hledger : s.teller.bank.ledger = r.teller.bank.ledger)
    (hhandles : s.handles = r.handles) (hreferences : s.references = r.references) :
    r.Prepares s where
  evolves := hledger ▸ .refl _
  accounts := congrArg Ledger.accounts hledger
  transactions := congrArg Ledger.transactions hledger
  cards _ _ h := hledger ▸ h
  handles _ _ h := hhandles ▸ h
  references := hreferences

theorem refl (r : Replay Desk) : r.Prepares r := of_eq rfl rfl rfl

theorem trans (h : r.Prepares s) (h' : s.Prepares t) : r.Prepares t where
  evolves := h.evolves.trans h'.evolves
  accounts := h'.accounts.trans h.accounts
  transactions := h'.transactions.trans h.transactions
  cards number card hcard := h'.cards number card (h.cards number card hcard)
  handles address handle hhandle := h'.handles address handle (h.handles address handle hhandle)
  references := h'.references.trans h.references

/-- Someone is made known. -/
theorem register (r : Replay Desk) (user : String) : r.Prepares (r.registered user) :=
  of_eq rfl rfl rfl

/-- A call is refused. -/
theorem idle (r : Replay Desk) (used : Nat) : r.Prepares (r.settle r.teller.bank used) :=
  of_eq rfl rfl rfl

/-- A card is issued. -/
theorem issue (hserves : r.teller.bank.Serves changed identity (.createCard card)) (used : Nat) :
    r.Prepares (r.settle changed used) := by
  obtain ⟨-, -, -, heffect, -⟩ := hserves
  obtain ⟨-, hfree, hafter⟩ := id heffect
  refine ⟨.one heffect, ?_, ?_, ?_, fun _ _ h => h, rfl⟩
  · show changed.ledger.accounts = _
    rw [hafter]
  · show changed.ledger.transactions = _
    rw [hafter]
  · intro number old hold
    have hne : card.number ≠ number := by
      rintro rfl
      rw [hfree] at hold
      cases hold
    show changed.ledger.cards[number]? = some old
    rw [hafter, ← hold]
    exact Table.getElem?_insert_of_ne _ _ hne

/-- An account is remembered that was not. -/
theorem remember (hnone : r.handles[address]? = none) (handle : Handle) :
    r.Prepares { r with handles := r.handles.insert address handle } where
  evolves := .refl _
  accounts := rfl
  transactions := rfl
  cards _ _ h := h
  handles other found hfound := by
    have hne : address ≠ other := by
      rintro rfl
      rw [hnone] at hfound
      cases hfound
    exact (Table.getElem?_insert_of_ne _ _ hne).trans hfound
  references := rfl

end Prepares

/-- Registering someone twice is registering them once. -/
theorem registered_registered (r : Replay Desk) (user : String) :
    (r.registered user).registered user = r.registered user := by
  obtain ⟨owner, howner⟩ := r.teller.bank.registry.exists_register_self user
  show { r with teller := { r.teller with
    bank := { r.teller.bank with
      registry := ((r.teller.bank.registry.register user).2.register user).2 } } } = _
  rw [Registry.register_known howner]
  rfl

/-! ### Looking accounts up -/

/-- No account at this address is remembered, and its user has none of this name. -/
def Lacks (r : Replay Desk) (address : Address) : Prop :=
  r.handles[address]? = none ∧
    ∀ owner, (r.registered address.user).teller.bank.registry.resolve address.user = .ok owner →
      r.teller.bank.ledger.NameFree owner address.account

theorem lacks_registered : (r.registered address.user).Lacks address ↔ r.Lacks address := by
  rw [Lacks, Lacks, registered_registered]
  rfl

/-- What looking an address up may come to, and what is remembered then. -/
def Looked (r : Replay Desk) (address : Address) : Option Handle → Replay Desk → Prop
  | some handle, s => r.Prepares s ∧ s.handles[address]? = some handle
  | none, s => r.Lacks address ∧ s = r.registered address.user

end Replay

namespace Task

open Replay

/-- What is known of a task from every single replay is known of it from all of them. -/
theorem leads_of_each {P E : Replay Desk → Prop} {t : Task Desk α} {R : α → Replay Desk → Prop}
    (h : ∀ r, P r → Leads (· = r) t R E) : Leads P t R E :=
  fun r hr => h r hr r rfl

theorem on_serve_of_run (r : Replay Desk) (plan : Rules → Plan α) {outcome : Outcome α}
    (hrun : (plan r.teller.rules).run r.stamp r.teller.bank = (outcome, changed)) :
    on (Replay.serve plan) r = (outcome, r.settle changed (r.teller.usedAfter (plan r.teller.rules))) := by
  rw [on_serve_desk, hrun]

/-- A call that only looks. -/
theorem looks_serve {plan : Rules → Plan α} (hplan : ∀ rules, (plan rules).OnlyLooks)
    (r : Replay Desk) :
    Leads (· = r) (Replay.serve plan)
      (fun value s => s = r ∧ (plan r.teller.rules).run r.stamp r.teller.bank = (.ok value, r.teller.bank))
      (· = r) := by
  intro s hs
  obtain rfl := hs
  rw [on_serve_of_onlyLooks hplan]
  have hbank := (hplan s.teller.rules).bank_eq s.stamp s.teller.bank
  rcases hrun : (plan s.teller.rules).run s.stamp s.teller.bank with ⟨outcome, after⟩
  rw [hrun] at hbank
  obtain rfl : after = s.teller.bank := hbank
  cases outcome with
  | ok value => exact .ok ⟨rfl, rfl⟩
  | error failure => exact .error rfl

theorem prepares_cardOf (r : Replay Desk) (user : String) (id : AccountId) :
    Leads (· = r) (Replay.cardOf user id) (fun _ s => r.Prepares s ∧ s.handles = r.handles)
      (r.Prepares ·) := by
  unfold Replay.cardOf
  refine ((looks_serve (fun _ => Plan.onlyLooks_cards user id) r).mono (fun _ h => h)
    (fun _ _ h => h) fun s hs => hs ▸ .refl r).bind ?_
  intro cards
  cases cards.head? with
  | some card =>
      refine leads_pure fun s hs => ?_
      obtain ⟨rfl, -⟩ := hs
      exact ⟨.refl s, rfl⟩
  | none =>
      refine leads_serve (fun _ => Plan.concludes_issueCard user id) ?_ ?_
      · intro s hs card changed hrun
        obtain ⟨rfl, -⟩ := hs
        obtain ⟨-, hserves⟩ := Plan.issueCard_ok_iff.1 hrun
        exact ⟨.issue hserves _, rfl⟩
      · intro s hs
        obtain ⟨rfl, -⟩ := hs
        exact .idle s _

theorem looks_find (hnone : r.handles[address]? = none) :
    Leads (· = r) (Replay.find address) (fun found s => r.Looked address found s) (r.Prepares ·) := by
  intro s hs
  obtain rfl := hs
  unfold Replay.find
  rw [on_bind_of_ok (on_register address.user s)]
  refine ((looks_serve (fun _ => Plan.onlyLooks_accounts address.user) (s.registered address.user)).mono
    (fun _ h => h) (fun _ _ h => h) fun t ht => ht ▸ .register s address.user).bind ?_ _ rfl
  intro accounts t ht
  obtain ⟨rfl, hrun⟩ := ht
  obtain ⟨owner, howner, haccounts⟩ := (Plan.run_read_bind_ok_iff rfl).1 hrun
  obtain rfl : (s.registered address.user).teller.bank.ledger.accountsOf owner = accounts :=
    Except.ok.inj (Prod.mk.inj haccounts).1
  cases hfind : ((s.registered address.user).teller.bank.ledger.accountsOf owner).find?
      (fun account => account.name == address.account) with
  | none =>
      refine .ok ⟨⟨hnone, ?_⟩, rfl⟩
      intro same hsame
      obtain rfl := Except.ok.inj (howner.symm.trans hsame)
      exact Ledger.nameFree_of_find? hfind
  | some account =>
      refine ((prepares_cardOf (s.registered address.user) address.user account.id).mono (fun _ h => h)
        (fun _ _ h => h) fun t ht => (Prepares.register s address.user).trans ht).bind ?_ _ rfl
      intro card t ht
      have hstill : t.handles[address]? = none := by rw [ht.2]; exact hnone
      refine .ok ⟨((Prepares.register s address.user).trans ht.1).trans (.remember hstill _), ?_⟩
      exact Std.ExtTreeMap.getElem?_insert_self

theorem looks_lookup (r : Replay Desk) (address : Address) :
    Leads (· = r) (Replay.lookup address) (fun found s => r.Looked address found s) (r.Prepares ·) := by
  refine leads_get_bind fun s hs => ?_
  obtain rfl := hs
  cases hremembered : s.handles[address]? with
  | some handle =>
      refine leads_pure fun t ht => ?_
      obtain rfl := ht
      exact ⟨.refl t, hremembered⟩
  | none => exact looks_find hremembered

theorem prepares_require (r : Replay Desk) (address : Address) :
    Leads (· = r) (Replay.require address)
      (fun handle s => r.Prepares s ∧ s.handles[address]? = some handle) (r.Prepares ·) := by
  refine (looks_lookup r address).bind ?_
  intro found
  cases found with
  | some handle => exact leads_pure fun _ h => h
  | none => exact leads_refuse fun s hs => hs.2 ▸ .register r address.user

end Task

end Cashbook
