/-
Every row keeps a replay sound.

Looking an account up is the only task that has much to it.  Where the account at the
address has a card, the account and the card are found, whether or not they are remembered.
Where there is no account, none is found.  An account without a card, which is what an
opening leaves that got no further, is given one.
-/
import Cashbook.Proofs.Replay.Sound
import Cashbook.Proofs.Rules

namespace Cashbook

/-! ### What a desk carries out -/

/-- How many stamps have been used once a plan has been carried out. -/
def Desk.usedAfter {α : Type} (plan : Plan α) (desk : Desk) : Nat :=
  if plan.spends (desk.stamps desk.used) desk.bank then desk.used + 1 else desk.used

namespace Replay

/-- The stamp of the next call. -/
def stamp (r : Replay Desk) : Stamp := r.teller.stamps r.teller.used

end Replay

variable {α : Type} {users : List String} {r : Replay Desk} {user : String} {address : Address}
  {handle : Handle} {id : AccountId} {plan : Rules → Plan α} {P E : Replay Desk → Prop}
  {R : α → Replay Desk → Prop}

namespace Task

open Replay

theorem on_register (user : String) (r : Replay Desk) :
    on (Replay.register user) r = (.ok (), r.registered user) := rfl

theorem on_serve_desk (plan : Rules → Plan α) (r : Replay Desk) :
    on (Replay.serve plan) r =
      (((plan r.teller.rules).run r.stamp r.teller.bank).1,
        r.settle ((plan r.teller.rules).run r.stamp r.teller.bank).2
          (r.teller.usedAfter (plan r.teller.rules))) := on_serve plan r

/-- A call that ends with its change leads to where the change leads, or leaves the bank as it is. -/
theorem leads_serve {wrap : α → Reply} (hplan : ∀ rules, (plan rules).Concludes wrap)
    (hok : ∀ r, P r → ∀ value changed,
      (plan r.teller.rules).run r.stamp r.teller.bank = (.ok value, changed) →
        R value (r.settle changed (r.teller.usedAfter (plan r.teller.rules))))
    (herror : ∀ r, P r → E (r.settle r.teller.bank (r.teller.usedAfter (plan r.teller.rules)))) :
    Leads P (Replay.serve plan) R E := by
  intro r hr
  rw [on_serve_desk]
  rcases hrun : (plan r.teller.rules).run r.stamp r.teller.bank with ⟨outcome, changed⟩
  cases outcome with
  | ok value => exact .ok (hok r hr value changed hrun)
  | error failure =>
      obtain rfl := (hplan r.teller.rules).bank_of_error hrun
      exact .error (herror r hr)

/-- A call that only looks leaves everything as it is. -/
theorem on_serve_of_onlyLooks (hplan : ∀ rules, (plan rules).OnlyLooks) (r : Replay Desk) :
    on (Replay.serve plan) r = (((plan r.teller.rules).run r.stamp r.teller.bank).1, r) := by
  rw [on_serve_desk, Desk.usedAfter, (hplan r.teller.rules).spends_eq,
    (hplan r.teller.rules).bank_eq]
  rfl

theorem on_accounts (hknows : r.teller.bank.Knows user) :
    on (Replay.serve fun _ => Plan.accounts user) r =
      (.ok (r.teller.bank.ledger.accountsOf (ownerOf user)), r) := by
  have hrun : (Plan.accounts user).run r.stamp r.teller.bank =
      (.ok (r.teller.bank.ledger.accountsOf (ownerOf user)), r.teller.bank) :=
    (Plan.run_read_bind_ok_iff rfl).2 ⟨ownerOf user, Registry.resolve_ok_iff.2 hknows, rfl⟩
  rw [on_serve_of_onlyLooks (fun _ => Plan.onlyLooks_accounts user), hrun]

theorem on_cards (hnames : address.Names r.teller.bank id) :
    on (Replay.serve fun _ => Plan.cards address.user id) r =
      (.ok (r.teller.bank.ledger.cardsByAge id), r) := by
  obtain ⟨row, hrow, howner, -⟩ := hnames.account
  have hrun : (Plan.cards address.user id).run r.stamp r.teller.bank =
      (.ok (r.teller.bank.ledger.cardsByAge id), r.teller.bank) :=
    Plan.run_ownedAccount_bind_ok_iff.2
      ⟨_, row, Registry.resolve_ok_iff.2 hnames.knows, hrow, howner, rfl⟩
  rw [on_serve_of_onlyLooks (fun _ => Plan.onlyLooks_cards address.user id), hrun]

theorem leads_register (huser : user ∈ users) :
    Leads (·.Sound users) (Replay.register user) (fun _ r => r.Sound users) (·.Sound users) :=
  leads_modify fun _ hr => hr.register huser

/-! ### Looking an account up -/

theorem registered_known (hknows : r.teller.bank.Knows user) : r.registered user = r := by
  show { r with teller := { r.teller with
    bank := { r.teller.bank with registry := (r.teller.bank.registry.register user).2 } } } = r
  rw [Registry.register_known hknows]

/-- Where there is no account, none is found. -/
theorem on_find_of_isFree (hsound : r.Sound users) (huser : address.user ∈ users)
    (hfree : address.IsFree r.teller.bank) :
    on (Replay.find address) r = (.ok none, r.registered address.user) := by
  have hknows : (r.registered address.user).teller.bank.Knows address.user :=
    hsound.bank.knows_register huser
  unfold Replay.find
  rw [on_bind_of_ok (on_register address.user r), on_bind_of_ok (on_accounts hknows)]
  cases hfind : ((r.registered address.user).teller.bank.ledger.accountsOf
      (ownerOf address.user)).find? (fun account => account.name == address.account) with
  | none => rfl
  | some row =>
      obtain ⟨hrow, howner, hname⟩ := hsound.bank.tidy.toInOrder.of_find? hfind
      exact absurd hname (hfree row.id row hrow howner)

/-- Where there is an account with a card, both are found, and remembered. -/
theorem on_find_of_leadsTo (hsound : r.Sound users) (hleads : address.LeadsTo r.teller.bank handle) :
    on (Replay.find address) r =
      (.ok (some handle), { r with handles := r.handles.insert address handle }) := by
  obtain ⟨row, hrow, howner, hname⟩ := hleads.account
  obtain ⟨card, hcard, haccount⟩ := hleads.card
  have hfind : (r.teller.bank.ledger.accountsOf (ownerOf address.user)).find?
      (fun account => account.name == address.account) = some row := by
    rw [← howner, ← hname]
    exact hsound.bank.tidy.find? hrow
  have hid : row.id = handle.account := hsound.bank.tidy.accountsFiled _ _ hrow
  have hnumber : card.number = handle.card := hsound.bank.tidy.cardsFiled _ _ hcard
  have hhead : (r.teller.bank.ledger.cardsByAge row.id).head? = some card := by
    rw [hid, ← haccount]
    exact hsound.bank.tidy.head? hcard
  have hnames : address.Names r.teller.bank row.id := hid ▸ hleads.toNames
  have hcardOf : on (Replay.cardOf address.user row.id) r = (.ok card, r) := by
    unfold Replay.cardOf
    rw [on_bind_of_ok (on_cards hnames)]
    simp only [hhead]
    rfl
  unfold Replay.find
  rw [on_bind_of_ok (on_register address.user r), registered_known hleads.knows,
    on_bind_of_ok (on_accounts hleads.knows)]
  simp only [hfind]
  rw [on_bind_of_ok hcardOf, hid, hnumber]
  rfl

/-- A card is issued to an account at an address that has none. -/
theorem leads_issueCard (users : List String) (address : Address) (id : AccountId) :
    Leads (fun r => r.Sound users ∧ address.Names r.teller.bank id ∧ r.teller.bank.ledger.Cardless id)
      (Replay.serve fun _ => Plan.issueCard address.user id)
      (fun card r => r.Sound users ∧ address.LeadsTo r.teller.bank ⟨id, card.number⟩)
      (·.Sound users) := by
  refine leads_serve (fun _ => Plan.concludes_issueCard address.user id) ?_ fun r hr =>
    hr.1.settle_same _
  intro r hr card changed hrun
  obtain ⟨hsound, hnames, hcardless⟩ := hr
  obtain ⟨rfl, hserves⟩ := Plan.issueCard_ok_iff.1 hrun
  refine ⟨hsound.serve hserves hcardless nofun nofun _, hnames.serve hserves nofun, ?_⟩
  obtain ⟨-, -, -, ⟨-, -, hafter⟩, -⟩ := hserves
  show ∃ card, changed.ledger.cards[_]? = some card ∧ _
  rw [hafter]
  exact ⟨_, Std.ExtTreeMap.getElem?_insert_self, rfl⟩

theorem leads_cardOf (users : List String) (address : Address) (id : AccountId) :
    Leads (fun r => r.Sound users ∧ address.Names r.teller.bank id) (Replay.cardOf address.user id)
      (fun card r => r.Sound users ∧ address.LeadsTo r.teller.bank ⟨id, card.number⟩)
      (·.Sound users) := by
  intro r hr
  obtain ⟨hsound, hnames⟩ := hr
  unfold Replay.cardOf
  rw [on_bind_of_ok (on_cards hnames)]
  cases hhead : (r.teller.bank.ledger.cardsByAge id).head? with
  | some card =>
      obtain ⟨hcard, haccount⟩ := hsound.bank.tidy.cardsFiled.of_head? hhead
      exact .ok ⟨hsound, hnames, card, hcard, haccount⟩
  | none =>
      have hcardless := hsound.bank.tidy.cardsFiled.cardless_of_head? hhead
      exact leads_issueCard users address id r ⟨hsound, hnames, hcardless⟩

end Task

/-- What looking an address up may find. -/
def Address.Finds (bank : Bank) (address : Address) : Option Handle → Prop
  | some handle => address.LeadsTo bank handle
  | none => bank.Knows address.user ∧ address.IsFree bank

namespace Task

open Replay

theorem leads_find (huser : address.user ∈ users) :
    Leads (·.Sound users) (Replay.find address)
      (fun found r => r.Sound users ∧ address.Finds r.teller.bank found) (·.Sound users) := by
  intro r hsound
  have hregister : (r.registered address.user).Sound users := hsound.register huser
  have hknows : (r.registered address.user).teller.bank.Knows address.user :=
    hsound.bank.knows_register huser
  unfold Replay.find
  rw [on_bind_of_ok (on_register address.user r), on_bind_of_ok (on_accounts hknows)]
  cases hfind : ((r.registered address.user).teller.bank.ledger.accountsOf
      (ownerOf address.user)).find? (fun account => account.name == address.account) with
  | none => exact .ok ⟨hregister, hknows, Ledger.nameFree_of_find? hfind⟩
  | some row =>
      obtain ⟨hrow, howner, hname⟩ := hregister.bank.tidy.toInOrder.of_find? hfind
      refine (leads_cardOf users address row.id).bind (fun card => ?_) (r.registered address.user)
        ⟨hregister, hknows, row, hrow, howner, hname⟩
      intro after hafter
      exact .ok ⟨hafter.1.keepHandle hafter.2, hafter.2⟩

theorem leads_lookup (huser : address.user ∈ users) :
    Leads (·.Sound users) (Replay.lookup address)
      (fun found r => r.Sound users ∧ address.Finds r.teller.bank found) (·.Sound users) := by
  refine leads_get_bind fun r hsound => ?_
  cases hremembered : r.handles[address]? with
  | some handle =>
      refine leads_pure fun s hs => ?_
      obtain rfl := hs
      exact ⟨hsound, hsound.remembered address handle hremembered⟩
  | none =>
      refine (leads_find huser).mono (fun s hs => ?_) (fun _ _ h => h) fun _ h => h
      obtain rfl := hs
      exact hsound

theorem leads_require (huser : address.user ∈ users) :
    Leads (·.Sound users) (Replay.require address)
      (fun handle r => r.Sound users ∧ address.LeadsTo r.teller.bank handle) (·.Sound users) := by
  refine (leads_lookup huser).bind ?_
  intro found
  cases found with
  | some handle => exact leads_pure fun _ h => h
  | none => exact leads_refuse fun _ h => h.1

end Task

/-! ### Rows -/

/-- The name of the account has no white space around it. -/
def Operation.IsTrimmed (op : Operation) : Prop := Text.trim op.account = op.account

/-- The callers whose accounts an operation may look up. -/
def Operation.mentions (op : Operation) : List String :=
  match op.counterparty.bind Address.ofText? with
  | some address => [op.user, address.user]
  | none => [op.user]

theorem Operation.user_mem_mentions (op : Operation) : op.user ∈ op.mentions := by
  unfold mentions
  split
  · exact List.mem_cons_self
  · exact List.mem_singleton_self _

theorem Operation.counterparty_mem_mentions {op : Operation} {raw : String}
    (hraw : op.counterparty = some raw) (haddress : Address.parse raw = .ok address) :
    address.user ∈ op.mentions := by
  have hsome : Address.ofText? raw = some address := by
    unfold Address.parse at haddress
    cases hof : Address.ofText? raw with
    | some found =>
        rw [hof] at haddress
        exact congrArg some (Except.ok.inj haddress)
    | none =>
        rw [hof] at haddress
        cases haddress
  rw [mentions, hraw, Option.bind_some, hsome]
  exact List.mem_cons_of_mem _ (List.mem_singleton_self _)

namespace Replay

/-- What is left of an opening once it is known that there is no such account. -/
def opening (op : Operation) : Task Desk Unit := do
  let currency ← demand op.currency .currencyRequired
  let account ← serve fun rules => Plan.openAccount rules op.user ⟨op.account, currency⟩
  let card ← serve fun _ => Plan.issueCard op.user account.id
  keepHandle (addressOf op) ⟨account.id, card.number⟩

theorem openAccount_eq (op : Operation) :
    (openAccount op : Task Desk Unit) = lookup (addressOf op) >>= fun found =>
      if found.isSome then refuse (.alreadyExists (.address op.user op.account)) else opening op := by
  rfl

/-- The other side of a transfer. -/
def counterpartyOf (op : Operation) : Task Desk Address := do
  let raw ← demand op.counterparty .counterpartyRequired
  liftExcept (Address.parse raw)

theorem transfer_eq (op : Operation) :
    (transfer op : Task Desk Unit) = require (addressOf op) >>= fun source =>
      counterpartyOf op >>= fun address => require address >>= fun destination =>
        amountOf op >>= fun amount => move op (.transfer amount source.card destination.card) := by
  unfold transfer counterpartyOf
  cases op.counterparty with
  | some raw => rfl
  | none => rfl

end Replay

namespace Task

open Replay

variable {op : Operation}

/-- The account that is opened is the one at the address, and has no card yet. -/
theorem leads_openAccount_call (htrim : op.IsTrimmed) (currency : String) :
    Leads (fun r => r.Sound users ∧ (addressOf op).Finds r.teller.bank none)
      (Replay.serve fun rules => Plan.openAccount rules op.user ⟨op.account, currency⟩)
      (fun row r => r.Sound users ∧ (addressOf op).Names r.teller.bank row.id ∧
        r.teller.bank.ledger.Cardless row.id)
      (·.Sound users) := by
  refine leads_serve (fun rules => Plan.concludes_openAccount rules op.user _) ?_ fun r hr =>
    hr.1.settle_same _
  intro r hr row changed hrun
  obtain ⟨hsound, hknows, hfree⟩ := hr
  obtain ⟨opening, hopening, hrow, hserves⟩ := Plan.openAccount_ok_iff.1 hrun
  have hname : row.name = op.account := by
    rw [hrow]
    exact (Rules.opening_ok_iff.1 hopening).2.2.2.trans htrim
  obtain ⟨owner, howner, hentitled, ⟨hnew, hafter⟩, hregistry⟩ := id hserves
  obtain ⟨rfl, -⟩ := hsound.bank.knows howner
  have howner' : row.owner = ownerOf op.user := hentitled
  have htidies : (Change.createAccount row).Tidies r.teller.bank.ledger := by
    show r.teller.bank.ledger.NameFree row.owner row.name
    rw [howner', hname]
    exact hfree
  refine ⟨hsound.serve hserves htidies nofun nofun _, ⟨?_, row, ?_, howner', hname⟩, ?_⟩
  · show changed.registry.owners[op.user]? = _
    rw [hregistry]
    exact hknows
  · show changed.ledger.accounts[row.id]? = _
    rw [hafter]
    exact Std.ExtTreeMap.getElem?_insert_self
  · -- Cards lead to accounts that are there, and this one was not.
    show changed.ledger.Cardless row.id
    rw [hafter]
    intro number card hcard haccount
    obtain ⟨old, hold⟩ := hsound.bank.tidy.cardsLead number card hcard
    rw [haccount, hnew] at hold
    cases hold

theorem leads_opening (htrim : op.IsTrimmed) :
    Leads (fun r => r.Sound users ∧ (addressOf op).Finds r.teller.bank none) (Replay.opening op)
      (fun _ r => r.Sound users) (·.Sound users) := by
  unfold Replay.opening
  refine (leads_demand (R := fun _ r => r.Sound users ∧ (addressOf op).Finds r.teller.bank none)
    (fun _ _ _ h => h) fun _ _ h => h.1).bind ?_
  intro currency
  refine (leads_openAccount_call htrim currency).bind ?_
  intro row
  refine (leads_issueCard users (addressOf op) row.id).bind ?_
  intro card
  exact leads_modify fun r hr => hr.1.keepHandle hr.2

theorem leads_openAccount (htrim : op.IsTrimmed) (huser : op.user ∈ users) :
    Leads (·.Sound users) (Replay.openAccount op) (fun _ r => r.Sound users) (·.Sound users) := by
  have haddress : (addressOf op).user ∈ users := huser
  rw [openAccount_eq]
  refine (leads_lookup haddress).bind ?_
  intro found
  cases found with
  | some handle => exact leads_refuse fun _ h => h.1
  | none => exact leads_opening htrim

/-- Money that is moved leaves everything where it was. -/
theorem leads_move (op : Operation) (request : MovementRequest) :
    Leads (·.Sound users) (Replay.move op request) (fun _ r => r.Sound users) (·.Sound users) := by
  unfold Replay.move
  refine Leads.bind (R := fun _ r => r.Sound users) ?_ ?_
  · refine leads_serve (fun rules => Plan.concludes_move rules op.user request) ?_ fun r hr =>
      hr.settle_same _
    intro r hr tx changed hrun
    obtain ⟨movement, account, -, -, -, -, hserves⟩ :=
      (Plan.move_ok_iff hr.bank.tidy.toInOrder).1 hrun
    exact hr.serve hserves trivial nofun nofun _
  · intro tx
    cases op.reference with
    | some label => exact leads_modify fun r hr => ⟨hr.bank, hr.remembered⟩
    | none => exact leads_pure fun _ hr => hr

theorem leads_counterpartyOf (hmentions : op.mentions ⊆ users) :
    Leads (·.Sound users) (Replay.counterpartyOf op)
      (fun address r => r.Sound users ∧ address.user ∈ users) (·.Sound users) := by
  refine (leads_demand (R := fun raw r => r.Sound users ∧ op.counterparty = some raw)
    (fun raw hraw _ hr => ⟨hr, hraw⟩) fun _ _ hr => hr).bind ?_
  intro raw
  refine leads_liftExcept (fun address haddress r hr => ⟨hr.1, ?_⟩) fun _ _ hr => hr.1
  exact hmentions (Operation.counterparty_mem_mentions hr.2 haddress)

theorem leads_amountOf (op : Operation) (P : Replay Desk → Prop) :
    Leads P (Replay.amountOf op) (fun _ r => P r) P :=
  leads_demand (fun _ _ _ h => h) fun _ _ h => h

theorem leads_transfer (hmentions : op.mentions ⊆ users) :
    Leads (·.Sound users) (Replay.transfer op) (fun _ r => r.Sound users) (·.Sound users) := by
  have huser : (addressOf op).user ∈ users := hmentions op.user_mem_mentions
  rw [transfer_eq]
  refine (leads_require huser).bind ?_
  intro source
  refine ((leads_counterpartyOf hmentions).mono (fun _ h => h.1) (fun _ _ h => h) fun _ h => h).bind ?_
  intro address r hr
  refine ((leads_require hr.2).mono (fun _ h => h) (fun _ _ h => h.1) fun _ h => h).bind ?_ r hr.1
  intro destination
  exact (leads_amountOf op _).bind fun amount => leads_move op _

theorem leads_reverse (user : String) (request : ReversalRequest) :
    Leads (·.Sound users) (Replay.serve fun _ => Plan.reverse user request)
      (fun _ r => r.Sound users) (·.Sound users) := by
  refine leads_serve (fun _ => Plan.concludes_reverse user request) ?_ fun r hr => hr.settle_same _
  intro r hr tx changed hrun
  obtain ⟨key, -, hserves⟩ := Plan.reverse_ok_iff.1 ⟨tx, hrun⟩
  exact hr.serve hserves trivial nofun nofun _

theorem leads_rollback (op : Operation) :
    Leads (·.Sound users) (Replay.rollback op) (fun _ r => r.Sound users) (·.Sound users) := by
  unfold Replay.rollback
  refine (leads_demand (R := fun _ r => r.Sound users) (fun _ _ _ h => h) fun _ _ h => h).bind ?_
  intro label
  refine leads_get_bind ?_
  intro r hr
  have hsame : ∀ s, s = r → s.Sound users := fun s hs => hs ▸ hr
  cases r.references[label]? with
  | none => exact leads_refuse hsame
  | some id =>
      refine ((leads_reverse op.user ⟨id.toText⟩).mono hsame (fun _ _ h => h) fun _ h => h).bind ?_
      exact fun _ => leads_pure fun _ h => h

/-- What is left of a closing once the account has been found. -/
theorem leads_close (hdistinct : OwnersDistinct users) (op : Operation) (handle : Handle) :
    Leads (fun r => r.Sound users ∧ (addressOf op).LeadsTo r.teller.bank handle)
      (Replay.serve (fun _ => Plan.closeAccount op.user handle.account) >>= fun _ =>
        Replay.dropHandle (addressOf op))
      (fun _ r => r.Sound users) (·.Sound users) := by
  -- In between the account is remembered although it is gone.
  refine Leads.bind (R := fun _ s => ∃ r : Replay Desk, r.Sound users ∧
    (addressOf op).LeadsTo r.teller.bank handle ∧ ∃ changed used,
      r.teller.bank.Serves changed op.user (.deleteAccount handle.account) ∧
        s = r.settle changed used) ?_ ?_
  · refine leads_serve (fun _ => Plan.concludes_closeAccount op.user handle.account) ?_ fun r hr =>
      hr.1.settle_same _
    intro r hr row changed hrun
    have hserves := (Plan.closeAccount_ok_iff hr.1.bank.tidy.toInOrder).1 ⟨row, hrun⟩
    exact ⟨r, hr.1, hr.2, changed, _, hserves, rfl⟩
  · intro row
    refine leads_modify fun s hs => ?_
    obtain ⟨r, hsound, hleads, changed, used, hserves, rfl⟩ := hs
    exact hsound.close hdistinct hleads hserves used

theorem leads_ensureFresh (op : Operation) :
    Leads (·.Sound users) (Replay.ensureFresh op) (fun _ r => r.Sound users) (·.Sound users) := by
  unfold Replay.ensureFresh
  cases op.reference with
  | none => exact leads_pure fun _ h => h
  | some label =>
      refine leads_get_bind fun r hr => ?_
      split
      · exact leads_refuse fun s hs => by obtain rfl := hs; exact hr
      · exact leads_pure fun s hs => by obtain rfl := hs; exact hr

/-- **Every row keeps a replay sound**, whether or not it succeeds. -/
theorem leads_apply (hdistinct : OwnersDistinct users) (hmentions : op.mentions ⊆ users)
    (htrim : op.IsTrimmed) :
    Leads (·.Sound users) (Replay.apply op) (fun _ r => r.Sound users) (·.Sound users) := by
  have huser : (addressOf op).user ∈ users := hmentions op.user_mem_mentions
  have hrequire : Leads (·.Sound users) (Replay.require (addressOf op)) (fun _ r => r.Sound users)
      (·.Sound users) := (leads_require huser).mono (fun _ h => h) (fun _ _ h => h.1) fun _ h => h
  unfold Replay.apply
  refine (leads_register huser).bind fun _ => (leads_ensureFresh op).bind fun _ => ?_
  cases op.kind with
  | opening => exact leads_openAccount htrim huser
  | deposit =>
      refine (hrequire.bind fun handle => (leads_amountOf op _).bind fun amount => ?_)
      exact leads_move op _
  | withdrawal =>
      refine (hrequire.bind fun handle => (leads_amountOf op _).bind fun amount => ?_)
      exact leads_move op _
  | transfer => exact leads_transfer hmentions
  | rollback => exact leads_rollback op
  | close => exact (leads_require huser).bind fun handle => leads_close hdistinct op handle

end Task

end Cashbook
