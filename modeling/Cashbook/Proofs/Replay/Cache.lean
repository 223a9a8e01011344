/-
What a sound replay remembers of accounts makes no difference.

A replay remembers accounts so as not to look them up again.  Only the look-up reads what is
remembered, and on a sound replay it comes to the same either way: a handle that is
remembered is the one that looking would find, and looking where one could be remembered
changes nothing.  Every other task is blind to it.
-/
import Cashbook.Proofs.Replay.Kept

namespace Cashbook

variable {users : List String} {address : Address} {handle : Handle} {op : Operation}

namespace Task

open Replay

variable {P : Replay Desk → Prop}

/-! ### Looking an account up -/

/-- What is remembered is found without looking. -/
theorem on_lookup_of_remembered {r : Replay Desk} (hhandle : r.handles[address]? = some handle) :
    on (Replay.lookup address) r = (.ok (some handle), r) := by
  unfold Replay.lookup
  rw [on_bind_of_ok (on_get r), hhandle]
  rfl

theorem on_lookup_of_none {r : Replay Desk} (hnone : r.handles[address]? = none) :
    on (Replay.lookup address) r = on (Replay.find address) r := by
  unfold Replay.lookup
  rw [on_bind_of_ok (on_get r), hnone]

theorem on_require_of_found {r looked : Replay Desk}
    (hlookup : on (Replay.lookup address) r = (.ok (some handle), looked)) :
    on (Replay.require address) r = (.ok handle, looked) := by
  unfold Replay.require
  rw [on_bind_of_ok hlookup]
  rfl

/-- Where there is an account with a card, both are found, remembered or not. -/
theorem on_lookup_of_leadsTo {r : Replay Desk} (hsound : r.Sound users)
    (hleads : address.LeadsTo r.teller.bank handle) :
    ∃ handles, on (Replay.lookup address) r = (.ok (some handle), { r with handles }) := by
  cases hremembered : r.handles[address]? with
  | some known =>
      obtain rfl := (hsound.remembered address known hremembered).eq hsound.bank.tidy hleads
      exact ⟨r.handles, on_lookup_of_remembered hremembered⟩
  | none => exact ⟨_, (on_lookup_of_none hremembered).trans (on_find_of_leadsTo hsound hleads)⟩

theorem blind_keepHandle (address : Address) (handle : Handle) :
    Blind P (Replay.keepHandle address handle : Task Desk Unit) :=
  blind_modify fun _ _ h => ⟨h.teller, h.references⟩

theorem blind_dropHandle (address : Address) : Blind P (Replay.dropHandle address : Task Desk Unit) :=
  blind_modify fun _ _ h => ⟨h.teller, h.references⟩

theorem blind_cardOf (user : String) (id : AccountId) :
    Blind (fun _ => True) (Replay.cardOf user id : Task Desk Card) := by
  refine (blind_serve _).bind_always fun cards => ?_
  cases cards.head? with
  | some card => exact blind_pure card
  | none => exact blind_serve _

theorem blind_find (address : Address) :
    Blind (fun _ => True) (Replay.find address : Task Desk (Option Handle)) := by
  refine (blind_register address.user).bind_always fun _ => (blind_serve _).bind_always ?_
  intro accounts
  cases accounts.find? fun account => account.name == address.account with
  | none => exact blind_pure none
  | some account =>
      refine (blind_cardOf address.user account.id).bind_always fun card => ?_
      exact (blind_keepHandle address _).bind_always fun _ => blind_pure _

/-- **Looking up comes to the same**, whatever is remembered. -/
theorem blind_lookup (users : List String) (address : Address) :
    Blind (·.Sound users) (Replay.lookup address) := by
  intro r s hr hs h
  by_cases hfound : ∃ handle, address.LeadsTo r.teller.bank handle
  · obtain ⟨handle, hleads⟩ := hfound
    obtain ⟨handles, honr⟩ := on_lookup_of_leadsTo hr hleads
    obtain ⟨handles', hons⟩ := on_lookup_of_leadsTo hs (h.teller ▸ hleads)
    rw [honr, hons]
    exact ⟨rfl, h.teller, h.references⟩
  · -- Neither can remember what is not there, so both look.
    have hnone : ∀ t : Replay Desk, t.Sound users → r.teller = t.teller → t.handles[address]? = none := by
      intro t ht hteller
      rw [Option.eq_none_iff_forall_ne_some]
      intro handle hhandle
      exact hfound ⟨handle, hteller ▸ ht.remembered address handle hhandle⟩
    rw [on_lookup_of_none (hnone r hr rfl), on_lookup_of_none (hnone s hs h.teller)]
    exact blind_find address r s trivial trivial h

theorem blind_require (huser : address.user ∈ users) :
    Blind (·.Sound users) (Replay.require address) := by
  refine (blind_lookup users address).bind (leads_lookup huser) ?_
  intro found
  cases found with
  | some handle => exact blind_pure handle
  | none => exact blind_refuse _

/-! ### Rows -/

theorem blind_move (op : Operation) (request : MovementRequest) :
    Blind (fun _ => True) (Replay.move op request : Task Desk Unit) := by
  refine (blind_serve _).bind_always fun tx => ?_
  cases op.reference with
  | some label =>
      exact blind_modify fun _ _ h => ⟨h.teller, congrArg (·.insert label tx.id) h.references⟩
  | none => exact blind_pure ()

theorem blind_opening (op : Operation) : Blind (fun _ => True) (Replay.opening op) := by
  refine (blind_demand _ _).bind_always fun currency => (blind_serve _).bind_always fun account =>
    (blind_serve _).bind_always fun card => blind_keepHandle _ _

theorem blind_openAccount (huser : op.user ∈ users) :
    Blind (·.Sound users) (Replay.openAccount op) := by
  rw [openAccount_eq]
  refine (blind_lookup users (addressOf op)).bind (leads_lookup huser) ?_
  intro found
  cases found with
  | some handle => exact blind_refuse _
  | none => exact (blind_opening op).mono fun _ _ => trivial

theorem blind_transfer (hmentions : op.mentions ⊆ users) :
    Blind (·.Sound users) (Replay.transfer op) := by
  have huser : (addressOf op).user ∈ users := hmentions op.user_mem_mentions
  rw [transfer_eq]
  refine (blind_require huser).bind (leads_require huser) fun source => ?_
  refine Blind.mono (P := (·.Sound users)) ?_ fun _ h => h.1
  refine Blind.bind ?_ (leads_counterpartyOf hmentions) ?_
  · exact (Blind.bind_always (blind_demand _ _) fun raw => blind_liftExcept _).mono fun _ _ => trivial
  intro address r s hr hs
  refine Blind.bind (P := (·.Sound users)) (blind_require hr.2) (leads_require hr.2) ?_ r s hr.1 hs.1
  intro destination
  exact (Blind.bind_always (blind_demand _ _) fun amount => blind_move op _).mono fun _ _ => trivial

theorem blind_rollback (op : Operation) :
    Blind (fun _ => True) (Replay.rollback op : Task Desk Unit) := by
  refine (blind_demand _ _).bind_always fun label => blind_get_bind ?_ ?_
  · intro r
    cases r.references[label]? with
    | none => exact blind_refuse _
    | some id => exact (blind_serve _).bind_always fun _ => blind_pure ()
  · intro r s h
    rw [h.references]

theorem blind_ensureFresh (op : Operation) : Blind P (Replay.ensureFresh op : Task Desk Unit) := by
  unfold Replay.ensureFresh
  cases op.reference with
  | none => exact blind_pure ()
  | some label =>
      refine blind_get_bind ?_ ?_
      · intro r
        split
        · exact blind_refuse _
        · exact blind_pure ()
      · intro r s h
        rw [h.references]

/-- **A row comes to the same whatever accounts are remembered.** -/
theorem blind_apply (hmentions : op.mentions ⊆ users) : Blind (·.Sound users) (Replay.apply op) := by
  have huser : (addressOf op).user ∈ users := hmentions op.user_mem_mentions
  have hmovement : ∀ request : Decimal → Handle → MovementRequest,
      Blind (·.Sound users) (Replay.require (addressOf op) >>= fun handle =>
        Replay.amountOf op >>= fun amount => Replay.move op (request amount handle)) := by
    intro request
    refine (blind_require huser).bind (leads_require huser) fun handle => ?_
    exact (Blind.bind_always (blind_demand _ _) fun amount => blind_move op _).mono fun _ _ => trivial
  unfold Replay.apply
  refine (blind_register op.user).bind (leads_register huser) fun _ => ?_
  refine (blind_ensureFresh op).bind (leads_ensureFresh op) fun _ => ?_
  cases op.kind with
  | opening => exact blind_openAccount huser
  | deposit => exact hmovement fun amount handle => .deposit amount handle.card
  | withdrawal => exact hmovement fun amount handle => .withdrawal amount handle.card
  | transfer => exact blind_transfer hmentions
  | rollback => exact (blind_rollback op).mono fun _ _ => trivial
  | close =>
      refine (blind_require huser).bind (leads_require huser) fun handle => ?_
      exact ((blind_serve _).bind_always fun _ => blind_dropHandle _).mono fun _ _ => trivial

end Task

/-! ### Files -/

namespace Replay

/-- The callers whose accounts the rows may look up. -/
def mentioned (rows : List (Except Csv.Fault Operation)) : List String :=
  rows.flatMap fun
    | .ok op => op.mentions
    | .error _ => []

theorem mentions_subset_mentioned {rows : List (Except Csv.Fault Operation)} (h : .ok op ∈ rows) :
    op.mentions ⊆ mentioned rows :=
  fun _ huser => List.mem_flatMap.2 ⟨.ok op, h, huser⟩

/-- The rows have names of accounts without white space around them, as they are read. -/
def Trimmed (rows : List (Except Csv.Fault Operation)) : Prop :=
  ∀ op, .ok op ∈ rows → op.IsTrimmed

/-- What a row that has been read comes to. -/
def RowResult.ofOutcome : Outcome Unit → RowResult
  | .ok () => .done
  | .error failure => .failed failure

theorem applyRow_ok (op : Operation) (r : Replay Desk) :
    applyRow (.ok op) r =
      (.ofOutcome (Task.on (Replay.apply op) r).1, (Task.on (Replay.apply op) r).2) := by
  rcases hon : Task.on (Replay.apply op) r with ⟨outcome, after⟩
  have hrun : (Replay.apply op).run.run r = (outcome, after) := hon
  simp only [Replay.applyRow, hrun]
  cases outcome <;> rfl

/-- A row keeps a replay sound, whatever becomes of it. -/
theorem Sound.applyRow {r : Replay Desk} {row : Except Csv.Fault Operation} (h : r.Sound users)
    (hdistinct : OwnersDistinct users)
    (hrow : ∀ op, row = .ok op → op.mentions ⊆ users ∧ op.IsTrimmed) :
    (Replay.applyRow row r).2.Sound users := by
  cases row with
  | error fault => exact h
  | ok op =>
      obtain ⟨hmentions, htrim⟩ := hrow op rfl
      rw [applyRow_ok]
      exact (Task.leads_apply hdistinct hmentions htrim).after h

theorem Sound.applyRows {rows : List (Except Csv.Fault Operation)} {r : Replay Desk}
    (h : r.Sound users) (hdistinct : OwnersDistinct users)
    (hrows : ∀ op, .ok op ∈ rows → op.mentions ⊆ users ∧ op.IsTrimmed) :
    (Replay.applyRows rows r).2.Sound users := by
  induction rows generalizing r with
  | nil => exact h
  | cons row rest ih =>
      have hnext := h.applyRow hdistinct fun op hop => hrows op (hop ▸ List.mem_cons_self)
      exact ih hnext fun op hop => hrows op (List.mem_cons_of_mem row hop)

/-- The replay with no account remembered. -/
def forgetful (r : Replay Desk) : Replay Desk := { r with handles := ∅ }

theorem Sound.forgetful {r : Replay Desk} (h : r.Sound users) : r.forgetful.Sound users :=
  ⟨h.bank, fun _ _ hremembered => absurd hremembered (by simp [Replay.forgetful])⟩

theorem Sound.applyRow_forgetful {r : Replay Desk} {row : Except Csv.Fault Operation}
    (h : r.Sound users) (hrow : ∀ op, row = .ok op → op.mentions ⊆ users) :
    (Replay.applyRow row r.forgetful).1 = (Replay.applyRow row r).1 ∧
      (Replay.applyRow row r.forgetful).2.Agrees (Replay.applyRow row r).2 := by
  cases row with
  | error fault => exact ⟨rfl, rfl, rfl⟩
  | ok op =>
      obtain ⟨houtcome, hafter⟩ :=
        Task.blind_apply (hrow op rfl) r.forgetful r h.forgetful h ⟨rfl, rfl⟩
      rw [applyRow_ok, applyRow_ok, houtcome]
      exact ⟨rfl, hafter⟩

end Replay

/-! ### Accounts that are closed and opened again -/

namespace Sample

/-- A row without anything that only some rows need. -/
def operation (kind : OperationKind) (user account : String) : Operation :=
  ⟨kind, user, account, none, none, none, none⟩

theorem one_lt_limit : (1 : Int).natAbs < Decimal.limit := by decide

/-- One unit of whatever currency. -/
def one : Decimal := { Decimal.zero with coefficient := 1, coefficient_lt := one_lt_limit }

/-- Two callers open accounts, one closes theirs and opens it again, and the other fails to pay it. -/
def reopening : List (Except Csv.Fault Operation) :=
  [ .ok { operation .opening "ann" "main" with currency := some "USD" },
    .ok { operation .opening "ben" "main" with currency := some "USD" },
    .ok { operation .transfer "ben" "main" with
      amount := some one, counterparty := some "ann/main" },
    .ok (operation .close "ann" "main"),
    .error (.unusable ⟨0, 5, 4⟩ .endOfRow),
    .ok { operation .opening "ann" "main" with currency := some "EUR" } ]

theorem trimmed_reopening : Replay.Trimmed reopening := by
  intro op hop
  simp only [reopening, List.mem_cons, Except.ok.injEq, reduceCtorEq, false_or, List.not_mem_nil,
    or_false] at hop
  rcases hop with rfl | rfl | rfl | rfl | rfl <;> exact (by decide : Text.trim "main" = "main")

theorem ownersDistinct_reopening : OwnersDistinct (Replay.mentioned reopening) := by
  unfold OwnersDistinct
  decide +kernel

/-- Money comes in to the account that was opened again. -/
def income : Operation := { operation .deposit "ann" "main" with amount := some one }

end Sample

end Cashbook
