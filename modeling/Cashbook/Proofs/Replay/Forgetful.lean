/-
Replays that forget.

A replay that has nothing remembered works on the next row as if it had not forgotten.  This takes
callers who can be told apart.  An owner is known by an identifier that is derived from the name of
the caller, and there are more names than identifiers: some callers share one, though nobody knows
which.  Of two who do, each finds the accounts of the other; and when an account is closed by the
one, it is the address of the other under which it is still remembered.
-/
import Mathlib.Data.Fintype.Pigeonhole
import Cashbook.Proofs.Replay.Atomic

namespace Cashbook

variable {users : List String} {r : Replay Desk} {op : Operation} {address : Address} {handle : Handle}
  {account : Account} {opened : Bank}

namespace Replay

/--
**What is remembered of accounts makes no difference.**  Whatever rows a replay has worked
through, and whatever became of them: the next row comes to the same, message and all, on
that replay and on the same replay with nothing remembered, and leaves the same ledger, the
same callers and the same references.  Whatever is remembered is so: a known caller owns the
account, which has exactly that name, and the card leads to it.
-/
theorem cache_transparent (rules : Rules) (stamps : Nat → Stamp)
    (rows : List (Except Csv.Fault Operation)) (next : Except Csv.Fault Operation)
    (htrimmed : Trimmed rows) (hdistinct : OwnersDistinct (mentioned rows)) :
    let r := (applyRows rows (start (Desk.start rules stamps))).2
    ((applyRow next r.forgetful).1 = (applyRow next r).1 ∧
        (applyRow next r.forgetful).2.Agrees (applyRow next r).2) ∧
      ∀ (address : Address) (handle : Handle), r.handles[address]? = some handle →
        ∃ account : Account, r.teller.bank.registry.resolve address.user = .ok account.owner ∧
          r.teller.bank.ledger.accounts[handle.account]? = some account ∧
            account.name = address.account ∧
              r.teller.bank.ledger.accountOfCard handle.card = .ok account := by
  intro r
  have hsound : r.Sound (mentioned rows) :=
    (sound_start rules stamps _).applyRows hdistinct fun op hop =>
      ⟨mentions_subset_mentioned hop, htrimmed op hop⟩
  have hsame := (hsound.mono (List.subset_append_left _ (mentioned [next]))).applyRow_forgetful
    fun op (hop : next = .ok op) => List.subset_append_of_subset_right _
      (mentions_subset_mentioned (hop ▸ List.mem_singleton_self _))
  refine ⟨hsame, ?_⟩
  intro address handle hremembered
  obtain ⟨⟨hknows, account, haccount, howner, hname⟩, card, hcard, hleads⟩ :=
    hsound.remembered address handle hremembered
  refine ⟨account, ?_, haccount, hname, ?_⟩
  · rw [howner]
    exact Registry.resolve_ok_iff.2 hknows
  · exact Ledger.accountOfCard_ok_iff.2 ⟨card, hcard, by rw [hleads]; exact haccount⟩

theorem cache_transparent_sample :
    let r := (applyRows Sample.reopening
      (start (Desk.start ⟨.zero, 2, 64⟩ (Stamp.series 1)))).2
    Trimmed Sample.reopening ∧ OwnersDistinct (mentioned Sample.reopening) ∧ r.handles.size = 2 ∧
      (applyRow (.ok Sample.income) r).1 = .done ∧ (applyRow (.ok Sample.income) r.forgetful).1 = .done := by
  intro r
  obtain ⟨⟨hresult, -⟩, -⟩ := cache_transparent ⟨.zero, 2, 64⟩ (Stamp.series 1) Sample.reopening
    (.ok Sample.income) Sample.trimmed_reopening Sample.ownersDistinct_reopening
  have hdone : (applyRow (.ok Sample.income) r).1 = .done := by decide +kernel
  exact ⟨Sample.trimmed_reopening, Sample.ownersDistinct_reopening, by decide +kernel, hdone,
    hresult.trans hdone⟩

/-! ### Callers who share an identifier -/

/-- There are finitely many identifiers. -/
instance : Finite OwnerId :=
  .of_injective (fun owner => owner.uuid.bits.toFin) fun owner other h => by
    obtain ⟨⟨bits⟩⟩ := owner
    obtain ⟨⟨others⟩⟩ := other
    obtain rfl : bits = others := BitVec.toFin_inj.1 h
    rfl

/-- A name without white space, of any length. -/
def longName (n : Nat) : String := String.ofList (List.replicate n 'a')

theorem trim_longName (n : Nat) : Text.trim (longName n) = longName n := by
  have hletter : Text.isBlank 'a' = false := by decide
  simp [Text.trim, Text.stripWith, longName, hletter]

theorem exists_shared_owner :
    ∃ user other : String, user ≠ other ∧ Text.trim user = user ∧ Text.trim other = other ∧
      ownerOf user = ownerOf other := by
  obtain ⟨m, n, hne, hsame⟩ := Finite.exists_ne_map_eq_of_infinite fun n => ownerOf (longName n)
  refine ⟨longName m, longName n, fun hname => hne ?_, trim_longName m, trim_longName n, hsame⟩
  have hlength := congrArg (fun name : String => name.toList.length) hname
  simpa [longName] using hlength

end Replay

/-- Callers who share an identifier find the same accounts. -/
theorem Address.LeadsTo.alias {bank : Bank} {user : String} (h : address.LeadsTo bank handle)
    (hknows : bank.Knows user) (hshared : ownerOf user = ownerOf address.user) :
    Address.LeadsTo bank ⟨user, address.account⟩ handle := by
  obtain ⟨⟨-, row, hrow, howner, hname⟩, hcard⟩ := h
  exact ⟨⟨hknows, row, hrow, howner.trans hshared.symm, hname⟩, hcard⟩

namespace Task

open Replay

/-! ### Openings and closings that are done -/

theorem exists_opens {opening : Opening} {currency : String} (hkind : op.kind = .opening)
    (hlabel : op.reference = none) (hvacant : r.Lacks (addressOf op)) (hcurrency : op.currency = some currency)
    (hopening : r.teller.rules.opening ⟨op.account, currency⟩ = .ok opening)
    (hunused : r.teller.bank.ledger.accounts[r.stamp.account]? = none) :
    ∃ account opened, r.Opens op account opened := by
  obtain ⟨owner, howner⟩ := r.teller.bank.registry.exists_register_self op.user
  let account : Account := .opened r.stamp.account owner opening.name opening.currency r.stamp.time
  let ledger := r.teller.bank.ledger
  let opened : Bank := { (r.registered op.user).teller.bank with
    ledger := { ledger with accounts := ledger.accounts.insert account.id account } }
  refine ⟨account, opened, hkind, fun label h => ?_, hvacant, currency, hcurrency, ?_⟩
  · rw [hlabel] at h
    cases h
  · exact Plan.openAccount_ok_iff.2 ⟨opening, hopening, rfl, owner, Registry.resolve_ok_iff.2 howner, rfl,
      ⟨hunused, rfl⟩, rfl⟩

/-- An account is opened and remembered if the number that its card is to have is not in use. -/
theorem on_apply_of_opens_of_free (h : r.Opens op account opened)
    (hfree : r.teller.bank.ledger.cards[(r.teller.stamps (r.teller.used + 1)).card]? = none) :
    ∃ card issued used, (Change.createCard card).Effect opened.ledger issued.ledger ∧
      on (Replay.apply op) r = (.ok (), { (r.registered op.user).settle issued used with
        handles := r.handles.insert (addressOf op) ⟨account.id, card.number⟩ }) := by
  rw [← h.cards] at hfree
  obtain ⟨card, issued, hrun⟩ := Plan.exists_issueCard_ok h.serves hfree
  obtain ⟨-, -, -, -, heffect, -⟩ := Plan.issueCard_ok_iff.1 hrun
  have hserve := on_serve_of_run ((r.registered op.user).settle opened (r.teller.used + 1))
    (fun _ => Plan.issueCard op.user account.id) hrun
  rw [on_apply_of_opens h, on_bind_of_ok hserve]
  exact ⟨card, issued, _, heffect, rfl⟩

/-- An account that is remembered is not opened again. -/
theorem on_apply_of_remembered (op : Operation) (hkind : op.kind = .opening) (hlabel : op.reference = none)
    (hhandle : r.handles[addressOf op]? = some handle) :
    on (Replay.apply op) r = (.error (.alreadyExists (.address op.user op.account)), r.registered op.user) := by
  have hlookup := on_lookup_of_remembered (r := r.registered op.user) hhandle
  unfold Replay.apply
  rw [on_bind_of_ok (on_register op.user r),
    on_bind_of_ok (on_ensureFresh_of_none (r.registered op.user) hlabel), hkind]
  show on (Replay.openAccount op) _ = _
  rw [openAccount_eq, on_bind_of_ok hlookup]
  rfl

/-- An account without money that is found is closed, and not remembered. -/
theorem on_apply_of_closes (op : Operation) {row : Account} (hkind : op.kind = .close) (hlabel : op.reference = none)
    (hsound : (r.registered op.user).Sound users) (hnone : r.handles[addressOf op]? = none)
    (hleads : (addressOf op).LeadsTo (r.registered op.user).teller.bank handle)
    (hrow : r.teller.bank.ledger.accounts[handle.account]? = some row) (hzero : row.balance.isZero = true) :
    ∃ closed used, (Change.deleteAccount handle.account).Effect r.teller.bank.ledger closed.ledger ∧
      on (Replay.apply op) r = (.ok (), { (r.registered op.user).settle closed used with
        handles := (r.handles.insert (addressOf op) handle).erase (addressOf op) }) := by
  let found : Replay Desk := { r.registered op.user with handles := r.handles.insert (addressOf op) handle }
  have hrequire : on (Replay.require (addressOf op)) (r.registered op.user) = (.ok handle, found) :=
    on_require_of_found ((on_lookup_of_none (r := r.registered op.user) hnone).trans
      (on_find_of_leadsTo hsound hleads))
  obtain ⟨same, hsame, howner, -⟩ := hleads.account
  obtain rfl : same = row := Option.some.inj (hsame.symm.trans hrow)
  obtain ⟨closed, heffect, returned, hrun⟩ := Plan.exists_closeAccount_ok found.stamp
    hsound.bank.tidy.toInOrder (Registry.resolve_ok_iff.2 hleads.knows) hrow howner hzero
  have hserve := on_serve_of_run found (fun _ => Plan.closeAccount op.user handle.account) hrun
  unfold Replay.apply
  rw [on_bind_of_ok (on_register op.user r),
    on_bind_of_ok (on_ensureFresh_of_none (r.registered op.user) hlabel), hkind]
  simp only [on_bind_of_ok hrequire, on_bind_of_ok hserve]
  exact ⟨closed, _, heffect, rfl⟩

end Task

namespace Replay

/-! ### An account that is closed by someone else -/

/-- Nothing stands in the way of opening an account where there is none. -/
theorem exists_opens_main (user : String) (hrules : r.teller.rules = ⟨.zero, 2, 64⟩)
    (hnone : r.handles[(⟨user, "main"⟩ : Address)]? = none)
    (hempty : ∀ id : AccountId, r.teller.bank.ledger.accounts[id]? = none) :
    ∃ account opened, r.Opens (Sample.opening user "main") account opened := by
  have hopening : Rules.opening ⟨.zero, 2, 64⟩ ⟨"main", "USD"⟩ = .ok ⟨"main", .usd⟩ := by decide +kernel
  have hvacant : r.Lacks ⟨user, "main"⟩ := by
    refine ⟨hnone, fun owner howner id row hrow => ?_⟩
    rw [hempty id] at hrow
    cases hrow
  exact Task.exists_opens rfl rfl hvacant rfl (hrules ▸ hopening) (hempty _)

/-- The first row opens an account, which is remembered. -/
theorem applyRow_opening_outset (user : String) :
    let r := (applyRow (.ok (Sample.opening user "main")) Sample.outset).2
    ∃ (account : Account) (handle : Handle), account.balance = .zero ∧ handle.account = account.id ∧
      r.teller.rules = ⟨.zero, 2, 64⟩ ∧
        r.teller.bank.ledger.accounts = (∅ : Table AccountId Account).insert account.id account ∧
          r.handles = (∅ : Table Address Handle).insert ⟨user, "main"⟩ handle := by
  obtain ⟨account, opened, hopens⟩ := exists_opens_main (r := Sample.outset) user rfl rfl fun _ => rfl
  obtain ⟨card, issued, used, ⟨-, -, hissued⟩, hon⟩ := Task.on_apply_of_opens_of_free hopens rfl
  obtain ⟨-, hopened⟩ := hopens.effect
  rw [applyRow_ok, hon]
  refine ⟨account, ⟨account.id, card.number⟩, hopens.balance_eq, rfl, rfl, ?_, rfl⟩
  show issued.ledger.accounts = _
  rw [hissued, hopened]
  rfl

/-- A row finds the account of someone else with the same identifier, and closes it. -/
theorem applyRow_closing_alias {user other : String} (hne : user ≠ other)
    (hshared : ownerOf user = ownerOf other) (hsound : r.Sound [user]) (hzero : account.balance = .zero)
    (hid : handle.account = account.id)
    (haccounts : r.teller.bank.ledger.accounts = (∅ : Table AccountId Account).insert account.id account)
    (hhandles : r.handles = (∅ : Table Address Handle).insert ⟨user, "main"⟩ handle) :
    let after := (applyRow (.ok (Sample.operation .close other "main")) r).2
    after.teller.rules = r.teller.rules ∧ after.handles[(⟨user, "main"⟩ : Address)]? = some handle ∧
      ∀ id : AccountId, after.teller.bank.ledger.accounts[id]? = none := by
  have hmine : (⟨other, "main"⟩ : Address) ≠ ⟨user, "main"⟩ := fun h => hne (congrArg Address.user h).symm
  have hremembered : r.handles[(⟨user, "main"⟩ : Address)]? = some handle := by
    rw [hhandles]
    exact Std.ExtTreeMap.getElem?_insert_self
  have hnone : r.handles[(⟨other, "main"⟩ : Address)]? = none := by
    rw [hhandles]
    exact Table.getElem?_insert_of_ne _ _ hmine.symm
  have hrow : r.teller.bank.ledger.accounts[handle.account]? = some account := by
    rw [haccounts, hid]
    exact Std.ExtTreeMap.getElem?_insert_self
  have hboth : r.Sound [user, other] := hsound.mono (by simp)
  have hleads : Address.LeadsTo (r.registered other).teller.bank ⟨other, "main"⟩ handle :=
    ((hsound.remembered _ handle hremembered).register other).alias
      (hboth.bank.knows_register (by simp)) hshared.symm
  have hknown : (r.registered other).Sound [user, other] := hboth.register (by simp)
  obtain ⟨closed, used, ⟨-, hclosed⟩, hon⟩ := Task.on_apply_of_closes
    (Sample.operation .close other "main") rfl rfl hknown hnone hleads hrow (by rw [hzero]; rfl)
  rw [applyRow_ok, hon]
  refine ⟨rfl, ?_, fun id => ?_⟩
  · show ((r.handles.insert ⟨other, "main"⟩ handle).erase ⟨other, "main"⟩)[(⟨user, "main"⟩ : Address)]? = _
    rw [Table.getElem?_erase_of_ne _ hmine, Table.getElem?_insert_of_ne _ _ hmine]
    exact hremembered
  · show closed.ledger.accounts[id]? = none
    rw [hclosed, hid]
    show (r.teller.bank.ledger.accounts.erase account.id)[id]? = none
    rw [haccounts, Table.erase_insert]
    rfl

/-- An account that is gone but remembered is not opened again, and would be if it were forgotten. -/
theorem applyRow_opening_ne_forgetful {user : String} (hrules : r.teller.rules = ⟨.zero, 2, 64⟩)
    (horder : r.teller.bank.ledger.InOrder) (hremembered : r.handles[(⟨user, "main"⟩ : Address)]? = some handle)
    (hempty : ∀ id : AccountId, r.teller.bank.ledger.accounts[id]? = none) :
    (applyRow (.ok (Sample.opening user "main")) r.forgetful).1 ≠
      (applyRow (.ok (Sample.opening user "main")) r).1 := by
  have hrefused : (applyRow (.ok (Sample.opening user "main")) r).1 =
      .failed (.alreadyExists (.address user "main")) := by
    rw [applyRow_ok, Task.on_apply_of_remembered (Sample.opening user "main") rfl rfl hremembered]
    rfl
  obtain ⟨account, opened, hopens⟩ := exists_opens_main (r := r.forgetful) user hrules rfl hempty
  have hfree : ∀ number : CardNumber, r.teller.bank.ledger.cards[number]? = none := by
    intro number
    rw [Option.eq_none_iff_forall_ne_some]
    intro card hcard
    obtain ⟨row, hrow⟩ := horder.cardsLead number card hcard
    cases (hempty _).symm.trans hrow
  obtain ⟨card, issued, used, -, hon⟩ := Task.on_apply_of_opens_of_free hopens (hfree _)
  have hdone : (applyRow (.ok (Sample.opening user "main")) r.forgetful).1 = .done := by
    rw [applyRow_ok, hon]
    rfl
  rw [hdone, hrefused]
  nofun

/-- Someone opens an account, and someone else closes it. -/
def crossing (user other : String) : List (Except Csv.Fault Operation) :=
  [.ok (Sample.opening user "main"), .ok (Sample.operation .close other "main")]

theorem applyRows_crossing (user other : String) (r : Replay Desk) :
    (applyRows (crossing user other) r).2 =
      (applyRow (.ok (Sample.operation .close other "main"))
        (applyRow (.ok (Sample.opening user "main")) r).2).2 := rfl

/--
Callers who share an identifier give a replay away.  One of them opens an account, and the other
closes it: the replay remembers it where it was opened, and refuses to open it again.
-/
theorem cache_not_always_transparent :
    ¬∀ (rules : Rules) (stamps : Nat → Stamp) (rows : List (Except Csv.Fault Operation))
        (next : Except Csv.Fault Operation),
      (∀ op, .ok op ∈ rows ++ [next] → Text.trim op.user = op.user ∧ Text.trim op.account = op.account) →
        let r := (applyRows rows (start (Desk.start rules stamps))).2
        (applyRow next r.forgetful).1 = (applyRow next r).1 := by
  intro h
  obtain ⟨user, other, hne, huser, hother, hshared⟩ := exists_shared_owner
  have hmain : Text.trim "main" = "main" := by decide
  have htrimmed : ∀ op, .ok op ∈ crossing user other ++ [.ok (Sample.opening user "main")] →
      Text.trim op.user = op.user ∧ Text.trim op.account = op.account := by
    intro op hop
    simp only [crossing, List.cons_append, List.nil_append, List.mem_cons, Except.ok.injEq,
      List.not_mem_nil, or_false] at hop
    rcases hop with rfl | rfl | rfl
    · exact ⟨huser, hmain⟩
    · exact ⟨hother, hmain⟩
    · exact ⟨huser, hmain⟩
  have hsame := h ⟨.zero, 2, 64⟩ (Stamp.series 1) _ _ htrimmed
  obtain ⟨account, handle, hzero, hid, hrules, haccounts, hhandles⟩ := applyRow_opening_outset user
  have hsound : (applyRow (.ok (Sample.opening user "main")) Sample.outset).2.Sound [user] := by
    refine (sound_start _ _ [user]).applyRow ?_ fun op hop => ?_
    · simp [OwnersDistinct]
    · cases hop
      exact ⟨List.Subset.refl _, hmain⟩
  have horder := hsound.bank.tidy.toInOrder
  obtain ⟨hkept, hremembered, hempty⟩ :=
    applyRow_closing_alias hne hshared hsound hzero hid haccounts hhandles
  refine applyRow_opening_ne_forgetful (hkept.trans hrules) ((evolves_applyRow _ horder).inOrder horder)
    hremembered hempty ?_
  rw [← applyRows_crossing]
  exact hsame

end Replay

end Cashbook
