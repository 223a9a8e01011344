/-
What an address reaches.

An account that a row has opened is remembered under its address, with its card, for as long
as it is there.  So a transfer reaches it by the address, whatever has happened since, and
however the ledger would be searched.  But the counterparty of a transfer is an address that
is written, and what is written has to be read: the user ends at the first slash.  An address
is read back as it was if its user is not empty and has no slash, and only then; the others
are read as addresses of somebody else, or not at all.
-/
import Mathlib.Data.List.TakeWhile
import Cashbook.Proofs.Replay.Steps

namespace Cashbook

variable {r looked after : Replay Desk} {op pay : Operation} {address : Address} {handle : Handle}
  {id : AccountId} {account first : Account} {opened : Bank} {row : Except Csv.Fault Operation}
  {rows : List (Except Csv.Fault Operation)}

/-! ### Addresses that are written -/

namespace Address

/-- The user and the account, with a slash in between. -/
def toText (address : Address) : String := address.user ++ "/" ++ address.account

theorem parse_ok_iff {raw : String} : parse raw = .ok address ↔ ofText? raw = some address := by
  unfold parse
  cases ofText? raw <;> simp

/-- Reading stops at the first slash, which is the one that was written if the user has none. -/
theorem ofText?_toText (huser : '/' ∉ address.user.toList) :
    ofText? address.toText =
      if address.user = "" ∨ address.account = "" then none else some address := by
  have hplain : ∀ c ∈ address.user.toList, (c != '/') = true := by
    intro c hc
    exact bne_iff_ne.2 fun hslash => huser (hslash ▸ hc)
  have hchars : address.toText.toList = address.user.toList ++ '/' :: address.account.toList := by
    simp [toText]
  have htake : (address.user.toList ++ '/' :: address.account.toList).takeWhile (· != '/') =
      address.user.toList := by
    rw [List.takeWhile_append_of_pos hplain]
    simp
  have hdrop : (address.user.toList ++ '/' :: address.account.toList).dropWhile (· != '/') =
      '/' :: address.account.toList := by
    rw [List.dropWhile_append_of_pos hplain]
    simp
  rw [ofText?, hchars, htake, hdrop]
  simp [String.ofList_toList]

/-- What is read as a user has no slash and is not empty. -/
theorem user_of_ofText? {text : String} (h : ofText? text = some address) :
    address.user ≠ "" ∧ '/' ∉ address.user.toList := by
  simp only [ofText?] at h
  split at h
  · next slash account hrest =>
    rw [ite_eq_iff] at h
    rcases h with ⟨-, hnone⟩ | ⟨hparts, hread⟩
    · cases hnone
    obtain rfl := Option.some.inj hread
    rw [Bool.or_eq_true, not_or] at hparts
    rw [String.toList_ofList]
    refine ⟨fun hempty => hparts.1 ?_, fun hmem => ?_⟩
    · have hchars := congrArg String.toList hempty
      rw [String.toList_ofList] at hchars
      rw [hchars]
      rfl
    · have hne := List.mem_takeWhile_imp (p := fun c => c != '/') hmem
      exact absurd rfl (bne_iff_ne.1 hne)
  · cases h

/-- **An address is read back as it was** if its user is not empty and has no slash, and only then. -/
theorem parse_toText_iff (haccount : address.account ≠ "") :
    parse address.toText = .ok address ↔ address.user ≠ "" ∧ '/' ∉ address.user.toList := by
  rw [parse_ok_iff]
  constructor
  · exact user_of_ofText?
  · intro h
    rw [ofText?_toText h.2, if_neg (not_or.2 ⟨h.1, haccount⟩)]

end Address

/-! ### Accounts that are remembered -/

namespace Replay

/-- The account is remembered under the address, with a card that leads to it. -/
def Reaches (r : Replay Desk) (address : Address) (id : AccountId) : Prop :=
  ∃ number card, r.handles[address]? = some ⟨id, number⟩ ∧
    r.teller.bank.ledger.cards[number]? = some card ∧ card.account = id

theorem Prepares.reaches {s : Replay Desk} (h : r.Prepares s) (hreaches : r.Reaches address id) :
    s.Reaches address id := by
  obtain ⟨number, card, hhandle, hcard, hleads⟩ := hreaches
  exact ⟨number, card, h.handles _ _ hhandle, h.cards _ _ hcard, hleads⟩

/-- A row that is done leaves the cards of the accounts that are left. -/
theorem Achieves.card_kept (h : r.Achieves op after) (horder : r.teller.bank.ledger.InOrder)
    {number : CardNumber} {card : Card} (hcard : r.teller.bank.ledger.cards[number]? = some card)
    (hthere : Holds card.account after) : after.teller.bank.ledger.cards[number]? = some card := by
  rcases h.changes horder with
    ⟨account, opened, issued, hopens, heffect⟩ | ⟨looked, change, hprepares, heffect, -, hrevoke⟩
  · have horder' : opened.ledger.InOrder := horder.step hopens.effect
    exact heffect.card_kept horder'.cardsFiled nofun (by rw [hopens.cards]; exact hcard) hthere
  · have horder' := hprepares.evolves.inOrder horder
    exact heffect.card_kept horder'.cardsFiled hrevoke (hprepares.cards _ _ hcard) hthere

/-- A row that is done forgets an account only together with closing it. -/
theorem Achieves.handle_kept (h : r.Achieves op after) (horder : r.teller.bank.ledger.InOrder)
    (hhandle : r.handles[address]? = some handle) (hthere : Holds handle.account after) :
    after.handles[address]? = some handle := by
  cases h with
  | @opened account card opened issued used hopens hissued =>
      have hne : addressOf op ≠ address := by
        rintro rfl
        rw [hopens.vacant.1] at hhandle
        cases hhandle
      exact (Table.getElem?_insert_of_ne _ _ hne).trans hhandle
  | @moved looked request tx changed used hprepares hasks hmoved =>
      rw [handles_refer]
      exact hprepares.handles _ _ hhandle
  | @reversed label key tx changed used hkind hlabel hbound hreversed => exact hhandle
  | @closed looked found account changed used hkind hprepares hfound hclosed =>
      have hkept := hprepares.handles _ _ hhandle
      by_cases hsame : addressOf op = address
      · -- The account at this address is the one that is gone.
        rw [hsame] at hfound
        obtain rfl := Option.some.inj (hfound.symm.trans hkept)
        obtain ⟨-, -, -, ⟨-, hafter⟩, -⟩ :=
          (Plan.closeAccount_ok_iff (hprepares.evolves.inOrder horder)).1 ⟨account, hclosed⟩
        obtain ⟨row, hrow⟩ := hthere
        change changed.ledger.accounts[found.account]? = some row at hrow
        rw [hafter, Std.ExtTreeMap.getElem?_erase_self] at hrow
        cases hrow
      · exact (Table.getElem?_erase_of_ne _ hsame).trans hkept

/-- **What is reached stays reached** as long as it is there. -/
theorem Reaches.applyRow (h : r.Reaches address id) (horder : r.teller.bank.ledger.InOrder)
    (hthere : Holds id (applyRow row r).2) : (Replay.applyRow row r).2.Reaches address id := by
  by_cases hdone : (Replay.applyRow row r).1 = .done
  · obtain ⟨op, -, hachieves⟩ := achieves_of_done hdone
    obtain ⟨number, card, hhandle, hcard, rfl⟩ := h
    exact ⟨number, card, hachieves.handle_kept horder hhandle hthere,
      hachieves.card_kept horder hcard hthere, rfl⟩
  · rcases prepares_or_strands_of_not_done hdone with
      hprepares | ⟨op, account, opened, used, -, hstrands, hafter⟩
    · exact hprepares.reaches h
    · obtain ⟨number, card, hhandle, hcard, hleads⟩ := h
      rw [hafter]
      exact ⟨number, card, hhandle, by rw [← hcard, ← hstrands.1.cards]; rfl, hleads⟩

/-- An account that a row has opened, and is done, is reached by the address of the row. -/
theorem Opens.reaches (h : r.Opens op account opened) (hachieves : r.Achieves op after) :
    after.Reaches (addressOf op) account.id := by
  cases hachieves with
  | @opened same card found issued used hopens hissued =>
      obtain ⟨rfl, rfl⟩ := h.unique hopens
      obtain ⟨hcard, -, -, -, ⟨-, -, hafter⟩, -⟩ := Plan.issueCard_ok_iff.1 hissued
      refine ⟨card.number, card, Std.ExtTreeMap.getElem?_insert_self, ?_, by rw [hcard]⟩
      show issued.ledger.cards[card.number]? = some card
      rw [hafter]
      exact Std.ExtTreeMap.getElem?_insert_self
  | moved hprepares hasks hmoved =>
      obtain ⟨type, htype, -⟩ := hasks.exists_type
      rw [h.kind] at htype
      cases htype
  | reversed hkind hlabel hbound hreversed => cases h.kind.symm.trans hkind
  | closed hkind hprepares hhandle hclosed => cases h.kind.symm.trans hkind

/-! ### Transfers -/

/-- A transfer that is done to an address that reaches an account credits it, and debits another. -/
theorem Achieves.credits (h : r.Achieves pay after) (horder : r.teller.bank.ledger.InOrder)
    (hkind : pay.kind = .transfer) {raw : String} (hraw : pay.counterparty = some raw)
    (haddress : Address.parse raw = .ok address) (hreaches : r.Reaches address id) :
    ∃ amount source, pay.amount = some amount.value ∧ source ≠ id ∧
      DebitedAt amount r.teller.bank.ledger.accounts after.teller.bank.ledger.accounts source ∧
        CreditedAt amount r.teller.bank.ledger.accounts after.teller.bank.ledger.accounts id ∧
          ∀ other : AccountId, other ≠ source → other ≠ id →
            after.teller.bank.ledger.accounts[other]? = r.teller.bank.ledger.accounts[other]? := by
  cases h with
  | opened hopens hissued => cases hkind.symm.trans hopens.kind
  | reversed hrollback hlabel hbound hreversed => cases hkind.symm.trans hrollback
  | closed hclose hprepares hhandle hclosed => cases hkind.symm.trans hclose
  | @moved looked request tx changed used hprepares hasks hmoved =>
      have horder' := hprepares.evolves.inOrder horder
      obtain ⟨number, card, hhandle, hcard, hleads⟩ := hprepares.reaches hreaches
      obtain ⟨movement, payer, hmovement, hpayer, hcomes, htx, -, -, -, heffect, -⟩ :=
        (Plan.move_ok_iff horder').1 hmoved
      cases hasks with
      | deposit hdeposit _ _ => cases hkind.symm.trans hdeposit
      | withdrawal hwithdrawal _ _ => cases hkind.symm.trans hwithdrawal
      | @transfer value written target source destination _ hvalue hwritten htarget hsource hdestination =>
          obtain rfl := Option.some.inj (hraw.symm.trans hwritten)
          obtain rfl := Except.ok.inj (haddress.symm.trans htarget)
          obtain rfl := Option.some.inj (hhandle.symm.trans hdestination)
          obtain ⟨hamount, horder⟩ := Rules.transfer_of_movement hmovement
          rw [horder] at hcomes
          obtain ⟨payee, hpayee, hends⟩ := hcomes
          obtain ⟨found, hfound, hrow⟩ := Ledger.accountOfCard_ok_iff.1 hpayee
          obtain rfl := Option.some.inj (hcard.symm.trans hfound)
          obtain rfl : payee.id = id := (horder'.accountsFiled _ _ hrow).trans hleads
          obtain ⟨accounts, hmoves, -, hafter⟩ := heffect
          rw [hends] at hmoves
          obtain ⟨hne, -, hpass⟩ := hmoves
          obtain ⟨hdebit, hcredit, hothers⟩ := (passed_iff hne).1 hpass
          have haccounts : ((looked.settle changed used).refer pay tx.id).teller.bank.ledger.accounts =
              accounts := by
            rw [teller_refer]
            exact congrArg Ledger.accounts hafter
          rw [haccounts, ← hprepares.accounts]
          refine ⟨tx.amount, payer.id, ?_, hne, hdebit, hcredit, hothers⟩
          rw [hvalue, htx, hamount]

/-! ### Along a run -/

/-- An account that a row has opened, and is done, is reached by the address of the row to the end. -/
theorem Step.Brings.reaches {step : Step} (h : step.Brings (Holds id) (steps rows r))
    (horderly : r.Orderly) (hrow : step.row = .ok op) (hdone : step.result = .done) :
    (applyRows rows r).2.Reaches (addressOf op) id ∧ op.account ≠ "" := by
  have horder : ∀ step ∈ steps rows r, step.before.teller.bank.ledger.InOrder :=
    fun step hstep => ((horderly.steps rows).1 step hstep).1.inOrder
  obtain ⟨same, account, opened, hsame, hopens, rfl, -⟩ := h.opens (horder step h.mem)
  obtain rfl := Except.ok.inj (hrow.symm.trans hsame)
  obtain ⟨again, hagain, hachieves⟩ := achieves_of_done hdone
  obtain rfl := Except.ok.inj (hrow.symm.trans hagain)
  refine ⟨h.ends (Q := (·.Reaches (addressOf op) account.id)) (hopens.reaches hachieves) ?_,
    hopens.name_eq.2⟩
  exact fun other hother hthere hreaches => hreaches.applyRow (horder other hother) hthere

/--
**An address reaches the account it names, and a written one does where it can be read back.**
Whatever rows a replay has worked through from the start: take an account that is there since a
row that had it opened and was done.  Its address finds it, with a card that leads to it.  The
address as it is written is read as that address exactly if the user is not empty and has no
slash.  Then a transfer to it that is done credits this account with the amount, debits another
one, and leaves all others alone.
-/
theorem written_address_reaches (rules : Rules) (stamps : Nat → Stamp)
    (rows : List (Except Csv.Fault Operation)) {step : Step} {op : Operation} {id : AccountId}
    (hbrings : step.Brings (Holds id) (steps rows (start (Desk.start rules stamps))))
    (hrow : step.row = .ok op) (hdone : step.result = .done) :
    let r := (applyRows rows (start (Desk.start rules stamps))).2
    (∃ card account, (require (addressOf op)).run.run r = (.ok ⟨id, card⟩, r) ∧
      r.teller.bank.ledger.accountOfCard card = .ok account ∧ account.id = id) ∧
    (Address.parse (addressOf op).toText = .ok (addressOf op) ↔
      op.user ≠ "" ∧ '/' ∉ op.user.toList) ∧
    (op.user ≠ "" → '/' ∉ op.user.toList → ∀ pay : Operation, pay.kind = .transfer →
      pay.counterparty = some (addressOf op).toText →
        let next := (applyRow (.ok pay) r).2
        (applyRow (.ok pay) r).1 = .done → ∃ amount source, pay.amount = some amount.value ∧ source ≠ id ∧
          DebitedAt amount r.teller.bank.ledger.accounts next.teller.bank.ledger.accounts source ∧
            CreditedAt amount r.teller.bank.ledger.accounts next.teller.bank.ledger.accounts id ∧
              ∀ other : AccountId, other ≠ source → other ≠ id →
                next.teller.bank.ledger.accounts[other]? = r.teller.bank.ledger.accounts[other]?) := by
  intro r
  have hstart := orderly_start rules stamps
  have horder := (hstart.steps rows).2.inOrder
  obtain ⟨hreaches, hname⟩ : r.Reaches (addressOf op) id ∧ (addressOf op).account ≠ "" :=
    hbrings.reaches hstart hrow hdone
  have hparse := Address.parse_toText_iff hname
  refine ⟨?_, hparse, ?_⟩
  · obtain ⟨card, found, hhandle, hcard, rfl⟩ := hreaches
    obtain ⟨account, haccount⟩ := hbrings.at_end
    exact ⟨card, account, Task.on_require_of_found (Task.on_lookup_of_remembered hhandle),
      Ledger.accountOfCard_ok_iff.2 ⟨found, hcard, haccount⟩, horder.accountsFiled _ _ haccount⟩
  · intro huser hslash pay hkind hraw next hpaid
    obtain ⟨same, hsame, hachieves⟩ := achieves_of_done hpaid
    obtain rfl := Except.ok.inj hsame
    exact hachieves.credits horder hkind hraw (hparse.2 ⟨huser, hslash⟩) hreaches

end Replay

/-! ### Users with a slash -/

namespace Sample

/-- Two accounts whose addresses are written alike, and a third one with money. -/
def alike : List (Except Csv.Fault Operation) :=
  [ .ok (opening "a/b" "c"),
    .ok (opening "a" "b/c"),
    .ok (opening "pay" "main"),
    .ok { operation .deposit "pay" "main" with amount := some one } ]

/-- The money is to go to `a/b/c`. -/
def payment : Operation :=
  { operation .transfer "pay" "main" with amount := some one, counterparty := some "a/b/c" }

end Sample

namespace Replay

/-- The address is read as that of the user `a`, whose account it reaches. -/
theorem written_address_reaches_sample :
    let step : Step :=
      ⟨.ok (Sample.opening "a" "b/c"), (applyRows (Sample.alike.take 1) Sample.outset).2⟩
    let id := (Stamp.series 1 2).account
    let r := (applyRows Sample.alike Sample.outset).2
    let next := (applyRow (.ok Sample.payment) r).2
    step.Brings (Holds id) (steps Sample.alike Sample.outset) ∧ step.result = .done ∧
      (applyRow (.ok Sample.payment) r).1 = .done ∧ ∃ amount : Amount, amount.value = Sample.one ∧
        CreditedAt amount r.teller.bank.ledger.accounts next.teller.bank.ledger.accounts id := by
  intro step id r next
  have hbrings : step.Brings (Holds id) (steps Sample.alike Sample.outset) := by
    refine ⟨by decide +kernel, steps (Sample.alike.take 1) Sample.outset,
      steps (Sample.alike.drop 2) step.after, rfl, by decide +kernel⟩
  have hdone : step.result = .done := by decide +kernel
  have hpaid : (applyRow (.ok Sample.payment) r).1 = .done := by decide +kernel
  obtain ⟨-, -, hcredits⟩ := written_address_reaches ⟨.zero, 2, 64⟩ (Stamp.series 1) Sample.alike
    hbrings rfl hdone
  obtain ⟨amount, source, hamount, -, -, hcredit, -⟩ :=
    hcredits (by decide) (by decide) Sample.payment rfl rfl hpaid
  exact ⟨hbrings, hdone, hpaid, amount, (Option.some.inj hamount).symm, hcredit⟩

/-- A transfer to the address of an account, as it is written, need not reach the account. -/
theorem written_address_not_always_reaches :
    ¬∀ (rules : Rules) (stamps : Nat → Stamp) (rows : List (Except Csv.Fault Operation))
        (step : Step) (op pay : Operation) (id : AccountId),
      step.Brings (Holds id) (steps rows (start (Desk.start rules stamps))) → step.row = .ok op →
      op.kind = .opening → step.result = .done → pay.kind = .transfer →
      pay.counterparty = some (op.user ++ "/" ++ op.account) →
        let r := (applyRows rows (start (Desk.start rules stamps))).2
        let next := (applyRow (.ok pay) r).2
        (applyRow (.ok pay) r).1 = .done →
          next.teller.bank.ledger.accounts[id]? ≠ r.teller.bank.ledger.accounts[id]? := by
  intro h
  let step : Step := ⟨.ok (Sample.opening "a/b" "c"), Sample.outset⟩
  let id := (Stamp.series 1 0).account
  have hbrings : step.Brings (Holds id) (steps Sample.alike Sample.outset) := by
    refine ⟨by decide +kernel, [], steps (Sample.alike.drop 1) step.after, rfl, by decide +kernel⟩
  have hmissed := h ⟨.zero, 2, 64⟩ (Stamp.series 1) Sample.alike step (Sample.opening "a/b" "c")
    Sample.payment id hbrings rfl rfl (by decide +kernel) rfl (by decide) (by decide +kernel)
  exact hmissed (by decide +kernel)

end Replay

end Cashbook
