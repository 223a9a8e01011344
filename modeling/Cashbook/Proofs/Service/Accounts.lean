/-
When accounts are opened and closed, and cards issued and revoked.

These four calls go the same way.  Each looks at who is asking and at the rows that the request
names, and ends with a change that looks at some of these rows again.  `Plan.Settles` says what
is to be known about such a call: when it succeeds, what it has then done to the ledger, and that
it has otherwise done nothing.  The callers stay who they are in any case.

When the calls succeed is known already (`openAccount_ok_iff` and its like), in terms of the
change that is made.  Here the change is spelled out, table by table.  The one that takes an
argument is the closing of an account: its cards are found by account in a table that is kept by
number, and none of them leads anywhere afterwards.
-/
import Cashbook.Proofs.Rules
import Cashbook.Proofs.Service.Conclusion
import Cashbook.Proofs.Service.CriticalSection
import Cashbook.Proofs.Service.Success

namespace Cashbook

/-- A number that no card has leads nowhere. -/
theorem Ledger.errors_of_unused {ledger : Ledger} {number : CardNumber}
    (h : ledger.cards[number]? = none) : ledger.card number = .error (.notFound (.card number)) ∧
      ledger.accountOfCard number = .error (.notFound (.accountOfCard number)) := by
  simp [card, accountOfCard, h]

namespace Plan

variable {α : Type} {stamp : Stamp} {bank : Bank} {identity : String}

/-- A plan succeeds exactly under a condition, has then had an effect, and has none if it fails. -/
structure Settles (plan : Plan α) (stamp : Stamp) (bank : Bank) (condition : Prop)
    (effect : α → Ledger → Prop) : Prop where
  succeeds : (∃ value, (plan.run stamp bank).1 = .ok value) ↔ condition
  changes : ∀ value, (plan.run stamp bank).1 = .ok value →
    effect value (plan.run stamp bank).2.ledger
  registry : (plan.run stamp bank).2.registry = bank.registry
  fails : ∀ failure, (plan.run stamp bank).1 = .error failure → (plan.run stamp bank).2 = bank

/-- A plan that ends with its change settles what can be told from how it succeeds. -/
theorem settles_of_ok_iff {plan : Plan α} {wrap : α → Reply} {made : α → Bank → Prop}
    {condition : Prop} {effect : α → Ledger → Prop} (hconcludes : plan.Concludes wrap)
    (hok : ∀ value changed, plan.run stamp bank = (.ok value, changed) ↔ made value changed)
    (hpossible : condition → ∃ value changed, made value changed)
    (hmade : ∀ value changed, made value changed →
      condition ∧ effect value changed.ledger ∧ changed.registry = bank.registry) :
    plan.Settles stamp bank condition effect := by
  have hrun : ∀ value, (plan.run stamp bank).1 = .ok value → made value (plan.run stamp bank).2 :=
    fun value hvalue => (hok value _).1 (Prod.ext hvalue rfl)
  have hfails : ∀ failure, (plan.run stamp bank).1 = .error failure → (plan.run stamp bank).2 = bank :=
    fun failure hfailure => hconcludes.bank_of_error (Prod.ext hfailure rfl)
  refine ⟨⟨?_, ?_⟩, ?_, ?_, hfails⟩
  · intro h
    obtain ⟨value, hvalue⟩ := h
    exact (hmade value _ (hrun value hvalue)).1
  · intro h
    obtain ⟨value, changed, hvalue⟩ := hpossible h
    exact ⟨value, congrArg Prod.fst ((hok value changed).2 hvalue)⟩
  · intro value hvalue
    exact (hmade value _ (hrun value hvalue)).2.1
  · cases houtcome : (plan.run stamp bank).1 with
    | ok value => exact (hmade value _ (hrun value houtcome)).2.2
    | error failure => rw [hfails failure houtcome]

/-! ### Accounts -/

/-- An account is opened for a caller who is known, under a name that is neither empty nor too long. -/
theorem settles_openAccount (rules : Rules) (identity : String) (request : OpeningRequest)
    (hfresh : bank.ledger.accounts[stamp.account]? = none) :
    (openAccount rules identity request).Settles stamp bank
      ((∃ owner, bank.registry.resolve identity = .ok owner) ∧ Text.trim request.name ≠ "" ∧
        (Text.trim request.name).length ≤ rules.nameLength ∧
          ∃ currency, Currency.parse request.currency = .ok currency)
      fun row after => ∃ owner currency, bank.registry.resolve identity = .ok owner ∧
        Currency.parse request.currency = .ok currency ∧
          row = ⟨stamp.account, owner, Text.trim request.name, currency, .zero, stamp.time⟩ ∧
            after = { bank.ledger with accounts := bank.ledger.accounts.insert stamp.account row } := by
  refine settles_of_ok_iff (concludes_openAccount rules identity request)
    (fun _ _ => openAccount_ok_iff) ?_ ?_
  · intro h
    obtain ⟨⟨owner, howner⟩, hname, hlength, currency, hcurrency⟩ := h
    have hopening : rules.opening request = .ok ⟨Text.trim request.name, currency⟩ :=
      Rules.opening_ok_iff.2 ⟨by simpa using hname, hlength, hcurrency, rfl⟩
    exact ⟨.opened stamp.account owner (Text.trim request.name) currency stamp.time,
      ⟨_, bank.registry⟩, _, hopening, rfl, owner, howner, rfl, ⟨hfresh, rfl⟩, rfl⟩
  · intro row changed h
    obtain ⟨opening, hopening, hrow, owner, howner, hentitled, ⟨-, hafter⟩, hregistry⟩ := h
    obtain ⟨hname, hlength, hcurrency, htrimmed⟩ := Rules.opening_ok_iff.1 hopening
    have hid : row.id = stamp.account := by rw [hrow]; rfl
    obtain rfl : row.owner = owner := hentitled
    refine ⟨⟨⟨_, howner⟩, by simpa using hname, hlength, _, hcurrency⟩,
      ⟨_, _, howner, hcurrency, ?_, ?_⟩, hregistry⟩
    · rw [← htrimmed]
      exact hrow
    · rw [hafter, hid]

/-- An account is closed for its owner if it holds no money, and takes its cards with it. -/
theorem settles_closeAccount (identity : String) (id : AccountId) (horder : bank.ledger.InOrder) :
    (closeAccount identity id).Settles stamp bank
      (∃ owner row, bank.registry.resolve identity = .ok owner ∧
        bank.ledger.accounts[id]? = some row ∧ row.owner = owner ∧ row.balance.units = 0)
      fun row after => bank.ledger.accounts[id]? = some row ∧
        after.accounts = bank.ledger.accounts.erase id ∧
          after.transactions = bank.ledger.transactions ∧
            (∀ number : CardNumber, after.cards[number]? =
              bank.ledger.cards[number]?.filter fun card => card.account != id) ∧
            ∀ (number : CardNumber) (card : Card), bank.ledger.cards[number]? = some card →
              card.account = id → after.card number = .error (.notFound (.card number)) ∧
                after.accountOfCard number = .error (.notFound (.accountOfCard number)) := by
  refine settles_of_ok_iff (concludes_closeAccount identity id)
    (fun _ _ => closeAccount_row_iff horder) ?_ ?_
  · intro h
    obtain ⟨owner, row, howner, hrow, howned, hzero⟩ := h
    exact ⟨row, ⟨_, bank.registry⟩, hrow, owner, howner, ⟨row, hrow, howned⟩,
      ⟨⟨row, hrow, Decimal.isZero_iff.2 hzero⟩, rfl⟩, rfl⟩
  · intro row changed h
    obtain ⟨hrow, owner, howner, ⟨same, hsame, howned⟩, ⟨⟨found, hfound, hzero⟩, hafter⟩, hregistry⟩ := h
    obtain rfl := Option.some.inj (hrow.symm.trans hsame)
    obtain rfl := Option.some.inj (hrow.symm.trans hfound)
    refine ⟨⟨owner, row, howner, hrow, howned, Decimal.isZero_iff.1 hzero⟩, ?_, hregistry⟩
    have hcards : ∀ number : CardNumber, changed.ledger.cards[number]? =
        bank.ledger.cards[number]?.filter fun card => card.account != id := by
      rw [hafter]
      exact Ledger.cards_dropCards horder.cardsFiled id
    refine ⟨hrow, by rw [hafter], by rw [hafter]; rfl, hcards, ?_⟩
    intro number card hcard haccount
    exact Ledger.errors_of_unused (by simp [hcards, hcard, haccount])

/-! ### Cards -/

/-- A card is issued for an account of the caller if its number is not in use. -/
theorem settles_issueCard (identity : String) (id : AccountId) :
    (issueCard identity id).Settles stamp bank
      ((∃ owner, bank.registry.resolve identity = .ok owner ∧ bank.ledger.Owns owner id) ∧
        bank.ledger.cards[stamp.card]? = none)
      fun card after => card = ⟨stamp.card, id, stamp.time⟩ ∧
        after = { bank.ledger with cards := bank.ledger.cards.insert stamp.card card } := by
  refine settles_of_ok_iff (concludes_issueCard identity id) (fun _ _ => issueCard_ok_iff) ?_ ?_
  · intro h
    obtain ⟨⟨owner, howner, row, hrow, howned⟩, hfree⟩ := h
    exact ⟨_, ⟨_, bank.registry⟩, rfl, owner, howner, ⟨row, hrow, howned⟩, ⟨⟨row, hrow⟩, hfree, rfl⟩, rfl⟩
  · intro card changed h
    obtain ⟨rfl, owner, howner, howns, ⟨-, hfree, hafter⟩, hregistry⟩ := h
    exact ⟨⟨⟨owner, howner, howns⟩, hfree⟩, ⟨rfl, hafter⟩, hregistry⟩

/-- A card is revoked if it leads to an account of the caller. -/
theorem settles_removeCard (identity : String) (raw : String) :
    (removeCard identity raw).Settles stamp bank
      (∃ number card owner, CardNumber.read raw = .ok number ∧
        bank.ledger.cards[number]? = some card ∧ bank.registry.resolve identity = .ok owner ∧
          bank.ledger.Owns owner card.account)
      fun card after => ∃ number, CardNumber.read raw = .ok number ∧
        bank.ledger.cards[number]? = some card ∧
          after = { bank.ledger with cards := bank.ledger.cards.erase number } := by
  refine settles_of_ok_iff (concludes_removeCard identity raw) (fun _ _ => removeCard_ok_iff) ?_ ?_
  · intro h
    obtain ⟨number, card, owner, hnumber, hcard, howner, howns⟩ := h
    exact ⟨card, ⟨_, bank.registry⟩, number, hnumber, hcard, owner, howner, ⟨card, hcard, howns⟩,
      ⟨⟨card, hcard⟩, rfl⟩, rfl⟩
  · intro card changed h
    obtain ⟨number, hnumber, hcard, owner, howner, ⟨found, hfound, howns⟩, ⟨-, hafter⟩, hregistry⟩ := h
    obtain rfl := Option.some.inj (hcard.symm.trans hfound)
    exact ⟨⟨number, card, owner, hnumber, hcard, howner, howns⟩, ⟨number, hnumber, hcard, hafter⟩,
      hregistry⟩

/--
**What the calls about accounts and cards come to**, each made to a bank in order with nothing
else going on, and with an identifier that no account has.

  * An account is opened if and only if the caller is known, the name is neither empty nor too long
    without the white space around it, and the currency is one.  It is the caller's, has that name
    and no money, and is the only row that is new.
  * A card is issued if and only if the caller is known, the account is there and theirs, and the
    number is not in use.  It is the only row that is new.
  * A card is revoked if and only if the text is the number of a card of an account of the
    caller's.  It is the only row that is gone.
  * An account is closed if and only if the caller is known, it is there and theirs, and its
    balance denotes zero.  It is gone, and so are its cards and no others: their numbers lead
    nowhere.

Nothing else is different, and nothing at all where a call fails.
-/
theorem account_calls_exact (rules : Rules) (identity : String) (stamp : Stamp) (bank : Bank)
    (horder : bank.ledger.InOrder) (hfresh : bank.ledger.accounts[stamp.account]? = none) :
    (∀ request, (openAccount rules identity request).Settles stamp bank
      ((∃ owner, bank.registry.resolve identity = .ok owner) ∧ Text.trim request.name ≠ "" ∧
        (Text.trim request.name).length ≤ rules.nameLength ∧
          ∃ currency, Currency.parse request.currency = .ok currency)
      fun row after => ∃ owner currency, bank.registry.resolve identity = .ok owner ∧
        Currency.parse request.currency = .ok currency ∧
          row = ⟨stamp.account, owner, Text.trim request.name, currency, .zero, stamp.time⟩ ∧
            after = { bank.ledger with accounts := bank.ledger.accounts.insert stamp.account row }) ∧
    (∀ id, (issueCard identity id).Settles stamp bank
      ((∃ owner, bank.registry.resolve identity = .ok owner ∧ bank.ledger.Owns owner id) ∧
        bank.ledger.cards[stamp.card]? = none)
      fun card after => card = ⟨stamp.card, id, stamp.time⟩ ∧
        after = { bank.ledger with cards := bank.ledger.cards.insert stamp.card card }) ∧
    (∀ raw, (removeCard identity raw).Settles stamp bank
      (∃ number card owner, CardNumber.read raw = .ok number ∧
        bank.ledger.cards[number]? = some card ∧ bank.registry.resolve identity = .ok owner ∧
          bank.ledger.Owns owner card.account)
      fun card after => ∃ number, CardNumber.read raw = .ok number ∧
        bank.ledger.cards[number]? = some card ∧
          after = { bank.ledger with cards := bank.ledger.cards.erase number }) ∧
    ∀ id, (closeAccount identity id).Settles stamp bank
      (∃ owner row, bank.registry.resolve identity = .ok owner ∧
        bank.ledger.accounts[id]? = some row ∧ row.owner = owner ∧ row.balance.units = 0)
      fun row after => bank.ledger.accounts[id]? = some row ∧
        after.accounts = bank.ledger.accounts.erase id ∧
          after.transactions = bank.ledger.transactions ∧
            (∀ number : CardNumber, after.cards[number]? =
              bank.ledger.cards[number]?.filter fun card => card.account != id) ∧
            ∀ (number : CardNumber) (card : Card), bank.ledger.cards[number]? = some card →
              card.account = id → after.card number = .error (.notFound (.card number)) ∧
                after.accountOfCard number = .error (.notFound (.accountOfCard number)) :=
  ⟨fun request => settles_openAccount rules identity request hfresh,
    settles_issueCard identity, settles_removeCard identity,
    fun id => settles_closeAccount identity id horder⟩

/-- Of two accounts the empty one is closed, together with its card, and the other is not. -/
theorem account_calls_exact_sample :
    let stamp := Stamp.series 100 0
    let opened := (openAccount ⟨.zero, 2, 64⟩ "alice" ⟨" rent ", "eur"⟩).run stamp Sample.branch
    let revoked := (removeCard "alice" (CardNumber.ofSerial 1).toText).run stamp Sample.branch
    let closed := (closeAccount "alice" Sample.bob).run stamp Sample.branch
    let kept := (closeAccount "alice" Sample.alice).run stamp Sample.branch
    (∃ row, opened.1 = .ok row ∧ row.name = Text.trim " rent ") ∧ (∃ card, revoked.1 = .ok card) ∧
      ((∃ row, closed.1 = .ok row) ∧ closed.2.ledger.accountOfCard (.ofSerial 2) =
        .error (.notFound (.accountOfCard (.ofSerial 2)))) ∧
        kept.2 = Sample.branch := by
  intro stamp opened revoked closed kept
  have horder : Sample.branch.ledger.InOrder := (Ledger.inOrder_and_transfersDistinct_after
    Sample.cardsIssued Ledger.wellFormed_empty.toInOrder Ledger.wellFormed_empty.transfersDistinct).1
  obtain ⟨hopen, -, hremove, hclose⟩ := account_calls_exact ⟨.zero, 2, 64⟩ "alice" stamp
    Sample.branch horder (by decide +kernel)
  have howner : Sample.branch.registry.resolve "alice" = .ok ⟨.ofNat 7⟩ :=
    ok_of_toOption (by decide +kernel)
  have hbob : Sample.branch.ledger.accounts[Sample.bob]? = some (Sample.account Sample.bob) := by
    decide +kernel
  have halice : Sample.branch.ledger.accounts[Sample.alice]? =
      some { Sample.account Sample.alice with balance := ⟨Sample.price.value, by decide⟩ } := by
    decide +kernel
  refine ⟨?_, ?_, ?_, ?_⟩
  · obtain ⟨row, hrow⟩ := (hopen ⟨" rent ", "eur"⟩).succeeds.2
      ⟨⟨_, howner⟩, by decide +kernel, by decide +kernel, .eur, ok_of_toOption (by decide +kernel)⟩
    obtain ⟨owner, currency, -, -, hmade, -⟩ := (hopen _).changes row hrow
    exact ⟨row, hrow, by rw [hmade]⟩
  · exact (hremove _).succeeds.2 ⟨.ofSerial 1, ⟨.ofSerial 1, Sample.alice, .ofMillis 0⟩, _,
      CardNumber.read_toText (by decide +kernel), by decide +kernel, howner, _, halice, rfl⟩
  · have hclosed := (hclose Sample.bob).succeeds.2 ⟨_, _, howner, hbob, rfl, by decide⟩
    obtain ⟨row, hrow⟩ := hclosed
    obtain ⟨-, -, -, -, hnowhere⟩ := (hclose Sample.bob).changes row hrow
    exact ⟨⟨row, hrow⟩, (hnowhere (.ofSerial 2) ⟨.ofSerial 2, Sample.bob, .ofMillis 0⟩
      (by decide +kernel) rfl).2⟩
  · have hrefused : ¬∃ row, kept.1 = .ok row := by
      intro hsucceeds
      obtain ⟨owner, row, -, hrow, -, hzero⟩ := (hclose Sample.alice).succeeds.1 hsucceeds
      obtain rfl := Option.some.inj (halice.symm.trans hrow)
      exact absurd hzero (by decide)
    cases houtcome : kept.1 with
    | ok row => exact absurd ⟨row, houtcome⟩ hrefused
    | error failure => exact (hclose Sample.alice).fails failure houtcome

end Plan

end Cashbook
