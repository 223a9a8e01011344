/-
Transactions are read back as they were written.

What a transaction is written as is an object of five members, one of which is an object
itself.  Each member is read back because its own form is: identifiers by their digits, the
amount by its numeral, the instant by its date and time.  What is left is to find the members
again, and they are found by their names, of which no two are the same.
-/
import Cashbook.Json.Rows
import Cashbook.Proofs.Instant.Text
import Cashbook.Proofs.Json.Text

namespace Cashbook

/-- The name of a kind of transaction is that of no other. -/
theorem TransactionType.ofName?_name (type : TransactionType) : ofName? type.name = some type := by
  cases type <;> decide

/-- A decimal that is taken for an amount is kept with its scale, and positive. -/
theorem Amount.ofDecimal?_eq_some_iff {value : Decimal} {amount : Amount} :
    ofDecimal? value = some amount ↔ value = amount.value := by
  constructor
  · intro h
    unfold ofDecimal? at h
    split at h
    · rw [← Option.some.inj h]
    · cases h
  · rintro rfl
    exact dif_pos amount.pos

namespace Json

/-! ### Values -/

theorem asId?_toText {kind : IdKind} (id : Id kind) : asId? (.text (some id.toText)) = some id := by
  rw [asId?, asText?, Option.bind_some, Id.toText, Uuid.ofText?_toText, Option.map_some]

/-- What is read as an amount is read as the decimal that it is. -/
theorem asAmount?_eq_some_iff {value : Json} {amount : Amount} :
    asAmount? value = some amount ↔ value.asDecimal? = some amount.value := by
  rw [asAmount?, Option.bind_eq_some_iff]
  simp only [Amount.ofDecimal?_eq_some_iff, exists_eq_right]

theorem asAmount?_toText (amount : Amount) :
    asAmount? (.text (some amount.value.toText)) = some amount := by
  have hread : Decimal.read? amount.value.toText = some amount.value := by
    rw [Decimal.read?, ← Decimal.parse?, Decimal.parse?_toText]
    rfl
  rw [asAmount?_eq_some_iff, asDecimal?, hread]

theorem asInstant?_toText {t : Instant} (hreached : t.InCalendar) (hclock : t.OnClock) :
    asInstant? (.text (some t.toText)) = some t := by
  rw [asInstant?, asText?, Option.bind_some, Instant.ofText?_toText hreached hclock]

/-! ### Records -/

/-- A member is found by its name if no other has it. -/
theorem member?_of_mem {members : List Member} (hnames : (members.map Member.name).Nodup)
    {m : Member} (hm : m ∈ members) : member? (members.map Member.read) m.name = some (some m.value) := by
  have hfound : (members.map Member.read).filter (fun other => other.1 == some m.name) = [m.read] := by
    induction members with
    | nil => cases hm
    | cons first rest ih =>
        rw [List.map_cons, List.nodup_cons] at hnames
        obtain ⟨hfirst, hrest⟩ := hnames
        rw [List.map_cons]
        rcases List.mem_cons.1 hm with rfl | hmore
        · have hnone : (rest.map Member.read).filter (fun other => other.1 == some m.name) = [] := by
            refine List.filter_eq_nil_iff.2 fun other hother hsame => hfirst ?_
            obtain ⟨found, hfound, rfl⟩ := List.mem_map.1 hother
            exact List.mem_map.2 ⟨found, hfound, Option.some.inj (eq_of_beq hsame)⟩
          rw [List.filter_cons, if_pos (show (m.read.1 == some m.name) = true from beq_self_eq_true _),
            hnone]
        · have hother : ¬(first.read.1 == some m.name) = true := fun hsame =>
            hfirst (List.mem_map.2 ⟨m, hmore, (Option.some.inj (eq_of_beq hsame)).symm⟩)
          rw [List.filter_cons, if_neg hother, ih hrest hmore]
  rw [member?, hfound]
  rfl

/-- Members with different names are taken out one by one. -/
theorem fields?_members {members : List Member} (hnames : (members.map Member.name).Nodup) :
    fields? (members.map Member.name) (.object (members.map Member.read)) =
      some (members.map fun m => some m.value) := by
  have hnamed : ((members.map Member.read).all fun m => m.1.isSome) = true := by
    rw [List.all_map]
    exact List.all_eq_true.2 fun m _ => rfl
  have htaken : (members.map Member.name).mapM (member? (members.map Member.read)) =
      some (members.map fun m => some m.value) :=
    Text.mapM_map_eq_some_map fun m hm => member?_of_mem hnames hm
  rw [fields?, if_pos hnamed, htaken]

/-- A text as a member. -/
def Member.ofText (name text : String) : Member :=
  ⟨name, showText text, .text (some text), reads_showText text⟩

/-! ### Kinds of transaction -/

/-- The accounts of a kind of transaction, by their names. -/
def kindAccounts (kind : TransactionKind) : List Member :=
  List.zipWith (fun name account => Member.ofText name account.toText) (accountNames kind.type)
    kind.accounts

/-- The members of a kind of transaction. -/
def kindMembers (kind : TransactionKind) : List Member :=
  Member.ofText "type" kind.type.name :: kindAccounts kind

theorem showKind_eq (kind : TransactionKind) :
    showKind kind = showObject ((kindMembers kind).map fun m => (m.name, m.chars)) := by
  cases kind <;> rfl

theorem map_name_kindAccounts (kind : TransactionKind) :
    (kindAccounts kind).map Member.name = accountNames kind.type := by
  cases kind <;> rfl

theorem map_value_kindAccounts (kind : TransactionKind) :
    (kindAccounts kind).map Member.value = kind.accounts.map fun account => .text (some account.toText) := by
  cases kind <;> rfl

/-- No account is taken for another, or for the type. -/
theorem nodup_accountNames (type : TransactionType) : ("type" :: accountNames type).Nodup := by
  cases type <;> decide

/-- The type is told from the accounts, wherever it stands. -/
theorem partition_kindMembers (kind : TransactionKind) :
    ((kindMembers kind).map Member.read).partition (fun m => m.1 == some "type") =
      ([(some "type", .text (some kind.type.name))], (kindAccounts kind).map Member.read) := by
  have hothers : ∀ m ∈ (kindAccounts kind).map Member.read, ¬(m.1 == some "type") = true := by
    intro m hm htype
    obtain ⟨account, haccount, rfl⟩ := List.mem_map.1 hm
    refine (List.nodup_cons.1 (nodup_accountNames kind.type)).1 ?_
    rw [← map_name_kindAccounts]
    exact List.mem_map.2 ⟨account, haccount, Option.some.inj (eq_of_beq htype)⟩
  have hkept : ∀ m ∈ (kindAccounts kind).map Member.read, (!(m.1 == some "type")) = true := fun m hm => by
    rw [Bool.eq_false_iff.2 (hothers m hm)]
    rfl
  rw [List.partition_eq_filter_filter, kindMembers, List.map_cons, List.filter_cons, List.filter_cons,
    List.filter_eq_nil_iff.2 hothers]
  exact congrArg _ (List.filter_eq_self.2 hkept)

theorem asKind?_kindMembers (depth : Nat) (kind : TransactionKind) :
    asKind? depth (.object ((kindMembers kind).map Member.read)) = some kind := by
  have htype : (Json.text (some kind.type.name)).asText?.bind TransactionType.ofName? = some kind.type :=
    TransactionType.ofName?_name kind.type
  have hplain : (((kindAccounts kind).map Member.read).all fun m => m.1.isSome && m.2.isPlain depth) =
      true := by
    refine List.all_eq_true.2 fun member hmember => ?_
    obtain ⟨account, haccount, rfl⟩ := List.mem_map.1 hmember
    have hvalue := List.mem_map_of_mem (f := Member.value) haccount
    rw [map_value_kindAccounts] at hvalue
    obtain ⟨id, -, hid⟩ := List.mem_map.1 hvalue
    show isPlain depth account.value = true
    rw [← hid]
    cases depth <;> rfl
  have hnames : ((kindAccounts kind).map Member.name).Nodup := by
    rw [map_name_kindAccounts]
    exact (List.nodup_cons.1 (nodup_accountNames kind.type)).2
  have hfields := fields?_members hnames
  have haccounts : ((kindAccounts kind).map fun m => some m.value).mapM (required asId?) =
      some kind.accounts := by
    have hread : ∀ account ∈ kind.accounts,
        required asId? ((some ∘ fun account => Json.text (some account.toText)) account) =
          some account := fun account _ => by
      rw [Function.comp_apply, required, asId?_toText]
    show ((kindAccounts kind).map (some ∘ Member.value)).mapM (required asId?) = some kind.accounts
    rw [← List.map_map, map_value_kindAccounts, List.map_map, Text.mapM_map_eq_some hread]
  rw [map_name_kindAccounts] at hfields
  simp only [asKind?, partition_kindMembers, htype, hplain, hfields, haccounts, Option.bind_eq_bind,
    Option.bind_some, if_true]
  cases kind <;> rfl

/-! ### Transactions -/

/-- The members of a transaction. -/
def transactionMembers (tx : Transaction) : List Member :=
  [Member.ofText "id" tx.id.toText, Member.ofText "amount" tx.amount.value.toText,
    ⟨"kind", showKind tx.kind, .object ((kindMembers tx.kind).map Member.read),
      showKind_eq tx.kind ▸ reads_showObject _⟩,
    ⟨"rolled_back", showBool tx.rolledBack, .bool tx.rolledBack, reads_showBool _⟩,
    Member.ofText "created_at" tx.createdAt.toText]

theorem asTransaction?_transactionMembers {tx : Transaction} (hreached : tx.createdAt.InCalendar)
    (hclock : tx.createdAt.OnClock) :
    asTransaction? (.object ((transactionMembers tx).map Member.read)) = some tx := by
  have hnames : ((transactionMembers tx).map Member.name).Nodup := by
    show ["id", "amount", "kind", "rolled_back", "created_at"].Nodup
    decide
  have hfields : fields? ["id", "amount", "kind", "rolled_back", "created_at"]
      (.object ((transactionMembers tx).map Member.read)) =
        some ((transactionMembers tx).map fun m => some m.value) := fields?_members hnames
  rw [asTransaction?, hfields]
  simp only [transactionMembers, Member.ofText, List.map_cons, List.map_nil,
    Option.bind_eq_bind, Option.bind_some, required, asId?_toText, asAmount?_toText,
    asKind?_kindMembers, asBool?, asInstant?_toText hreached hclock]

/-- The amount that a document gives, whatever else it says. -/
def amountGiven? (value : Json) : Option Decimal := do
  match ← fields? ["id", "amount", "kind", "rolled_back", "created_at"] value with
  | [_, amount, _, _, _] => required asDecimal? amount
  | _ => none

/-- The amount of a transaction is the one that its document gives. -/
theorem amountGiven?_of_asTransaction? {value : Json} {tx : Transaction}
    (h : asTransaction? value = some tx) : amountGiven? value = some tx.amount.value := by
  obtain ⟨fields, hfields, h⟩ := Option.bind_eq_some_iff.1 h
  rw [amountGiven?, hfields]
  split at h
  · next id amount kind rolledBack createdAt =>
    obtain ⟨id, -, h⟩ := Option.bind_eq_some_iff.1 h
    obtain ⟨accepted, hamount, h⟩ := Option.bind_eq_some_iff.1 h
    obtain ⟨kind, -, h⟩ := Option.bind_eq_some_iff.1 h
    obtain ⟨rolledBack, -, h⟩ := Option.bind_eq_some_iff.1 h
    obtain ⟨createdAt, -, h⟩ := Option.bind_eq_some_iff.1 h
    obtain rfl := Option.some.inj h
    cases amount with
    | none => cases hamount
    | some given => exact asAmount?_eq_some_iff.1 hamount
  · cases h

/-! ### The whole -/

/-- The text of a transaction. -/
def textOf (tx : Transaction) : String :=
  String.ofList (showTransaction tx)

/--
**A transaction is read back as it was written**, its amount with its scale, whatever instant a
clock may show within the calendar.  And whatever text is read as a transaction, its amount is
the decimal that the text gives, and positive.
-/
theorem transaction_read_back :
    (∀ tx : Transaction, tx.createdAt.InCalendar → tx.createdAt.OnClock →
      decodeText? asTransaction? (textOf tx) = some tx) ∧
    ∀ text tx, decodeText? asTransaction? text = some tx →
      decodeText? amountGiven? text = some tx.amount.value ∧ 0 < tx.amount.value.units := by
  refine ⟨fun tx hreached hclock => ?_, fun text tx h => ?_⟩
  · have hread : read? (showTransaction tx) = some (.object ((transactionMembers tx).map Member.read)) :=
      read?_of_reads (reads_showObject (transactionMembers tx))
    rw [decodeText?, textOf, String.toList_ofList, hread, Option.bind_some,
      asTransaction?_transactionMembers hreached hclock]
  · obtain ⟨value, hvalue, hdecoded⟩ := Option.bind_eq_some_iff.1 h
    refine ⟨?_, tx.amount.pos⟩
    rw [decodeText?, hvalue, Option.bind_some, amountGiven?_of_asTransaction? hdecoded]

/-- A transfer at the edges: as many digits as there are, and the first day of the calendar. -/
def earliest : Transaction :=
  { id := ⟨Uuid.ofNat 1⟩
    amount := ⟨⟨Decimal.limit - 2, 28, by decide, Nat.le_refl 28⟩, by decide⟩
    kind := .transfer ⟨Uuid.ofNat 2⟩ ⟨Uuid.ofNat 3⟩
    rolledBack := true
    createdAt := Instant.ofMillis (-8334601228799999) }

theorem transaction_read_back_earliest :
    earliest.createdAt.InCalendar ∧ decodeText? asTransaction? (textOf earliest) = some earliest ∧
      decodeText? amountGiven? (textOf earliest) = some earliest.amount.value ∧
        0 < earliest.amount.value.units := by
  have hreached : earliest.createdAt.InCalendar := by decide
  have hread := transaction_read_back.1 earliest hreached (Instant.onClock_ofMillis _)
  exact ⟨hreached, hread, transaction_read_back.2 (textOf earliest) earliest hread⟩

example : textOf earliest =
    "\x7b\"id\":\"00000000-0000-0000-0000-000000000001\"," ++
      "\"amount\":\"7.9228162514264337593543950334\"," ++
      "\"kind\":\x7b\"type\":\"transfer\"," ++
        "\"source\":\"00000000-0000-0000-0000-000000000002\"," ++
        "\"destination\":\"00000000-0000-0000-0000-000000000003\"\x7d," ++
      "\"rolled_back\":true,\"created_at\":\"-262143-01-01T00:00:00.001Z\"\x7d" := by
  decide +kernel

end Json

end Cashbook
