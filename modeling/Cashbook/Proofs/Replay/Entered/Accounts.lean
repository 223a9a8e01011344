/-
Accounts are opened and closed where they are in the book.

The work on a row is run beside its entry in the book, task by task.  Where the entry has a
next step so has the task, and where the entry ends the task fails, with the book as it was:
whatever a task that fails has done by then, callers that have become known and accounts that
are remembered, the book does not speak of.
-/
import Cashbook.Proofs.Replay.Stands

namespace Cashbook

variable {α γ : Type} {users : List String} {rules : Rules} {stamps : Nat → Stamp} {count : Nat}
  {book : Book} {address : Address} {handle : Handle} {op : Operation} {plan : Rules → Plan α}
  {P E : Replay Desk → Prop}

namespace Task

open Replay

/-- A call succeeds where the computation does, and then goes to where the call leads. -/
theorem matches_serve {o : Option γ} {S : α → γ → Replay Desk → Prop} {wrap : α → Reply}
    (hplan : ∀ rules, (plan rules).Concludes wrap)
    (hok : ∀ r, P r → ∀ value changed,
      (plan r.teller.rules).run r.stamp r.teller.bank = (.ok value, changed) →
        ∃ other, o = some other ∧
          S value other (r.settle changed (r.teller.usedAfter (plan r.teller.rules))))
    (hsome : ∀ r, P r → ∀ other, o = some other →
      ∃ value changed, (plan r.teller.rules).run r.stamp r.teller.bank = (.ok value, changed))
    (hnone : ∀ r, P r → o = none →
      E (r.settle r.teller.bank (r.teller.usedAfter (plan r.teller.rules)))) :
    Matches P (Replay.serve plan) o S E := by
  intro r hr
  rw [on_serve_desk]
  rcases hrun : (plan r.teller.rules).run r.stamp r.teller.bank with ⟨outcome, changed⟩
  cases outcome with
  | ok value => exact .ok (hok r hr value changed hrun)
  | error failure =>
      obtain rfl := (hplan r.teller.rules).bank_of_error hrun
      have ho : o = none := by
        rw [Option.eq_none_iff_forall_ne_some]
        intro other hother
        obtain ⟨value, after, hvalue⟩ := hsome r hr other hother
        rw [hrun] at hvalue
        cases (Prod.mk.inj hvalue).1
      exact .error ⟨ho, hnone r hr ho⟩

/-! ### Looking accounts up -/

section

variable {F : Bank → Prop}

/-- Looking up comes to the handle that leads to the account, if there is one. -/
theorem matches_lookup (hdistinct : OwnersDistinct users) (huser : address.user ∈ users)
    (hF : ∀ (bank : Bank) (user : String), F bank →
      F { bank with registry := (bank.registry.register user).2 }) :
    Matches (fun r => r.Stands users rules stamps count none book ∧ F r.teller.bank)
      (Replay.lookup address) (some book.entries[address]?)
      (fun found entry? r => entry? = book.entries[address]? ∧
        r.Stands users rules stamps count none book ∧ F r.teller.bank ∧
          address.Finds r.teller.bank found ∧ found.isSome = entry?.isSome) E := by
  intro r hr
  obtain ⟨hstands, hknown⟩ := hr
  have hleads : Leads _ (Replay.lookup address) _ _ := leads_lookup huser
  cases hentry : book.entries[address]? with
  | some entry =>
      obtain ⟨handle, hhandle⟩ := hstands.exists_leadsTo hdistinct hentry
      obtain ⟨handles, hon⟩ := on_lookup_of_leadsTo hstands.sound hhandle
      obtain ⟨hsound, hfinds⟩ := hleads.of_ok hstands.sound hon
      rw [hon]
      exact .ok ⟨some entry, rfl, rfl, hstands.remembering hsound, hknown, hfinds, rfl⟩
  | none =>
      have hnone : r.handles[address]? = none := by
        rw [Option.eq_none_iff_forall_ne_some]
        intro handle hhandle
        have hnames := (hstands.sound.remembered address handle hhandle).toNames
        obtain ⟨row, hrow, -⟩ := hnames.account
        rw [hstands.entry_eq hdistinct hnames hrow] at hentry
        cases hentry
      have hon := on_find_of_isFree hstands.sound huser (hstands.isFree huser hentry)
      rw [← on_lookup_of_none hnone] at hon
      obtain ⟨-, hfinds⟩ := hleads.of_ok hstands.sound hon
      rw [hon]
      exact .ok ⟨none, rfl, rfl, hstands.register huser, hF _ _ hknown, hfinds, rfl⟩

theorem matches_require (hdistinct : OwnersDistinct users) (huser : address.user ∈ users)
    (hF : ∀ (bank : Bank) (user : String), F bank →
      F { bank with registry := (bank.registry.register user).2 }) :
    Matches (fun r => r.Stands users rules stamps count none book ∧ F r.teller.bank)
      (Replay.require address) book.entries[address]?
      (fun handle entry r => book.entries[address]? = some entry ∧
        r.Stands users rules stamps count none book ∧ F r.teller.bank ∧
          address.LeadsTo r.teller.bank handle)
      (·.Stands users rules stamps (count + 1) none book) := by
  show Matches _ _ (some book.entries[address]? >>= fun entry? => entry?) _ _
  refine (matches_lookup hdistinct huser hF).bind fun found entry? r hr => ?_
  obtain ⟨rfl, hstands, hknown, hfinds, hsame⟩ := hr
  cases hentry : book.entries[address]? with
  | some entry =>
      rw [hentry] at hsame
      obtain ⟨handle, rfl⟩ := Option.isSome_iff_exists.1 hsame
      exact matches_pure (fun s hs => by obtain rfl := hs; exact ⟨rfl, hstands, hknown, hfinds⟩) r rfl
  | none =>
      rw [hentry] at hsame
      obtain rfl := Option.not_isSome_iff_eq_none.1 (by simpa using hsame)
      exact matches_refuse (fun s hs => by obtain rfl := hs; exact hstands.mono (Nat.le_succ _)) r rfl

end

/-- The account of the caller. -/
theorem matches_requireOwn (hdistinct : OwnersDistinct users) (huser : op.user ∈ users) :
    Matches (·.Stands users rules stamps count none book) (Replay.require (addressOf op))
      book.entries[addressOf op]?
      (fun handle entry r => book.entries[addressOf op]? = some entry ∧
        r.Stands users rules stamps count none book ∧ (addressOf op).LeadsTo r.teller.bank handle)
      (·.Stands users rules stamps (count + 1) none book) :=
  (matches_require (F := fun _ => True) hdistinct huser fun _ _ _ => trivial).mono
    (fun _ hr => ⟨hr, trivial⟩) (fun _ _ _ hr => ⟨hr.1, hr.2.1, hr.2.2.2⟩) fun _ hr => hr

theorem matches_amountOf (h : ∀ r, P r → E r) :
    Matches P (Replay.amountOf op) op.amount (fun found other r => found = other ∧ P r) E :=
  matches_demand h

/-! ### Openings -/

/-- The account is opened where the request is one that the rules let through. -/
theorem matches_openAccount_call (hdistinct : OwnersDistinct users)
    (hfresh : Fresh stamps (count + 1)) (htrim : op.IsTrimmed) (huser : op.user ∈ users)
    (currency : String) :
    Matches (fun r => r.Stands users rules stamps count none book ∧
        (addressOf op).Finds r.teller.bank none)
      (Replay.serve fun rules => Plan.openAccount rules op.user ⟨op.account, currency⟩)
      (rules.opening ⟨op.account, currency⟩).toOption
      (fun row opening r => r.Stands users rules stamps (count + 1) (some row.id)
          { book with entries := book.entries.insert (addressOf op) ⟨opening.currency, .zero⟩ } ∧
        (addressOf op).Names r.teller.bank row.id ∧ r.teller.bank.ledger.Cardless row.id)
      (·.Stands users rules stamps (count + 1) none book) := by
  refine matches_serve (fun rules => Plan.concludes_openAccount rules op.user _) ?_ ?_ fun r hr _ =>
    hr.1.idle _
  · intro r hr row changed hrun
    obtain ⟨hstands, hfinds⟩ := hr
    have hon := on_serve_desk (fun rules => Plan.openAccount rules op.user ⟨op.account, currency⟩) r
    rw [hrun] at hon
    obtain ⟨-, hnames, hcardless⟩ :=
      (leads_openAccount_call htrim currency).of_ok ⟨hstands.sound, hfinds⟩ hon
    have hused := Desk.usedAfter_of_ok (Plan.draws_openAccount r.teller.rules op.user _) hrun
    obtain ⟨opening, hopening, hrow, hserves⟩ := Plan.openAccount_ok_iff.1 hrun
    rw [hstands.rules_eq] at hopening
    have hid : row.id = (stamps r.teller.used).account := by
      rw [hrow, ← hstands.stamp_eq]
      rfl
    have hentry : row.entry = ⟨opening.currency, .zero⟩ := by rw [hrow]; rfl
    have hname : row.name = op.account := by
      rw [hrow]
      exact (Rules.opening_ok_iff.1 hopening).2.2.2.trans htrim
    obtain ⟨owner, howner, hentitled, heffect, -⟩ := id hserves
    obtain ⟨rfl, -⟩ := hstands.sound.bank.knows howner
    have howner' : row.owner = ownerOf op.user := hentitled
    have hfree : r.teller.bank.ledger.NameFree row.owner row.name := by
      rw [howner', hname]
      exact hfinds.2
    refine ⟨opening, by rw [hopening]; rfl, ?_, hnames, hcardless⟩
    refine hstands.serve hserves hfree nofun nofun ?_ ?_ ?_
    · exact ⟨r.teller.used, by rw [hused]; exact Nat.lt_succ_self _, hid.symm⟩
    · refine hstands.carded.step hstands.sound.bank.tidy.cardsFiled heffect nofun ?_ nofun
      intro opened hopened
      rw [Option.some.inj hopened]
    · rw [← hentry]
      refine hstands.shows.create hdistinct heffect huser howner' hname hfree ?_
      intro key tx htx
      rw [hid]
      exact hstands.drawn.end_new hfresh (Nat.lt_succ_of_le hstands.used_le) htx
  · intro r hr opening hopening
    obtain ⟨hstands, hknows, -⟩ := hr
    have hnew := hstands.drawn.account_new hfresh (Nat.lt_succ_of_le hstands.used_le)
    rw [← hstands.stamp_eq] at hnew
    rw [← hstands.rules_eq] at hopening
    let row := Account.opened r.stamp.account (ownerOf op.user) opening.name opening.currency
      r.stamp.time
    refine ⟨row, { r.teller.bank with ledger := { r.teller.bank.ledger with
      accounts := r.teller.bank.ledger.accounts.insert row.id row } }, ?_⟩
    exact Plan.openAccount_ok_iff.2 ⟨opening, ok_of_toOption hopening, rfl, ownerOf op.user,
      Registry.resolve_ok_iff.2 hknows, rfl, ⟨hnew, rfl⟩, rfl⟩

/-- An account that has been opened gets its card. -/
theorem matches_issueCard (hfresh : Fresh stamps (count + 1)) (address : Address) (id : AccountId) :
    Matches (fun r => r.Stands users rules stamps count (some id) book ∧
        address.Names r.teller.bank id ∧ r.teller.bank.ledger.Cardless id)
      (Replay.serve fun _ => Plan.issueCard address.user id) (some book)
      (fun card book' r => r.Stands users rules stamps (count + 1) none book' ∧
        address.LeadsTo r.teller.bank ⟨id, card.number⟩) E := by
  refine matches_serve (fun _ => Plan.concludes_issueCard address.user id) ?_ ?_ nofun
  · intro r hr card changed hrun
    obtain ⟨hstands, hnames, hcardless⟩ := hr
    have hon := on_serve_desk (fun _ => Plan.issueCard address.user id) r
    rw [hrun] at hon
    obtain ⟨-, hleads⟩ :=
      (leads_issueCard users address id).of_ok ⟨hstands.sound, hnames, hcardless⟩ hon
    have hused := Desk.usedAfter_of_ok (Plan.draws_issueCard address.user id) hrun
    obtain ⟨rfl, hserves⟩ := Plan.issueCard_ok_iff.1 hrun
    have hserves' := hserves
    obtain ⟨-, -, -, heffect, -⟩ := hserves'
    refine ⟨book, rfl, hstands.serve hserves hcardless nofun nofun ?_ ?_ (hstands.shows.issue heffect),
      hleads⟩
    · exact ⟨r.teller.used, by rw [hused]; exact Nat.lt_succ_self _, by rw [hstands.stamp_eq]⟩
    · refine hstands.carded.step hstands.sound.bank.tidy.cardsFiled heffect nofun nofun ?_
      intro other hother _
      exact ⟨_, rfl, Option.some.inj hother⟩
  · intro r hr _ _
    obtain ⟨hstands, hnames, -⟩ := hr
    have hnew := hstands.drawn.card_new hfresh (Nat.lt_succ_of_le hstands.used_le)
    rw [← hstands.stamp_eq] at hnew
    obtain ⟨row, hrow, howner, -⟩ := hnames.account
    refine ⟨⟨r.stamp.card, id, r.stamp.time⟩, { r.teller.bank with ledger := { r.teller.bank.ledger with
      cards := r.teller.bank.ledger.cards.insert r.stamp.card ⟨r.stamp.card, id, r.stamp.time⟩ } }, ?_⟩
    exact Plan.issueCard_ok_iff.2 ⟨rfl, ownerOf address.user, Registry.resolve_ok_iff.2 hnames.knows,
      ⟨row, hrow, howner⟩, ⟨⟨row, hrow⟩, hnew, rfl⟩, rfl⟩

theorem matches_opening (hdistinct : OwnersDistinct users) (hfresh : Fresh stamps (count + 2))
    (htrim : op.IsTrimmed) (huser : op.user ∈ users) :
    Matches (fun r => r.Stands users rules stamps count none book ∧
        (addressOf op).Finds r.teller.bank none)
      (Replay.opening op) (book.add rules op)
      (fun _ book' r => r.Stands users rules stamps (count + 2) none book')
      (·.Stands users rules stamps (count + 2) none book) := by
  unfold Replay.opening Book.add
  refine (matches_demand fun r hr => hr.1.mono (by omega)).bind fun currency other => ?_
  refine Matches.bind (S := fun row opening r => r.Stands users rules stamps (count + 1) (some row.id)
      { book with entries := book.entries.insert (addressOf op) ⟨opening.currency, .zero⟩ } ∧
        (addressOf op).Names r.teller.bank row.id ∧ r.teller.bank.ledger.Cardless row.id) ?_ ?_
  · intro r hr
    obtain ⟨rfl, hr⟩ := hr
    exact (matches_openAccount_call hdistinct (hfresh.mono (by omega)) htrim huser currency).mono
      (fun _ h => h) (fun _ _ _ h => h) (fun _ h => h.mono (by omega)) r hr
  · intro row opening
    refine (matches_issueCard (hfresh.mono (Nat.le_refl _)) (addressOf op) row.id).andThen ?_
    intro card book'
    exact leads_modify fun r hr => hr.1.remembering (hr.1.sound.keepHandle hr.2)

theorem matches_openAccount (hdistinct : OwnersDistinct users) (hfresh : Fresh stamps (count + 2))
    (htrim : op.IsTrimmed) (huser : op.user ∈ users) :
    Matches (·.Stands users rules stamps count none book) (Replay.openAccount op)
      (book.opening rules op) (fun _ book' r => r.Stands users rules stamps (count + 2) none book')
      (·.Stands users rules stamps (count + 2) none book) := by
  have hopening : book.opening rules op = some book.entries[addressOf op]? >>= fun entry? =>
      if entry?.isSome then none else book.add rules op := by
    unfold Book.opening
    cases book.entries[addressOf op]? <;> rfl
  rw [openAccount_eq, hopening]
  refine Matches.bind ((matches_lookup (F := fun _ => True) hdistinct huser
    fun _ _ _ => trivial).mono (fun _ hr => ⟨hr, trivial⟩) (fun _ _ _ hr => hr) fun _ hr => hr) ?_
  intro found entry? r hr
  obtain ⟨-, hstands, -, hfinds, hsame⟩ := hr
  cases found with
  | some _ =>
      obtain ⟨_, rfl⟩ := Option.isSome_iff_exists.1 hsame.symm
      exact matches_refuse (fun s hs => by obtain rfl := hs; exact hstands.mono (by omega)) r rfl
  | none =>
      obtain rfl := Option.isNone_iff_eq_none.1 (Option.isSome_eq_false_iff.1 hsame.symm)
      exact matches_opening hdistinct hfresh htrim huser r ⟨hstands, hfinds⟩

/-! ### Closings -/

/-- An account is closed where its entry is empty, and is not remembered any more. -/
theorem matches_close (hdistinct : OwnersDistinct users) {entry : Entry} :
    Matches (fun r => book.entries[addressOf op]? = some entry ∧
        r.Stands users rules stamps count none book ∧ (addressOf op).LeadsTo r.teller.bank handle)
      (Replay.serve (fun _ => Plan.closeAccount op.user handle.account) >>= fun _ =>
        Replay.dropHandle (addressOf op))
      (book.close op entry) (fun _ book' r => r.Stands users rules stamps (count + 1) none book')
      (·.Stands users rules stamps (count + 1) none book) := by
  -- In between the account is remembered although it is gone.
  refine Matches.andThen (S := fun _ book' s => Replay.Stands users rules stamps (count + 1) none book'
    { s with handles := s.handles.erase (addressOf op) }) ?_ fun _ _ => leads_modify fun _ hs => hs
  refine matches_serve (fun _ => Plan.concludes_closeAccount op.user handle.account) ?_ ?_
    fun r hr _ => hr.2.1.idle _
  · intro r hr row changed hrun
    obtain ⟨hentry, hstands, hleads⟩ := hr
    have hserves := (Plan.closeAccount_ok_iff hstands.sound.bank.tidy.toInOrder).1 ⟨row, hrun⟩
    have hserves' := hserves
    obtain ⟨-, -, -, heffect, -⟩ := hserves'
    have heffect' := heffect
    obtain ⟨⟨account, haccount, hzero⟩, -⟩ := heffect'
    rw [hstands.entry_eq hdistinct hleads.toNames haccount] at hentry
    obtain rfl := Option.some.inj hentry
    exact ⟨_, if_pos hzero, {
      sound := hstands.sound.close hdistinct hleads hserves _
      rules_eq := hstands.rules_eq
      stamps_eq := hstands.stamps_eq
      used_le := Nat.le_trans (r.teller.usedAfter_le _) (Nat.succ_le_succ hstands.used_le)
      drawn := hstands.drawn.step hstands.sound.bank.tidy.toInOrder heffect (r.teller.le_usedAfter _) trivial
      carded := hstands.carded.step hstands.sound.bank.tidy.cardsFiled heffect nofun nofun nofun
      shows := hstands.shows.close (hstands.biUnique_lies hdistinct) heffect
        ((hstands.sound.bank.names_iff hdistinct).1 hleads.toNames) }⟩
  · intro r hr book' hbook'
    obtain ⟨hentry, hstands, hleads⟩ := hr
    obtain ⟨account, haccount, howner, hname⟩ := hleads.account
    rw [hstands.entry_eq hdistinct hleads.toNames haccount] at hentry
    obtain rfl := Option.some.inj hentry
    unfold Book.close at hbook'
    split at hbook'
    · next hzero =>
        let changed : Bank := { r.teller.bank with ledger := { r.teller.bank.ledger.dropCards handle.account with
          accounts := r.teller.bank.ledger.accounts.erase handle.account } }
        have hserves : r.teller.bank.Serves changed op.user (.deleteAccount handle.account) :=
          ⟨ownerOf op.user, Registry.resolve_ok_iff.2 hleads.knows, ⟨account, haccount, howner⟩,
            ⟨⟨account, haccount, hzero⟩, rfl⟩, rfl⟩
        obtain ⟨result, hresult⟩ :=
          (Plan.closeAccount_ok_iff hstands.sound.bank.tidy.toInOrder).2 hserves
        exact ⟨result, changed, hresult⟩
    · cases hbook'

end Task

end Cashbook
