/-
The table of locks keeps exact accounts.

The count on an entry is changed in two places only, and neither checks what the other
did: counting off takes one from nought without complaint and passes over an entry that
is not there.  A miscount would therefore never be seen where it happens.  It would leave
a key locked for ever, or an entry that no sweep can take.

It does not happen.  The count of a key is at every moment the number of tickets that
have the key, wait for it, or have let go of it and are still to be counted off; so a
ticket that is counted off finds its entry, with itself on it.  What the sweep goes by
is right too: an entry whose count is nought says since when nobody has had to do with
its key.  And when nobody has to do with any key, nothing is left but idle entries, which
one sweep takes.
-/
import Mathlib.Data.Set.Card
import Cashbook.Proofs.Locks.Progress

namespace Cashbook

/-! ### Counts as sizes of sets -/

namespace Table

variable {κ α : Type} [Ord κ] [Std.TransOrd κ] [Std.LawfulEqOrd κ] (test : κ → α → Bool)

private theorem setOf_eq_toFinset [DecidableEq κ] (t : Table κ α) :
    {k : κ | ∃ row, t[k]? = some row ∧ test k row = true} =
      ((t.toList.filter fun p => test p.1 p.2).map Prod.fst).toFinset := by
  ext k
  simp [Std.ExtTreeMap.mem_toList_iff_getElem?_eq_some]

theorem finite_setOf (t : Table κ α) :
    {k : κ | ∃ row, t[k]? = some row ∧ test k row = true}.Finite := by
  classical
  rw [setOf_eq_toFinset]
  exact Finset.finite_toSet _

/-- As many rows meet a test as there are keys with such a row. -/
theorem ncard_setOf (t : Table κ α) :
    {k : κ | ∃ row, t[k]? = some row ∧ test k row = true}.ncard =
      t.toList.countP fun p => test p.1 p.2 := by
  classical
  have hnodup : ((t.toList.filter fun p => test p.1 p.2).map Prod.fst).Nodup := by
    rw [List.Nodup, List.pairwise_map]
    exact (pairwise_toList t).filter _
  rw [setOf_eq_toFinset, Set.ncard_coe_finset, List.toFinset_card_of_nodup hnodup, List.length_map,
    List.countP_eq_length_filter]

omit [Std.LawfulEqOrd κ] in
theorem countP_toList (test : α → Bool) (t : Table κ α) :
    (t.toList.countP fun p => test p.2) = t.count test := by
  rw [count, rows, List.countP_map]
  rfl

omit [Std.LawfulEqOrd κ] in
/-- Taking the rows away that meet a test makes a table smaller by their number. -/
theorem size_sub_size_filter (t : Table κ α) :
    t.size - (t.filter fun k row => !test k row).size = t.toList.countP fun p => test p.1 p.2 := by
  rw [← Std.ExtTreeMap.length_toList, ← Std.ExtTreeMap.length_toList, Std.ExtTreeMap.toList_filter,
    ← List.countP_eq_length_filter, List.length_eq_countP_add_countP (fun p => test p.1 p.2)]
  simp only [Bool.not_eq_true, Bool.decide_eq_false]
  exact Nat.add_sub_cancel ..

end Table

namespace Locks

variable {κ : Type} [Ord κ]

/-- A ticket has let go of a key, or given it up before it had it, and is still to be counted off. -/
def Returns (l : Locks κ) (ticket : Nat) (key : κ) : Prop :=
  ∃ claim lock, l.claims[ticket]? = some claim ∧ claim.reach = .returning key lock

/-- A ticket has to do with a key. -/
def IsWith (l : Locks κ) (ticket : Nat) (key : κ) : Prop :=
  (l.Holds ticket key ∨ l.Awaits ticket key) ∨ l.Returns ticket key

variable [Std.TransOrd κ]

/--
At this moment a ticket acted that had to do with the key, and nobody has had to do with
the key from then on.
-/
def IdleSince (requests : Nat → List κ) (events : List (Event κ)) (key : κ) (since : Nat) : Prop :=
  ∃ earlier ticket later, events = earlier ++ .act since ticket :: later ∧
    (play requests empty earlier).IsWith ticket key ∧
      ∀ sofar, sofar <+: later → ∀ other,
        ¬(play requests empty (earlier ++ .act since ticket :: sofar)).IsWith other key

variable {l m : Locks κ} {now ticket lock : Nat} {claim : Claim κ} {key : κ} {entry : LockEntry}

/-! ### Who is counted -/

section

variable [DecidableEq κ]

/-- Who is on the way to a lock does not have it. -/
theorem Coherent.holder_ne_of_reaching (h : l.Coherent) (hclaim : l.claims[ticket]? = some claim)
    (hreach : claim.reach = .reaching key lock) : (l.lockOf lock).holder ≠ some ticket := by
  intro hholder
  have hline : ticket ∈ (l.lockOf lock).line := by simp [Lock.line, hholder]
  obtain ⟨held, reach, wanted, leaving⟩ := claim
  simp only at hreach
  subst hreach
  exact (h.not_mem_held hclaim rfl).2 ((h.mem_line_of_claimed hclaim lock).1 hline)

/-- A ticket has to do with the keys that it is counted on, and with no others. -/
theorem Coherent.isWith_iff (h : l.Coherent) :
    l.IsWith ticket key ↔
      ∃ claim, l.claims[ticket]? = some claim ∧ key ∈ claim.counted.map Prod.fst := by
  constructor
  · intro hwith
    rcases hwith with (hholds | hawaits) | hreturns
    · obtain ⟨lock, ⟨claim, hclaim, hcounted⟩, -⟩ := h.isAt_of_holds hholds
      exact ⟨claim, hclaim, List.mem_map_of_mem hcounted⟩
    · obtain ⟨claim, lock, hclaim, hreach | hreach, -⟩ := hawaits
      · exact ⟨claim, hclaim, by simp [Claim.counted, hreach, Reach.at?]⟩
      · exact ⟨claim, hclaim, by simp [Claim.counted, hreach, Reach.at?]⟩
    · obtain ⟨claim, lock, hclaim, hreach⟩ := hreturns
      exact ⟨claim, hclaim, by simp [Claim.counted, hreach, Reach.at?]⟩
  · intro hcounted
    obtain ⟨claim, hclaim, hkey⟩ := hcounted
    obtain ⟨⟨_, lock⟩, hmem, rfl⟩ := List.mem_map.1 hkey
    rcases List.mem_append.1 hmem with hat | hheld
    · cases hreach : claim.reach with
      | resting => simp [hreach, Reach.at?] at hat
      | reaching at_ found =>
          simp only [hreach, Reach.at?, Option.toList_some, List.mem_singleton, Prod.mk.injEq] at hat
          obtain ⟨rfl, rfl⟩ := hat
          exact Or.inl (Or.inr ⟨claim, lock, hclaim, Or.inl hreach,
            h.holder_ne_of_reaching hclaim hreach⟩)
      | queueing at_ found =>
          simp only [hreach, Reach.at?, Option.toList_some, List.mem_singleton, Prod.mk.injEq] at hat
          obtain ⟨rfl, rfl⟩ := hat
          -- Who has been called has the key; who has not waits for it.
          by_cases hholder : (l.lockOf lock).holder = some ticket
          · exact Or.inl (Or.inl ⟨claim, lock, hclaim, Or.inr ⟨hreach, hholder⟩⟩)
          · exact Or.inl (Or.inr ⟨claim, lock, hclaim, Or.inr hreach, hholder⟩)
      | returning at_ found =>
          simp only [hreach, Reach.at?, Option.toList_some, List.mem_singleton, Prod.mk.injEq] at hat
          obtain ⟨rfl, rfl⟩ := hat
          exact Or.inr ⟨claim, lock, hclaim, hreach⟩
    · exact Or.inl (Or.inl ⟨claim, lock, hclaim, Or.inl hheld⟩)

/-- Who is to be counted off a key neither has it nor waits for it. -/
theorem Coherent.not_holds_of_returns (h : l.Coherent) (hreturns : l.Returns ticket key) :
    ¬(l.Holds ticket key ∨ l.Awaits ticket key) := by
  obtain ⟨claim, lock, hclaim, hreach⟩ := hreturns
  intro hstill
  rcases hstill with hholds | hawaits
  · obtain ⟨same, found, hsame, hheld | ⟨hqueue, -⟩⟩ := hholds
    · obtain rfl := Option.some.inj (hclaim.symm.trans hsame)
      obtain ⟨held, reach, wanted, leaving⟩ := claim
      simp only at hreach
      subst hreach
      exact (h.not_mem_held hclaim rfl).1 (List.mem_map_of_mem hheld)
    · obtain rfl := Option.some.inj (hclaim.symm.trans hsame)
      rw [hreach] at hqueue
      cases hqueue
  · obtain ⟨same, found, hsame, hway, -⟩ := hawaits
    obtain rfl := Option.some.inj (hclaim.symm.trans hsame)
    rw [hreach] at hway
    rcases hway with hway | hway <;> cases hway

/-- **The count of a key is the number of tickets that have to do with it.** -/
theorem Coherent.holders_eq (h : l.Coherent) (key : κ) :
    l.holders key = {ticket | l.Holds ticket key ∨ l.Awaits ticket key}.ncard +
      {ticket | l.Returns ticket key}.ncard := by
  have hall : {ticket | l.Holds ticket key ∨ l.Awaits ticket key} ∪ {ticket | l.Returns ticket key} =
      {ticket | ∃ claim, l.claims[ticket]? = some claim ∧
        decide (key ∈ claim.counted.map Prod.fst) = true} := by
    ext ticket
    simp only [Set.mem_union, Set.mem_ofPred_eq, decide_eq_true_eq]
    exact h.isWith_iff
  let counts := fun (_ : Nat) (claim : Claim κ) => decide (key ∈ claim.counted.map Prod.fst)
  have hfinite := hall ▸ Table.finite_setOf counts l.claims
  have hdisjoint : Disjoint {ticket | l.Holds ticket key ∨ l.Awaits ticket key}
      {ticket | l.Returns ticket key} :=
    Set.disjoint_right.2 fun ticket hreturns => h.not_holds_of_returns hreturns
  rw [h.tallied, tally, ← Table.countP_toList, ← Table.ncard_setOf counts, ← hall]
  exact Set.ncard_union_eq hdisjoint (hfinite.subset Set.subset_union_left)
    (hfinite.subset Set.subset_union_right)

/-- Between actions, when nobody is still to be counted off, it is the number of those who hold it or wait. -/
theorem Coherent.holders_eq_of_none_returns (h : l.Coherent) (hnone : ∀ ticket, ¬l.Returns ticket key) :
    l.holders key = {ticket | l.Holds ticket key ∨ l.Awaits ticket key}.ncard := by
  have hempty : {ticket | l.Returns ticket key} = ∅ := Set.eq_empty_iff_forall_notMem.2 hnone
  rw [h.holders_eq, hempty, Set.ncard_empty, Nat.add_zero]

/-- Who has to do with a key finds its entry, and is counted there. -/
theorem Coherent.exists_entry (h : l.Coherent) (hwith : l.IsWith ticket key) :
    ∃ entry, l.entries[key]? = some entry ∧ 0 < entry.holders := by
  obtain ⟨claim, hclaim, hkey⟩ := h.isWith_iff.1 hwith
  obtain ⟨p, hmem, hp⟩ := List.mem_map.1 hkey
  have hguard := h.guarded ticket claim hclaim p hmem
  rw [hp] at hguard
  obtain ⟨entry, hentry, -⟩ := Option.map_eq_some_iff.1 hguard
  refine ⟨entry, hentry, ?_⟩
  have hcount := h.tallied key
  have hpos := tally_pos hclaim hkey
  simp only [holders, hentry, Option.map_some, Option.getD_some] at hcount
  omega

/-- Nobody has to do with a key whose entry counts nobody. -/
theorem Coherent.not_isWith (h : l.Coherent) (hentry : l.entries[key]? = some entry)
    (hnobody : entry.holders = 0) (ticket : Nat) : ¬l.IsWith ticket key := by
  intro hwith
  obtain ⟨found, hfound, hpos⟩ := h.exists_entry hwith
  obtain rfl := Option.some.inj (hentry.symm.trans hfound)
  omega

end

/-! ### What a sweep takes -/

section

variable [Std.LawfulEqOrd κ]

variable {time : κ → Nat} {ttl : Nat}

/-- A sweep leaves the entries that are not stale, as they were. -/
theorem getElem?_sweep :
    (l.sweep time ttl).2.entries[key]? = some entry ↔
      l.entries[key]? = some entry ∧ ¬entry.IsStale (time key) ttl := by
  show (l.entries.filter fun key entry => !decide (entry.IsStale (time key) ttl))[key]? = _ ↔ _
  rw [Std.ExtTreeMap.getElem?_filter', Option.filter_eq_some_iff]
  simp

/-- A sweep says how many stale entries there were. -/
theorem fst_sweep (time : κ → Nat) (ttl : Nat) (l : Locks κ) :
    (l.sweep time ttl).1 =
      {key : κ | ∃ entry : LockEntry, l.entries[key]? = some entry ∧ entry.IsStale (time key) ttl}.ncard := by
  let stale := fun key (entry : LockEntry) => decide (entry.IsStale (time key) ttl)
  have hcount := Table.ncard_setOf stale l.entries
  have hsize := Table.size_sub_size_filter stale l.entries
  simp only [stale, decide_eq_true_eq] at hcount
  rw [hcount]
  exact hsize

end

/-! ### Since when a key has been idle -/

section

variable [Std.LawfulEqOrd κ] [DecidableEq κ]

/-- An entry that counts nobody after an action counted nobody before, or somebody was just counted off. -/
theorem Coherent.idle_of_acts (h : l.Coherent) (hclaim : l.claims[ticket]? = some claim)
    (hacts : Acts now ticket l claim m) (hentry : m.entries[key]? = some entry)
    (hnobody : entry.holders = 0) :
    l.entries[key]? = some entry ∨ entry.idleSince = now ∧ l.IsWith ticket key := by
  cases hacts with
  | wait _ _ | take _ | join _ | come _ | turnBack | release | go => exact Or.inl hentry
  | withdraw =>
      rw [withdraw_eq] at hentry
      exact Or.inl hentry
  | @checkOut held at_ rest =>
      -- A key that is counted on is not idle.
      have hother : at_ ≠ key := by
        rintro rfl
        have hpos := holders_checkOut now at_ l at_
        have hnow : (l.checkOut now at_).2.entries[at_]? = some entry := hentry
        simp only [holders, hnow, Option.map_some, Option.getD_some, if_true] at hpos
        omega
      have hsame : (l.checkOut now at_).2.entries[key]? = l.entries[key]? := by
        unfold checkOut
        cases l.entries[at_]? <;> exact Table.getElem?_insert_of_ne _ _ hother
      exact Or.inl (hsame ▸ hentry)
  | @checkIn held at_ lock wanted leaving =>
      by_cases hk : at_ = key
      · subst hk
        have hreturns : l.Returns ticket at_ := ⟨_, lock, hclaim, rfl⟩
        obtain ⟨old, hold, -⟩ := h.exists_entry (Or.inr hreturns)
        have hnow : (l.checkIn now at_).entries[at_]? = some entry := hentry
        simp only [checkIn, hold, Std.ExtTreeMap.getElem?_insert_self] at hnow
        obtain rfl := Option.some.inj hnow
        exact Or.inr ⟨if_pos hnobody, Or.inr hreturns⟩
      · have hsame : (l.checkIn now at_).entries[key]? = l.entries[key]? := by
          unfold checkIn
          cases l.entries[at_]? with
          | none => rfl
          | some old => exact Table.getElem?_insert_of_ne _ _ hk
        exact Or.inl (hsame ▸ hentry)

/-- The same of everything that can happen. -/
theorem Coherent.idle_of_happen (h : l.Coherent) {requests : Nat → List κ} {event : Event κ}
    (hentry : (l.happen requests event).entries[key]? = some entry) (hnobody : entry.holders = 0) :
    l.entries[key]? = some entry ∨
      ∃ ticket, event = .act entry.idleSince ticket ∧ l.IsWith ticket key := by
  cases event with
  | arrive ticket =>
      refine Or.inl ?_
      rw [← hentry, Locks.happen]
      cases l.claims[ticket]? <;> rfl
  | act now ticket =>
      cases hclaim : l.claims[ticket]? with
      | none =>
          rw [Locks.happen, step_of_unclaimed hclaim] at hentry
          exact Or.inl hentry
      | some claim =>
          rcases h.idle_of_acts hclaim (acts_step hclaim) hentry hnobody with hold | ⟨rfl, hwith⟩
          · exact Or.inl hold
          · exact Or.inr ⟨ticket, rfl, hwith⟩
  | leave ticket =>
      refine Or.inl ?_
      rw [← hentry, Locks.happen, Locks.leave]
      cases l.claims[ticket]? <;> rfl
  | sweep now ttl => exact Or.inl (getElem?_sweep.1 hentry).1

/-- **An entry that counts nobody says since when nobody has had to do with its key.** -/
theorem idleSince_of_entry (requests : Nat → List κ) (events : List (Event κ))
    (hentry : (play requests empty events).entries[key]? = some entry)
    (hnobody : entry.holders = 0) : IdleSince requests events key entry.idleSince := by
  induction events using List.reverseRecOn generalizing entry with
  | nil => simp [play, empty] at hentry
  | append_singleton events event ih =>
      have hnow := (coherent_played requests (events ++ [event])).not_isWith hentry hnobody
      have hplay : play requests empty (events ++ [event]) =
          (play requests empty events).happen requests event := List.foldl_concat ..
      rw [hplay] at hentry
      rcases (coherent_played requests events).idle_of_happen hentry hnobody with
        hold | ⟨ticket, rfl, hwith⟩
      · obtain ⟨earlier, ticket, later, rfl, hwith, hsince⟩ := ih hold hnobody
        refine ⟨earlier, ticket, later ++ [event], by simp, hwith, ?_⟩
        intro sofar hsofar
        rcases List.prefix_concat_iff.1 hsofar with rfl | hsofar
        · simpa using hnow
        · exact hsince sofar hsofar
      · refine ⟨events, ticket, [], rfl, hwith, ?_⟩
        intro sofar hsofar
        obtain rfl := List.prefix_nil.1 hsofar
        exact hnow

end

/-! ### When nobody is left -/

variable [DecidableEq κ]

/-- Where nobody has to do with any key, every lock is free. -/
theorem Coherent.lockOf_of_idle (h : l.Coherent) (hidle : ∀ ticket key, ¬l.IsWith ticket key)
    (lock : Nat) : l.lockOf lock = ⟨none, []⟩ := by
  have hline : (l.lockOf lock).line = [] := by
    refine List.eq_nil_iff_forall_not_mem.2 ?_
    intro ticket hmem
    obtain ⟨claim, hclaim, hlines⟩ := (h.mem_line_iff lock ticket).1 hmem
    obtain ⟨key, hcounted⟩ := Claim.exists_counted_of_mem_lines hlines
    exact hidle ticket key (h.isWith_iff.2 ⟨claim, hclaim, List.mem_map_of_mem hcounted⟩)
  rw [Lock.line, List.append_eq_nil_iff] at hline
  obtain ⟨hholder, hqueue⟩ := hline
  cases hlock : l.lockOf lock with
  | mk holder queue =>
      rw [hlock] at hholder hqueue
      cases holder with
      | none => rw [show queue = [] from hqueue]
      | some ticket => cases hholder

theorem Coherent.holders_of_idle (h : l.Coherent) (hidle : ∀ ticket key, ¬l.IsWith ticket key)
    (key : κ) : l.holders key = 0 := by
  rw [h.tallied]
  refine Nat.eq_zero_of_not_pos ?_
  rw [tally, Table.count_pos_iff]
  intro hsome
  obtain ⟨ticket, claim, hclaim, hkey⟩ := hsome
  exact hidle ticket key (h.isWith_iff.2 ⟨claim, hclaim, by simpa using hkey⟩)

omit [DecidableEq κ]

variable [Std.LawfulEqOrd κ]

/-- A sweep that takes every entry says so. -/
theorem sweep_eq_empty {time : κ → Nat} {ttl : Nat}
    (hstale : ∀ (key : κ) (entry : LockEntry), l.entries[key]? = some entry →
      entry.IsStale (time key) ttl) :
    (l.sweep time ttl).2.entries = ∅ ∧ (l.sweep time ttl).1 = l.entries.size := by
  have hempty : (l.sweep time ttl).2.entries = ∅ := by
    refine Table.ext_getElem? ?_
    intro key
    rw [Std.ExtTreeMap.getElem?_empty, Option.eq_none_iff_forall_ne_some]
    intro entry hentry
    obtain ⟨hold, hfresh⟩ := getElem?_sweep.1 hentry
    exact hfresh (hstale key entry hold)
  refine ⟨hempty, ?_⟩
  show l.entries.size - (l.sweep time ttl).2.entries.size = _
  rw [hempty, Std.ExtTreeMap.size_empty, Nat.sub_zero]

/-! ### Along a run -/

/--
**The table of locks keeps exact accounts.**  However many tickets come, act and leave,
wherever they are on their way when they leave, and whenever the table is swept: the
count of a key is the number of tickets that have it or wait for it and of those still to
be counted off, and each of them finds the entry with a count above nought; where none is
still to be counted off, the count is the number of tickets that have the key or wait for
it.  A sweep takes the entries that count nobody and have been idle long enough, leaves the
others as they are, and says how many it took; idle is an entry since the last ticket that
had to do with its key was counted off.  Once nobody has to do with any key, every lock is
free, and a sweep empties the table when the time has passed.
-/
theorem accounted_played (requests : Nat → List κ) (events : List (Event κ)) :
    let l := play requests empty events
    (∀ key, l.holders key = {ticket | l.Holds ticket key ∨ l.Awaits ticket key}.ncard +
      {ticket | l.Returns ticket key}.ncard) ∧
    (∀ key, (∀ ticket, ¬l.Returns ticket key) →
      l.holders key = {ticket | l.Holds ticket key ∨ l.Awaits ticket key}.ncard) ∧
    (∀ ticket key, l.IsWith ticket key → ∃ entry, l.entries[key]? = some entry ∧ 0 < entry.holders) ∧
    (∀ (now : κ → Nat) (ttl : Nat),
      (∀ (key : κ) (entry : LockEntry), (l.sweep now ttl).2.entries[key]? = some entry ↔
        l.entries[key]? = some entry ∧ ¬entry.IsStale (now key) ttl) ∧
      (l.sweep now ttl).1 =
        {key : κ | ∃ entry : LockEntry, l.entries[key]? = some entry ∧ entry.IsStale (now key) ttl}.ncard) ∧
    (∀ (key : κ) (entry : LockEntry), l.entries[key]? = some entry → entry.holders = 0 →
      IdleSince requests events key entry.idleSince) ∧
    ((∀ ticket key, ¬l.IsWith ticket key) →
      (∀ lock, l.lockOf lock = ⟨none, []⟩) ∧ (∀ key, l.holders key = 0) ∧
      ∀ (now : κ → Nat) (ttl : Nat), (∀ time ticket, .act time ticket ∈ events → ∀ key, time + ttl ≤ now key) →
        (l.sweep now ttl).2.entries = ∅ ∧ (l.sweep now ttl).1 = l.entries.size) := by
  classical
  intro l
  have hcoherent : l.Coherent := coherent_played requests events
  have hsince : ∀ (key : κ) (entry : LockEntry), l.entries[key]? = some entry → entry.holders = 0 →
      IdleSince requests events key entry.idleSince :=
    fun key entry hentry hnobody => idleSince_of_entry requests events hentry hnobody
  refine ⟨hcoherent.holders_eq, fun key => hcoherent.holders_eq_of_none_returns,
    fun ticket key => hcoherent.exists_entry,
    fun now ttl => ⟨fun key entry => getElem?_sweep, fst_sweep now ttl l⟩, hsince, ?_⟩
  intro hidle
  refine ⟨hcoherent.lockOf_of_idle hidle, hcoherent.holders_of_idle hidle, ?_⟩
  intro now ttl hpast
  refine sweep_eq_empty ?_
  intro key entry hentry
  have hnobody : entry.holders = 0 := by
    have hcount := hcoherent.holders_of_idle hidle key
    simpa [holders, hentry] using hcount
  obtain ⟨earlier, ticket, later, heq, -⟩ := hsince key entry hentry hnobody
  have hlong := hpast entry.idleSince ticket (by simp [heq]) key
  exact ⟨hnobody, by omega⟩

/-- A ticket that leaves while it waits, and the table when both have gone. -/
theorem accounted_played_sample :
    let requests := fun ticket => if ticket = 0 then [1] else [2, 1, 2]
    let waiting : List (Event Nat) := [.arrive 0, .act 3 0, .act 3 0, .arrive 1, .act 4 1, .act 4 1]
    let gone := waiting ++ [.leave 1, .act 5 1, .act 6 1, .act 6 1, .leave 0, .act 7 0, .act 8 0, .act 8 0]
    {ticket | (play requests empty waiting).Holds ticket 1 ∨
        (play requests empty waiting).Awaits ticket 1}.ncard +
      {ticket | (play requests empty waiting).Returns ticket 1}.ncard = 2 ∧
    IdleSince requests gone 1 8 ∧
      ((play requests empty gone).sweep (10 + ·) 2).2.entries = ∅ ∧
        ((play requests empty gone).sweep (10 + ·) 2).1 = 1 := by
  intro requests waiting gone
  obtain ⟨hcount, -⟩ := accounted_played requests waiting
  obtain ⟨-, -, -, -, hsince, hleft⟩ := accounted_played requests gone
  have hnobody : ∀ ticket : Nat, (play requests empty gone).claims[ticket]? = none := by
    have hempty : (play requests empty gone).claims.isEmpty = true := by decide +kernel
    simp [Std.ExtTreeMap.isEmpty_iff.1 hempty]
  have hidle : ∀ ticket key, ¬(play requests empty gone).IsWith ticket key := by
    intro ticket key hwith
    obtain ⟨claim, hclaim, -⟩ := (coherent_played requests gone).isWith_iff.1 hwith
    rw [hnobody] at hclaim
    cases hclaim
  have hpast : ∀ time ticket, .act time ticket ∈ gone → ∀ key, time + 2 ≤ 10 + key := by
    intro time ticket hmem key
    simp only [gone, waiting, List.cons_append, List.nil_append, List.mem_cons, Event.act.injEq,
      reduceCtorEq, List.not_mem_nil, or_false, false_or] at hmem
    omega
  obtain ⟨hempty, hnumber⟩ := (hleft hidle).2.2 (10 + ·) 2 hpast
  refine ⟨?_, ?_, hempty, ?_⟩
  · rw [← hcount 1]
    decide +kernel
  · exact hsince 1 ⟨0, 0, 8⟩ (by decide +kernel) rfl
  · rw [hnumber]
    decide +kernel

end Locks

end Cashbook
