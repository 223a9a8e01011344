/-
Counts on the entries.

The count of a key is the number of tickets that have come to the key and not gone from
it.  So an entry that a sweep takes is one that no ticket has anything to do with, and
the lock that a ticket was sent to is still the lock that guards its key, however often
the table has been swept since.
-/
import Cashbook.Proofs.Locks.Action

namespace Cashbook.Locks

variable {κ : Type} [Ord κ] [Std.TransOrd κ]

/-- How many tickets the entry of a key says there are. -/
def holders (l : Locks κ) (key : κ) : Nat := (l.entries[key]?.map LockEntry.holders).getD 0

/-- How many tickets there are that have come to a key. -/
def tally [DecidableEq κ] (l : Locks κ) (key : κ) : Nat :=
  l.claims.count fun claim => decide (key ∈ claim.counted.map Prod.fst)

/-- The entries count the tickets, and the lock of a key is the one that every ticket was sent to. -/
structure Counted [DecidableEq κ] (l : Locks κ) : Prop extends Sound l where
  guarded : ∀ (ticket : Nat) (claim : Claim κ), l.claims[ticket]? = some claim →
    ∀ p ∈ claim.counted, l.guard? p.1 = some p.2
  tallied : ∀ key, l.holders key = l.tally key

variable {l m : Locks κ} {ticket : Nat} {claim new : Claim κ} {key : κ}

/-! ### What is counted -/

section

variable [DecidableEq κ]

omit [Std.TransOrd κ] in
/-- A ticket that says something else is tallied as it says now. -/
theorem tally_insert (hclaim : l.claims[ticket]? = some claim)
    (hclaims : m.claims = l.claims.insert ticket new) (key : κ) :
    (m.tally key + if key ∈ claim.counted.map Prod.fst then 1 else 0) =
      l.tally key + if key ∈ new.counted.map Prod.fst then 1 else 0 := by
  have hcount := Table.count_insert_of_some
    (fun claim : Claim κ => decide (key ∈ claim.counted.map Prod.fst)) new hclaim
  simp only [decide_eq_true_eq] at hcount
  rw [tally, tally, hclaims]
  exact hcount

omit [Std.TransOrd κ] in
/-- A ticket that is counted on a key is tallied there. -/
theorem tally_pos (hclaim : l.claims[ticket]? = some claim)
    (hkey : key ∈ claim.counted.map Prod.fst) : 0 < l.tally key := by
  rw [tally, Table.count_pos_iff]
  exact ⟨ticket, claim, hclaim, by simpa using hkey⟩

namespace Counted

theorem empty : Counted (Locks.empty : Locks κ) where
  toSound := idle_empty.toSound
  guarded ticket claim h := by simp [Locks.empty] at h
  tallied key := by
    have hnobody : (Locks.empty : Locks κ).tally key = 0 := by
      refine Nat.eq_zero_of_not_pos ?_
      rw [tally, Table.count_pos_iff]
      simp [Locks.empty]
    rw [hnobody]
    simp [holders, Locks.empty]

/-- The locks of a ticket are different, if its keys are. -/
theorem nodup_locks (h : l.Counted) (hclaim : l.claims[ticket]? = some claim)
    (hkeys : (claim.counted.map Prod.fst).Nodup) : (claim.counted.map Prod.snd).Nodup := by
  rw [List.Nodup, List.pairwise_map] at hkeys ⊢
  refine hkeys.imp_of_mem ?_
  intro p q hp hq hne heq
  have hguard := h.guarded ticket claim hclaim p hp
  rw [heq] at hguard
  exact hne (h.apart p.1 q.1 q.2 hguard (h.guarded ticket claim hclaim q hq))

/-- A ticket may say something else, if it is counted where it was. -/
theorem restate (h : l.Counted) (hclaim : l.claims[ticket]? = some claim)
    (hclaims : m.claims = l.claims.insert ticket new) (hentries : m.entries = l.entries)
    (hfresh : m.fresh = l.fresh) (hcounted : new.counted = claim.counted) : m.Counted := by
  have hguard : ∀ key, m.guard? key = l.guard? key := by
    intro key
    rw [guard?, guard?, hentries]
  refine ⟨h.toSound.of_guard hguard hfresh, ?_, ?_⟩
  · intro other found hfound p hp
    rw [hguard]
    rw [hclaims] at hfound
    rcases Table.of_getElem?_insert hfound with ⟨rfl, rfl⟩ | ⟨-, hold⟩
    · exact h.guarded other claim hclaim p (hcounted ▸ hp)
    · exact h.guarded other found hold p hp
  · intro key
    have htally := tally_insert hclaim hclaims key
    have hsame := h.tallied key
    simp only [hcounted] at htally
    rw [holders, hentries]
    rw [holders] at hsame
    omega

/-- A ticket that is counted nowhere begins. -/
theorem start (h : l.Counted) (hclaim : l.claims[ticket]? = none) (keys : List κ) :
    (l.start ticket keys).Counted := by
  refine ⟨h.toSound.of_guard (fun _ => rfl) rfl, ?_, ?_⟩
  · intro other found hfound p hp
    rcases Table.of_getElem?_insert hfound with ⟨rfl, rfl⟩ | ⟨-, hold⟩
    · cases hp
    · exact h.guarded other found hold p hp
  · intro key
    have hsame : (l.start ticket keys).tally key = l.tally key :=
      Table.count_insert_of_new _ _ hclaim
    rw [hsame]
    exact h.tallied key

/-- A ticket that is counted nowhere goes. -/
theorem forget (h : l.Counted) (hclaim : l.claims[ticket]? = some claim)
    (hcounted : claim.counted = []) :
    Counted { l with claims := l.claims.erase ticket } := by
  refine ⟨h.toSound.of_guard (fun _ => rfl) rfl, ?_, ?_⟩
  · intro other found hfound p hp
    exact h.guarded other found (Table.of_getElem?_erase hfound).2 p hp
  · intro key
    have hcount := Table.count_erase
      (fun claim : Claim κ => decide (key ∈ claim.counted.map Prod.fst)) hclaim
    rw [hcounted] at hcount
    have hsame : tally { l with claims := l.claims.erase ticket } key = l.tally key := hcount
    rw [hsame]
    exact h.tallied key

end Counted

end

variable [Std.LawfulEqOrd κ]

/-! ### The table -/

theorem holders_sweep (now : κ → Nat) (ttl : Nat) (l : Locks κ) (key : κ) :
    (l.sweep now ttl).2.holders key = l.holders key := by
  simp only [holders, sweep]
  rw [Std.ExtTreeMap.getElem?_filter']
  cases hentry : l.entries[key]? with
  | none => rfl
  | some entry =>
      by_cases hstale : entry.IsStale (now key) ttl
      · -- What is swept away had nobody counted on it.
        have hnone : entry.holders = 0 := hstale.1
        simp [Option.filter, hstale, hnone]
      · simp [Option.filter, hstale]

theorem of_guard?_sweep {now : κ → Nat} {ttl lock : Nat} (h : (l.sweep now ttl).2.guard? key = some lock) :
    l.guard? key = some lock := by
  simp only [guard?, sweep] at h ⊢
  rw [Std.ExtTreeMap.getElem?_filter'] at h
  obtain ⟨entry, hentry, hlock⟩ := Option.map_eq_some_iff.1 h
  rw [(Option.filter_eq_some_iff.1 hentry).1, ← hlock]
  rfl

/-- A key that somebody is counted on keeps its lock when the table is swept. -/
theorem guard?_sweep {now : κ → Nat} {ttl lock : Nat} (h : l.guard? key = some lock)
    (hcounted : 0 < l.holders key) : (l.sweep now ttl).2.guard? key = some lock := by
  obtain ⟨entry, hentry, hlock⟩ := Option.map_eq_some_iff.1 h
  have hsome : entry.holders ≠ 0 := by
    rw [holders, hentry] at hcounted
    exact Nat.pos_iff_ne_zero.1 hcounted
  have hfresh : ¬ entry.IsStale (now key) ttl := fun hstale => hsome hstale.1
  simp only [guard?, sweep]
  rw [Std.ExtTreeMap.getElem?_filter', hentry]
  simp [Option.filter, hfresh, hlock]

variable [DecidableEq κ]

theorem holders_checkIn (now : Nat) (key : κ) (l : Locks κ) (other : κ) :
    (l.checkIn now key).holders other = l.holders other - if key = other then 1 else 0 := by
  unfold checkIn holders
  cases hentry : l.entries[key]? with
  | none =>
      by_cases hk : key = other
      · subst hk
        simp [hentry]
      · simp [hk]
  | some entry =>
      by_cases hk : key = other
      · subst hk
        simp [hentry]
      · simp only [if_neg hk]
        rw [Table.getElem?_insert_of_ne _ _ hk, Nat.sub_zero]

theorem holders_checkOut (now : Nat) (key : κ) (l : Locks κ) (other : κ) :
    (l.checkOut now key).2.holders other = l.holders other + if key = other then 1 else 0 := by
  unfold checkOut holders
  cases hentry : l.entries[key]? with
  | none =>
      by_cases hk : key = other
      · subst hk
        simp [hentry]
      · simp only [if_neg hk]
        rw [Table.getElem?_insert_of_ne _ _ hk, Nat.add_zero]
  | some entry =>
      by_cases hk : key = other
      · subst hk
        simp [hentry]
      · simp only [if_neg hk]
        rw [Table.getElem?_insert_of_ne _ _ hk, Nat.add_zero]

namespace Counted

/-- A ticket comes to a key that it was not with. -/
theorem checkOut (h : l.Counted) (hclaim : l.claims[ticket]? = some claim) (now : Nat)
    (hnew : key ∉ claim.counted.map Prod.fst)
    (hcounted : new.counted = (key, (l.checkOut now key).1) :: claim.counted) :
    ((l.checkOut now key).2.setClaim ticket new).Counted := by
  have hclaims : ((l.checkOut now key).2.setClaim ticket new).claims =
      l.claims.insert ticket new := by
    show (l.checkOut now key).2.claims.insert ticket new = _
    rw [claims_checkOut]
  have hkept : ∀ other lock, l.guard? other = some lock →
      (l.checkOut now key).2.guard? other = some lock := by
    intro other lock hother
    rw [guard?_checkOut]
    by_cases hk : key = other
    · rw [if_pos hk, ← hother, ← hk]
      rcases fst_checkOut now key l with ⟨hold, -⟩ | ⟨hmade, -⟩
      · exact hold.symm
      · -- A lock that is made now guards a key that had none.
        rw [hk] at hmade ⊢
        unfold Locks.checkOut
        obtain ⟨entry, hentry, -⟩ := Option.map_eq_some_iff.1 hother
        simp [hentry, guard?]
    · rw [if_neg hk]
      exact hother
  refine ⟨(h.toSound.checkOut now key).of_guard (fun _ => rfl) rfl, ?_, ?_⟩
  · intro other found hfound p hp
    show (l.checkOut now key).2.guard? p.1 = some p.2
    rw [hclaims] at hfound
    rcases Table.of_getElem?_insert hfound with ⟨rfl, rfl⟩ | ⟨-, hold⟩
    · rw [hcounted] at hp
      rcases List.mem_cons.1 hp with rfl | hp
      · rw [guard?_checkOut, if_pos rfl]
      · exact hkept p.1 p.2 (h.guarded other claim hclaim p hp)
    · exact hkept p.1 p.2 (h.guarded other found hold p hp)
  · intro other
    show (l.checkOut now key).2.holders other = _
    have htally := tally_insert hclaim hclaims other
    have hsame := h.tallied other
    simp only [hcounted, List.map_cons, List.mem_cons] at htally
    rw [holders_checkOut]
    by_cases hk : key = other
    · subst hk
      simp only [hnew, if_false, true_or, if_true] at htally ⊢
      omega
    · simp only [hk, Ne.symm hk, false_or, if_false] at htally ⊢
      omega

/-- A ticket goes from a key. -/
theorem checkIn (h : l.Counted) (hclaim : l.claims[ticket]? = some claim) (now : Nat)
    {lock : Nat} (hcounted : claim.counted = (key, lock) :: new.counted)
    (hgone : key ∉ new.counted.map Prod.fst) :
    ((l.checkIn now key).setClaim ticket new).Counted := by
  have hclaims : ((l.checkIn now key).setClaim ticket new).claims =
      l.claims.insert ticket new := by
    show (l.checkIn now key).claims.insert ticket new = _
    rw [claims_checkIn]
  refine ⟨h.toSound.of_guard (guard?_checkIn now key l) (fresh_checkIn now key l), ?_, ?_⟩
  · intro other found hfound p hp
    show (l.checkIn now key).guard? p.1 = some p.2
    rw [guard?_checkIn]
    rw [hclaims] at hfound
    rcases Table.of_getElem?_insert hfound with ⟨rfl, rfl⟩ | ⟨-, hold⟩
    · exact h.guarded other claim hclaim p (hcounted ▸ List.mem_cons_of_mem _ hp)
    · exact h.guarded other found hold p hp
  · intro other
    show (l.checkIn now key).holders other = _
    have htally := tally_insert hclaim hclaims other
    have hsame := h.tallied other
    simp only [hcounted, List.map_cons, List.mem_cons] at htally
    rw [holders_checkIn]
    by_cases hk : key = other
    · subst hk
      simp only [hgone, if_false, true_or, if_true] at htally ⊢
      omega
    · simp only [hk, Ne.symm hk, false_or, if_false] at htally ⊢
      omega

theorem sweep (h : l.Counted) (now : κ → Nat) (ttl : Nat) : (l.sweep now ttl).2.Counted where
  made key lock hkey := h.made key lock (of_guard?_sweep hkey)
  apart key other lock hkey hother :=
    h.apart key other lock (of_guard?_sweep hkey) (of_guard?_sweep hother)
  guarded ticket claim hclaim p hp := by
    have hpos : 0 < l.holders p.1 := by
      rw [h.tallied]
      exact tally_pos hclaim (List.mem_map_of_mem hp)
    exact guard?_sweep (h.guarded ticket claim hclaim p hp) hpos
  tallied key := by
    rw [holders_sweep]
    exact h.tallied key

end Counted

end Cashbook.Locks
