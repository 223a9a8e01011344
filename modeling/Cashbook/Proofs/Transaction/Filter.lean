/-
What a filter selects, and in which order.

A filter drops the rows that do not meet its criteria, puts the others in order, and cuts the
result off.  The cut comes last and the criteria look at one row at a time, so all that needs an
argument is the order.  It compares instants alone and leaves ties as they came.  What it leads
to is therefore known from two facts: instants do not rise, and the rows of one instant stand as
they stood before.  Lists that agree in both are equal (`eq_of_ties`).

Hence the order commutes with whatever respects the two facts: with dropping rows before it or
after it (`filter_newestFirst`), and with cutting the rows in two at an instant
(`newestFirst_split`).
-/
import Mathlib.Data.List.Nodup
import Cashbook.Transaction.Filter

namespace Cashbook

/-! ### The order of instants -/

instance : Std.LawfulEqOrd Instant where
  compare_self {a} := (Std.ReflCmp.compare_self : compare a a = .eq)
  eq_of_compare {a b} h := by
    have hparts : (compare a.seconds b.seconds).then (compare a.nanos b.nanos) = .eq := h
    rw [Ordering.then_eq_eq, Std.compare_eq_iff_eq, Std.compare_eq_iff_eq] at hparts
    obtain ⟨hseconds, hnanos⟩ := hparts
    cases a
    cases b
    cases hseconds
    cases hnanos
    rfl

instance : Std.IsLinearOrder Instant := .of_ord

namespace Filter

variable {f : Filter} {tx : Transaction} {rows others : List Transaction} {a b c : Instant}

/-! ### Criteria -/

theorem meets_iff {α : Type} {criterion : Option α} {test : α → Bool} :
    meets criterion test = true ↔ ∀ value, criterion = some value → test value = true := by
  cases criterion <;> simp [meets]

/-- A row is of the kind, has the flag and is of an instant that the filter asks for. -/
def Suits (f : Filter) (tx : Transaction) : Prop :=
  (∀ type, f.type = some type → tx.kind.type = type) ∧
    (∀ flag, f.rolledBack = some flag → tx.rolledBack = flag) ∧
      (∀ t, f.since = some t → t ≤ tx.createdAt) ∧ ∀ t, f.before = some t → tx.createdAt < t

theorem accepts_iff : f.accepts tx = true ↔
    (∀ id, f.account = some id → tx.kind.Involves id) ∧ f.Suits tx := by
  simp [accepts, meets_iff, Suits, and_assoc]

/-! ### Newest first -/

/-- No row is newer than one before it. -/
def Descending (rows : List Transaction) : Prop :=
  rows.Pairwise fun a b => b.createdAt ≤ a.createdAt

/-- The rows of one instant, as they stand. -/
def ofInstant (t : Instant) (rows : List Transaction) : List Transaction :=
  rows.filter fun tx => tx.createdAt = t

theorem mem_ofInstant {t : Instant} : tx ∈ ofInstant t rows ↔ tx ∈ rows ∧ tx.createdAt = t := by
  simp [ofInstant]

theorem ofInstant_append (t : Instant) (rows others : List Transaction) :
    ofInstant t (rows ++ others) = ofInstant t rows ++ ofInstant t others := by
  simp [ofInstant]

theorem ofInstant_filter (t : Instant) (p : Transaction → Bool) (rows : List Transaction) :
    ofInstant t (rows.filter p) = (ofInstant t rows).filter p := by
  simp [ofInstant, List.filter_filter, Bool.and_comm]

theorem mem_iff_of_ties (h : ∀ t, ofInstant t rows = ofInstant t others) (tx : Transaction) :
    tx ∈ rows ↔ tx ∈ others := by
  have hboth : tx ∈ ofInstant tx.createdAt rows ↔ tx ∈ ofInstant tx.createdAt others := by
    rw [h]
  simpa [mem_ofInstant] using hboth

/-- **Two lists that are in order are the same list if they agree instant by instant.** -/
theorem eq_of_ties (h : Descending rows) (h' : Descending others)
    (hties : ∀ t, ofInstant t rows = ofInstant t others) : rows = others := by
  induction rows generalizing others with
  | nil => simpa [List.eq_nil_iff_forall_not_mem] using mem_iff_of_ties hties
  | cons first rest ih =>
      cases others with
      | nil => simpa using mem_iff_of_ties hties first
      | cons head tail =>
          -- Neither list begins with a row that is newer than the first of the other.
          have hinstant : first.createdAt = head.createdAt := by
            apply Std.le_antisymm
            · rcases List.mem_cons.1 ((mem_iff_of_ties hties first).1 List.mem_cons_self) with
                rfl | hlater
              · exact Std.le_refl _
              · exact List.rel_of_pairwise_cons h' hlater
            · rcases List.mem_cons.1 ((mem_iff_of_ties hties head).2 List.mem_cons_self) with
                rfl | hlater
              · exact Std.le_refl _
              · exact List.rel_of_pairwise_cons h hlater
          have hfirst : first = head := by
            have hboth := hties head.createdAt
            simp only [ofInstant, List.filter_cons, hinstant, decide_true, if_pos] at hboth
            exact (List.cons.inj hboth).1
          subst hfirst
          have hrest : ∀ t, ofInstant t rest = ofInstant t tail := by
            intro t
            have hboth := hties t
            by_cases ht : first.createdAt = t <;> simpa [ofInstant, ht] using hboth
          rw [ih h.of_cons h'.of_cons hrest]

theorem mem_newestFirst : tx ∈ newestFirst rows ↔ tx ∈ rows := List.mem_mergeSort

theorem newestFirst_perm (rows : List Transaction) : (newestFirst rows).Perm rows :=
  List.mergeSort_perm rows _

theorem newestFirst_perm_of_perm (h : rows.Perm others) :
    (newestFirst rows).Perm (newestFirst others) :=
  (newestFirst_perm rows).trans (h.trans (newestFirst_perm others).symm)

private theorem newer_trans (x y z : Transaction) (h : decide (y.createdAt ≤ x.createdAt) = true)
    (h' : decide (z.createdAt ≤ y.createdAt) = true) : decide (z.createdAt ≤ x.createdAt) = true :=
  decide_eq_true (Std.le_trans (of_decide_eq_true h') (of_decide_eq_true h))

private theorem newer_total (x y : Transaction) :
    (decide (y.createdAt ≤ x.createdAt) || decide (x.createdAt ≤ y.createdAt)) = true := by
  simpa using Std.le_total

theorem descending_newestFirst (rows : List Transaction) : Descending (newestFirst rows) :=
  (List.pairwise_mergeSort newer_trans newer_total rows).imp of_decide_eq_true

/-- Rows of one instant keep their order. -/
theorem ofInstant_newestFirst (t : Instant) (rows : List Transaction) :
    ofInstant t (newestFirst rows) = ofInstant t rows := by
  have hties : (ofInstant t rows).Pairwise fun a b => decide (b.createdAt ≤ a.createdAt) = true := by
    refine List.pairwise_of_forall_mem_list ?_
    intro x hx y hy
    simp [(mem_ofInstant.1 hx).2, (mem_ofInstant.1 hy).2]
  have hsub : (ofInstant t rows).Sublist (newestFirst rows) :=
    List.sublist_mergeSort newer_trans newer_total hties List.filter_sublist
  have hagain : (ofInstant t rows).Sublist (ofInstant t (newestFirst rows)) := by
    simpa [ofInstant] using hsub.filter fun tx => decide (tx.createdAt = t)
  exact (hagain.eq_of_length ((newestFirst_perm rows).filter _).length_eq.symm).symm

/-- Rows that are in order already stay as they are. -/
theorem newestFirst_eq_self (h : Descending rows) : newestFirst rows = rows :=
  List.mergeSort_of_pairwise (h.imp decide_eq_true)

/-- It does not matter whether rows are dropped before the others are put in order or after it. -/
theorem filter_newestFirst (p : Transaction → Bool) (rows : List Transaction) :
    (newestFirst rows).filter p = newestFirst (rows.filter p) := by
  apply eq_of_ties ((descending_newestFirst rows).filter p) (descending_newestFirst _)
  intro t
  rw [ofInstant_filter, ofInstant_newestFirst, ofInstant_newestFirst, ofInstant_filter]

/-- In order, the rows from an instant on come before the rows until then. -/
theorem newestFirst_split (b : Instant) (rows : List Transaction) :
    newestFirst rows = newestFirst (rows.filter fun tx => b ≤ tx.createdAt) ++
      newestFirst (rows.filter fun tx => tx.createdAt < b) := by
  apply eq_of_ties (descending_newestFirst rows)
  · refine List.pairwise_append.2 ⟨descending_newestFirst _, descending_newestFirst _, ?_⟩
    intro x hx y hy
    have hlate : b ≤ x.createdAt := by simpa using (List.mem_filter.1 (mem_newestFirst.1 hx)).2
    have hearly : y.createdAt < b := by simpa using (List.mem_filter.1 (mem_newestFirst.1 hy)).2
    exact Std.le_trans (Std.le_of_lt hearly) hlate
  · intro t
    simp only [ofInstant_append, ofInstant_newestFirst, ofInstant_filter]
    -- All rows of one instant are on the same side.
    by_cases ht : b ≤ t
    · have hlate : ∀ tx ∈ ofInstant t rows, b ≤ tx.createdAt := fun tx htx =>
        (mem_ofInstant.1 htx).2 ▸ ht
      rw [List.filter_eq_self.2 (by simpa using hlate),
        List.filter_eq_nil_iff.2 (by simpa [Std.not_lt] using hlate), List.append_nil]
    · have hearly : ∀ tx ∈ ofInstant t rows, tx.createdAt < b := fun tx htx =>
        (mem_ofInstant.1 htx).2 ▸ Std.not_le.1 ht
      rw [List.filter_eq_nil_iff.2 (by simpa [Std.not_le] using hearly),
        List.filter_eq_self.2 (by simpa using hearly), List.nil_append]

/-! ### Selecting -/

/-- The same criteria without a limit. -/
def unlimited (f : Filter) : Filter := { f with limit := none }

/-- The same criteria from one instant on and before another, without a limit. -/
def during (f : Filter) (since before : Instant) : Filter :=
  { f with since := some since, before := some before, limit := none }

theorem mem_select_unlimited : tx ∈ f.unlimited.select rows ↔ tx ∈ rows ∧ f.accepts tx = true := by
  show tx ∈ newestFirst (rows.filter f.accepts) ↔ _
  rw [mem_newestFirst, List.mem_filter]

theorem select_eq_cut (f : Filter) (rows : List Transaction) :
    f.select rows = cut f.limit (f.unlimited.select rows) := rfl

/-- The span of a filter narrows to the later part of it, or to the earlier. -/
theorem accepts_during_iff : (f.during a b).accepts tx = true ↔
    { f with since := none, before := none }.accepts tx = true ∧ a ≤ tx.createdAt ∧
      tx.createdAt < b := by
  simp [accepts_iff, Suits, during, and_assoc]

/-- A span of time is what is late in it, and then what is early in it. -/
theorem select_during (hab : a ≤ b) (hbc : b ≤ c) (f : Filter) (rows : List Transaction) :
    (f.during a c).select rows = (f.during b c).select rows ++ (f.during a b).select rows := by
  have hlate : (rows.filter (f.during a c).accepts).filter (fun tx => b ≤ tx.createdAt) =
      rows.filter (f.during b c).accepts := by
    rw [List.filter_filter]
    refine List.filter_congr fun tx _ => Bool.eq_iff_iff.2 ?_
    simp only [Bool.and_eq_true, decide_eq_true_eq, accepts_during_iff]
    constructor
    · intro h
      exact ⟨h.2.1, h.1, h.2.2.2⟩
    · intro h
      exact ⟨h.2.1, h.1, Std.le_trans hab h.2.1, h.2.2⟩
  have hearly : (rows.filter (f.during a c).accepts).filter (fun tx => tx.createdAt < b) =
      rows.filter (f.during a b).accepts := by
    rw [List.filter_filter]
    refine List.filter_congr fun tx _ => Bool.eq_iff_iff.2 ?_
    simp only [Bool.and_eq_true, decide_eq_true_eq, accepts_during_iff]
    constructor
    · intro h
      exact ⟨h.2.1, h.2.2.1, h.1⟩
    · intro h
      exact ⟨h.2.2, h.1, h.2.1, Std.lt_of_lt_of_le h.2.2 hbc⟩
  show newestFirst (rows.filter (f.during a c).accepts) = _
  rw [newestFirst_split b, hlate, hearly]
  rfl

/-- What has been selected is selected again, all of it and in the same order. -/
theorem select_select (f : Filter) (rows : List Transaction) :
    f.select (f.select rows) = f.select rows := by
  have hsub : (f.select rows).Sublist (f.unlimited.select rows) := by
    rw [select_eq_cut]
    cases f.limit with
    | none => exact List.Sublist.refl _
    | some n => exact List.take_sublist n _
  have haccepted : (f.select rows).filter f.accepts = f.select rows :=
    List.filter_eq_self.2 fun tx htx => (mem_select_unlimited.1 (hsub.subset htx)).2
  have hordered : Descending (f.select rows) := (descending_newestFirst _).sublist hsub
  rw [select, haccepted, newestFirst_eq_self hordered, select]
  cases f.limit with
  | none => rfl
  | some n => simp [cut, List.take_take]

/-- The order in which rows come decides among the rows of one instant only: the instants stay in place. -/
theorem map_createdAt_select_of_perm (h : rows.Perm others) (f : Filter) :
    (f.select rows).map Transaction.createdAt = (f.select others).map Transaction.createdAt := by
  have hinstants (rows : List Transaction) :
      ((newestFirst rows).map Transaction.createdAt).Pairwise fun a b => b ≤ a :=
    List.pairwise_map.2 (descending_newestFirst rows)
  have hall : (newestFirst (rows.filter f.accepts)).map Transaction.createdAt =
      (newestFirst (others.filter f.accepts)).map Transaction.createdAt :=
    List.Perm.eq_of_pairwise (fun _ _ _ _ hle hge => Std.le_antisymm hge hle) (hinstants _)
      (hinstants _) ((newestFirst_perm_of_perm (h.filter _)).map _)
  rw [select, select]
  cases f.limit with
  | none => exact hall
  | some n => simp only [cut, List.map_take, hall]

/-- Where no two rows are of one instant, it decides nothing. -/
theorem select_eq_of_perm (h : rows.Perm others) (hdistinct : (rows.map Transaction.createdAt).Nodup)
    (f : Filter) : f.select rows = f.select others := by
  have hkept : newestFirst (rows.filter f.accepts) = newestFirst (others.filter f.accepts) := by
    refine List.Perm.eq_of_pairwise ?_ (descending_newestFirst _) (descending_newestFirst _)
      (newestFirst_perm_of_perm (h.filter _))
    intro x y hx hy hle hge
    have hx' : x ∈ rows := (List.mem_filter.1 (mem_newestFirst.1 hx)).1
    have hy' : y ∈ rows := h.mem_iff.2 (List.mem_filter.1 (mem_newestFirst.1 hy)).1
    exact List.inj_on_of_nodup_map hdistinct hx' hy' (Std.le_antisymm hge hle)
  rw [select, select, hkept]

/-- Selecting by a test of one's own, from what a filter has selected, is one selection by both. -/
theorem select_filter_select (f : Filter) (p : Transaction → Bool) (rows : List Transaction) :
    { everything with limit := f.limit }.select ((f.unlimited.select rows).filter p) =
      cut f.limit (newestFirst (rows.filter fun tx => p tx && f.accepts tx)) := by
  have hopen : { everything with limit := f.limit }.accepts = fun _ => true := by
    funext tx
    simp [accepts_iff, Suits, everything]
  show cut f.limit (newestFirst (((newestFirst (rows.filter f.accepts)).filter p).filter
    { everything with limit := f.limit }.accepts)) = _
  rw [hopen, List.filter_eq_self.2 fun _ _ => rfl, filter_newestFirst,
    newestFirst_eq_self (descending_newestFirst _), List.filter_filter]

/--
**Spans of time and limits fit together**, whatever the rows and the other criteria.

  * What is selected over a span of time is what is selected over its later part, followed by
    what is selected over its earlier part.  The instant between them belongs to the later part.
  * A limit leaves the first rows of what is selected without it.
  * Selecting again from what was selected changes nothing.
  * Instants do not rise, and the rows of one instant are those that meet the criteria, in the
    order in which they came.
-/
theorem spans_and_limits_compose (f : Filter) (rows : List Transaction) (a b c : Instant)
    (hab : a ≤ b) (hbc : b ≤ c) :
    (f.during a c).select rows = (f.during b c).select rows ++ (f.during a b).select rows ∧
    (∀ n, { f with limit := some n }.select rows = (f.unlimited.select rows).take n) ∧
    f.select (f.select rows) = f.select rows ∧
    (f.unlimited.select rows).Pairwise (fun x y => y.createdAt ≤ x.createdAt) ∧
    ∀ t : Instant, (f.unlimited.select rows).filter (fun tx => tx.createdAt = t) =
      rows.filter fun tx => f.accepts tx && decide (tx.createdAt = t) := by
  refine ⟨select_during hab hbc f rows, fun n => rfl, select_select f rows,
    descending_newestFirst _, ?_⟩
  intro t
  calc ofInstant t (f.unlimited.select rows) = ofInstant t (rows.filter f.accepts) :=
        ofInstant_newestFirst t _
    _ = rows.filter fun tx => decide (tx.createdAt = t) && f.accepts tx := List.filter_filter
    _ = rows.filter fun tx => f.accepts tx && decide (tx.createdAt = t) := by
        simp only [Bool.and_comm]

end Filter

/-! ### Rows on the border of two spans -/

namespace Sample

/-- A deposit of three units at a given millisecond. -/
def dated (n : Nat) (ms : Int) : Transaction :=
  ⟨⟨.ofNat n⟩, ⟨⟨3, 0, by decide, Decimal.zero.scale_le⟩, by decide⟩, .deposit ⟨.ofNat 1⟩, false,
    .ofMillis ms⟩

end Sample

namespace Filter

/-- Two rows of the instant at which one span ends and the next begins come in the later span alone. -/
theorem spans_and_limits_compose_sample :
    let rows := [Sample.dated 1 10, Sample.dated 2 20, Sample.dated 3 30, Sample.dated 4 20]
    let pick := fun since before : Int =>
      (everything.during (.ofMillis since) (.ofMillis before)).select rows
    pick 10 30 = pick 20 30 ++ pick 10 20 ∧
      pick 20 30 = [Sample.dated 2 20, Sample.dated 4 20] ∧ pick 10 20 = [Sample.dated 1 10] := by
  intro rows pick
  obtain ⟨hspans, -⟩ := spans_and_limits_compose everything rows (.ofMillis 10) (.ofMillis 20)
    (.ofMillis 30) (by decide) (by decide)
  refine ⟨hspans, ?_, ?_⟩
  · have hlate : Descending [Sample.dated 2 20, Sample.dated 4 20] := by
      simp [Descending, Sample.dated]
    exact newestFirst_eq_self hlate
  · have hearly : Descending [Sample.dated 1 10] := by simp [Descending]
    exact newestFirst_eq_self hearly

end Filter

end Cashbook
