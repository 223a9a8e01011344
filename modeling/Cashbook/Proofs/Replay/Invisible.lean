/-
Rows that fail are invisible.

A row succeeds where it is entered in the book, and a row that fails leaves the book as it
was.  So the rows that succeed are entered in an empty book one after another, and another
replay of those alone, with whatever identifiers, stands as the same book says.
-/
import Cashbook.Proofs.Replay.Entered
import Cashbook.Proofs.Replay.Report

namespace Cashbook

variable {users : List String} {rules : Rules} {stamps : Nat → Stamp} {count : Nat} {book : Book}
  {r : Replay Desk} {row : Except Csv.Fault Operation} {rows : List (Except Csv.Fault Operation)}
  {results : List RowResult}

namespace Replay

/-- The rows whose results say that they are done. -/
def succeeded (rows : List (Except Csv.Fault Operation)) (results : List RowResult) :
    List (Except Csv.Fault Operation) :=
  ((rows.zip results).filter fun pair => decide (pair.2 = .done)).map Prod.fst

theorem succeeded_cons_done (row : Except Csv.Fault Operation) :
    succeeded (row :: rows) (.done :: results) = row :: succeeded rows results := rfl

theorem succeeded_cons_of_ne {result : RowResult} (row : Except Csv.Fault Operation)
    (h : result ≠ .done) : succeeded (row :: rows) (result :: results) = succeeded rows results := by
  rw [succeeded, List.zip_cons_cons, List.filter_cons_of_neg (by simpa using h)]
  rfl

theorem length_succeeded_le (rows : List (Except Csv.Fault Operation)) (results : List RowResult) :
    (succeeded rows results).length ≤ rows.length := by
  rw [succeeded, List.length_map]
  exact (List.length_filter_le _ _).trans (by rw [List.length_zip]; exact Nat.min_le_left _ _)

theorem length_applyRows (rows : List (Except Csv.Fault Operation)) (r : Replay Desk) :
    (applyRows rows r).1.length = rows.length := by
  induction rows generalizing r with
  | nil => rfl
  | cons row rest ih => exact congrArg (· + 1) (ih _)

/-- Where every row is among those that succeeded, every result says so. -/
theorem all_done_of_succeeded (hlength : results.length = rows.length)
    (h : succeeded rows results = rows) : results = List.replicate rows.length .done := by
  have hzip : (rows.zip results).length = rows.length := by rw [List.length_zip, hlength, Nat.min_self]
  have hkept := congrArg List.length h
  rw [succeeded, List.length_map, ← hzip, List.length_filter_eq_length_iff] at hkept
  refine List.eq_replicate_iff.2 ⟨hlength, fun result hresult => ?_⟩
  have hzipped : (rows.zip results).map Prod.snd = results := List.map_snd_zip (Nat.le_of_eq hlength)
  rw [← hzipped] at hresult
  obtain ⟨pair, hpair, rfl⟩ := List.mem_map.1 hresult
  exact of_decide_eq_true (hkept pair hpair)

/-! ### Runs beside a book -/

/-- A row that succeeds is entered in the book, and one that fails is not. -/
theorem Stands.applyRow (h : r.Stands users rules stamps count none book)
    (hdistinct : OwnersDistinct users) (hfresh : Fresh stamps (count + 2))
    (hrow : ∀ op, row = .ok op → op.mentions ⊆ users ∧ op.IsTrimmed) :
    match book.enter rules row with
    | some next => (Replay.applyRow row r).1 = .done ∧
        (Replay.applyRow row r).2.Stands users rules stamps (count + 2) none next
    | none => (Replay.applyRow row r).1 ≠ .done ∧
        (Replay.applyRow row r).2.Stands users rules stamps (count + 2) none book := by
  cases row with
  | error fault => exact ⟨nofun, h.mono (by omega)⟩
  | ok op =>
      obtain ⟨hmentions, htrim⟩ := hrow op rfl
      have hends := Task.matches_apply hdistinct hfresh hmentions htrim r h
      rw [applyRow_ok, Book.enter]
      rcases hon : Task.on (Replay.apply op) r with ⟨outcome, after⟩
      rw [hon] at hends
      cases hends with
      | ok hafter =>
          obtain ⟨next, hnext, hstands⟩ := hafter
          rw [hnext]
          exact ⟨rfl, hstands⟩
      | error hafter =>
          rw [hafter.1]
          exact ⟨nofun, hafter.2⟩

/-- **The rows that succeed are those that are entered**, and the replay stands as they say. -/
theorem Stands.applyRows (h : r.Stands users rules stamps count none book)
    (hdistinct : OwnersDistinct users) (hfresh : Fresh stamps (count + 2 * rows.length))
    (hrows : ∀ op, .ok op ∈ rows → op.mentions ⊆ users ∧ op.IsTrimmed) :
    succeeded rows (Replay.applyRows rows r).1 = (Book.enterAll rules rows book).1 ∧
      (Replay.applyRows rows r).2.Stands users rules stamps (count + 2 * rows.length) none
        (Book.enterAll rules rows book).2 := by
  induction rows generalizing r book count with
  | nil => exact ⟨rfl, h⟩
  | cons row rest ih =>
      have hstep := h.applyRow hdistinct (hfresh.mono (by rw [List.length_cons]; omega))
        fun op (hop : row = .ok op) => hrows op (hop ▸ List.mem_cons_self)
      have hcount : count + 2 * (row :: rest).length = count + 2 + 2 * rest.length := by
        rw [List.length_cons]
        omega
      rw [hcount] at hfresh ⊢
      have hrest : ∀ op, .ok op ∈ rest → op.mentions ⊆ users ∧ op.IsTrimmed :=
        fun op hop => hrows op (List.mem_cons_of_mem row hop)
      rw [Book.enterAll]
      cases hentered : book.enter rules row with
      | some next =>
          rw [hentered] at hstep
          obtain ⟨hdone, hstands⟩ := hstep
          obtain ⟨hkept, hlast⟩ := ih hstands hfresh hrest
          refine ⟨?_, hlast⟩
          show succeeded (row :: rest) ((Replay.applyRow row r).1 :: _) = _
          rw [hdone, succeeded_cons_done]
          exact congrArg (row :: ·) hkept
      | none =>
          rw [hentered] at hstep
          obtain ⟨hfailed, hstands⟩ := hstep
          obtain ⟨hkept, hlast⟩ := ih hstands hfresh hrest
          refine ⟨?_, hlast⟩
          show succeeded (row :: rest) ((Replay.applyRow row r).1 :: _) = _
          rw [succeeded_cons_of_ne row hfailed]
          exact hkept

/--
**Rows that fail are invisible.**  Whatever rows are worked through on a new replay, some of
them not even read: when those that failed are left out, another new replay with other
identifiers has every one of the rest succeed, and comes to the same report of balances.
-/
theorem failed_rows_invisible (rules : Rules) (stamps others : Nat → Stamp)
    (rows : List (Except Csv.Fault Operation)) (htrimmed : Trimmed rows)
    (hdistinct : OwnersDistinct (mentioned rows)) (hfresh : Fresh stamps (2 * rows.length))
    (hothers : Fresh others (2 * rows.length)) :
    let first := applyRows rows (start (Desk.start rules stamps))
    let kept := succeeded rows first.1
    let second := applyRows kept (start (Desk.start rules others))
    second.1 = List.replicate kept.length .done ∧ (report second.2).1 = (report first.2).1 ∧
      ∃ text, (report first.2).1 = .ok text := by
  intro first kept second
  have hrows : ∀ op, .ok op ∈ rows → op.mentions ⊆ mentioned rows ∧ op.IsTrimmed :=
    fun op hop => ⟨mentions_subset_mentioned hop, htrimmed op hop⟩
  obtain ⟨hkept, hfirst⟩ := (Stands.start (mentioned rows) rules stamps).applyRows hdistinct
    (by rwa [Nat.zero_add]) hrows
  have hsub : ∀ op, .ok op ∈ kept → op.mentions ⊆ mentioned rows ∧ op.IsTrimmed := by
    intro op hop
    obtain ⟨⟨same, result⟩, hpair, rfl⟩ := List.mem_map.1 hop
    exact hrows op (List.of_mem_zip (List.mem_of_mem_filter hpair)).1
  obtain ⟨hagain, hsecond⟩ := (Stands.start (mentioned rows) rules others).applyRows hdistinct
    (hothers.mono (by rw [Nat.zero_add]; exact Nat.mul_le_mul_left 2 (length_succeeded_le rows first.1))) hsub
  have hsame : Book.enterAll rules kept .empty = Book.enterAll rules rows .empty := by
    show Book.enterAll rules (succeeded rows first.1) .empty = _
    rw [hkept, Book.enterAll_entered]
  refine ⟨all_done_of_succeeded (length_applyRows kept _) ?_, ?_, ?_⟩
  · show succeeded kept _ = kept
    rw [hagain, hsame]
    exact hkept.symm
  · rw [hfirst.report_eq hdistinct, hsecond.report_eq hdistinct, hsame]
  · exact ⟨_, hfirst.report_eq hdistinct⟩

end Replay

/-! ### Accounts that are closed and opened again, and payments that fail in between -/

/-- Stamps that are counted on from a seed, as many as seven rows can use. -/
theorem Sample.fresh (seed : Nat) (hseed : seed = 1 ∨ seed = 100) : Fresh (Stamp.series seed) 14 where
  accounts := by rcases hseed with rfl | rfl <;> decide +kernel
  transactions := by rcases hseed with rfl | rfl <;> decide +kernel
  cards := by rcases hseed with rfl | rfl <;> decide +kernel
  sound i _ := CardNumber.isSound_ofSerial (seed + i)

theorem Replay.failed_rows_invisible_sample :
    let rows := Sample.reopening ++ [.ok Sample.income]
    let rules : Rules := ⟨.zero, 2, 64⟩
    let first := applyRows rows (start (Desk.start rules (Stamp.series 1)))
    let second := applyRows (succeeded rows first.1) (start (Desk.start rules (Stamp.series 100)))
    Trimmed rows ∧ OwnersDistinct (mentioned rows) ∧ Fresh (Stamp.series 1) (2 * rows.length) ∧
      Fresh (Stamp.series 100) (2 * rows.length) ∧ second.1 = List.replicate 5 .done ∧
        (report second.2).1 = (report first.2).1 := by
  intro rows rules first second
  have htrimmed : Trimmed rows := by
    intro op hop
    simp only [rows, Sample.reopening, List.cons_append, List.nil_append, List.mem_cons, Except.ok.injEq,
      reduceCtorEq, false_or, List.not_mem_nil, or_false] at hop
    rcases hop with rfl | rfl | rfl | rfl | rfl | rfl <;> exact (by decide : Text.trim "main" = "main")
  have hdistinct : OwnersDistinct (mentioned rows) := by
    unfold OwnersDistinct
    decide +kernel
  have hfirst : Fresh (Stamp.series 1) (2 * rows.length) := Sample.fresh 1 (.inl rfl)
  have hsecond : Fresh (Stamp.series 100) (2 * rows.length) := Sample.fresh 100 (.inr rfl)
  obtain ⟨hdone, hreport, -⟩ := failed_rows_invisible rules (Stamp.series 1) (Stamp.series 100) rows
    htrimmed hdistinct hfirst hsecond
  have hfive : (succeeded rows first.1).length = 5 := by decide +kernel
  exact ⟨htrimmed, hdistinct, hfirst, hsecond, by rw [← hfive]; exact hdone, hreport⟩

end Cashbook
