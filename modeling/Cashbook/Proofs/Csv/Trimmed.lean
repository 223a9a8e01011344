/-
What is read from a table is trimmed.

White space is taken off every cell before a row is worked through, and taking it off twice
is no different from taking it off once.  So whichever columns a row names an account in, the
name has no white space around it: this is what the theorems about replays ask of their rows.
-/
import Mathlib.Data.List.DropRight
import Cashbook.Csv.Operations
import Cashbook.Proofs.Replay.Cache

namespace Cashbook

namespace Text

/-- Taking off what leads and trails a second time takes off nothing. -/
theorem stripWith_stripWith {α : Type} (p : α → Bool) (xs : List α) :
    stripWith p (stripWith p xs) = stripWith p xs := by
  have hhead : (stripWith p xs).dropWhile p = stripWith p xs := by
    refine List.dropWhile_eq_self_iff.2 fun hpos => ?_
    -- What is left begins as what was left when only the front had been taken off.
    have hfront : stripWith p xs <+: xs.dropWhile p := List.rdropWhile_prefix p (xs.dropWhile p)
    rw [List.IsPrefix.getElem hfront hpos]
    exact List.dropWhile_eq_self_iff.1 (List.dropWhile_idempotent p xs) _
  show ((stripWith p xs).dropWhile p).rdropWhile p = stripWith p xs
  rw [hhead]
  exact List.rdropWhile_idempotent p (xs.dropWhile p)

theorem trim_ofList_stripWith (chars : List Char) :
    trim (String.ofList (stripWith isBlank chars)) = String.ofList (stripWith isBlank chars) := by
  rw [trim, String.toList_ofList, stripWith_stripWith]

end Text

namespace Csv

open Text

theorem trim_of_mem_textCells {index : Nat} {row : List Cell} {cells : List String}
    (h : textCells index row = .ok cells) : ∀ cell ∈ cells, trim cell = cell := by
  induction row generalizing index cells with
  | nil =>
      cases h
      nofun
  | cons first rest ih =>
      rw [textCells] at h
      split at h
      next chars _ =>
        cases hrest : textCells (index + 1) rest with
        | error _ => rw [hrest] at h; cases h
        | ok others =>
            rw [hrest] at h
            cases h
            intro cell hcell
            rcases List.mem_cons.1 hcell with rfl | hcell
            · exact trim_ofList_stripWith chars
            · exact ih hrest cell hcell
      next => cases h

/-- What comes of two steps came of the second, which was given what came of the first. -/
theorem bind_eq_ok_iff {ε α β : Type} {first : Except ε α} {next : α → Except ε β} {b : β} :
    (first >>= next) = .ok b ↔ ∃ a, first = .ok a ∧ next a = .ok b := by
  cases first with
  | error _ => exact ⟨nofun, fun ⟨_, h, _⟩ => nomatch h⟩
  | ok a => exact ⟨fun h => ⟨a, rfl, h⟩, fun ⟨_, h, hnext⟩ => by cases h; exact hnext⟩

theorem map_eq_ok_iff {ε α β : Type} {first : Except ε α} {f : α → β} {b : β} :
    first.map f = .ok b ↔ ∃ a, first = .ok a ∧ f a = b := by
  cases first with
  | error _ => exact ⟨nofun, fun ⟨_, h, _⟩ => nomatch h⟩
  | ok a => exact ⟨fun h => ⟨a, rfl, Except.ok.inj h⟩, fun ⟨_, h, hb⟩ => by cases h; rw [← hb]; rfl⟩

theorem mapError_eq_ok_iff {ε ε' α : Type} {x : Except ε α} {f : ε → ε'} {a : α} :
    x.mapError f = .ok a ↔ x = .ok a := by
  cases x with
  | error _ => exact ⟨nofun, nofun⟩
  | ok _ => exact ⟨fun h => congrArg Except.ok (Except.ok.inj h), fun h => congrArg _ h⟩

/-- Reading a cell leaves the account as it was, or it is that cell. -/
theorem Draft.account_read {d after : Draft} {column : Column} {cell : Option String}
    (h : d.read column cell = .ok after) : after.account = d.account ∨ after.account = cell := by
  cases column with
  | account =>
      obtain ⟨text, hcell, rfl⟩ := map_eq_ok_iff.1 h
      cases cell with
      | none => cases hcell
      | some name =>
          cases hcell
          exact .inr rfl
  | op =>
      obtain ⟨text, -, hkind⟩ := bind_eq_ok_iff.1 h
      obtain ⟨kind, -, hafter⟩ := bind_eq_ok_iff.1 hkind
      cases hafter
      exact .inl rfl
  | user | amount =>
      obtain ⟨_, -, rfl⟩ := map_eq_ok_iff.1 h
      exact .inl rfl
  | currency | counterparty | reference =>
      cases h
      exact .inl rfl

theorem Draft.account_finish {d : Draft} {op : Operation} (h : d.finish = .ok op) :
    d.account = some op.account := by
  rw [finish] at h
  split at h <;> cases h
  assumption

/-- A name that is known behind a cell was known before it or is in that cell. -/
theorem Draft.account_of_read {d after : Draft} {column : Column} {cells : List String} {name : String}
    (hread : d.read column cells.head? = .ok after)
    (hrest : after.account = some name ∨ name ∈ cells.tail) : d.account = some name ∨ name ∈ cells := by
  rcases hrest with haccount | hmem
  · rcases account_read hread with heq | heq
    · exact .inl (heq ▸ haccount)
    · exact .inr (List.mem_of_head? (heq.symm.trans haccount))
  · exact .inr (List.mem_of_mem_tail hmem)

/-- The account of the operation is the one that was read already or is in one of the cells. -/
theorem account_of_readNamed {names cells : List String} {d : Draft} {op : Operation}
    (h : readNamed d names cells = .ok op) : d.account = some op.account ∨ op.account ∈ cells := by
  induction names generalizing d cells with
  | nil => exact .inl (Draft.account_finish h)
  | cons name names ih =>
      unfold readNamed at h
      split at h
      next column _ =>
        split at h
        · cases h
        · obtain ⟨after, hread, hrest⟩ := bind_eq_ok_iff.1 h
          exact Draft.account_of_read hread (ih hrest)
      next =>
        cases cells with
        | nil => cases h
        | cons _ rest => exact (ih h).imp_right (List.mem_cons_of_mem _)

theorem account_of_readInOrder {columns : List Column} {cells : List String} {count : Nat} {d : Draft}
    {op : Operation} (h : readInOrder d count columns cells = .ok op) :
    d.account = some op.account ∨ op.account ∈ cells := by
  induction columns generalizing d cells with
  | nil => exact .inl (Draft.account_finish h)
  | cons column columns ih =>
      rw [readInOrder] at h
      split at h
      · cases h
      · obtain ⟨after, hread, hrest⟩ := bind_eq_ok_iff.1 h
        exact Draft.account_of_read hread (ih hrest)

theorem isTrimmed_of_readRow {names : Option (List String)} {row : Record} {op : Operation}
    (h : readRow names row = .ok op) : op.IsTrimmed := by
  rw [readRow] at h
  split at h
  · cases h
  next cells hcells =>
    have hmem : op.account ∈ cells := by
      cases names with
      | some names =>
          exact (account_of_readNamed (mapError_eq_ok_iff.1 h)).resolve_left nofun
      | none =>
          exact (account_of_readInOrder (mapError_eq_ok_iff.1 h)).resolve_left nofun
    exact trim_of_mem_textCells hcells op.account hmem

end Csv

/-- **Rows that were read from a table are trimmed**, whatever the table. -/
theorem Replay.trimmed_operations (bytes : List UInt8) : Trimmed (Csv.operations bytes) := by
  intro op hop
  rw [Csv.operations] at hop
  split at hop
  · cases hop
  next header rows _ =>
    obtain ⟨row, -, hrow⟩ := List.mem_map.1 hop
    exact Csv.isTrimmed_of_readRow hrow

end Cashbook
