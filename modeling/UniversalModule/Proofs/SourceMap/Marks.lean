import UniversalModule.SourceMap.Builder

/-!
The marks that a builder's table holds, with the lines of its rows. No row is beyond the line that
has been reached, so that a mark that is added comes after all others, and the table always has a
row for it.
-/

namespace UniversalModule.SourceMap

structure Mark where
  generated : Position
  source : Nat
  line : Nat
  column : Nat
deriving DecidableEq

def Entry.mark (line : Nat) (entry : Entry) : Mark :=
  ⟨⟨line, entry.generated⟩, entry.source, entry.line, entry.column⟩

/-- The marks of some rows, the first of which is that of the given line. -/
def marksOf (line : Nat) : List (List Entry) → List Mark
  | [] => []
  | row :: rest => row.map (Entry.mark line) ++ marksOf (line + 1) rest

theorem marksOf_append (line : Nat) (first second : List (List Entry)) :
    marksOf line (first ++ second) = marksOf line first ++ marksOf (line + first.length) second := by
  induction first generalizing line with
  | nil => rfl
  | cons row rest induction =>
      have onward : line + (row :: rest).length = line + 1 + rest.length := by
        rw [List.length_cons]
        omega
      rw [onward, List.cons_append, marksOf, marksOf, induction, List.append_assoc]

theorem marksOf_replicate_nil (line count : Nat) : marksOf line (List.replicate count []) = [] := by
  induction count generalizing line with
  | zero => rfl
  | succ count induction => exact induction (line + 1)

/-- An entry that is put at the end of the last row is the last mark. -/
theorem marksOf_modify (line : Nat) {rows : List (List Entry)} {index : Nat}
    (last : rows.length = index + 1) (entry : Entry) :
    marksOf line (rows.modify index (· ++ [entry])) =
      marksOf line rows ++ [entry.mark (line + index)] := by
  induction rows generalizing line index with
  | nil => exact absurd last (by simp)
  | cons row rest induction =>
      cases index with
      | zero =>
          have only : rest = [] := List.eq_nil_of_length_eq_zero (Nat.succ.inj last)
          rw [only]
          simp [marksOf]
      | succ index =>
          have onward : line + (index + 1) = line + 1 + index := by omega
          rw [List.modify_succ_cons, marksOf, marksOf, induction (line + 1) (Nat.succ.inj last), onward,
            List.append_assoc]

namespace Builder

theorem advance_append (builder : Builder) (first second : Text) :
    builder.advance (first ++ second) = (builder.advance first).advance second := by
  unfold advance
  simp only [Position.after_append]

def marks (builder : Builder) : List Mark := marksOf 0 builder.table.toList

/-- The table has a row for the line that has been reached, before an entry is put there. -/
theorem line_lt_size_grown (builder : Builder) : builder.place.line < builder.grown.size := by
  rw [size_grown]
  exact Nat.lt_succ_self _

theorem marks_addMark (builder : Builder) (source line column : Nat) :
    (builder.addMark source line column).marks =
      builder.marks ++ [⟨builder.place, source, line, column⟩] := by
  have last : builder.grown.toList.length = builder.place.line + 1 := by
    rw [Array.length_toList, size_grown]
  have table : (builder.addMark source line column).table.toList =
      builder.grown.toList.modify builder.place.line
        (· ++ [⟨builder.place.column, source, line, column⟩]) := Array.toList_modify
  have same : marksOf 0 builder.grown.toList = builder.marks := by
    rw [grown, Array.toList_append, Array.toList_replicate, marksOf_append, marksOf_replicate_nil,
      List.append_nil, marks]
  rw [marks, table, marksOf_modify 0 last, same, Nat.zero_add]
  rfl

end Builder

end UniversalModule.SourceMap
