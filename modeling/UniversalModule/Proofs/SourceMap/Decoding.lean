import Mathlib.Data.List.Infix
import UniversalModule.Proofs.SourceMap.Runs
import UniversalModule.Proofs.SourceMap.Words

/-!
What a standard decoder reads from the mappings of a builder after any calls, and that words of
sixty-four bits are wide enough for everything that is computed on the way, as long as the numbers
of the calls and the places that are reached fit signed ones.
-/

namespace UniversalModule.SourceMap

/-- Calls whose numbers and places fit signed words of sixty-four bits. -/
structure Bounded (calls : List Call) : Prop where
  numbers : ∀ call ∈ calls, ∀ number ∈ call.numbers, number < twoTo 63
  places : ∀ before ∈ calls.inits, (Position.ofText (textOf before)).line < twoTo 63 ∧
    (Position.ofText (textOf before)).column < twoTo 63

namespace Entry

def Small (entry : Entry) : Prop := ∀ field ∈ entry.fields, field < twoTo 63

theorem small_iff {entry : Entry} : entry.Small ↔ entry.generated < twoTo 63 ∧
    entry.source < twoTo 63 ∧ entry.line < twoTo 63 ∧ entry.column < twoTo 63 := by
  simp [Small, fields]

theorem small_origin : origin.Small := by
  rw [small_iff]
  decide

theorem Small.restarted {entry : Entry} (small : entry.Small) : entry.restarted.Small := by
  have zero : 0 < twoTo 63 := by decide
  exact small_iff.mpr ⟨zero, (small_iff.mp small).2⟩

end Entry

theorem small_rowPairs {previous : Entry} {row : List Entry} (first : previous.Small)
    (all : ∀ entry ∈ row, entry.Small) {pair : Entry × Entry} (member : pair ∈ rowPairs previous row) :
    pair.1.Small ∧ pair.2.Small := by
  induction row generalizing previous with
  | nil => exact absurd member (by simp [rowPairs])
  | cons entry rest induction =>
      have own := all entry List.mem_cons_self
      rcases List.mem_cons.mp member with rfl | later
      · exact ⟨first, own⟩
      · exact induction own (fun other among => all other (List.mem_cons_of_mem entry among)) later

theorem small_tablePairs {previous : Entry} {table : List (List Entry)} (first : previous.Small)
    (all : ∀ row ∈ table, ∀ entry ∈ row, entry.Small) {pairs : List (Entry × Entry)}
    (among : pairs ∈ tablePairs previous table) {pair : Entry × Entry} (member : pair ∈ pairs) :
    pair.1.Small ∧ pair.2.Small := by
  induction table generalizing previous with
  | nil => exact absurd among (by simp [tablePairs])
  | cons row rest induction =>
      have own := all row List.mem_cons_self
      have last : (row.getLastD previous).Small := by
        have among : row.getLastD previous ∈ previous :: row := List.getLastD_mem_cons
        rcases List.mem_cons.mp among with same | inside
        · rwa [same]
        · exact own _ inside
      rcases List.mem_cons.mp among with rfl | later
      · exact small_rowPairs first own member
      · exact induction last.restarted
          (fun other known => all other (List.mem_cons_of_mem row known)) later

theorem mark_mem_marksOf {table : List (List Entry)} {row : List Entry} {entry : Entry}
    (among : row ∈ table) (member : entry ∈ row) (start : Nat) :
    ∃ line, entry.mark line ∈ marksOf start table := by
  induction table generalizing start with
  | nil => exact absurd among (by simp)
  | cons first rest induction =>
      rcases List.mem_cons.mp among with rfl | later
      · exact ⟨start, List.mem_append_left _ (List.mem_map_of_mem member)⟩
      · obtain ⟨line, found⟩ := induction later (start + 1)
        exact ⟨line, List.mem_append_right _ found⟩

/-- The numbers in the table are those of the calls and the columns that were reached. -/
theorem small_table {calls : List Call} (bounded : Bounded calls) {row : List Entry}
    (among : row ∈ (Builder.empty.run calls).table.toList) {entry : Entry} (member : entry ∈ row) :
    entry.Small := by
  -- An entry is a mark of its line, whose segment some call asked for after the calls before it.
  obtain ⟨line, marked⟩ := mark_mem_marksOf among member 0
  have segment : (entry.mark line).segment ∈ segmentsOf [] calls := by
    rw [← segments_run_empty]
    exact List.mem_map_of_mem marked
  obtain ⟨earlier, call, later, rfl, asked⟩ := mem_segmentsOf segment
  cases call with
  | addMark source sourceLine column =>
      have numbers := bounded.numbers (.addMark source sourceLine column) (by simp)
      have place := (bounded.places earlier (by simp)).2
      have same := List.mem_singleton.mp asked
      simp only [Mark.segment, Entry.mark, Segment.mk.injEq, Option.some.injEq, Origin.mk.injEq,
        List.nil_append] at same
      obtain ⟨generated, ⟨rfl, rfl, rfl⟩, -⟩ := same
      rw [← generated] at place
      simp only [Call.numbers, List.mem_cons, List.not_mem_nil, or_false, forall_eq_or_imp,
        forall_eq] at numbers
      exact Entry.small_iff.mpr ⟨place, numbers⟩
  | _ => exact absurd asked (by simp [Call.segments])

structure Recorded (calls : List Call) : Prop where
  /-- One segment for each mark that is asked for, in order, at the place that was reached. -/
  decoded : segments? (Builder.empty.run calls).build.mappings = some (segmentsOf [] calls)
  sorted : (segmentsOf [] calls).Pairwise fun earlier later =>
    earlier.generated.NotAfter later.generated
  recut : ∀ others, pieces others = pieces calls →
    (Builder.empty.run others).build = (Builder.empty.run calls).build
  /-- The table has a row for the line in which a mark is put, at every time. -/
  inTable : ∀ before ∈ calls.inits,
    (Builder.empty.run before).place.line < (Builder.empty.run before).grown.size
  /-- Words of sixty-four bits give the same differences and digits. -/
  exact : ∀ row ∈ tablePairs Entry.origin (Builder.empty.run calls).table.toList, ∀ pair ∈ row,
    ∀ numbers ∈ pair.2.fields.zip pair.1.fields, Exact numbers.1 numbers.2

theorem recorded_of_bounded {calls : List Call} (bounded : Bounded calls) : Recorded calls where
  decoded := by
    rw [← segments_run_empty]
    exact segments?_mappings _
  sorted := pairwise_segmentsOf [] calls
  recut others same := by
    rw [← run_pieces Builder.empty others, same, run_pieces]
  inTable before _ := Builder.line_lt_size_grown _
  exact row among pair member numbers compared := by
    have small := small_tablePairs Entry.small_origin (fun row => small_table bounded) among member
    obtain ⟨current, previous⟩ := List.of_mem_zip compared
    exact exact_of_lt (small.2 _ current) (small.1 _ previous)

/-- Calls of all kinds, with a mark in a line that has one already, lines without marks, a character
of two units and the largest number. -/
def mixedCalls : List Call :=
  [.advance "a\n", .addMark 0 4 7, .advance [Char.ofNat 0x1f600, 'b'], .addSource "b.js" none,
    .addMark 1 0 2, .advance "\n\n", .setFile "m.js", .addMark 0 9223372036854775807 0]

theorem recorded_mixedCalls :
    Bounded mixedCalls ∧ Recorded mixedCalls ∧
    segmentsOf [] mixedCalls =
      [⟨⟨1, 0⟩, some ⟨0, 4, 7⟩, none⟩, ⟨⟨1, 3⟩, some ⟨1, 0, 2⟩, none⟩,
        ⟨⟨3, 0⟩, some ⟨0, 9223372036854775807, 0⟩, none⟩] := by
  have bounded : Bounded mixedCalls := ⟨by decide +kernel, by decide +kernel⟩
  exact ⟨bounded, recorded_of_bounded bounded, by decide +kernel⟩

end UniversalModule.SourceMap
