import UniversalModule.Proofs.SourceMap.Marks
import UniversalModule.Proofs.SourceMap.Vlq
import UniversalModule.Proofs.Text.Split

/-!
Mappings read back as the format's definition has it: `;` stands between lines and `,` between the
segments of a line; a segment has one, four or five numbers, each a difference to the last value of
its kind, and the generated column starts again in every line. Main statement: the entries of a
builder's table are read back as they were added, row by row.
-/

namespace UniversalModule.SourceMap

structure Origin where
  source : Nat
  line : Nat
  column : Nat
deriving DecidableEq

/-- A generated place with the place in a source and the index of a name that are tied to it. -/
structure Segment where
  generated : Position
  origin : Option Origin
  name : Option Nat
deriving DecidableEq

/-- The line that is being read, and the values to which numbers are added. -/
structure Reference where
  line : Nat
  column : Int
  source : Int
  originLine : Int
  originColumn : Int
  name : Int

namespace Reference

def start : Reference := ⟨0, 0, 0, 0, 0, 0⟩

def nextLine (reference : Reference) : Reference :=
  { reference with line := reference.line + 1, column := 0 }

/-- The reference after the numbers of a segment, each added to the value of its kind. -/
def shift (reference : Reference) : List Int → Option Reference
  | [column] => some { reference with column := reference.column + column }
  | [column, source, line, originColumn] =>
      some
        { reference with
          column := reference.column + column
          source := reference.source + source
          originLine := reference.originLine + line
          originColumn := reference.originColumn + originColumn }
  | [column, source, line, originColumn, name] =>
      some
        { reference with
          column := reference.column + column
          source := reference.source + source
          originLine := reference.originLine + line
          originColumn := reference.originColumn + originColumn
          name := reference.name + name }
  | _ => none

end Reference

def natural? (value : Int) : Option Nat := if 0 ≤ value then some value.toNat else none

/-- The segment that ends at a reference, after as many numbers as given. -/
def Segment.at? (reference : Reference) (count : Nat) : Option Segment := do
  let column ← natural? reference.column
  let generated := Position.mk reference.line column
  if count < 4 then some ⟨generated, none, none⟩
  else
    let origin := Origin.mk (← natural? reference.source) (← natural? reference.originLine)
      (← natural? reference.originColumn)
    if count < 5 then some ⟨generated, some origin, none⟩
    else some ⟨generated, some origin, some (← natural? reference.name)⟩

def readLine (reference : Reference) : List Text → Option (List Segment × Reference)
  | [] => some ([], reference)
  | piece :: rest =>
      if piece.isEmpty then readLine reference rest
      else do
        let numbers ← Vlq.decodeAll? piece
        let next ← reference.shift numbers
        let segment ← Segment.at? next numbers.length
        let (segments, last) ← readLine next rest
        some (segment :: segments, last)

def readLines (reference : Reference) : List Text → Option (List Segment)
  | [] => some []
  | line :: rest => do
      let (segments, last) ← readLine reference (Text.splitAt ',' line)
      let others ← readLines last.nextLine rest
      some (segments ++ others)

def segments? (mappings : Text) : Option (List Segment) :=
  readLines Reference.start (Text.splitAt ';' mappings)

def Mark.segment (mark : Mark) : Segment :=
  ⟨mark.generated, some ⟨mark.source, mark.line, mark.column⟩, none⟩

def Entry.reference (line : Nat) (entry : Entry) : Reference :=
  ⟨line, entry.generated, entry.source, entry.line, entry.column, 0⟩

theorem natural?_natCast (value : Nat) : natural? value = some value := by
  rw [natural?, if_pos (Int.natCast_nonneg value), Int.toNat_natCast]

theorem shift_numbers (line : Nat) (previous entry : Entry) :
    (previous.reference line).shift (Entry.numbers previous entry) = some (entry.reference line) := by
  have add (before after : Nat) : (before : Int) + Entry.difference after before = after := by
    unfold Entry.difference
    omega
  simp only [Entry.numbers, Entry.fields, List.zipWith_cons_cons, List.zipWith_nil_left,
    Reference.shift, Entry.reference, add]

theorem at?_reference (line : Nat) (previous entry : Entry) :
    Segment.at? (entry.reference line) (Entry.numbers previous entry).length =
      some (entry.mark line).segment := by
  have four : (Entry.numbers previous entry).length = 4 := rfl
  rw [four]
  simp only [Segment.at?, Entry.reference, natural?_natCast, Option.bind_eq_bind, Option.bind_some]
  rfl

theorem encodePair_ne_nil (pair : Entry × Entry) : encodePair pair ≠ [] := by
  simp [encodePair, Entry.numbers, Entry.fields, Vlq.encode_ne_nil]

theorem notMem_encodePair {c : Char} (unknown : Base64.value? c = none) (pair : Entry × Entry) :
    c ∉ encodePair pair := by
  intro member
  obtain ⟨number, _, digit⟩ := List.mem_flatMap.mp member
  exact Vlq.notMem_encode unknown number digit

/-- The entries of a row are read back one after the other, from any entry on. -/
theorem readLine_rowPairs (line : Nat) (previous : Entry) (row : List Entry) :
    readLine (previous.reference line) ((rowPairs previous row).map encodePair) =
      some (row.map fun entry => (entry.mark line).segment, (row.getLastD previous).reference line) := by
  induction row generalizing previous with
  | nil => rfl
  | cons entry rest induction =>
      have written : ¬(encodePair (previous, entry)).isEmpty = true := by
        rw [List.isEmpty_iff]
        exact encodePair_ne_nil _
      have decoded : Vlq.decodeAll? (encodePair (previous, entry)) = some (Entry.numbers previous entry) :=
        Vlq.decodeAll?_flatMap_encode _
      rw [rowPairs, List.map_cons, readLine, if_neg written]
      simp only [decoded, shift_numbers, at?_reference, induction entry, Option.bind_eq_bind,
        Option.bind_some, List.map_cons]
      rw [List.getLastD_cons]

/-- The text of a row is split into the texts of its entries; that of an empty row is empty. -/
theorem readLine_encodeRow (line : Nat) (previous : Entry) (row : List Entry) :
    readLine (previous.reference line) (Text.splitAt ',' (encodeRow (rowPairs previous row))) =
      some (row.map fun entry => (entry.mark line).segment, (row.getLastD previous).reference line) := by
  cases row with
  | nil => rfl
  | cons entry rest =>
      have whole : ∀ piece ∈ (rowPairs previous (entry :: rest)).map encodePair, ',' ∉ piece := by
        intro piece member
        obtain ⟨pair, _, rfl⟩ := List.mem_map.mp member
        exact notMem_encodePair (by decide +kernel) pair
      rw [encodeRow, Text.splitAt_joinWith (by simp [rowPairs]) whole, readLine_rowPairs]

theorem semicolon_notMem_encodeRow (pairs : List (Entry × Entry)) : ';' ∉ encodeRow pairs := by
  intro member
  rcases Text.mem_joinWith member with comma | ⟨piece, among, digit⟩
  · exact absurd comma (by decide)
  · obtain ⟨pair, _, rfl⟩ := List.mem_map.mp among
    exact notMem_encodePair (by decide +kernel) pair digit

theorem readLines_tablePairs (line : Nat) (previous : Entry) (table : List (List Entry)) :
    readLines (previous.reference line) ((tablePairs previous table).map encodeRow) =
      some ((marksOf line table).map Mark.segment) := by
  induction table generalizing line previous with
  | nil => rfl
  | cons row rest induction =>
      -- The decoder goes to the next line with the values of this line's last entry, or with those it
      -- had when the line is empty.
      have next : ((row.getLastD previous).reference line).nextLine =
          (row.getLastD previous).restarted.reference (line + 1) := rfl
      simp only [tablePairs, List.map_cons, readLines, readLine_encodeRow, next, induction,
        Option.bind_eq_bind, Option.bind_some, marksOf, List.map_append, List.map_map]
      rfl

/-- What is written for a builder's table is read back as its marks. -/
theorem segments?_mappings (builder : Builder) :
    segments? builder.mappings = some (builder.marks.map Mark.segment) := by
  have read := readLines_tablePairs 0 Entry.origin builder.table.toList
  unfold segments? Builder.mappings encodeTable Builder.marks
  cases rows : builder.table.toList with
  | nil => rfl
  | cons row rest =>
      have whole : ∀ piece ∈ (tablePairs Entry.origin (row :: rest)).map encodeRow, ';' ∉ piece := by
        intro piece member
        obtain ⟨pairs, _, rfl⟩ := List.mem_map.mp member
        exact semicolon_notMem_encodeRow pairs
      rw [Text.splitAt_joinWith (by simp [tablePairs]) whole, ← rows]
      exact read

end UniversalModule.SourceMap
