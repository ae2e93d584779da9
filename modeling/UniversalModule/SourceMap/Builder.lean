import UniversalModule.SourceMap.Basic
import UniversalModule.SourceMap.Vlq
import UniversalModule.Text.Lines

/-!
A source map under construction follows the text that is written: it knows the place that has
been reached, and each mark ties that place to one in a source. Marks are kept in a table that has
a row for each generated line. In the mappings a mark is written as differences to the mark before
it, only the generated column starts again in a line; `;` stands between lines and `,` between the
marks of one.
-/

namespace UniversalModule.SourceMap

/-- A generated column and the place in a source that it came from. -/
structure Entry where
  generated : Nat
  source : Nat
  line : Nat
  column : Nat
deriving DecidableEq

namespace Entry

def origin : Entry := ⟨0, 0, 0, 0⟩

def difference (current previous : Nat) : Int := (current : Int) - previous

def fields (entry : Entry) : List Nat := [entry.generated, entry.source, entry.line, entry.column]

/-- An entry as differences to the previous one. -/
def numbers (previous entry : Entry) : List Int :=
  List.zipWith difference entry.fields previous.fields

/-- The entry to which the first one of the next row is compared. -/
def restarted (entry : Entry) : Entry := { entry with generated := 0 }

end Entry

/-- The entries of a row, each with the one to which it is compared. -/
def rowPairs (previous : Entry) : List Entry → List (Entry × Entry)
  | [] => []
  | entry :: rest => (previous, entry) :: rowPairs entry rest

def tablePairs (previous : Entry) : List (List Entry) → List (List (Entry × Entry))
  | [] => []
  | row :: rest => rowPairs previous row :: tablePairs (row.getLastD previous).restarted rest

def encodePair (pair : Entry × Entry) : Text := (Entry.numbers pair.1 pair.2).flatMap Vlq.encode

def encodeRow (pairs : List (Entry × Entry)) : Text := Text.joinWith [','] (pairs.map encodePair)

def encodeTable (rows : List (List (Entry × Entry))) : Text :=
  Text.joinWith [';'] (rows.map encodeRow)

structure Builder where
  file : Option Text
  sources : List (Text × Option Text)
  /-- The entries of each generated line, up to the last line that has any. -/
  table : Array (List Entry)
  place : Position
  reached : table.size ≤ place.line + 1

namespace Builder

def empty : Builder := ⟨none, [], #[], Position.start, Nat.zero_le _⟩

def setFile (builder : Builder) (file : Text) : Builder := { builder with file := some file }

def nextSource (builder : Builder) : Nat := builder.sources.length

def addSource (builder : Builder) (path : Text) (content : Option Text) : Builder :=
  { builder with sources := builder.sources ++ [(path, content)] }

/-- The table with a row for every line up to the one that has been reached. -/
def grown (builder : Builder) : Array (List Entry) :=
  builder.table ++ Array.replicate (builder.place.line + 1 - builder.table.size) []

theorem size_grown (builder : Builder) : builder.grown.size = builder.place.line + 1 := by
  have reached := builder.reached
  rw [grown, Array.size_append, Array.size_replicate]
  omega

/-- Ties the place that has been reached to a place in a source. -/
def addMark (builder : Builder) (source line column : Nat) : Builder :=
  { builder with
    table := builder.grown.modify builder.place.line
      (· ++ [⟨builder.place.column, source, line, column⟩])
    reached := Nat.le_of_eq (by rw [Array.size_modify, size_grown]) }

def advance (builder : Builder) (text : Text) : Builder :=
  { builder with
    place := builder.place.after text
    reached := by
      have reached := builder.reached
      rw [Position.line_after]
      omega }

def mappings (builder : Builder) : Text :=
  encodeTable (tablePairs Entry.origin builder.table.toList)

def build (builder : Builder) : SourceMap :=
  { version := 3
    file := builder.file
    sources := builder.sources.map Prod.fst
    sourcesContent := builder.sources.map Prod.snd
    names := []
    mappings := builder.mappings }

end Builder

end UniversalModule.SourceMap
