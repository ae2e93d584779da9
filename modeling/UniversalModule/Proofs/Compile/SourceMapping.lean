import UniversalModule.Proofs.Compile.Texts
import UniversalModule.Proofs.Emission.Parts
import UniversalModule.Proofs.SourceMap.Mappings
import UniversalModule.Proofs.SourceMap.Script

/-!
The map that a module carries, read by whoever loads the module: its last row is taken apart down
to the segments of the mappings. These show every row of the core and of the fragments, each where
it stands in the module with the same characters, and nothing else of the module is mapped.
-/

namespace UniversalModule

namespace SourceMap

open Emission (Row marksFrom places rowsOutside)

def rowStarts (sources : List Source) : List Origin :=
  (places sources 0).map fun (source, line) => ⟨source, line, 0⟩

/-- The segments of a map show the sources in a script that has the given rows besides. -/
structure Covers (sources : List Source) (others : List Text) (code : Text) (map : SourceMap)
    (segments : List Segment) : Prop where
  labels : map.sources = sources.map Source.label
  contents : map.sourcesContent = sources.map fun source => some source.content
  /-- Every row of every source is shown once, from its first column, in order. -/
  origins : segments.map Segment.origin = (rowStarts sources).map some
  columns : ∀ segment ∈ segments, segment.generated.column = 0
  /-- The line of the script and the line of the source have the same characters. -/
  sameText : ∀ segment ∈ segments, ∀ origin, segment.origin = some origin →
    ∃ content row, map.sourcesContent[origin.source]? = some (some content) ∧
      (Text.splitAt '\n' content)[origin.line]? = some row ∧
      (Text.splitAt '\n' code)[segment.generated.line]? = some row
  /-- No line of the script has two segments. -/
  ascending : segments.Pairwise fun earlier later => earlier.generated.line < later.generated.line
  /-- The lines without a segment are the other rows, all of them and in order. -/
  unmapped : rowsOutside (segments.map fun segment => segment.generated.line) 0 code.rows = others

theorem map_origin_marksFrom (line : Nat) (rows : List Row) :
    ((marksFrom line rows).map Mark.segment).map Segment.origin =
      (rows.filterMap Row.shown).map fun (source, shown) => some ⟨source, shown, 0⟩ := by
  induction rows generalizing line with
  | nil => rfl
  | cons row rest induction =>
      cases shows : row.shown with
      | none => rw [marksFrom, shows, List.filterMap_cons_none shows, induction]
      | some place =>
          rw [marksFrom, shows, List.filterMap_cons_some shows]
          simp only [List.map_cons, induction]
          rfl

end SourceMap

namespace Emission

open SourceMap (Builder Segment Mark Covers rowStarts)

theorem mappings_mapOf {steps : List Step} (complete : ∀ step ∈ steps, step.Complete)
    (file : Option Text) :
    SourceMap.segments? (mapOf file steps).mappings =
      some ((marksFrom 0 (rows 0 0 steps)).map Mark.segment) := by
  have marks : (track 0 { Builder.empty with file } steps).marks = marksFrom 0 (rows 0 0 steps) :=
    marks_track complete 0 rfl
  rw [← marks]
  exact SourceMap.segments?_mappings _

theorem mapOf_sources (file : Option Text) (steps : List Step) :
    (mapOf file steps).sources = (embedded steps).map Source.label := by
  have all := congrArg (List.map Prod.fst) (sources_track 0 { Builder.empty with file } steps)
  rw [List.map_append, List.map_map] at all
  exact all

theorem mapOf_contents (file : Option Text) (steps : List Step) :
    (mapOf file steps).sourcesContent = (embedded steps).map fun source => some source.content := by
  have all := congrArg (List.map Prod.snd) (sources_track 0 { Builder.empty with file } steps)
  rw [List.map_append, List.map_map] at all
  exact all

/-- The segments of the steps' map show the steps' sources in any script that begins with the text
of the steps; the rows that the steps write themselves, and those that follow, are not mapped. -/
theorem covers_mapOf {steps : List Step} (complete : ∀ step ∈ steps, step.Complete)
    (file : Option Text) {code : Text} {more : List Text}
    (rowsOfCode : code.rows = (render 0 steps).rows ++ more) :
    Covers (embedded steps) ((render 0 (steps.map Step.emptied)).rows ++ more) code (mapOf file steps)
      ((marksFrom 0 (rows 0 0 steps)).map Mark.segment) where
  labels := mapOf_sources file steps
  contents := mapOf_contents file steps
  origins := by
    rw [SourceMap.map_origin_marksFrom, filterMap_shown_rows, rowStarts, List.map_map]
    rfl
  columns := by
    intro segment member
    obtain ⟨mark, marked, rfl⟩ := List.mem_map.mp member
    obtain ⟨index, row, source, shown, -, -, rfl⟩ := marksFrom_mem marked
    rfl
  sameText := by
    intro segment member origin has
    obtain ⟨mark, marked, rfl⟩ := List.mem_map.mp member
    obtain ⟨index, row, source, shown, placed, shows, rfl⟩ := marksFrom_mem marked
    cases has
    -- The mark is in the line of a row that shows its place; the row has the text of that place.
    obtain ⟨-, owner, known, found⟩ := text_of_shown (List.mem_of_getElem? placed) shows
    have written : code.rows[0 + index]? = some row.text := by
      have inside : ((rows 0 0 steps).map Row.text)[index]? = some row.text := by
        rw [List.getElem?_map, placed]
        rfl
      have early := (List.getElem?_eq_some_iff.mp inside).1
      rw [rowsOfCode, rows_render complete 0 0, Nat.zero_add, List.getElem?_append_left early, inside]
    refine ⟨owner.content, row.text, ?_, ?_, ?_⟩
    · rw [mapOf_contents, List.getElem?_map]
      exact congrArg (Option.map fun source : Source => some source.content) known
    · exact Text.getElem?_splitAt_of_getElem?_rows found
    · exact Text.getElem?_splitAt_of_getElem?_rows written
  ascending := by
    rw [List.pairwise_map]
    exact pairwise_marksFrom 0 (rows 0 0 steps)
  unmapped := by
    have lines : ((marksFrom 0 (rows 0 0 steps)).map Mark.segment).map
        (fun segment => segment.generated.line) =
          (marksFrom 0 (rows 0 0 steps)).map fun mark => mark.generated.line := by
      rw [List.map_map]
      rfl
    rw [lines, rowsOfCode, rows_render complete 0 0, rowsOutside_marksFrom, ownTexts_rows complete]

end Emission

open Emission (moduleSteps bare)

/-- The text that a module writes around its core and its fragments. -/
def Emission.frame (options : Options) (core : Source) (fragments : List Source)
    (bundle : Option Text) : Text :=
  render 0 (moduleSteps options (bare core) (fragments.map bare) bundle)

/-- A compilation that is asked for a map writes a module whose last row gives that map back, and
the map's segments show the core and the fragments, row by row, and nothing of the frame. -/
theorem compile_map_covers {options : Options} {outputFile : Path}
    (accepted : options.validate = .ok outputFile) (mapped : options.sourceMap = true)
    (core bundle : Text) (schedule : Schedule) (fragments : List Fragment) :
    ∃ output map segments,
      compile (Supplies.ofTexts core bundle) schedule options fragments = .ok output ∧
      output.sourceMap = some map ∧
      SourceMap.ofScript? output.code = some map ∧
      SourceMap.segments? map.mappings = some segments ∧
      SourceMap.Covers (options.coreSource core :: fragments.map Fragment.source)
        ((Emission.frame options (options.coreSource core) (fragments.map Fragment.source)
          (options.embeddedBundle bundle)).rows ++ [map.comment])
        output.code map segments := by
  have complete := Emission.complete_moduleSteps options (options.coreSource core)
    (fragments.map Fragment.source) (options.embeddedBundle bundle)
  have sources := Emission.embedded_moduleSteps options (options.coreSource core)
    (fragments.map Fragment.source) (options.embeddedBundle bundle)
  have frame := Emission.map_emptied_moduleSteps options (options.coreSource core)
    (fragments.map Fragment.source) (options.embeddedBundle bundle)
  generalize made : moduleSteps options (options.coreSource core) (fragments.map Fragment.source)
    (options.embeddedBundle bundle) = steps at complete sources frame
  have emitted := emit_mapped mapped outputFile made
  have whole := Emission.complete_render complete 0
  refine ⟨_, _, _, compile_ofTexts accepted core bundle schedule fragments, congrArg _ emitted, ?_,
    Emission.mappings_mapOf complete outputFile.fileName?, ?_⟩
  · rw [emitted]
    exact SourceMap.ofScript?_append_comment whole _
  · rw [emitted, Emission.frame, ← frame, ← sources]
    exact Emission.covers_mapOf complete outputFile.fileName? (SourceMap.rows_append_comment whole _)

theorem compile_map_covers_least :
    ({ Options.least with sourceMap := true }).validate = .ok ⟨"module.js"⟩ ∧
    ∃ output map segments,
      compile (Supplies.ofTexts "first\nlast" []) .coreFirst { Options.least with sourceMap := true }
          [⟨⟨"a.js"⟩, none, "one\n\n"⟩] = .ok output ∧
      output.sourceMap = some map ∧
      SourceMap.ofScript? output.code = some map ∧
      SourceMap.segments? map.mappings = some segments ∧
      SourceMap.Covers [⟨"core.js", "first\nlast"⟩, ⟨"a.js", "one\n\n"⟩]
        ((Emission.frame { Options.least with sourceMap := true } ⟨"core.js", []⟩ [⟨"a.js", []⟩]
          none).rows ++ [map.comment])
        output.code map segments := by
  have accepted : ({ Options.least with sourceMap := true }).validate = .ok ⟨"module.js"⟩ := by
    rw [Options.validate_sourceMap, Options.validate_least]
  exact ⟨accepted, compile_map_covers accepted rfl "first\nlast" [] .coreFirst [⟨⟨"a.js"⟩, none, "one\n\n"⟩]⟩

end UniversalModule
