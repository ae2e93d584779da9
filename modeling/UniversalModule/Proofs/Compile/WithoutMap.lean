import UniversalModule.Proofs.Compile.Requests
import UniversalModule.Proofs.Compile.Scanning

/-!
A compilation with a map beside the one without it. What is asked for and how it fails does not
depend on the map, and the module with a map is the module without it, with one line more.
-/

namespace UniversalModule

inductive Mapped : Except CompileError Output → Except CompileError Output → Prop where
  | fails (error : CompileError) : Mapped (.error error) (.error error)
  /-- The comment stands on a line of its own: the code before it ends its last line, and nothing
  in the comment ends one. -/
  | adds {code : Text} {map : SourceMap} (complete : code.Complete)
      (single : ∀ c ∈ map.comment, Scanner.isLineEnd c = false) :
      Mapped (.ok ⟨code, none⟩) (.ok ⟨code ++ map.comment ++ ['\n'], some map⟩)

theorem mapped_emit (options : Options) (outputFile : Path) (core : Source)
    (fragments : List Fragment) (bundle : Option Text) :
    Mapped (.ok (emit { options with sourceMap := false } outputFile core fragments bundle))
      (.ok (emit { options with sourceMap := true } outputFile core fragments bundle)) := by
  -- The steps are those of the options whether a map is wanted or not.
  have plain : Emission.moduleSteps { options with sourceMap := false } core
      (fragments.map Fragment.source) bundle =
        Emission.moduleSteps options core (fragments.map Fragment.source) bundle := rfl
  have mapped : Emission.moduleSteps { options with sourceMap := true } core
      (fragments.map Fragment.source) bundle =
        Emission.moduleSteps options core (fragments.map Fragment.source) bundle := rfl
  rw [emit_unmapped rfl outputFile plain, emit_mapped rfl outputFile mapped]
  apply Mapped.adds
  · exact Emission.complete_render
      (Emission.complete_moduleSteps options core (fragments.map Fragment.source) bundle) 0
  · exact isLineEnd_mapComment _

theorem mapped_finish (options : Options) (outputFile : Path) (fragments : List Fragment)
    (core : Except IoFault Text) (bundle : Except BundleError (Option Text)) :
    Mapped (Compile.finish { options with sourceMap := false } outputFile fragments core bundle)
      (Compile.finish { options with sourceMap := true } outputFile fragments core bundle) := by
  cases core with
  | error fault => exact .fails _
  | ok content =>
      cases bundle with
      | error error => exact .fails _
      | ok bundle => exact mapped_emit options outputFile _ fragments bundle

namespace Surroundings

/-- Asking for a map changes neither what a compilation asks for nor whether and how it fails; the
module that it makes gets one line more, which carries the map. -/
theorem compile_mapped (surroundings : Surroundings) (schedule : Schedule) (options : Options)
    (fragments : List Fragment) (asked : List Request) :
    ∃ plain mapped requests,
      surroundings.compile schedule { options with sourceMap := false } fragments asked =
        (plain, requests) ∧
      surroundings.compile schedule { options with sourceMap := true } fragments asked =
        (mapped, requests) ∧
      Mapped plain mapped := by
  have plain := options.validate_sourceMap false
  have mapped := options.validate_sourceMap true
  cases validated : options.validate with
  | error error =>
      rw [validated] at plain mapped
      exact ⟨_, _, asked, surroundings.compile_refused schedule fragments asked plain,
        surroundings.compile_refused schedule fragments asked mapped, .fails error⟩
  | ok outputFile =>
      rw [validated] at plain mapped
      have first := surroundings.compile_accepted schedule fragments asked plain
      have second := surroundings.compile_accepted schedule fragments asked mapped
      -- Both ask for the same core, and for the same packages in the same folder.
      refine ⟨_, _, asked ++ options.requests schedule, first, second, ?_⟩
      exact mapped_finish options outputFile fragments _ _

end Surroundings

end UniversalModule
