import UniversalModule.Proofs.Compile.Requests
import UniversalModule.Proofs.Compile.Texts
import UniversalModule.Proofs.Emission.Nesting
import UniversalModule.Proofs.Emission.Writing

/-!
The bookkeeping of a module that is being written: the place that a map's builder keeps, and the level of
indentation. At every point the place is the end of what is written; and the level is the number of blocks
around the next line, so that no block is left that was not entered, embedded texts stand at the margin and
nothing is left open at the end.
-/

namespace UniversalModule

namespace Emission

namespace Step

def verbatim? : Step → Option Text
  | .embed source => some source.content.terminated
  | .splice text => some text
  | _ => none

end Step

/-- What a writer keeps agrees with what it has written, at every point on the way through the steps. -/
structure Bookkeeping (start : Writer) (steps : List Step) : Prop where
  /-- There is a builder at every point or at none. -/
  kept : ∀ done, done <+: start.actions steps → (start.run done).builder.isSome = start.builder.isSome
  /-- The builder's line is the number of line feeds. -/
  line : ∀ done, done <+: start.actions steps → ∀ builder, (start.run done).builder = some builder →
    builder.place.line = (start.run done).output.count '\n'
  /-- The builder's column is the number of UTF-16 units behind the last line feed. -/
  column : ∀ done, done <+: start.actions steps → ∀ builder, (start.run done).builder = some builder →
    builder.place.column = (Text.utf16 ((start.run done).output.rtakeWhile (· != '\n'))).length
  /-- Embedded texts begin in the first column, and outside all blocks. -/
  verbatim : ∀ before step text after, steps = before ++ step :: after → step.verbatim? = some text →
    (start.after before).level = 0 ∧ (Position.ofText (start.after before).output).column = 0 ∧
      (start.after (before ++ [step])).output = (start.after before).output ++ text
  /-- A block is entered right behind the line that begins it. -/
  entered : ∀ before after, steps = before ++ .indent :: after →
    ∃ earlier head, before = earlier ++ [.line head] ∧ opensBlock head = true
  /-- A block is left right before the line that ends it, and only when one has been entered. -/
  left : ∀ before after, steps = before ++ .outdent :: after → 0 < (start.after before).level ∧
    ∃ ending later, after = .line ending :: later ∧ closesBlock ending = true
  /-- A line is indented by four spaces for every block that is begun before it and not ended by it or before. -/
  indented : ∀ before text after, steps = before ++ .line text :: after → ∃ blocks,
    before.countP Step.opens = (before ++ [.line text]).countP Step.closes + blocks ∧
      (start.after before).level = blocks ∧ (Position.ofText (start.after before).output).column = 0 ∧ Fits text ∧
        (start.after (before ++ [.line text])).output =
          (start.after before).output ++ List.replicate (4 * blocks) ' ' ++ text ++ ['\n']
  atEnd : (start.after steps).level = 0

namespace Step

theorem verbatim_textAt {step : Step} {text : Text} (verbatim : step.verbatim? = some text) (depth : Nat) :
    step.textAt depth = text := by
  cases step <;> cases verbatim <;> rfl

end Step

theorem Writer.level_after (writer : Writer) (steps : List Step) :
    (writer.after steps).level = depthAfter writer.level steps := by
  rw [writer.after_eq]

theorem Writer.output_concat (writer : Writer) (before : List Step) (step : Step) :
    (writer.after (before ++ [step])).output =
      (writer.after before).output ++ step.textAt (writer.after before).level := by
  rw [writer.after_append, Writer.after_cons, Writer.run_step]
  rfl

theorem Writer.column_after {writer : Writer} {steps : List Step} (empty : writer.output = [])
    (complete : ∀ step ∈ steps, step.Complete) : (Position.ofText (writer.after steps).output).column = 0 := by
  have whole := complete_render complete writer.level
  rw [writer.after_eq, empty, List.nil_append, ← Position.after_start, Position.after_complete whole rfl]

section

variable {start : Writer} {steps before after : List Step} {step : Step}

/-- The level at which a step finds the writer is the depth at which it is nested. -/
theorem Keeps.reached (keeps : Keeps 0 (before ++ step :: after)) (flat : start.level = 0) :
    ∃ found next, (start.after before).level = found.depth ∧ Turns ⟨.inside, 0⟩ before found ∧
      Turn found step next ∧ Turns next after ⟨.inside, 0⟩ := by
  obtain ⟨found, next, first, turn, others⟩ := keeps.split
  refine ⟨found, next, ?_, first, turn, others⟩
  rw [start.level_after, flat, first.depth_eq]

theorem Keeps.verbatim {text : Text} (keeps : Keeps 0 (before ++ step :: after)) (flat : start.level = 0)
    (verbatim : step.verbatim? = some text) :
    (start.after before).level = 0 ∧
      (start.after (before ++ [step])).output = (start.after before).output ++ text := by
  obtain ⟨found, next, level, -, turn, -⟩ := keeps.reached flat
  refine ⟨?_, ?_⟩
  · rw [level]
    cases turn <;> first | rfl | exact absurd verbatim (by simp [Step.verbatim?])
  · rw [start.output_concat, Step.verbatim_textAt verbatim]

theorem Keeps.entered (keeps : Keeps 0 (before ++ .indent :: after)) :
    ∃ earlier head, before = earlier ++ [.line head] ∧ opensBlock head = true := by
  obtain ⟨found, next, first, turn, -⟩ := keeps.split
  cases turn
  exact first.opened rfl rfl

theorem Keeps.left (keeps : Keeps 0 (before ++ .outdent :: after)) (flat : start.level = 0) :
    0 < (start.after before).level ∧
      ∃ ending later, after = .line ending :: later ∧ closesBlock ending = true := by
  obtain ⟨found, next, level, -, turn, others⟩ := keeps.reached flat
  rw [level]
  cases turn with
  | outdent depth => exact ⟨Nat.succ_pos depth, others.closed rfl rfl⟩

/-- The blocks around a line are those that are begun before it and not ended by it or before. -/
theorem Keeps.around {text : Text} (keeps : Keeps 0 (before ++ .line text :: after)) (flat : start.level = 0) :
    Fits text ∧ before.countP Step.opens =
      (before ++ [Step.line text]).countP Step.closes + (start.after before).level := by
  obtain ⟨found, next, level, first, turn, -⟩ := keeps.reached flat
  have balanced : before.countP Step.opens = before.countP Step.closes + (found.depth + found.mode.pending) := by
    have all := first.balanced
    simp only [Mode.pending, Nat.add_zero] at all
    exact all
  rw [level, List.countP_append, List.countP_singleton]
  cases turn with
  | line fits ends begins =>
      -- Right before a line that ends a block, the block is left already.
      have closes : (Step.line text).closes = closesBlock text := rfl
      simp only [ends, pending_modeBefore] at balanced ⊢
      rw [closes]
      exact ⟨fits, by omega⟩

/-- Steps that are nested as they should be are written with everything kept as it should be. -/
theorem Keeps.bookkeeping (keeps : Keeps 0 steps) (complete : ∀ step ∈ steps, step.Complete)
    (empty : start.output = []) (flat : start.level = 0) (follows : start.Follows) : Bookkeeping start steps := by
  have margin {before after : List Step} {step : Step} (split : steps = before ++ step :: after) :
      (Position.ofText (start.after before).output).column = 0 := by
    subst split
    exact Writer.column_after empty fun other member => complete other (List.mem_append_left _ member)
  exact {
    kept := fun done _ => start.isSome_builder_run done
    line := fun done _ builder found => congrArg Position.line (Writer.follows_run follows done builder found)
    column := fun done _ builder found => congrArg Position.column (Writer.follows_run follows done builder found)
    verbatim := by
      intro before step text after split verbatim
      obtain ⟨level, output⟩ := Keeps.verbatim (split ▸ keeps) flat verbatim
      exact ⟨level, margin split, output⟩
    entered := fun before after split => Keeps.entered (split ▸ keeps)
    left := fun before after split => Keeps.left (split ▸ keeps) flat
    indented := by
      intro before text after split
      obtain ⟨fits, around⟩ := Keeps.around (split ▸ keeps) flat
      refine ⟨_, around, rfl, margin split, fits, ?_⟩
      rw [start.output_concat, List.append_assoc, List.append_assoc, ← List.append_assoc (List.replicate _ _)]
      rfl
    atEnd := by
      rw [start.level_after, flat, ← keeps.depth_eq] }

end

end Emission

open Emission

def Options.writer (options : Options) (outputFile : Path) : Writer where
  output := []
  level := 0
  builder := if options.sourceMap then some { SourceMap.Builder.empty with file := outputFile.fileName? } else none

theorem Options.follows_writer (options : Options) (outputFile : Path) : (options.writer outputFile).Follows := by
  intro builder found
  cases mapped : options.sourceMap with
  | true =>
      rw [writer, mapped] at found
      cases Option.some.inj found
      rfl
  | false =>
      rw [writer, mapped] at found
      exact absurd found (by simp)

/-- The writer when a module is written, apart from what a map adds to it. -/
def Options.written (options : Options) (outputFile : Path) (core : Source) (fragments : List Fragment)
    (bundle : Option Text) : Writer :=
  (options.writer outputFile).after (moduleSteps options core (fragments.map Fragment.source) bundle)

/-- A module is what its writer has written, and the map is that of the writer's builder. -/
theorem emit_eq_written (options : Options) (outputFile : Path) (core : Source) (fragments : List Fragment)
    (bundle : Option Text) :
    emit options outputFile core fragments bundle =
      ⟨(options.written outputFile core fragments bundle).output ++
          mapEnding ((options.written outputFile core fragments bundle).builder.map (·.build)),
        (options.written outputFile core fragments bundle).builder.map (·.build)⟩ := by
  rw [Options.written, Writer.after_eq]
  cases mapped : options.sourceMap with
  | true =>
      have builder : (options.writer outputFile).builder =
          some { SourceMap.Builder.empty with file := outputFile.fileName? } := if_pos mapped
      rw [emit_mapped mapped outputFile rfl, List.append_assoc, builder]
      rfl
  | false =>
      have builder : (options.writer outputFile).builder = none := if_neg (by simp [mapped])
      rw [emit_unmapped mapped outputFile rfl, builder]
      exact congrArg (Output.mk · none) (List.append_nil _).symm

/-- While a module is written, its map's builder is at the end of the text at every point, and the level of
indentation is the number of blocks around the next line. Blocks are those of the branches: their conditions,
and the handlers of the modules that they define. The function around the module, the routine that runs the
fragments and the function around a fragment hold embedded texts, which stand at the margin; they are
not counted. -/
theorem emit_bookkeeping {options : Options} {outputFile : Path} (accepted : options.validate = .ok outputFile)
    (core : Source) (fragments : List Fragment) (bundle : Option Text) :
    Bookkeeping (options.writer outputFile) (moduleSteps options core (fragments.map Fragment.source) bundle) ∧
    (emit options outputFile core fragments bundle).sourceMap =
      (options.written outputFile core fragments bundle).builder.map (·.build) ∧
    (emit options outputFile core fragments bundle).code =
      (options.written outputFile core fragments bundle).output ++
        mapEnding (emit options outputFile core fragments bundle).sourceMap := by
  have faultless := (Options.validate_eq_ok_iff.mp accepted).faultless
  have keeps := keeps_moduleSteps faultless core (fragments.map Fragment.source) bundle
  have complete := complete_moduleSteps options core (fragments.map Fragment.source) bundle
  refine ⟨keeps.bookkeeping complete rfl rfl (options.follows_writer outputFile), ?_, ?_⟩
  · rw [emit_eq_written]
  · rw [emit_eq_written]

/-- A module with a map, a bundle and a fragment in a function of its own. -/
theorem emit_bookkeeping_bundling :
    ({ Options.bundling with sourceMap := true }).validate = .ok ⟨"module.js"⟩ ∧
    (({ Options.bundling with sourceMap := true }).writer ⟨"module.js"⟩).builder.isSome = true ∧
    Bookkeeping (({ Options.bundling with sourceMap := true }).writer ⟨"module.js"⟩)
      (moduleSteps { Options.bundling with sourceMap := true } ⟨"core.js", "first\nlast"⟩ [⟨"a.js", "one\n\n"⟩]
        (some "bundle")) := by
  have accepted : ({ Options.bundling with sourceMap := true }).validate = .ok ⟨"module.js"⟩ := by
    rw [Options.validate_sourceMap, Options.validate_bundling]
  have kept := emit_bookkeeping accepted ⟨"core.js", "first\nlast"⟩ [⟨⟨"a.js"⟩, none, "one\n\n"⟩] (some "bundle")
  exact ⟨accepted, rfl, kept.1⟩

end UniversalModule
