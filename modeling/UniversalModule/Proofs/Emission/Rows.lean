import UniversalModule.Emission.Step
import UniversalModule.Proofs.SourceMap.Marks
import UniversalModule.Proofs.Text.Rows

/-!
The rows of an emitted text, each with the row of a source that it shows. Every step writes
complete rows, so the rows of a list of steps are strung together from those of its steps; the
builder that follows the steps has one mark for each row that shows one of a source, and none for
the rows that the module writes itself.
-/

namespace UniversalModule.Emission

open SourceMap (Builder Mark)

/-- A row of an emitted text, with the index of a source and the row in it that is shown. -/
structure Row where
  text : Text
  shown : Option (Nat × Nat)
deriving DecidableEq

def shownRows (source line : Nat) : List Text → List Row
  | [] => []
  | text :: rest => ⟨text, some (source, line)⟩ :: shownRows source (line + 1) rest

namespace Step

def Complete : Step → Prop
  | .splice text => text.Complete
  | _ => True

def embedded : Step → List Source
  | .embed source => [source]
  | _ => []

def emptied : Step → Step
  | .embed source => .embed { source with content := [] }
  | step => step

/-- The rows that a step writes; `next` is the index of the next source. -/
def rows (next depth : Nat) : Step → List Row
  | .embed source => shownRows next 0 source.content.rows
  | step => (step.textAt depth).rows.map fun text => ⟨text, none⟩

end Step

def embedded (steps : List Step) : List Source := steps.flatMap Step.embedded

def rows (next depth : Nat) : List Step → List Row
  | [] => []
  | step :: rest =>
      step.rows next depth ++ rows (next + step.embedded.length) (step.depthAfter depth) rest

theorem map_text_shownRows (source line : Nat) (texts : List Text) :
    (shownRows source line texts).map Row.text = texts := by
  induction texts generalizing line with
  | nil => rfl
  | cons text rest induction => rw [shownRows, List.map_cons, induction]

theorem complete_textAt {step : Step} (complete : step.Complete) (depth : Nat) :
    (step.textAt depth).Complete := by
  cases step with
  | line text => exact Text.complete_append_feed _
  | indent => exact .inl rfl
  | outdent => exact .inl rfl
  | embed source => exact Text.complete_terminated source.content
  | splice text => exact complete

theorem complete_render {steps : List Step} (complete : ∀ step ∈ steps, step.Complete) (depth : Nat) :
    (render depth steps).Complete := by
  induction steps generalizing depth with
  | nil => exact .inl rfl
  | cons step rest induction =>
      have first := complete_textAt (complete step List.mem_cons_self) depth
      have others := induction (fun other member => complete other (List.mem_cons_of_mem step member))
        (step.depthAfter depth)
      exact Text.complete_append first others

theorem rows_textAt (next depth : Nat) (step : Step) :
    (step.textAt depth).rows = (step.rows next depth).map Row.text := by
  have own (texts : List Text) :
      texts = (texts.map fun text => (⟨text, none⟩ : Row)).map Row.text := by
    rw [List.map_map]
    exact (List.map_id texts).symm
  cases step with
  | embed source => rw [Step.rows, map_text_shownRows, Step.textAt, Text.rows_terminated]
  | _ => exact own _

theorem rows_render {steps : List Step} (complete : ∀ step ∈ steps, step.Complete) (next depth : Nat) :
    (render depth steps).rows = (rows next depth steps).map Row.text := by
  induction steps generalizing next depth with
  | nil => rfl
  | cons step rest induction =>
      have first := complete_textAt (complete step List.mem_cons_self) depth
      rw [render, Text.rows_append first, rows, List.map_append, rows_textAt next,
        induction (fun other member => complete other (List.mem_cons_of_mem step member))]

/-- One mark for each row that shows one of a source, at the start of the line it stands in. -/
def marksFrom (line : Nat) : List Row → List Mark
  | [] => []
  | row :: rest =>
      match row.shown with
      | none => marksFrom (line + 1) rest
      | some (source, shown) => ⟨⟨line, 0⟩, source, shown, 0⟩ :: marksFrom (line + 1) rest

theorem marksFrom_append (line : Nat) (first second : List Row) :
    marksFrom line (first ++ second) = marksFrom line first ++ marksFrom (line + first.length) second := by
  induction first generalizing line with
  | nil => rfl
  | cons row rest induction =>
      have onward : line + (row :: rest).length = line + 1 + rest.length := by
        rw [List.length_cons]
        omega
      rw [onward, List.cons_append, marksFrom, marksFrom, induction]
      cases row.shown <;> rfl

theorem marksFrom_own (line : Nat) (texts : List Text) :
    marksFrom line (texts.map fun text => ⟨text, none⟩) = [] := by
  induction texts generalizing line with
  | nil => rfl
  | cons text rest induction => exact induction (line + 1)

theorem marks_markLines (source line : Nat) (content : Text) {builder : Builder}
    (atStart : builder.place.column = 0) :
    (markLines source line builder content.lines).marks =
      builder.marks ++ marksFrom builder.place.line (shownRows source line content.rows) := by
  have here : builder.place = ⟨builder.place.line, 0⟩ := by rw [← atStart]
  induction content using Text.byRows generalizing line builder with
  | empty => exact (List.append_nil _).symm
  | last row nonempty feedless =>
      have added : ((builder.addMark source line 0).advance row).marks =
          builder.marks ++ [⟨builder.place, source, line, 0⟩] := Builder.marks_addMark builder source line 0
      rw [Text.lines_row nonempty feedless, Text.rows_row nonempty feedless, markLines, markLines, added,
        shownRows, shownRows, marksFrom, ← here]
      rfl
  | first row rest feedless induction =>
      rw [Text.lines_append_feed feedless, Text.rows_append_feed feedless, markLines]
      have place : ((builder.addMark source line 0).advance (row ++ ['\n'])).place =
          ⟨builder.place.line + 1, 0⟩ := Position.after_append_feed feedless builder.place []
      have added : ((builder.addMark source line 0).advance (row ++ ['\n'])).marks =
          builder.marks ++ [⟨builder.place, source, line, 0⟩] := Builder.marks_addMark builder source line 0
      rw [induction (line + 1) (by rw [place]) (by rw [place]), place, added, shownRows, marksFrom,
        List.append_assoc, ← here]
      rfl

theorem marks_step (step : Step) (depth : Nat) {builder : Builder}
    (atStart : builder.place.column = 0) :
    (step.track depth builder).marks =
      builder.marks ++ marksFrom builder.place.line (step.rows builder.nextSource depth) := by
  cases step with
  | embed source => exact marks_markLines builder.nextSource 0 source.content atStart
  | _ => exact ((congrArg (builder.marks ++ ·) (marksFrom_own builder.place.line _)).trans
        (List.append_nil _)).symm

theorem sources_markLines (source line : Nat) (builder : Builder) (lines : List Text) :
    (markLines source line builder lines).sources = builder.sources := by
  induction lines generalizing line builder with
  | nil => rfl
  | cons text rest induction => exact induction (line + 1) _

theorem sources_step (step : Step) (depth : Nat) (builder : Builder) :
    (step.track depth builder).sources =
      builder.sources ++ step.embedded.map fun source => (source.label, some source.content) := by
  cases step with
  | embed source => exact sources_markLines _ _ _ _
  | _ => exact (List.append_nil _).symm

theorem place_step_complete {step : Step} (complete : step.Complete) (depth : Nat) {builder : Builder}
    (atStart : builder.place.column = 0) :
    (step.track depth builder).place =
      ⟨builder.place.line + (step.rows builder.nextSource depth).length, 0⟩ := by
  rw [place_step, Position.after_complete (complete_textAt complete depth) atStart,
    rows_textAt builder.nextSource, List.length_map]

/-- The builder has one mark for each row that shows one of a source, and no other. -/
theorem marks_track {steps : List Step} (complete : ∀ step ∈ steps, step.Complete) (depth : Nat)
    {builder : Builder} (atStart : builder.place.column = 0) :
    (track depth builder steps).marks =
      builder.marks ++ marksFrom builder.place.line (rows builder.nextSource depth steps) := by
  induction steps generalizing depth builder with
  | nil => exact (List.append_nil _).symm
  | cons step rest induction =>
      -- Steps are complete, so the builder is at the start of a line again before the next one.
      have place := place_step_complete (complete step List.mem_cons_self) depth atStart
      have next : (step.track depth builder).nextSource = builder.nextSource + step.embedded.length := by
        simp [Builder.nextSource, sources_step]
      rw [track, induction (fun other member => complete other (List.mem_cons_of_mem step member)) _
        (by rw [place]), place, next, marks_step step depth atStart, rows, marksFrom_append,
        List.append_assoc]

theorem sources_track (depth : Nat) (builder : Builder) (steps : List Step) :
    (track depth builder steps).sources =
      builder.sources ++ (embedded steps).map fun source => (source.label, some source.content) := by
  induction steps generalizing depth builder with
  | nil => exact (List.append_nil _).symm
  | cons step rest induction =>
      rw [track, induction, sources_step, embedded, embedded, List.flatMap_cons, List.map_append,
        List.append_assoc]

end UniversalModule.Emission
