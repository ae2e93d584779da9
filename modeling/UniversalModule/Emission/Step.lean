import UniversalModule.SourceMap.Builder

/-!
An emitted module is a list of steps. Lines of the module's own are indented by four spaces for
every open block; embedded texts stand as they are. The text and the source map are both read
off the steps. Main statement: the map's builder is always at the place that the text has
reached.
-/

namespace UniversalModule

/-- A text that is embedded, under the label that markers and maps show. -/
structure Source where
  label : Text
  content : Text
deriving DecidableEq

namespace Emission

inductive Step where
  /-- A line of the module's own. -/
  | line (text : Text)
  | indent
  | outdent
  /-- A source, closed by a line feed unless it is empty. -/
  | embed (source : Source)
  /-- A text that belongs to no source. -/
  | splice (text : Text)
deriving DecidableEq

def indentation (depth : Nat) : Text := List.replicate (4 * depth) ' '

namespace Step

def depthAfter (depth : Nat) : Step → Nat
  | .indent => depth + 1
  | .outdent => depth - 1
  | _ => depth

def textAt (depth : Nat) : Step → Text
  | .line text => indentation depth ++ text ++ ['\n']
  | .embed source => source.content.terminated
  | .splice text => text
  | _ => []

end Step

def render (depth : Nat) : List Step → Text
  | [] => []
  | step :: rest => step.textAt depth ++ render (step.depthAfter depth) rest

def depthAfter (depth : Nat) (steps : List Step) : Nat := steps.foldl Step.depthAfter depth

theorem render_append (depth : Nat) (first second : List Step) :
    render depth (first ++ second) = render depth first ++ render (depthAfter depth first) second := by
  induction first generalizing depth with
  | nil => rfl
  | cons step rest induction =>
      simp only [List.cons_append, render, induction, List.append_assoc]
      rfl

open SourceMap (Builder)

/-- Marks the lines of a source from the given one on, each at its first column. -/
def markLines (source line : Nat) (builder : Builder) : List Text → Builder
  | [] => builder
  | text :: rest => markLines source (line + 1) ((builder.addMark source line 0).advance text) rest

def Step.track (depth : Nat) (builder : Builder) : Step → Builder
  | .embed source =>
      let index := builder.nextSource
      let marked := markLines index 0 (builder.addSource source.label source.content) source.content.lines
      marked.advance (source.content.terminated.drop source.content.length)
  | step => builder.advance (step.textAt depth)

def track (depth : Nat) (builder : Builder) : List Step → Builder
  | [] => builder
  | step :: rest => track (step.depthAfter depth) (step.track depth builder) rest

theorem place_markLines (source line : Nat) (builder : Builder) (lines : List Text) :
    (markLines source line builder lines).place = builder.place.after lines.flatten := by
  induction lines generalizing line builder with
  | nil => rfl
  | cons text rest induction =>
      simp [markLines, induction, Builder.advance, Builder.addMark]

theorem terminated_eq_append (text : Text) :
    text.terminated = text ++ text.terminated.drop text.length := by
  unfold Text.terminated
  split <;> simp

theorem place_step (depth : Nat) (builder : Builder) (step : Step) :
    (step.track depth builder).place = builder.place.after (step.textAt depth) := by
  cases step with
  | embed source =>
      simp only [Step.track, Step.textAt, Builder.advance, place_markLines, Text.flatten_lines]
      rw [← Position.after_append, ← terminated_eq_append]
      rfl
  | _ => rfl

end Emission

end UniversalModule
