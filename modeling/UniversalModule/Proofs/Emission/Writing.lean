import UniversalModule.Emission.Step
import UniversalModule.Proofs.SourceMap.Marks
import UniversalModule.Proofs.Text.Places

/-!
How the text of a list of steps comes about, one write after the other. A writer has what it has written,
the level of indentation and, when a map is wanted, the builder that follows it. No action lets the builder
drift from the text, so it is at the end of the text at every point of writing; and when all is written,
text, level and builder are those that the steps are said to give.
-/

namespace UniversalModule.Emission

open SourceMap (Builder)

structure Writer where
  output : Text
  level : Nat
  /-- The builder of the map, if one is wanted. -/
  builder : Option Builder

inductive Action where
  | write (text : Text)
  | register (source : Source)
  /-- Ties the place that has been reached to the start of a line of a source. -/
  | mark (source line : Nat)
  | indent
  | outdent
deriving DecidableEq

namespace Writer

def act (writer : Writer) : Action → Writer
  | .write text =>
      { writer with output := writer.output ++ text, builder := writer.builder.map (·.advance text) }
  | .register source =>
      { writer with builder := writer.builder.map (·.addSource source.label source.content) }
  | .mark source line => { writer with builder := writer.builder.map (·.addMark source line 0) }
  | .indent => { writer with level := writer.level + 1 }
  | .outdent => { writer with level := writer.level - 1 }

def run (writer : Writer) (actions : List Action) : Writer := actions.foldl act writer

/-- The index that the next source gets, for which nothing asks when there is no builder. -/
def nextSource (writer : Writer) : Nat :=
  match writer.builder with
  | none => 0
  | some builder => builder.nextSource

end Writer

def indentUnit : Text := "    "

/-- The lines of a source from the given one on, each marked before it is written. -/
def lineActions (source line : Nat) : List Text → List Action
  | [] => []
  | text :: rest => .mark source line :: .write text :: lineActions source (line + 1) rest

def closingFeed (text : Text) : List Action :=
  if text.isEmpty || text.endsLine then [] else [.write ['\n']]

def Step.actions (writer : Writer) : Step → List Action
  | .line text => List.replicate writer.level (.write indentUnit) ++ [.write text, .write ['\n']]
  | .indent => [.indent]
  | .outdent => [.outdent]
  | .embed source =>
      .register source :: (lineActions writer.nextSource 0 source.content.lines ++ closingFeed source.content)
  | .splice text => [.write text]

namespace Writer

variable (writer : Writer)

/-- What a list of steps makes a writer do; a step finds the writer as those before it leave it. -/
def actions (writer : Writer) : List Step → List Action
  | [] => []
  | step :: rest => step.actions writer ++ actions (writer.run (step.actions writer)) rest

def after (steps : List Step) : Writer := writer.run (writer.actions steps)

def Follows (writer : Writer) : Prop :=
  ∀ builder, writer.builder = some builder → builder.place = Position.ofText writer.output

variable {writer}

theorem follows_act (follows : writer.Follows) (action : Action) : (writer.act action).Follows := by
  intro builder found
  cases action with
  | write text =>
      obtain ⟨earlier, was, rfl⟩ := Option.map_eq_some_iff.mp found
      have place : (earlier.advance text).place = earlier.place.after text := rfl
      rw [place, follows earlier was]
      exact (Position.ofText_append writer.output text).symm
  | register source =>
      obtain ⟨earlier, was, rfl⟩ := Option.map_eq_some_iff.mp found
      exact follows earlier was
  | mark source line =>
      obtain ⟨earlier, was, rfl⟩ := Option.map_eq_some_iff.mp found
      exact follows earlier was
  | indent => exact follows builder found
  | outdent => exact follows builder found

theorem follows_run (follows : writer.Follows) (actions : List Action) : (writer.run actions).Follows := by
  induction actions generalizing writer with
  | nil => exact follows
  | cons action rest induction => exact induction (follows_act follows action)

theorem isSome_builder_run (writer : Writer) (actions : List Action) :
    (writer.run actions).builder.isSome = writer.builder.isSome := by
  induction actions generalizing writer with
  | nil => rfl
  | cons action rest induction =>
      have first : (writer.act action).builder.isSome = writer.builder.isSome := by
        cases action <;> first | exact Option.isSome_map | rfl
      exact (induction (writer.act action)).trans first

variable (writer)

theorem run_append (first second : List Action) : writer.run (first ++ second) = (writer.run first).run second :=
  List.foldl_append

theorem after_cons (step : Step) (rest : List Step) :
    writer.after (step :: rest) = (writer.run (step.actions writer)).after rest := writer.run_append _ _

theorem after_append (first second : List Step) :
    writer.after (first ++ second) = (writer.after first).after second := by
  induction first generalizing writer with
  | nil => rfl
  | cons step rest induction => rw [List.cons_append, after_cons, induction, after_cons]

theorem run_writes (texts : List Text) : writer.run (texts.map .write) = writer.act (.write texts.flatten) := by
  induction texts generalizing writer with
  | nil =>
      have still : writer.builder.map (·.advance []) = writer.builder := Option.map_id'
      rw [List.flatten_nil, act, List.append_nil, still]
      rfl
  | cons text rest induction =>
      have advanced : (writer.builder.map (·.advance text)).map (·.advance rest.flatten) =
          writer.builder.map (·.advance (text ++ rest.flatten)) := by
        rw [Option.map_map]
        exact congrArg (Option.map · writer.builder)
          (funext fun builder => (builder.advance_append text rest.flatten).symm)
      have first : writer.run ((text :: rest).map .write) = (writer.act (.write text)).run (rest.map .write) := rfl
      rw [first, induction, List.flatten_cons]
      simp only [act, advanced, List.append_assoc]

theorem run_lineActions (source line : Nat) (lines : List Text) :
    writer.run (lineActions source line lines) =
      { writer with
        output := writer.output ++ lines.flatten
        builder := writer.builder.map (markLines source line · lines) } := by
  induction lines generalizing writer line with
  | nil =>
      have still : writer.builder.map (markLines source line · []) = writer.builder := Option.map_id'
      rw [List.flatten_nil, List.append_nil, still]
      rfl
  | cons text rest induction =>
      have first : writer.run (lineActions source line (text :: rest)) =
          ((writer.act (.mark source line)).act (.write text)).run (lineActions source (line + 1) rest) := rfl
      rw [first, induction]
      simp only [act, Option.map_map, List.flatten_cons, List.append_assoc]
      rfl

theorem run_closingFeed (text : Text) :
    writer.run (closingFeed text) = writer.act (.write (text.terminated.drop text.length)) := by
  unfold closingFeed Text.terminated
  split
  · rw [List.drop_length]
    exact writer.run_writes []
  · rw [List.drop_left]
    rfl

theorem run_step (step : Step) :
    writer.run (step.actions writer) =
      ⟨writer.output ++ step.textAt writer.level, step.depthAfter writer.level,
        writer.builder.map (step.track writer.level ·)⟩ := by
  cases step with
  | line text =>
      have pieces : (Step.line text).actions writer =
          (List.replicate writer.level indentUnit ++ [text, ['\n']]).map .write := by
        rw [List.map_append, List.map_replicate]
        rfl
      have whole : (List.replicate writer.level indentUnit ++ [text, ['\n']]).flatten =
          (Step.line text).textAt writer.level := by
        have spaces : (List.replicate writer.level indentUnit).flatten = indentation writer.level := by
          have unit : indentUnit = List.replicate 4 ' ' := rfl
          rw [indentation, Nat.mul_comm, unit]
          exact List.flatten_replicate_replicate
        rw [List.flatten_append, spaces, Step.textAt, List.append_assoc]
        rfl
      rw [pieces, run_writes, whole]
      rfl
  | indent =>
      have silent : Step.indent.textAt writer.level = [] := rfl
      have still : writer.builder.map (Step.indent.track writer.level ·) = writer.builder := Option.map_id'
      rw [silent, still, List.append_nil]
      rfl
  | outdent =>
      have silent : Step.outdent.textAt writer.level = [] := rfl
      have still : writer.builder.map (Step.outdent.track writer.level ·) = writer.builder := Option.map_id'
      rw [silent, still, List.append_nil]
      rfl
  | embed source =>
      have parts : writer.run ((Step.embed source).actions writer) =
          ((writer.act (.register source)).run (lineActions writer.nextSource 0 source.content.lines)).run
            (closingFeed source.content) :=
        (writer.act (.register source)).run_append _ _
      have text : source.content ++ source.content.terminated.drop source.content.length =
          (Step.embed source).textAt writer.level := (terminated_eq_append source.content).symm
      rw [parts, run_closingFeed, run_lineActions, ← text]
      simp only [act, Text.flatten_lines, List.append_assoc, Option.map_map]
      cases found : writer.builder with
      | none => rfl
      | some builder =>
          have next : writer.nextSource = builder.nextSource := by rw [nextSource, found]
          rw [next]
          rfl
  | splice text => rfl

theorem after_eq (steps : List Step) :
    writer.after steps =
      ⟨writer.output ++ render writer.level steps, depthAfter writer.level steps,
        writer.builder.map (track writer.level · steps)⟩ := by
  induction steps generalizing writer with
  | nil =>
      have still : writer.builder.map (track writer.level · []) = writer.builder := Option.map_id'
      rw [still, render, List.append_nil]
      rfl
  | cons step rest induction =>
      rw [after_cons, induction, run_step]
      simp only [Option.map_map, render, List.append_assoc]
      rfl

end Writer

end UniversalModule.Emission
