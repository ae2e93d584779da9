import UniversalModule.Proofs.SourceMap.Mappings
import UniversalModule.Proofs.Text.Places

/-!
Builders after any calls, in any order. Main statements: the marks of a run are those that its calls
ask for, each at the place after the text that had been written by then; and how that text was cut
into calls makes no difference.
-/

namespace UniversalModule.SourceMap

inductive Call where
  | setFile (file : Text)
  | addSource (path : Text) (content : Option Text)
  | addMark (source line column : Nat)
  | advance (text : Text)
deriving DecidableEq

namespace Call

def text : Call → Text
  | .advance text => text
  | _ => []

def numbers : Call → List Nat
  | .addMark source line column => [source, line, column]
  | _ => []

def segments (place : Position) : Call → List Segment
  | .addMark source line column => [⟨place, some ⟨source, line, column⟩, none⟩]
  | _ => []

end Call

def textOf (calls : List Call) : Text := calls.flatMap Call.text

/-- The segments that calls ask for, each at the place after what is written by then; the given text
is written before all calls. -/
def segmentsOf (before : Text) : List Call → List Segment
  | [] => []
  | call :: rest =>
      call.segments (Position.ofText before) ++ segmentsOf (before ++ call.text) rest

namespace Builder

def call (builder : Builder) : Call → Builder
  | .setFile file => builder.setFile file
  | .addSource path content => builder.addSource path content
  | .addMark source line column => builder.addMark source line column
  | .advance text => builder.advance text

def run (builder : Builder) (calls : List Call) : Builder := calls.foldl call builder

theorem place_call (builder : Builder) (call : Call) :
    (builder.call call).place = builder.place.after call.text := by
  cases call <;> rfl

theorem segments_call (builder : Builder) (call : Call) :
    (builder.call call).marks.map Mark.segment =
      builder.marks.map Mark.segment ++ call.segments builder.place := by
  cases call with
  | addMark source line column =>
      have added : (builder.call (.addMark source line column)).marks =
          builder.marks ++ [⟨builder.place, source, line, column⟩] := marks_addMark builder source line column
      rw [added, List.map_append]
      rfl
  | _ => exact (List.append_nil _).symm

theorem segments_run (calls : List Call) {builder : Builder} {before : Text}
    (place : builder.place = Position.ofText before) :
    (builder.run calls).marks.map Mark.segment =
      builder.marks.map Mark.segment ++ segmentsOf before calls := by
  induction calls generalizing builder before with
  | nil => exact (List.append_nil _).symm
  | cons call rest induction =>
      have onward : (builder.call call).place = Position.ofText (before ++ call.text) := by
        rw [place_call, place, Position.ofText_append]
      have whole : builder.run (call :: rest) = (builder.call call).run rest := rfl
      rw [whole, induction onward, segments_call, place, segmentsOf, List.append_assoc]

end Builder

def pieces (calls : List Call) : List Call :=
  calls.flatMap fun
    | .advance text => text.map fun c => .advance [c]
    | call => [call]

theorem run_advance (builder : Builder) (text : Text) :
    builder.run (text.map fun c => .advance [c]) = builder.advance text := by
  induction text generalizing builder with
  | nil => rfl
  | cons c rest induction =>
      have cut : builder.advance (c :: rest) = (builder.advance [c]).advance rest :=
        builder.advance_append [c] rest
      rw [cut]
      exact induction (builder.advance [c])

theorem run_pieces (builder : Builder) (calls : List Call) :
    builder.run (pieces calls) = builder.run calls := by
  induction calls generalizing builder with
  | nil => rfl
  | cons call rest induction =>
      have first : builder.run (pieces [call]) = builder.call call := by
        cases call with
        | advance text => exact (congrArg builder.run (List.flatMap_singleton _ _)).trans (run_advance builder text)
        | _ => rfl
      have split : pieces (call :: rest) = pieces [call] ++ pieces rest := by
        rw [pieces, pieces, pieces, ← List.flatMap_append]
        rfl
      have both : builder.run (pieces [call] ++ pieces rest) =
          (builder.run (pieces [call])).run (pieces rest) := List.foldl_append
      rw [split, both, first, induction]
      rfl

theorem notAfter_of_mem_segmentsOf {before : Text} {calls : List Call} {segment : Segment}
    (member : segment ∈ segmentsOf before calls) :
    (Position.ofText before).NotAfter segment.generated := by
  induction calls generalizing before with
  | nil => exact absurd member (by simp [segmentsOf])
  | cons call rest induction =>
      rcases List.mem_append.mp member with here | later
      · cases call with
        | addMark source line column =>
            rw [List.mem_singleton.mp here]
            exact .refl _
        | _ => exact absurd here (by simp [Call.segments])
      · have onward := Position.notAfter_after (Position.ofText before) call.text
        rw [← Position.ofText_append] at onward
        exact onward.trans (induction later)

theorem pairwise_segmentsOf (before : Text) (calls : List Call) :
    (segmentsOf before calls).Pairwise fun earlier later =>
      earlier.generated.NotAfter later.generated := by
  induction calls generalizing before with
  | nil => exact List.Pairwise.nil
  | cons call rest induction =>
      cases call with
      | addMark source line column =>
          have others := induction before
          refine List.Pairwise.cons ?_ (by simpa [Call.text] using others)
          intro segment member
          exact notAfter_of_mem_segmentsOf (by simpa [Call.text] using member)
      | _ => exact induction _

/-- A segment belongs to a call, at the place after what is written before it. -/
theorem mem_segmentsOf {before : Text} {calls : List Call} {segment : Segment}
    (member : segment ∈ segmentsOf before calls) :
    ∃ earlier call later, calls = earlier ++ call :: later ∧
      segment ∈ call.segments (Position.ofText (before ++ textOf earlier)) := by
  induction calls generalizing before with
  | nil => exact absurd member (by simp [segmentsOf])
  | cons call rest induction =>
      rcases List.mem_append.mp member with here | later
      · exact ⟨[], call, rest, rfl, by simpa [textOf] using here⟩
      · obtain ⟨earlier, other, more, rfl, found⟩ := induction later
        exact ⟨call :: earlier, other, more, rfl, by simpa [textOf] using found⟩

theorem segments_run_empty (calls : List Call) :
    (Builder.empty.run calls).marks.map Mark.segment = segmentsOf [] calls :=
  @Builder.segments_run calls Builder.empty [] rfl

end UniversalModule.SourceMap
