import UniversalModule.Text.Basic

/-!
How the pieces of a text come about when the text is put together: what holds no separator stays
in one piece, and a separator ends the piece before it.
-/

namespace UniversalModule.Text

section Pieces

variable {α : Type} [DecidableEq α] {separator : α} {piece : List α}

theorem splitAt_append_separator (whole : separator ∉ piece) (rest : List α) :
    splitAt separator (piece ++ separator :: rest) = piece :: splitAt separator rest := by
  induction piece with
  | nil => simp [splitAt]
  | cons c more induction =>
      have other : ¬c = separator := fun same => whole (by simp [same])
      rw [List.cons_append, splitAt, if_neg other,
        induction (fun member => whole (List.mem_cons_of_mem c member))]

theorem splitAt_of_notMem (whole : separator ∉ piece) : splitAt separator piece = [piece] := by
  induction piece with
  | nil => rfl
  | cons c more induction =>
      have other : ¬c = separator := fun same => whole (by simp [same])
      rw [splitAt, if_neg other, induction (fun member => whole (List.mem_cons_of_mem c member))]

theorem notMem_of_mem_splitAt {text : List α} (member : piece ∈ splitAt separator text) : separator ∉ piece := by
  induction text generalizing piece with
  | nil =>
      rw [List.mem_singleton.mp member]
      exact List.not_mem_nil
  | cons c rest induction =>
      rw [splitAt] at member
      split at member
      · rcases List.mem_cons.mp member with rfl | member
        · exact List.not_mem_nil
        · exact induction member
      next other =>
      cases pieces : splitAt separator rest with
      | nil => exact absurd pieces (splitAt_ne_nil separator rest)
      | cons first others =>
          rw [pieces] at member induction
          rcases List.mem_cons.mp member with rfl | member
          · intro inside
            rcases List.mem_cons.mp inside with same | inside
            · exact other same.symm
            · exact induction List.mem_cons_self inside
          · exact induction (List.mem_cons_of_mem first member)

end Pieces

/-- Joining and splitting: pieces without the separator come back, as long as there is one. -/
theorem splitAt_joinWith {separator : Char} {pieces : List Text} (nonempty : pieces ≠ [])
    (whole : ∀ piece ∈ pieces, separator ∉ piece) :
    splitAt separator (joinWith [separator] pieces) = pieces := by
  induction pieces with
  | nil => exact absurd rfl nonempty
  | cons piece rest induction =>
      have first := whole piece List.mem_cons_self
      by_cases last : rest = []
      · rw [last]
        exact splitAt_of_notMem first
      · have others := induction last fun other member => whole other (List.mem_cons_of_mem piece member)
        rw [joinWith_cons last, List.append_assoc, List.singleton_append, splitAt_append_separator first,
          others]

/-- The pieces of a text are those without the separator of which the text is joined. -/
theorem splitAt_eq_iff {separator : Char} {text : Text} {pieces : List Text} :
    splitAt separator text = pieces ↔
      pieces ≠ [] ∧ (∀ piece ∈ pieces, separator ∉ piece) ∧ joinWith [separator] pieces = text := by
  constructor
  · rintro rfl
    exact ⟨splitAt_ne_nil separator text, fun _ => notMem_of_mem_splitAt, joinWith_splitAt separator text⟩
  · rintro ⟨nonempty, whole, rfl⟩
    exact splitAt_joinWith nonempty whole

/-- The characters of joined pieces are those of the pieces and of the separator. -/
theorem mem_joinWith {separator : Text} {pieces : List Text} {c : Char}
    (member : c ∈ joinWith separator pieces) : c ∈ separator ∨ ∃ piece ∈ pieces, c ∈ piece := by
  induction pieces with
  | nil => exact absurd member (by simp [joinWith])
  | cons piece rest induction =>
      by_cases last : rest = []
      · rw [last] at member ⊢
        exact .inr ⟨piece, List.mem_singleton_self piece, member⟩
      · rw [joinWith_cons last, List.mem_append, List.mem_append] at member
        rcases member with (here | between) | later
        · exact .inr ⟨piece, List.mem_cons_self, here⟩
        · exact .inl between
        · rcases induction later with between | ⟨other, among, inside⟩
          · exact .inl between
          · exact .inr ⟨other, List.mem_cons_of_mem piece among, inside⟩

theorem flatMap_joinWith (separator : Text) (pieces : List Text) (write : Char → Text) :
    (joinWith separator pieces).flatMap write =
      joinWith (separator.flatMap write) (pieces.map fun piece => piece.flatMap write) := by
  induction pieces with
  | nil => rfl
  | cons piece rest induction =>
      by_cases last : rest = []
      · rw [last]
        rfl
      · have others : (rest.map fun piece => piece.flatMap write) ≠ [] := by simp [last]
        rw [joinWith_cons last, List.flatMap_append, List.flatMap_append, induction, List.map_cons (a := piece),
          joinWith_cons others]

end UniversalModule.Text
