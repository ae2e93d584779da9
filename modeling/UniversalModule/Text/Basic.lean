/-!
Texts are lists of characters, so that what is said about an emitted module is said about its
characters. A string literal stands for its characters wherever a text is expected.
-/

namespace UniversalModule

abbrev Text := List Char

instance : Coe String Text := ⟨String.toList⟩

namespace Text

/-- The decimal digits of a number, most significant first. -/
def ofNat (n : Nat) : Text := Nat.toDigits 10 n

/-- The pieces of a list of texts with a separator between neighbours. -/
def joinWith (separator : Text) : List Text → Text
  | [] => []
  | [piece] => piece
  | piece :: next :: rest => piece ++ separator ++ joinWith separator (next :: rest)

/-- The pieces of a text, or of any list, between the occurrences of a separator. There is always at
least one, and only the pieces at the ends of a separator can be empty. -/
def splitAt {α : Type} [DecidableEq α] (separator : α) : List α → List (List α)
  | [] => [[]]
  | c :: rest =>
      if c = separator then [] :: splitAt separator rest
      else
        match splitAt separator rest with
        | [] => [[c]]
        | piece :: pieces => (c :: piece) :: pieces

theorem splitAt_ne_nil {α : Type} [DecidableEq α] (separator : α) (text : List α) : splitAt separator text ≠ [] := by
  cases text with
  | nil => simp [splitAt]
  | cons c rest =>
      simp only [splitAt]
      split
      · simp
      · split <;> simp

theorem joinWith_cons {separator piece : Text} {pieces : List Text} (nonempty : pieces ≠ []) :
    joinWith separator (piece :: pieces) = piece ++ separator ++ joinWith separator pieces := by
  cases pieces with
  | nil => exact absurd rfl nonempty
  | cons next rest => rfl

/-- Splitting loses nothing: joining the pieces gives the text back. -/
theorem joinWith_splitAt (separator : Char) (text : Text) :
    joinWith [separator] (splitAt separator text) = text := by
  induction text with
  | nil => rfl
  | cons c rest recover =>
      simp only [splitAt]
      split
      · next same =>
          rw [joinWith_cons (splitAt_ne_nil separator rest), recover, same]
          rfl
      · generalize pieces : splitAt separator rest = split at recover
        cases split with
        | nil => exact absurd pieces (splitAt_ne_nil separator rest)
        | cons piece more =>
            cases more with
            | nil => simpa [joinWith] using recover
            | cons next others =>
                rw [joinWith_cons (by simp)] at recover ⊢
                simpa using recover

/-- The text when it begins with the given one, without it. -/
def after? : Text → Text → Option Text
  | [], text => some text
  | _ :: _, [] => none
  | c :: start, d :: text => if c = d then after? start text else none

theorem after?_eq_some_iff {start text rest : Text} :
    after? start text = some rest ↔ text = start ++ rest := by
  induction start generalizing text with
  | nil => simp [after?, eq_comm]
  | cons c start induction =>
      cases text with
      | nil => simp [after?]
      | cons d text =>
          simp only [after?, List.cons_append, List.cons.injEq]
          split
          · next same => simp [induction, same]
          · next other =>
              constructor
              · simp
              · rintro ⟨same, _⟩
                exact absurd same.symm other

end Text

end UniversalModule
