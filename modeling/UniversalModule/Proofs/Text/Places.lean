import Mathlib.Data.List.DropRight
import UniversalModule.Text.Lines

/-!
The place after a text: its line feeds, and the units of UTF-16 after the last of them. Following the
text character by character leads to that place, and never back.
-/

namespace UniversalModule

/-- The units of UTF-16 of a text; a character beyond the first plane has two. -/
def Text.utf16 (text : Text) : List UInt16 :=
  text.flatMap fun c =>
    if c.toNat < 0x10000 then [UInt16.ofNat c.toNat]
    else
      [UInt16.ofNat (0xD800 + (c.toNat - 0x10000) / 0x400),
        UInt16.ofNat (0xDC00 + (c.toNat - 0x10000) % 0x400)]

namespace Position

def ofText (text : Text) : Position :=
  ⟨text.count '\n', (Text.utf16 (text.rtakeWhile (· != '\n'))).length⟩

def NotAfter (place other : Position) : Prop :=
  place.line < other.line ∨ place.line = other.line ∧ place.column ≤ other.column

theorem NotAfter.refl (place : Position) : place.NotAfter place := .inr ⟨rfl, Nat.le_refl _⟩

theorem NotAfter.trans {first second third : Position} (left : first.NotAfter second)
    (right : second.NotAfter third) : first.NotAfter third := by
  unfold NotAfter at *
  omega

theorem length_utf16_singleton (c : Char) : (Text.utf16 [c]).length = units c := by
  unfold Text.utf16 units
  rw [List.flatMap_singleton]
  split <;> rfl

theorem ofText_concat (text : Text) (c : Char) : ofText (text ++ [c]) = (ofText text).step c := by
  unfold ofText step
  by_cases feed : c = '\n'
  · have cut := List.rtakeWhile_concat_neg (· != '\n') text c (by simp [feed])
    rw [cut, if_pos feed, List.count_append, feed]
    rfl
  · have kept := List.rtakeWhile_concat_pos (· != '\n') text c (by simpa using feed)
    have own : List.count '\n' [c] = 0 := List.count_eq_zero_of_not_mem (by simp [Ne.symm feed])
    have longer (start : Text) : Text.utf16 (start ++ [c]) = Text.utf16 start ++ Text.utf16 [c] :=
      List.flatMap_append
    rw [kept, if_neg feed, List.count_append, own, longer, List.length_append, length_utf16_singleton]
    rfl

/-- Following a text character by character leads to the place after it. -/
theorem after_start (text : Text) : start.after text = ofText text := by
  induction text using List.reverseRecOn with
  | nil => rfl
  | append_singleton text c induction =>
      rw [after_append, induction, ofText_concat]
      rfl

theorem ofText_append (first second : Text) : ofText (first ++ second) = (ofText first).after second := by
  rw [← after_start, after_append, after_start]

theorem notAfter_step (place : Position) (c : Char) : place.NotAfter (place.step c) := by
  unfold NotAfter step
  split
  · exact .inl (Nat.lt_succ_self _)
  · exact .inr ⟨rfl, Nat.le_add_right _ _⟩

theorem notAfter_after (place : Position) (text : Text) : place.NotAfter (place.after text) := by
  induction text generalizing place with
  | nil => exact .refl place
  | cons c rest induction => exact (notAfter_step place c).trans (induction (place.step c))

end Position

end UniversalModule
