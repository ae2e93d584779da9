import UniversalModule.Text.Basic

/-!
Blank characters are those with the Unicode property White_Space. The zero-width space, the
byte order mark and the Mongolian vowel separator are not among them.
-/

namespace UniversalModule

/-- The code points of White_Space, in order, as closed ranges. -/
def blankRanges : List (Nat × Nat) :=
  [(0x09, 0x0D), (0x20, 0x20), (0x85, 0x85), (0xA0, 0xA0), (0x1680, 0x1680), (0x2000, 0x200A),
    (0x2028, 0x2029), (0x202F, 0x202F), (0x205F, 0x205F), (0x3000, 0x3000)]

def isBlank (c : Char) : Bool :=
  blankRanges.any fun range => decide (range.1 ≤ c.toNat) && decide (c.toNat ≤ range.2)

example : (blankRanges.map fun range => range.2 + 1 - range.1).sum = 25 := by decide

namespace Text

def allBlank (text : Text) : Bool := text.all isBlank

def trimStart (text : Text) : Text := text.dropWhile isBlank

def trimEnd (text : Text) : Text := (text.reverse.dropWhile isBlank).reverse

/-- The text without the blanks at both ends. -/
def trim (text : Text) : Text := trimEnd (trimStart text)

theorem allBlank_append (first second : Text) :
    allBlank (first ++ second) = (allBlank first && allBlank second) := by
  simp [allBlank]

theorem trimStart_eq_nil_iff {text : Text} : trimStart text = [] ↔ allBlank text = true := by
  induction text with
  | nil => simp [trimStart, allBlank]
  | cons c rest induction =>
      simp only [trimStart, allBlank, List.dropWhile_cons, List.all_cons] at induction ⊢
      split
      · next blank => simp [blank, induction]
      · next other => simp [other]

theorem trimEnd_eq_nil_iff {text : Text} : trimEnd text = [] ↔ allBlank text = true := by
  have reversed := @trimStart_eq_nil_iff text.reverse
  rw [trimStart, allBlank, List.all_reverse] at reversed
  rw [trimEnd, List.reverse_eq_nil_iff, reversed, allBlank]

theorem allBlank_trimStart (text : Text) : allBlank (trimStart text) = allBlank text := by
  induction text with
  | nil => rfl
  | cons c rest induction =>
      simp only [trimStart, List.dropWhile_cons] at induction ⊢
      split
      · next blank => simpa [allBlank, blank] using induction
      · rfl

theorem trim_eq_nil_iff {text : Text} : trim text = [] ↔ allBlank text = true := by
  rw [trim, trimEnd_eq_nil_iff, allBlank_trimStart]

end Text

end UniversalModule
