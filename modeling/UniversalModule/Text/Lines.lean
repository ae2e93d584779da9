import UniversalModule.Text.Basic

/-!
Lines end in a line feed and in nothing else. A last line that lacks its line feed is still a
line; nothing after a last line feed is none. Places in a text count lines and, in a line, units
of sixteen bits.
-/

namespace UniversalModule

namespace Text

/-- The lines of a text, each with its line feed. -/
def lines : Text → List Text
  | [] => []
  | c :: rest =>
      if c = '\n' then [c] :: lines rest
      else
        match lines rest with
        | [] => [[c]]
        | line :: more => (c :: line) :: more

theorem flatten_lines (text : Text) : (lines text).flatten = text := by
  induction text with
  | nil => rfl
  | cons c rest recover =>
      simp only [lines]
      split
      · simp [recover]
      · generalize found : lines rest = pieces at recover
        cases pieces <;> simp_all

def endsLine (text : Text) : Bool := text.getLast? == some '\n'

/-- The text with a last line feed, unless it is empty or has one. -/
def terminated (text : Text) : Text :=
  if text.isEmpty || endsLine text then text else text ++ ['\n']

/-- The text with a last line feed, also when it is empty. -/
def closed (text : Text) : Text :=
  if endsLine text then text else text ++ ['\n']

theorem terminated_eq_closed {text : Text} (nonempty : text ≠ []) : terminated text = closed text := by
  cases text with
  | nil => exact absurd rfl nonempty
  | cons c rest => simp [terminated, closed]

end Text

/-- Units of sixteen bits that a character takes. -/
def units (c : Char) : Nat := if c.toNat < 0x10000 then 1 else 2

/-- A line and a column, both counted from zero. -/
structure Position where
  line : Nat
  column : Nat
deriving DecidableEq

namespace Position

def start : Position := ⟨0, 0⟩

def step (place : Position) (c : Char) : Position :=
  if c = '\n' then ⟨place.line + 1, 0⟩ else ⟨place.line, place.column + units c⟩

/-- The place reached by writing a text from the given place. -/
def after (place : Position) (text : Text) : Position := text.foldl step place

@[simp] theorem after_nil (place : Position) : place.after [] = place := rfl

@[simp] theorem after_append (place : Position) (first second : Text) :
    place.after (first ++ second) = (place.after first).after second := by
  simp [after]

/-- Lines are the line feeds passed, whatever the column. -/
theorem line_after (place : Position) (text : Text) :
    (place.after text).line = place.line + text.count '\n' := by
  induction text generalizing place with
  | nil => rfl
  | cons c rest induction =>
      have onward : place.after (c :: rest) = (place.step c).after rest := rfl
      rw [onward, induction, List.count_cons]
      by_cases feed : c = '\n'
      · simp [step, feed]
        omega
      · simp [step, feed]

end Position

end UniversalModule
