import UniversalModule.Host.Editor.Basic

/-!
What a substitution makes of a text.
-/

namespace UniversalModule.Host.Editor

/-- The letters in which text is put in: those of all that follows, and that of the next character. -/
structure Letters where
  all : Option Char
  next : Option Char

def inLetter (letter : Option Char) (c : Char) : Char :=
  match letter with
  | some letter => if letter = 'U' ∨ letter = 'u' then c.toUpper else c.toLower
  | none => c

def Letters.spell (letters : Letters) : Text → Text × Letters
  | [] => ([], letters)
  | c :: rest =>
      (inLetter (letters.next <|> letters.all) c :: rest.map (inLetter letters.all),
        { letters with next := none })

def Letters.after (letters : Letters) (sign : Char) : Letters :=
  if sign = 'U' ∨ sign = 'L' then { letters with all := some sign }
  else if sign = 'E' then { letters with all := none }
  else { letters with next := some sign }

def replaced (subject : Regex.Subject) (fit : Regex.Fit) : Letters → List Replacement → Text
  | _, [] => []
  | letters, .inCase sign :: parts => replaced subject fit (letters.after sign) parts
  | letters, .text text :: parts =>
      let (spelled, letters) := letters.spell text
      spelled ++ replaced subject fit letters parts
  | letters, .group number :: parts =>
      let (spelled, letters) := letters.spell (fit.group subject number)
      spelled ++ replaced subject fit letters parts

/-- A text from a place on, with something else where the fits are. -/
def withReplaced (subject : Regex.Subject) (replacement : List Replacement) : Nat → List Regex.Fit → Text
  | position, [] => subject.between position subject.text.size
  | position, fit :: fits =>
      subject.between position fit.start ++ replaced subject fit ⟨none, none⟩ replacement ++
        withReplaced subject replacement fit.finish fits

def Substitution.chosen (substitution : Substitution) (fits : List Regex.Fit) : List Regex.Fit :=
  let fits := fits.drop (substitution.first - 1)
  if substitution.replacesAll then fits else fits.take 1

/-- The text that a substitution makes, if it replaces anything. -/
def Substitution.changed? (substitution : Substitution) (subject : Regex.Subject) (regex : Regex) : Option Text :=
  match substitution.chosen (Regex.allFits subject regex) with
  | [] => none
  | fits => some (withReplaced subject substitution.replacement 0 fits)

end UniversalModule.Host.Editor
