import UniversalModule.Text.Basic

/-!
Names that can be bound in a script: a letter, `_` or `$`, then letters, digits, `_` or `$`, and
no reserved word. Letters and digits are those of ASCII.
-/

namespace UniversalModule

def reservedWords : List Text :=
  ["break case catch class const continue debugger default delete do else enum export extends",
    "false finally for function if import in instanceof let new null return static super switch",
    "this throw true try typeof var void while with yield"].flatMap
    fun (words : String) => Text.splitAt ' ' words

def isIdentifierStart (c : Char) : Bool := c.isAlpha || c == '_' || c == '$'

def isIdentifierPart (c : Char) : Bool := c.isAlphanum || c == '_' || c == '$'

def isIdentifier : Text → Bool
  | [] => false
  | c :: rest =>
      isIdentifierStart c && rest.all isIdentifierPart && !reservedWords.contains (c :: rest)

end UniversalModule
