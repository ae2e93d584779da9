import UniversalModule.Path
import UniversalModule.Text.Blank

/-!
The texts that a module embeds. A fragment may be wrapped in a function that is exported; only
the body of that function is embedded.
-/

namespace UniversalModule

structure Fragment where
  path : Path
  relative : Option Text
  content : Text
deriving DecidableEq

def Fragment.label (fragment : Fragment) : Text := fragment.relative.getD fragment.path.text

namespace Wrapper

def isNamePart (c : Char) : Bool := c.isAlphanum || c == '_' || c == '$'

def skipBlanks (text : Text) : Text := text.dropWhile isBlank

/-- What follows the opening brace of `module.exports = function name(parameters) {`. Parameters
end at the first closing parenthesis. -/
def afterHead? (source : Text) : Option Text := do
  let rest ← Text.after? "module.exports" (skipBlanks source)
  let rest ← Text.after? "=" (skipBlanks rest)
  let rest ← Text.after? "function" (skipBlanks rest)
  let rest ← Text.after? "(" (skipBlanks ((skipBlanks rest).dropWhile isNamePart))
  let rest ← Text.after? ")" (rest.dropWhile (· != ')'))
  Text.after? "\x7b" (skipBlanks rest)

/-- What stands before the last brace of a text, after which there may be blanks and one `;`. -/
def beforeTail? (text : Text) : Option Text := do
  let reversed := skipBlanks text.reverse
  let reversed := skipBlanks ((Text.after? ";" reversed).getD reversed)
  (Text.after? "\x7d" reversed).map List.reverse

def body? (source : Text) : Option Text := (afterHead? source).bind beforeTail?

end Wrapper

/-- The body of a wrapped template; any other text as it is. -/
def unwrapTemplate (source : Text) : Text := (Wrapper.body? source).getD source

end UniversalModule
