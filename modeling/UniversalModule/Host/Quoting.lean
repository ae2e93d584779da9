import UniversalModule.Text.Utf8

/-!
Names as programs tell them: between quotes, so that a shell would read the name again, or with
escapes. Whatever is not plain ASCII is told byte by byte.
-/

namespace UniversalModule.Host

/-- The letter or the digits of the escape for a character that cannot be seen. -/
def hiddenEscape? (c : Char) : Option Text :=
  match c with
  | '\x07' => some ['a']
  | '\x08' => some ['b']
  | '\x0c' => some ['f']
  | '\n' => some ['n']
  | '\r' => some ['r']
  | '\t' => some ['t']
  | '\x0b' => some ['v']
  | c =>
      if ' ' ≤ c ∧ c ≤ '~' then none
      else
        let code := c.toNat
        some [Nat.digitChar (code / 64), Nat.digitChar (code / 8 % 8), Nat.digitChar (code % 8)]

def nameBytes (name : Text) : Text := (Text.utf8 name).map fun byte => Char.ofNat byte.toNat

/-- Whether a name can stand in a script as it is. -/
def isPlainName (name : Text) : Bool :=
  let isOdd (c : Char) : Bool := (hiddenEscape? c).isSome || " !\"$&'()*;<=>?[\\^\x60|".toList.contains c
  !name.isEmpty && !name.any isOdd && name != ['\x7b'] && name != ['\x7d'] &&
    name.head? != some '#' && name.head? != some '~'

/-- Whether double quotes protect every character of a name. -/
def fitsDoubleQuotes (name : Text) : Bool :=
  let isPlain (c : Char) : Bool := c.isAlphanum || " %+,-./:@]_'".toList.contains c
  match name with
  | [] => true
  | c :: rest => (isPlain c || c == '#' || c == '~') && rest.all isPlain

/-- What stands between single quotes for the bytes of a name; `isOpen` tells whether the last of them
were escaped. -/
def quotedBytes : Bool → Text → Text
  | _, [] => []
  | isOpen, c :: rest =>
      match hiddenEscape? c with
      | some escape => (if isOpen then [] else ['\'', '$', '\'']) ++ '\\' :: (escape ++ quotedBytes true rest)
      | none =>
          if c = '\'' then '\'' :: '\\' :: '\'' :: '\'' :: quotedBytes false rest
          else (if isOpen then ['\'', '\''] else []) ++ c :: quotedBytes false rest

/-- A name between quotes. One with a single quote in it is looked through twice, and what the first
look leaves open at the end is still open at the beginning of the second one. -/
def quoted (name : Text) : Text :=
  if name.contains '\'' ∧ fitsDoubleQuotes name then '"' :: (name ++ ['"'])
  else
    let isOpen := name.contains '\'' && (name.getLast?.bind hiddenEscape?).isSome
    '\'' :: (quotedBytes isOpen (nameBytes name) ++ ['\''])

/-- A name between quotes only if a shell needs them. -/
def quotedIfNeeded (name : Text) : Text := if isPlainName name then name else quoted name

/-- A name between quotes only if it has to be, also where a colon follows it. -/
def quotedIfOdd (name : Text) : Text :=
  if isPlainName name ∧ name.contains ':' = false then name else quoted name

/-- A word between single quotes, with escapes in it. -/
def escaped (word : Text) : Text :=
  let told : Text := (nameBytes word).flatMap fun c =>
    match hiddenEscape? c with
    | some escape => '\\' :: escape
    | none => if c = '\'' ∨ c = '\\' then ['\\', c] else [c]
  '\'' :: (told ++ ['\''])

end UniversalModule.Host
