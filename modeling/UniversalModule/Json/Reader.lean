import UniversalModule.Json.Number

/-!
JSON text as values. A reader takes the beginning of a text and gives what it read with the rest.
Containers may be nested 127 deep. What is only passed over is read with fewer demands: its
numbers may be of any size, its escapes stand for no character, and it may be nested at will.
-/

namespace UniversalModule.Json

abbrev Reader (α : Type) := Text → Option (α × Text)

def isSpace (c : Char) : Bool := c == ' ' || c == '\n' || c == '\t' || c == '\r'

def skipSpace (text : Text) : Text := text.dropWhile isSpace

def hexValue? (c : Char) : Option Nat :=
  if '0' ≤ c ∧ c ≤ '9' then some (c.toNat - '0'.toNat)
  else if 'a' ≤ c ∧ c ≤ 'f' then some (c.toNat - 'a'.toNat + 10)
  else if 'A' ≤ c ∧ c ≤ 'F' then some (c.toNat - 'A'.toNat + 10)
  else none

/-- The code unit that four hexadecimal digits give. -/
def unit? (a b c d : Char) : Option Nat := do
  some ((((← hexValue? a) * 16 + (← hexValue? b)) * 16 + (← hexValue? c)) * 16 + (← hexValue? d))

def isHighSurrogate (unit : Nat) : Bool := 0xD800 ≤ unit ∧ unit < 0xDC00

def isLowSurrogate (unit : Nat) : Bool := 0xDC00 ≤ unit ∧ unit < 0xE000

/-- The character that a backslash and one more character stand for. -/
def shortEscape? (c : Char) : Option Char :=
  if c = '"' ∨ c = '\\' ∨ c = '/' then some c
  else if c = 'b' then some '\x08'
  else if c = 'f' then some '\x0c'
  else if c = 'n' then some '\n'
  else if c = 'r' then some '\r'
  else if c = 't' then some '\t'
  else none

def prepend (c : Char) : Text × Text → Text × Text := fun (text, rest) => (c :: text, rest)

/-- Reads the characters of a string up to its closing quote. Two escapes that form a surrogate
pair are one character; a surrogate alone is refused. -/
def readString : Reader Text
  | [] => none
  | '"' :: rest => some ([], rest)
  | '\\' :: 'u' :: a :: b :: c :: d :: rest =>
      match unit? a b c d with
      | none => none
      | some unit =>
          if isLowSurrogate unit then none
          else if isHighSurrogate unit then
            match rest with
            | '\\' :: 'u' :: e :: f :: g :: h :: rest =>
                match unit? e f g h with
                | none => none
                | some low =>
                    if isLowSurrogate low then
                      (readString rest).map
                        (prepend (Char.ofNat (0x10000 + (unit - 0xD800) * 0x400 + (low - 0xDC00))))
                    else none
            | _ => none
          else (readString rest).map (prepend (Char.ofNat unit))
  | '\\' :: c :: rest =>
      match shortEscape? c with
      | none => none
      | some meant => (readString rest).map (prepend meant)
  | c :: rest =>
      if c = '\\' ∨ c.toNat < 0x20 then none else (readString rest).map (prepend c)

/-- Passes over a string up to its closing quote. -/
def skipString : Text → Option Text
  | [] => none
  | '"' :: rest => some rest
  | '\\' :: 'u' :: a :: b :: c :: d :: rest =>
      if (unit? a b c d).isSome then skipString rest else none
  | '\\' :: c :: rest => if (shortEscape? c).isSome then skipString rest else none
  | c :: rest => if c = '\\' ∨ c.toNat < 0x20 then none else skipString rest

def readText : Reader Text
  | '"' :: rest => readString rest
  | _ => none

variable {α : Type}

def readMoreItems (item : Reader α) : Nat → Reader (List α)
  | 0, _ => none
  | fuel + 1, text =>
      match skipSpace text with
      | ']' :: rest => some ([], rest)
      | ',' :: rest => do
          let (first, rest) ← item (skipSpace rest)
          let (others, rest) ← readMoreItems item fuel rest
          some (first :: others, rest)
      | _ => none

/-- Reads the items of an array after its opening bracket. -/
def readItems (item : Reader α) : Reader (List α) := fun text =>
  match skipSpace text with
  | ']' :: rest => some ([], rest)
  | text => do
      let (first, rest) ← item text
      let (others, rest) ← readMoreItems item rest.length rest
      some (first :: others, rest)

/-- Reads a key, a colon and a value, for which the key chooses the reader. -/
def readMember (value : Text → Reader α) : Reader (Text × α) := fun text => do
  let (key, rest) ← readText text
  match skipSpace rest with
  | ':' :: rest => do
      let (value, rest) ← value key (skipSpace rest)
      some ((key, value), rest)
  | _ => none

def readMoreMembers (member : Reader α) : Nat → Reader (List α)
  | 0, _ => none
  | fuel + 1, text =>
      match skipSpace text with
      | '\x7d' :: rest => some ([], rest)
      | ',' :: rest => do
          let (first, rest) ← member (skipSpace rest)
          let (others, rest) ← readMoreMembers member fuel rest
          some (first :: others, rest)
      | _ => none

/-- Reads the members of an object after its opening brace. -/
def readMembers (member : Reader α) : Reader (List α) := fun text =>
  match skipSpace text with
  | '\x7d' :: rest => some ([], rest)
  | text => do
      let (first, rest) ← member text
      let (others, rest) ← readMoreMembers member rest.length rest
      some (first :: others, rest)

def readScalar : Reader Value := fun text =>
  match text with
  | 'n' :: 'u' :: 'l' :: 'l' :: rest => some (.null, rest)
  | 't' :: 'r' :: 'u' :: 'e' :: rest => some (.boolean true, rest)
  | 'f' :: 'a' :: 'l' :: 's' :: 'e' :: rest => some (.boolean false, rest)
  | '"' :: rest => (readString rest).map fun (text, rest) => (.string text, rest)
  | text => do
      let (numeral, rest) ← readNumeral text
      some (← numeral.value?, rest)

/-- Reads a value in which containers are nested at most as deep as given. -/
def readValue : Nat → Reader Value
  | 0 => readScalar
  | depth + 1 => fun text =>
      match text with
      | '[' :: rest => (readItems (readValue depth) rest).map fun (items, rest) => (.array items, rest)
      | '\x7b' :: rest =>
          (readMembers (readMember fun _ => readValue depth) rest).map fun (members, rest) =>
            (.object (Keyed.ofList members), rest)
      | text => readScalar text

/-- Passes over a value that is no container. -/
def skipScalar : Reader Unit := fun text =>
  match text with
  | '"' :: rest => (skipString rest).map fun rest => ((), rest)
  | 'n' :: 'u' :: 'l' :: 'l' :: rest => some ((), rest)
  | 't' :: 'r' :: 'u' :: 'e' :: rest => some ((), rest)
  | 'f' :: 'a' :: 'l' :: 's' :: 'e' :: rest => some ((), rest)
  | text => (readNumeral text).map fun (_, rest) => ((), rest)

def skipMember (value : Reader Unit) : Reader Unit := fun text =>
  match text with
  | '"' :: rest => do
      let rest ← skipString rest
      match skipSpace rest with
      | ':' :: rest => value (skipSpace rest)
      | _ => none
  | _ => none

/-- Passes over a value; the fuel bounds its depth, for which the length of the text suffices. -/
def skipValue : Nat → Reader Unit
  | 0 => skipScalar
  | fuel + 1 => fun text =>
      match text with
      | '[' :: rest => (readItems (skipValue fuel) rest).map fun (_, rest) => ((), rest)
      | '\x7b' :: rest =>
          (readMembers (skipMember (skipValue fuel)) rest).map fun (_, rest) => ((), rest)
      | text => skipScalar text

/-- The whole of a text, apart from space around it. -/
def readWhole (reader : Reader α) (text : Text) : Option α := do
  let (value, rest) ← reader (skipSpace text)
  if skipSpace rest = [] then some value else none

def depthLimit : Nat := 127

def Value.ofText? (text : Text) : Option Value := readWhole (readValue depthLimit) text

end UniversalModule.Json
