import UniversalModule.Yaml.Scalar

/-!
The tokens of a YAML text, and how anchors, tags and directives are read.
-/

namespace UniversalModule.Yaml

inductive Token where
  | version (major minor : Nat)
  /-- A declaration of a tag handle, with what it stands for. -/
  | handle (handle expansion : Text)
  | documentStart
  | documentEnd
  | blockSequence
  | blockMapping
  | blockEnd
  | flowSequence
  | flowSequenceEnd
  | flowMapping
  | flowMappingEnd
  | blockEntry
  | flowEntry
  | key
  | value
  /-- A reference to the node with an anchor, and the anchor of the next node. Anchors are numbered
  by the names that came before them; when two have one number, the later one is meant. -/
  | reference (number : Nat)
  | anchor (number : Nat)
  | tag (handle suffix : Text)
  | scalar (text : Text) (style : Style)
deriving DecidableEq

def isNameEnd (c : Option Char) : Bool :=
  isGap c || c.any fun c =>
    c == '?' || c == ':' || c == ',' || c == ']' || c == '\x7d' || c == '%' || c == '@' ||
      c == '\x60'

def readName (cursor : Cursor) : Option (Text × Cursor) :=
  let (name, cursor) := cursor.takeWhile isWord
  if name.isEmpty ∨ isNameEnd cursor.peek = false then none else some (name, cursor)

def isTagChar (c : Char) : Bool :=
  isWord c || ";/?:@&=+$.!~*'()".toList.contains c

/-- The octet that a percent sign and two hexadecimal digits give. -/
def octet? (cursor : Cursor) : Option Nat := do
  if cursor.peek = some '%' then
    some (16 * (← hexValue? (← cursor.peekAt 1)) + (← hexValue? (← cursor.peekAt 2)))
  else none

/-- The number of octets in a character that begins with the given one. -/
def octetCount? (octet : Nat) : Option Nat :=
  if octet < 0x80 then some 1
  else if 0xC0 ≤ octet ∧ octet < 0xE0 then some 2
  else if 0xE0 ≤ octet ∧ octet < 0xF0 then some 3
  else if 0xF0 ≤ octet ∧ octet < 0xF8 then some 4
  else none

/-- Reads the escaped octets that continue a character. -/
def readContinuation : Nat → Cursor → Option (Text × Cursor)
  | 0, cursor => some ([], cursor)
  | count + 1, cursor => do
      let octet ← octet? cursor
      if octet / 0x40 = 2 then
        let (rest, cursor) ← readContinuation count (cursor.skip 3)
        some (Char.ofNat octet :: rest, cursor)
      else none

/-- Reads an escaped character, as one character for each octet. -/
def readOctets (cursor : Cursor) : Option (Text × Cursor) := do
  let octet ← octet? cursor
  let count ← octetCount? octet
  let (rest, cursor) ← readContinuation (count - 1) (cursor.skip 3)
  some (Char.ofNat octet :: rest, cursor)

/-- Reads the characters of a tag. Commas and brackets belong to it only where it is closed by
other means. -/
def readTagChars (isVerbatim : Bool) : Nat → Text → Cursor → Option (Text × Cursor)
  | 0, _, _ => none
  | fuel + 1, read, cursor =>
      match cursor.peek with
      | none => some (read, cursor)
      | some c =>
          if c = '%' then do
            let (octets, cursor) ← readOctets cursor
            readTagChars isVerbatim fuel (read ++ octets) cursor
          else if isTagChar c ∨ (isVerbatim ∧ (c = ',' ∨ c = '[' ∨ c = ']')) then
            readTagChars isVerbatim fuel (read ++ [c]) (cursor.skip 1)
          else some (read, cursor)

/-- Reads the rest of a tag after its beginning, which need not be empty when the beginning is
not. A zero octet ends the text. -/
def readTagText (isVerbatim : Bool) (begun : Bool) (read : Text) (cursor : Cursor) :
    Option (Text × Cursor) := do
  let (text, rest) ← readTagChars isVerbatim (cursor.rest.length + 1) read cursor
  if begun = false ∧ rest.index = cursor.index then none
  else some (text.takeWhile (· != '\x00'), rest)

/-- Reads `!`, a word, and a second `!` if there is one. -/
def readHandle (cursor : Cursor) : Option (Text × Cursor) :=
  if cursor.peek ≠ some '!' then none
  else
    let (word, cursor) := (cursor.skip 1).takeWhile isWord
    if cursor.peek = some '!' then some ('!' :: (word ++ ['!']), cursor.skip 1)
    else some ('!' :: word, cursor)

def isClosedHandle (handle : Text) : Bool := 1 < handle.length && handle.getLast? == some '!'

/-- Reads a tag as its handle and the rest; a verbatim tag has no handle. -/
def readTag (inFlow : Bool) (cursor : Cursor) : Option (Token × Cursor) := do
  let (tag, cursor) ←
    if cursor.peekAt 1 = some '<' then do
      let (text, cursor) ← readTagText true false [] (cursor.skip 2)
      if cursor.peek = some '>' then some (Token.tag [] text, cursor.skip 1) else none
    else do
      let (handle, cursor) ← readHandle cursor
      if isClosedHandle handle then
        let (text, cursor) ← readTagText false false [] cursor
        some (Token.tag handle text, cursor)
      else
        let (text, cursor) ← readTagText false true handle.tail cursor
        some (if text.isEmpty then Token.tag [] ['!'] else Token.tag ['!'] text, cursor)
  if isGap cursor.peek ∨ (inFlow ∧ cursor.peek = some ',') then some (tag, cursor) else none

def readVersionPart (cursor : Cursor) : Option (Nat × Cursor) :=
  let (digits, cursor) := cursor.takeWhile Char.isDigit
  if digits.isEmpty ∨ 9 < digits.length then none
  else some (digits.foldl (fun value c => 10 * value + (c.toNat - '0'.toNat)) 0, cursor)

def readVersion (cursor : Cursor) : Option (Token × Cursor) := do
  let (major, cursor) ← readVersionPart cursor.skipSpaces
  if cursor.peek = some '.' then
    let (minor, cursor) ← readVersionPart (cursor.skip 1)
    some (.version major minor, cursor)
  else none

def readHandleDeclaration (cursor : Cursor) : Option (Token × Cursor) := do
  let (handle, cursor) ← readHandle cursor.skipSpaces
  if (handle ≠ ['!'] ∧ isClosedHandle handle = false) ∨ cursor.peek.any isSpace = false then none
  else
    let (expansion, cursor) ← readTagText true false [] cursor.skipSpaces
    if isGap cursor.peek then some (.handle handle expansion, cursor) else none

/-- Reads a directive to the end of its line. -/
def readDirective (cursor : Cursor) : Option (Token × Cursor) := do
  let (name, cursor) := (cursor.skip 1).takeWhile isWord
  if isGap cursor.peek = false then none
  else
    let (token, cursor) ←
      if name = "YAML".toList then readVersion cursor
      else if name = "TAG".toList then readHandleDeclaration cursor
      else none
    some (token, ← cursor.endLine?)

end UniversalModule.Yaml
