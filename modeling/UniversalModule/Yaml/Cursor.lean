import UniversalModule.Text.Basic

/-!
A place in a YAML text. Lines end in a line feed, a carriage return, both together, or one of
U+0085, U+2028 and U+2029; a line end reads as a line feed, except for the last two.
-/

namespace UniversalModule.Yaml

/-- The characters that a YAML text may have. -/
def isAllowed (c : Char) : Bool :=
  let code := c.toNat
  code == 0x09 || code == 0x0A || code == 0x0D || (0x20 ≤ code && code ≤ 0x7E) || code == 0x85 ||
    (0xA0 ≤ code && code ≤ 0xFFFD) || 0x10000 ≤ code

def isSpace (c : Char) : Bool := c == ' ' || c == '\t'

def isBreak (c : Char) : Bool :=
  c == '\n' || c == '\r' || c == '\u0085' || c == '\u2028' || c == '\u2029'

/-- A space, a line end or the end of the text. -/
def isGap : Option Char → Bool
  | none => true
  | some c => isSpace c || isBreak c

/-- The characters of anchors, tag handles and directives. -/
def isWord (c : Char) : Bool := c.isAlphanum || c == '_' || c == '-'

structure Cursor where
  rest : Text
  /-- The number of octets before the place. -/
  index : Nat
  line : Nat
  column : Nat

namespace Cursor

def start (text : Text) : Cursor := ⟨text, 0, 0, 0⟩

def peek (cursor : Cursor) : Option Char := cursor.rest.head?

def peekAt (cursor : Cursor) (distance : Nat) : Option Char := cursor.rest[distance]?

def skip : Cursor → Nat → Cursor
  | cursor, 0 => cursor
  | cursor, count + 1 =>
      match cursor.rest with
      | [] => { cursor with column := cursor.column + count + 1 }
      | c :: rest => skip ⟨rest, cursor.index + c.utf8Size, cursor.line, cursor.column + 1⟩ count

/-- Passes over a line end, and gives what it reads as. -/
def takeBreak (cursor : Cursor) : Text × Cursor :=
  match cursor.rest with
  | '\r' :: '\n' :: rest => (['\n'], ⟨rest, cursor.index + 2, cursor.line + 1, 0⟩)
  | c :: rest =>
      if isBreak c then
        (if c = '\u2028' ∨ c = '\u2029' then [c] else ['\n'],
          ⟨rest, cursor.index + c.utf8Size, cursor.line + 1, 0⟩)
      else ([], cursor)
  | [] => ([], cursor)

def skipBreak (cursor : Cursor) : Cursor := cursor.takeBreak.2

/-- Passes over characters of a line as long as they satisfy a condition. -/
def takeWhile (cursor : Cursor) (p : Char → Bool) : Text × Cursor :=
  let taken := cursor.rest.takeWhile p
  (taken, cursor.skip taken.length)

def skipWhile (cursor : Cursor) (p : Char → Bool) : Cursor := (cursor.takeWhile p).2

def skipSpaces (cursor : Cursor) : Cursor := cursor.skipWhile isSpace

/-- Passes over a comment, up to the end of its line. -/
def skipComment (cursor : Cursor) : Cursor :=
  if cursor.peek = some '#' then cursor.skipWhile fun c => !isBreak c else cursor

def looksAt (cursor : Cursor) (text : Text) : Bool := (Text.after? text cursor.rest).isSome

/-- Three dashes or points at the beginning of a line, alone. -/
def atDocumentMark (cursor : Cursor) : Bool :=
  cursor.column == 0 && (cursor.looksAt "---" || cursor.looksAt "...") && isGap (cursor.peekAt 3)

/-- The rest of a line that may hold a comment and nothing else. -/
def endLine? (cursor : Cursor) : Option Cursor :=
  let cursor := cursor.skipSpaces.skipComment
  match cursor.peek with
  | none => some cursor
  | some c => if isBreak c then some cursor.skipBreak else none

end Cursor

end UniversalModule.Yaml
