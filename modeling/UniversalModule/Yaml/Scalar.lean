import UniversalModule.Yaml.Cursor

/-!
The texts of scalars: plain ones, quoted ones, and blocks of lines. A single line end inside a
plain or quoted scalar is a space; of several, all but the first count.
-/

namespace UniversalModule.Yaml

inductive Style where
  | plain
  | single
  | double
  | literal
  | folded
deriving DecidableEq

/-- The gap in front of the next character: spaces in a line, or a first line end with the
further ones. -/
inductive Gap where
  | spaces (text : Text)
  | breaks (first further : Text)

namespace Gap

def none : Gap := .spaces []

/-- What a gap between two characters of a scalar reads as. -/
def text : Gap → Text
  | .spaces text => text
  | .breaks ('\n' :: _) [] => [' ']
  | .breaks ('\n' :: _) further => further
  | .breaks first further => first ++ further

def isNone : Gap → Bool
  | .spaces [] => true
  | _ => false

def hasBreak : Gap → Bool
  | .spaces _ => false
  | .breaks _ _ => true

def addSpace (gap : Gap) (c : Char) : Gap :=
  match gap with
  | .spaces text => .spaces (text ++ [c])
  | .breaks first further => .breaks first further

def addBreak (gap : Gap) (text : Text) : Gap :=
  match gap with
  | .spaces _ => .breaks text []
  | .breaks first further => .breaks first (further ++ text)

end Gap

def hexValue? (c : Char) : Option Nat :=
  if '0' ≤ c ∧ c ≤ '9' then some (c.toNat - '0'.toNat)
  else if 'a' ≤ c ∧ c ≤ 'f' then some (c.toNat - 'a'.toNat + 10)
  else if 'A' ≤ c ∧ c ≤ 'F' then some (c.toNat - 'A'.toNat + 10)
  else none

/-- The character with the code that the given number of hexadecimal digits say. -/
def codeEscape? (cursor : Cursor) (count : Nat) : Option (Char × Cursor) := do
  let digits := cursor.rest.take count
  if digits.length < count then none
  else
    let code ← digits.foldlM (fun code c => (hexValue? c).map (16 * code + ·)) 0
    if code.isValidChar then some (Char.ofNat code, cursor.skip count) else none

/-- The character that a backslash and one more character stand for. -/
def shortEscape? (c : Char) : Option Char :=
  match c with
  | '0' => some '\x00'
  | 'a' => some '\x07'
  | 'b' => some '\x08'
  | 't' => some '\t'
  | '\t' => some '\t'
  | 'n' => some '\n'
  | 'v' => some '\x0b'
  | 'f' => some '\x0c'
  | 'r' => some '\r'
  | 'e' => some '\x1b'
  | ' ' => some ' '
  | '"' => some '"'
  | '/' => some '/'
  | '\\' => some '\\'
  | 'N' => some '\u0085'
  | '_' => some '\u00a0'
  | 'L' => some '\u2028'
  | 'P' => some '\u2029'
  | _ => none

def escape? (cursor : Cursor) : Option (Char × Cursor) := do
  let c ← cursor.peek
  match c with
  | 'x' => codeEscape? (cursor.skip 1) 2
  | 'u' => codeEscape? (cursor.skip 1) 4
  | 'U' => codeEscape? (cursor.skip 1) 8
  | _ => (shortEscape? c).map fun meant => (meant, cursor.skip 1)

/-- Reads a quoted scalar after its opening quote. What was read is held in reverse. -/
def readQuoted (quote : Char) : Nat → Text → Gap → Cursor → Option (Text × Cursor)
  | 0, _, _, _ => none
  | fuel + 1, read, gap, cursor =>
      match cursor.peek with
      | none => none
      | some c =>
          if isSpace c then readQuoted quote fuel read (gap.addSpace c) (cursor.skip 1)
          else if isBreak c then
            let (text, cursor) := cursor.takeBreak
            readQuoted quote fuel read (gap.addBreak text) cursor
          else if cursor.atDocumentMark then none
          else
            let read := gap.text.reverse ++ read
            if c = quote then
              if quote = '\'' ∧ cursor.peekAt 1 = some '\'' then
                readQuoted quote fuel ('\'' :: read) .none (cursor.skip 2)
              else some (read.reverse, cursor.skip 1)
            else if quote = '"' ∧ c = '\\' then
              if (cursor.peekAt 1).any isBreak then
                readQuoted quote fuel read (.breaks [] []) (cursor.skip 1).skipBreak
              else
                match escape? (cursor.skip 1) with
                | none => none
                | some (meant, cursor) => readQuoted quote fuel (meant :: read) .none cursor
            else readQuoted quote fuel (c :: read) .none (cursor.skip 1)

def isFlowIndicator (c : Char) : Bool :=
  c == ',' || c == '[' || c == ']' || c == '\x7b' || c == '\x7d'

/-- Reads a plain scalar, which in a block has to stay right of the given column. The flag tells
that line ends follow it. -/
def readPlain (inFlow : Bool) (least : Int) :
    Nat → Text → Gap → Cursor → Option (Text × Bool × Cursor)
  | 0, _, _, _ => none
  | fuel + 1, read, gap, cursor =>
      let finished := some (read.reverse, gap.hasBreak, cursor)
      match cursor.peek with
      | none => finished
      | some c =>
          if isSpace c then
            if gap.hasBreak ∧ (cursor.column : Int) < least ∧ c = '\t' then none
            else readPlain inFlow least fuel read (gap.addSpace c) (cursor.skip 1)
          else if isBreak c then
            let (text, cursor) := cursor.takeBreak
            readPlain inFlow least fuel read (gap.addBreak text) cursor
          else if !gap.isNone && ((!inFlow && (cursor.column : Int) < least) || c == '#') then finished
          else if cursor.atDocumentMark then finished
          else
            let next := cursor.peekAt 1
            if inFlow && c == ':' && next.any (fun c => isFlowIndicator c || c == '?') then none
            else if (c == ':' && isGap next) || (inFlow && isFlowIndicator c) then finished
            else
              readPlain inFlow least fuel (c :: (gap.text.reverse ++ read)) .none (cursor.skip 1)

/-- What becomes of the line ends after the last line of a block. -/
inductive Chomping where
  | strip
  | clip
  | keep
deriving DecidableEq

def chomping? : Option Char → Option Chomping
  | some '+' => some .keep
  | some '-' => some .strip
  | _ => none

/-- The indentation that the header of a block gives, from one to nine. -/
def increment? (c : Option Char) : Option Nat :=
  match c with
  | some c => if c.isDigit then some (c.toNat - '0'.toNat) else none
  | none => none

/-- Reads the header of a block: chomping and increment in either order. -/
def readBlockHeader (cursor : Cursor) : Option (Chomping × Nat × Cursor) := do
  let (chomping, increment, cursor) :=
    match chomping? cursor.peek with
    | some chomping =>
        match increment? (cursor.peekAt 1) with
        | some increment => (chomping, some increment, cursor.skip 2)
        | none => (chomping, none, cursor.skip 1)
    | none =>
        match increment? cursor.peek with
        | some increment =>
            match chomping? (cursor.peekAt 1) with
            | some chomping => (chomping, some increment, cursor.skip 2)
            | none => (.clip, some increment, cursor.skip 1)
        | none => (.clip, none, cursor)
  if increment = some 0 then none
  else
    let cursor ← cursor.endLine?
    some (chomping, increment.getD 0, cursor)

/-- Passes over empty lines and the indentation of the next one. Without an indentation, the
deepest one found decides; it is at least one and deeper than the surroundings. -/
def readBlockBreaks (outer : Int) :
    Nat → Nat → Nat → Text → Cursor → Option (Text × Nat × Cursor)
  | 0, _, _, _, _ => none
  | fuel + 1, indent, deepest, breaks, cursor =>
      let unsettled (cursor : Cursor) := indent = 0 ∨ cursor.column < indent
      let spaces := (cursor.rest.takeWhile (· == ' ')).length
      let cursor := cursor.skip (if indent = 0 then spaces else min spaces (indent - cursor.column))
      let deepest := max deepest cursor.column
      if unsettled cursor ∧ cursor.peek = some '\t' then none
      else if cursor.peek.any isBreak then
        let (text, cursor) := cursor.takeBreak
        readBlockBreaks outer fuel indent deepest (breaks ++ text) cursor
      else
        let indent := if indent = 0 then max (max deepest (outer + 1).toNat) 1 else indent
        some (breaks, indent, cursor)

/-- Reads the lines of a block. `first` and `further` are the line ends in front of the line;
`spaced` tells whether the line before began with a space. -/
def readBlockLines (isLiteral : Bool) (outer : Int) (indent : Nat) :
    Nat → Text → Bool → Text → Text → Cursor → Option (Text × Text × Text × Cursor)
  | 0, _, _, _, _, _ => none
  | fuel + 1, read, spaced, first, further, cursor =>
      match cursor.peek with
      | none => some (read, first, further, cursor)
      | some c =>
          if cursor.column ≠ indent then some (read, first, further, cursor)
          else
            let begins := isSpace c
            let lead :=
              if !isLiteral && first.head? == some '\n' && !spaced && !begins then
                if further.isEmpty then [' '] else []
              else first
            let (line, cursor) := cursor.takeWhile fun c => !isBreak c
            let (first, cursor) := cursor.takeBreak
            match readBlockBreaks outer (cursor.rest.length + 1) indent 0 [] cursor with
            | none => none
            | some (next, _, cursor) =>
                readBlockLines isLiteral outer indent fuel (read ++ lead ++ further ++ line) begins
                  first next cursor

/-- Reads a block after its indicator. `outer` is the indentation of the surroundings, -1 for
none. -/
def readBlock (isLiteral : Bool) (outer : Int) (cursor : Cursor) : Option (Text × Cursor) := do
  let (chomping, increment, cursor) ← readBlockHeader cursor
  let indent := if increment = 0 then 0 else if 0 ≤ outer then outer.toNat + increment else increment
  let fuel := cursor.rest.length + 1
  let (further, indent, cursor) ← readBlockBreaks outer fuel indent 0 [] cursor
  let (read, first, further, cursor) ←
    readBlockLines isLiteral outer indent fuel [] false [] further cursor
  let read := if chomping = .strip then read else read ++ first
  some (if chomping = .keep then read ++ further else read, cursor)

end UniversalModule.Yaml
