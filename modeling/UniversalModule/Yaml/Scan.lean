import UniversalModule.Keyed
import UniversalModule.Yaml.Token

/-!
A YAML text as its tokens. Indentation opens and closes blocks. Whether a scalar or a collection
is a key shows only at the colon behind it; the tokens that say so are then put in front of it.
Such a key ends on the line on which it begins and within 1024 octets.
-/

namespace UniversalModule.Yaml

/-- Something that is a key if a colon follows. -/
structure KeyStart where
  /-- Without it, there would be something in a block mapping that is no key. -/
  required : Bool
  token : Nat
  line : Nat
  column : Nat
  index : Nat

structure Scan where
  cursor : Cursor
  tokens : Array Token
  /-- The names of anchors with their numbers. -/
  anchors : Keyed Text Nat
  /-- The column of the block, -1 outside all blocks. -/
  indent : Int
  outerIndents : List Int
  /-- Whether a key may begin here. -/
  keyAllowed : Bool
  /-- What may be a key, around the brackets that are open and inside each of them, the innermost
  first. -/
  keyStart : Option KeyStart
  outerKeyStarts : List (Option KeyStart)

namespace Scan

def start (text : Text) : Scan where
  cursor := .start text
  tokens := #[]
  anchors := []
  indent := -1
  outerIndents := []
  keyAllowed := true
  keyStart := none
  outerKeyStarts := []

def inFlow (scan : Scan) : Bool := !scan.outerKeyStarts.isEmpty

def push (scan : Scan) (token : Token) : Scan := { scan with tokens := scan.tokens.push token }

def moveTo (scan : Scan) (cursor : Cursor) : Scan := { scan with cursor }

def take (scan : Scan) (length : Nat) (token : Token) : Scan :=
  (scan.moveTo (scan.cursor.skip length)).push token

def allowKey (scan : Scan) (keyAllowed : Bool) : Scan := { scan with keyAllowed }

def putToken (tokens : Array Token) (place : Nat) (token : Token) : Array Token :=
  tokens.insertIdxIfInBounds place token

/-- Opens a block at a column when it is deeper than the current one. -/
def openBlock (scan : Scan) (column : Nat) (place : Nat) (token : Token) : Scan :=
  if scan.inFlow = false ∧ scan.indent < column then
    { scan with
      indent := column
      outerIndents := scan.indent :: scan.outerIndents
      tokens := putToken scan.tokens place token }
  else scan

/-- Closes the blocks that are deeper than a column. -/
def closeBlocks (scan : Scan) (column : Int) : Scan :=
  if scan.inFlow then scan
  else
    let rec close (indent : Int) (outer : List Int) (tokens : Array Token) :
        Int × List Int × Array Token :=
      if indent ≤ column then (indent, outer, tokens)
      else
        match outer with
        | [] => (indent, [], tokens)
        | next :: outer => close next outer (tokens.push .blockEnd)
    let (indent, outerIndents, tokens) := close scan.indent scan.outerIndents scan.tokens
    { scan with indent, outerIndents, tokens }

/-- Gives up what might have been a key, unless it had to be one. -/
def dropKey (scan : Scan) : Option Scan :=
  if scan.keyStart.any (·.required) then none else some { scan with keyStart := none }

def noteKey (scan : Scan) : Option Scan :=
  if scan.keyAllowed then do
    let scan ← scan.dropKey
    let cursor := scan.cursor
    some { scan with
      keyStart := some {
        required := !scan.inFlow && scan.indent == (cursor.column : Int)
        token := scan.tokens.size
        line := cursor.line
        column := cursor.column
        index := cursor.index } }
  else some scan

def isStale (cursor : Cursor) (start : KeyStart) : Bool :=
  start.line < cursor.line || start.index + 1024 < cursor.index

def dropStale (cursor : Cursor) (start : Option KeyStart) : Option (Option KeyStart) :=
  match start with
  | none => some none
  | some start =>
      if isStale cursor start then if start.required then none else some none else some (some start)

def dropStaleKeys (scan : Scan) : Option Scan := do
  let keyStart ← dropStale scan.cursor scan.keyStart
  let outerKeyStarts ← scan.outerKeyStarts.mapM (dropStale scan.cursor)
  some { scan with keyStart, outerKeyStarts }

/-- Passes over spaces, comments and line ends. Tabs count as spaces except where a key may
begin in a block. After a line end, one may. -/
def skipGap : Nat → Scan → Scan
  | 0, scan => scan
  | fuel + 1, scan =>
      let cursor := scan.cursor
      let cursor := if cursor.column = 0 ∧ cursor.peek = some '\ufeff' then cursor.skip 1 else cursor
      let tabs := scan.inFlow || !scan.keyAllowed
      let cursor := (cursor.skipWhile fun c => c == ' ' || (tabs && c == '\t')).skipComment
      if cursor.peek.any isBreak then
        let scan := scan.moveTo cursor.skipBreak
        skipGap fuel (if scan.inFlow then scan else scan.allowKey true)
      else scan.moveTo cursor

def beginLine (scan : Scan) : Option Scan := (scan.closeBlocks (-1)).dropKey

def directive (scan : Scan) : Option Scan := do
  let scan ← scan.beginLine
  let (token, cursor) ← readDirective scan.cursor
  some (((scan.allowKey false).moveTo cursor).push token)

def documentMark (scan : Scan) (token : Token) : Option Scan := do
  let scan ← scan.beginLine
  some ((scan.allowKey false).take 3 token)

def flowOpen (scan : Scan) (token : Token) : Option Scan := do
  let scan ← scan.noteKey
  let scan :=
    { scan with keyStart := none, outerKeyStarts := scan.keyStart :: scan.outerKeyStarts }
  some ((scan.allowKey true).take 1 token)

def flowClose (scan : Scan) (token : Token) : Option Scan := do
  let scan ← scan.dropKey
  let scan :=
    match scan.outerKeyStarts with
    | [] => scan
    | keyStart :: outerKeyStarts => { scan with keyStart, outerKeyStarts }
  some ((scan.allowKey false).take 1 token)

def flowEntry (scan : Scan) : Option Scan := do
  let scan ← scan.dropKey
  some ((scan.allowKey true).take 1 .flowEntry)

/-- Opens a block here, where a key has to be allowed. -/
def blockHere (scan : Scan) (token : Token) : Option Scan :=
  if scan.inFlow then some scan
  else if scan.keyAllowed then
    some (scan.openBlock scan.cursor.column scan.tokens.size token)
  else none

def blockEntry (scan : Scan) : Option Scan := do
  let scan ← scan.blockHere .blockSequence
  let scan ← scan.dropKey
  some ((scan.allowKey true).take 1 .blockEntry)

def key (scan : Scan) : Option Scan := do
  let scan ← scan.blockHere .blockMapping
  let scan ← scan.dropKey
  some ((scan.allowKey (!scan.inFlow)).take 1 .key)

def value (scan : Scan) : Option Scan :=
  match scan.keyStart with
  | some start =>
      let scan := { scan with tokens := putToken scan.tokens start.token .key, keyStart := none }
      let scan := scan.openBlock start.column start.token .blockMapping
      some ((scan.allowKey false).take 1 .value)
  | none => do
      let scan ← scan.blockHere .blockMapping
      some ((scan.allowKey (!scan.inFlow)).take 1 .value)

/-- A token that may be the beginning of a key. -/
def keyed (scan : Scan) (read : Cursor → Option (Token × Cursor)) : Option Scan := do
  let scan ← scan.noteKey
  let (token, cursor) ← read scan.cursor
  some (((scan.allowKey false).moveTo cursor).push token)

/-- An anchor, whose name has this number from here on. -/
def anchor (scan : Scan) : Option Scan := do
  let scan ← scan.noteKey
  let (name, cursor) ← readName (scan.cursor.skip 1)
  let number := scan.anchors.length
  let scan := { scan with anchors := scan.anchors.put name number }
  some (((scan.allowKey false).moveTo cursor).push (.anchor number))

def reference (scan : Scan) : Option Scan :=
  scan.keyed fun cursor => do
    let (name, cursor) ← readName (cursor.skip 1)
    some (.reference (← scan.anchors.get? name), cursor)

def quoted (scan : Scan) (fuel : Nat) (quote : Char) (style : Style) : Option Scan :=
  scan.keyed fun cursor =>
    (readQuoted quote fuel [] .none (cursor.skip 1)).map fun (text, cursor) =>
      (.scalar text style, cursor)

def plain (scan : Scan) (fuel : Nat) : Option Scan := do
  let scan ← scan.noteKey
  let (text, brokenAfter, cursor) ←
    readPlain scan.inFlow (scan.indent + 1) fuel [] .none scan.cursor
  some (((scan.allowKey brokenAfter).moveTo cursor).push (.scalar text .plain))

def block (scan : Scan) (style : Style) : Option Scan := do
  let scan ← scan.dropKey
  let (text, cursor) ← readBlock (style == .literal) scan.indent (scan.cursor.skip 1)
  some (((scan.allowKey true).moveTo cursor).push (.scalar text style))

def isIndicator (c : Char) : Bool :=
  "-?:,[]\x7b\x7d#&*!|>'\"%@\x60".toList.contains c

/-- Whether a plain scalar begins with a character before another one. -/
def beginsPlain (inFlow : Bool) (c : Char) (next : Option Char) : Bool :=
  (!isGap (some c) && !isIndicator c) || (c == '-' && !next.any isSpace) ||
    (!inFlow && (c == '?' || c == ':') && !isGap next)

/-- Reads the token that begins with the given character. -/
def token (scan : Scan) (fuel : Nat) (c : Char) : Option Scan :=
  let next := scan.cursor.peekAt 1
  if scan.cursor.column = 0 ∧ c = '%' then scan.directive
  else if scan.cursor.atDocumentMark then
    scan.documentMark (if c = '-' then .documentStart else .documentEnd)
  else if c = '[' then scan.flowOpen .flowSequence
  else if c = '\x7b' then scan.flowOpen .flowMapping
  else if c = ']' then scan.flowClose .flowSequenceEnd
  else if c = '\x7d' then scan.flowClose .flowMappingEnd
  else if c = ',' then scan.flowEntry
  else if c = '-' ∧ isGap next then scan.blockEntry
  else if c = '?' ∧ (scan.inFlow ∨ isGap next) then scan.key
  else if c = ':' ∧ (scan.inFlow ∨ isGap next) then scan.value
  else if c = '*' then scan.reference
  else if c = '&' then scan.anchor
  else if c = '!' then scan.keyed (readTag scan.inFlow)
  else if c = '|' ∧ scan.inFlow = false then scan.block .literal
  else if c = '>' ∧ scan.inFlow = false then scan.block .folded
  else if c = '\'' then scan.quoted fuel c .single
  else if c = '"' then scan.quoted fuel c .double
  else if beginsPlain scan.inFlow c next then scan.plain fuel
  else none

/-- Closes what is open at the end of the text. -/
def finish (scan : Scan) : Option (List Token) := do
  let scan ← scan.beginLine
  some scan.tokens.toList

def run : Nat → Scan → Option (List Token)
  | 0, _ => none
  | fuel + 1, scan => do
      let scan := skipGap (fuel + 1) scan
      let scan ← scan.dropStaleKeys
      let scan := scan.closeBlocks scan.cursor.column
      match scan.cursor.peek with
      | none => scan.finish
      | some c => run fuel (← scan.token (fuel + 1) c)

end Scan

/-- The tokens of a text. A byte order mark at its beginning is passed over, and takes a column. -/
def tokens? (text : Text) : Option (List Token) :=
  if text.all isAllowed then Scan.run (text.length + 2) (.start text) else none

end UniversalModule.Yaml
