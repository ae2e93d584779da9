import UniversalModule.Host.Digest
import UniversalModule.Host.Utility.Counting

/-!
The program that shows bytes as numbers or characters, each line with its place in front.
-/

namespace UniversalModule.Host.Utility

variable {m : Type → Type} [Monad m] (call : Call m)

inductive Shown where
  /-- The names of characters of seven bits. -/
  | name
  /-- A character, or an escape for it. -/
  | character
  | signed
  | unsigned
  | octal
  | hexadecimal
deriving DecidableEq

/-- How bytes are shown: as what, how many of them together, and whether as a text behind that. -/
structure Showing where
  shown : Shown
  size : Nat
  hasText : Bool

namespace Showing

def digits (showing : Showing) : Nat :=
  let greatest := twoTo (8 * showing.size) - 1
  match showing.shown with
  | .name => 3
  | .character => 3
  | .signed => (Nat.toDigits 10 (greatest / 2)).length + 1
  | .unsigned => (Nat.toDigits 10 greatest).length
  | .octal => (Nat.toDigits 8 greatest).length
  | .hexadecimal => 2 * showing.size

def controlNames : List Text :=
  Text.splitAt ' ' <| String.toList <|
    "nul soh stx etx eot enq ack bel bs ht nl vt ff cr so si dle dc1 dc2 dc3 dc4 nak syn etb can em sub esc " ++
      "fs gs rs us sp"

/-- The characters that have escapes, and the letters of these. -/
def escapes : List (Char × Char) :=
  [('\x00', '0'), ('\x07', 'a'), ('\x08', 'b'), ('\x0c', 'f'), ('\n', 'n'), ('\r', 'r'), ('\t', 't'), ('\x0b', 'v')]

def withZeros (width : Nat) (digits : Text) : Text := List.replicate (width - digits.length) '0' ++ digits

def text (showing : Showing) (readsHighFirst : Bool) (group : Bytes) : Text :=
  let number := if readsHighFirst then Digest.ofHighFirst group else Digest.ofLowFirst group
  let c := Char.ofNat number
  match showing.shown with
  | .name =>
      let code := number % 128
      if code = 127 then "del" else (controlNames[code]?).getD [Char.ofNat code]
  | .character =>
      match escapes.lookup c with
      | some letter => ['\\', letter]
      | none => if ' ' ≤ c ∧ c ≤ '~' then [c] else withZeros 3 (Nat.toDigits 8 number)
  | .signed =>
      if number < twoTo (8 * showing.size) / 2 then Text.ofNat number
      else '-' :: Text.ofNat (twoTo (8 * showing.size) - number)
  | .unsigned => Text.ofNat number
  | .octal => withZeros showing.digits (Nat.toDigits 8 number)
  | .hexadecimal => withZeros showing.digits (Nat.toDigits 16 number)

/-- How wide a full line is, its blanks not counted that only line it up with others. -/
def width (showing : Showing) (count : Nat) : Nat := (showing.digits + 1) * (count / showing.size)

/-- A line of bytes, of which a full line has `count`; `blank` lines it up with wider ones. -/
def line (showing : Showing) (readsHighFirst : Bool) (count blank : Nat) (bytes : Bytes) : Text :=
  let fields := count / showing.size
  let missing := (count - bytes.length) / showing.size
  let zeros := List.replicate (showing.size - 1) 0
  let groups := Digest.piecesOf showing.size (fields - missing) (bytes ++ zeros)
  let told : Text := groups.zipIdx.flatMap fun (group, index) =>
    let here := blank * (fields - index) / fields - blank * (fields - index - 1) / fields
    padLeft (showing.digits + 1 + here) (showing.text readsHighFirst group)
  if showing.hasText then
    let filling := missing * (showing.digits + 1) + blank * missing / fields
    let plain := (octets bytes).map fun c => if ' ' ≤ c ∧ c ≤ '~' then c else '.'
    told ++ List.replicate filling ' ' ++ "  >" ++ plain ++ ['<']
  else told

end Showing

/-- How places are told: the base of their digits and how many of these there are. -/
structure Placing where
  base : Nat
  width : Nat

def Placing.text (placing : Placing) (place : Nat) : Text :=
  if placing.width = 0 then [] else Showing.withZeros placing.width (Nat.toDigits placing.base place)

/-- The number of bytes that a letter for a size means. -/
def sizeOfLetter? (c : Char) : Option Nat :=
  match c with
  | 'C' => some 1
  | 'S' => some 2
  | 'I' => some 4
  | 'L' => some 8
  | _ => none

/-- Reads the size behind a letter; four bytes when none is told. -/
def readWidth (all : Text) (rest : Text) : Except Text (Nat × Text) :=
  match rest.head?.bind sizeOfLetter? with
  | some size => .ok (size, rest.tail)
  | none =>
      let word := rest.takeWhile Char.isDigit
      match digits? word with
      | none => .ok (4, rest)
      | some size =>
          if [1, 2, 4, 8].contains size then .ok (size, rest.drop word.length)
          else
            .error <|
              "invalid type string " ++ escaped all ++ ";\nthis system doesn't provide a " ++ word ++
                "-byte integral type"

/-- Reads how bytes are to be shown, from a text of types. -/
def readShowings (all : Text) : Nat → Text → Except Text (List Showing)
  | 0, _ => .ok []
  | _, [] => .ok []
  | fuel + 1, c :: rest => do
      let (shown, size, rest) ←
        match c with
        | 'a' => .ok (Shown.name, 1, rest)
        | 'c' => .ok (.character, 1, rest)
        | 'd' => (readWidth all rest).map fun (size, rest) => (.signed, size, rest)
        | 'o' => (readWidth all rest).map fun (size, rest) => (.octal, size, rest)
        | 'u' => (readWidth all rest).map fun (size, rest) => (.unsigned, size, rest)
        | 'x' => (readWidth all rest).map fun (size, rest) => (.hexadecimal, size, rest)
        | c => .error ("invalid character '" ++ c :: ("' in type string " ++ escaped all))
      let hasText := rest.head? = some 'z'
      let others ← readShowings all fuel (if hasText then rest.tail else rest)
      .ok (⟨shown, size, hasText⟩ :: others)

def showingOf? (letter : Text) : Option Text :=
  match String.ofList letter with
  | "a" => some "a"
  | "b" => some "o1"
  | "c" => some "c"
  | "d" => some "u2"
  | "h" => some "x2"
  | "i" => some "d4"
  | "l" => some "d8"
  | "o" => some "o2"
  | "s" => some "d2"
  | "x" => some "x2"
  | _ => none

/-- The lines of a dump. A line that is like the one before it is left out; a star tells of it. -/
def dumpLines (tell : Nat → Bytes → Text) (count : Nat) (leavesOut : Bool) :
    Nat → Nat → Option Bytes → Bool → Bytes → Text
  | 0, _, _, _, _ => []
  | fuel + 1, place, before, isStarred, bytes =>
      if bytes.isEmpty then []
      else
        let here := bytes.take count
        let rest := bytes.drop count
        if leavesOut ∧ before = some here then
          (if isStarred then [] else ['*', '\n']) ++
            dumpLines tell count leavesOut fuel (place + here.length) before true rest
        else
          tell place here ++ dumpLines tell count leavesOut fuel (place + here.length) (some here) false rest

/-- A number of bytes: in octal digits behind a zero, in hexadecimal ones behind `0x`. -/
def byteCount? (word : Text) : Option Nat :=
  let ofBase (base : Nat) (digits : Text) : Option Nat :=
    digits.foldlM (fun value c =>
      let digit := if c.isDigit then c.toNat - '0'.toNat else c.toLower.toNat - 'a'.toNat + 10
      if (c.isDigit ∨ c.isAlpha) ∧ digit < base then some (base * value + digit) else none) 0
  match word with
  | '0' :: x :: digits =>
      if x = 'x' ∨ x = 'X' then ofBase 16 digits else ofBase 8 (x :: digits)
  | word => countOf? word

def od : Work m Unit := do
  let (given, operands) ← call.options 1 <|
    "A,address-radix= j,skip-bytes= N,read-bytes= t,format= v,output-duplicates w,width? endian= traditional " ++
      "a b c d h i l o s x"
  let placing : Placing ←
    match valueGiven? given ['A'] with
    | none => pure ⟨8, 7⟩
    | some word =>
        match word.head? with
        | some 'o' => pure ⟨8, 7⟩
        | some 'd' => pure ⟨10, 7⟩
        | some 'x' => pure ⟨16, 6⟩
        | some 'n' => pure ⟨8, 0⟩
        | _ =>
            call.fail 1 <|
              "invalid output address radix " ++ escaped word ++ "; it must be one character from [doxn]"
  let types := given.filterMap fun option =>
    if option.name = ['t'] then some option.value else showingOf? option.name
  let showings ← (if types.isEmpty then ["o2".toList] else types).flatMapM fun types =>
    match readShowings types (types.length + 1) types with
    | .ok showings => pure showings
    | .error message => call.fail 1 message
  let number (letter : Char) : Work m (Option Nat) := do
    match valueGiven? given [letter] with
    | none => return none
    | some word =>
        match byteCount? word with
        | some count => return some count
        | none => call.fail 1 ("invalid -" ++ letter :: (" argument " ++ escaped word))
  let skipped := (← number 'j').getD 0
  let limit? ← number 'N'
  let greatest := showings.foldl (fun size showing => max size showing.size) 1
  let wanted := ((valueGiven? given ['w']).map fun word => (digits? word).getD 32).getD 16
  let count := if wanted = 0 ∨ wanted % greatest ≠ 0 then greatest else wanted
  if count ≠ wanted then
    call.complain 0 ("warning: invalid width " ++ Text.ofNat wanted ++ "; using " ++ Text.ofNat count ++ " instead")
  let found ← call.readAll operands (call.refuseFile)
  let hasFolder ← operands.anyM call.isFolder
  let content := bytesOf (found.flatMap Prod.snd)
  if found.isEmpty ∧ hasFolder = false then return ()
  else if content.length < skipped then call.fail 1 "cannot skip past end of combined input"
  else
    let rest := content.drop skipped
    let bytes := limit?.elim rest rest.take
    if operands.isEmpty then call.putBack (rest.drop bytes.length)
    let widest := showings.foldl (fun width showing => max width (showing.width count)) 0
    let readsHighFirst := (valueGiven? given "endian").any fun word => word.head? == some 'b'
    let tell (place : Nat) (line : Bytes) : Text :=
      showings.zipIdx.flatMap fun (showing, index) =>
        let head := if index = 0 then placing.text place else List.replicate placing.width ' '
        head ++ showing.line readsHighFirst count (widest - showing.width count) line ++ ['\n']
    printText (dumpLines tell count (!isGiven given ['v']) (bytes.length + 1) skipped none false bytes)
    if placing.width ≠ 0 then printLine (placing.text (skipped + bytes.length))

end UniversalModule.Host.Utility
