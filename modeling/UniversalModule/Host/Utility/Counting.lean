import UniversalModule.Host.Utility.Work

/-!
Programs that print files, the beginnings and ends of files, and how much is in files.
-/

namespace UniversalModule.Host.Utility

variable {m : Type → Type} [Monad m] (call : Call m)

def visible (showsTabs : Bool) (c : Char) : Text :=
  let code := c.toNat
  if c = '\t' ∧ showsTabs = false then ['\t']
  else if code < 32 then ['^', Char.ofNat (code + 64)]
  else if code < 127 then [c]
  else if code = 127 then ['^', '?']
  else if code < 160 then ['M', '-', '^', Char.ofNat (code - 128 + 64)]
  else if code < 255 then ['M', '-', Char.ofNat (code - 128)]
  else ['M', '-', '^', '?']

structure Telling where
  numbers : Bool
  numbersFull : Bool
  showsEnds : Bool
  showsTabs : Bool
  squeezes : Bool
  showsHidden : Bool

/-- Prints lines; gives the number of the last one and whether it was empty. -/
def Telling.print (telling : Telling) (state : Nat × Bool) (text : Text) : Text × Nat × Bool :=
  let isWhole := text.getLast? = some '\n'
  let lines := linesOf '\n' text
  let count := lines.length
  let (told, number, wasEmpty) := (lines.zipIdx).foldl (fun (told, number, wasEmpty) (line, index) =>
    if telling.squeezes ∧ wasEmpty ∧ line.isEmpty then (told, number, true)
    else
      let counts := if telling.numbersFull then !line.isEmpty else telling.numbers
      let number := if counts then number + 1 else number
      let head : Text := if counts then padLeft 6 (Text.ofNat number) ++ ['\t'] else []
      let shown : Text := line.flatMap fun c =>
        if telling.showsHidden then visible telling.showsTabs c
        else if c = '\t' ∧ telling.showsTabs then ['^', 'I']
        else [c]
      let isEnded := index + 1 < count ∨ isWhole
      let ending : Text :=
        if isEnded then (if telling.showsEnds then ['$', '\n'] else ['\n']) else []
      ((head ++ shown ++ ending).reverse ++ told, number, line.isEmpty)) ([], state.1, state.2)
  (told.reverse, number, wasEmpty)

def cat : Work m Unit := do
  let (given, operands) ← call.options 1 <|
    "A,show-all b,number-nonblank e E,show-ends n,number s,squeeze-blank t T,show-tabs u v,show-nonprinting"
  let is (letter : Char) := isGiven given [letter]
  let telling : Telling := {
    numbers := is 'n'
    numbersFull := is 'b'
    showsEnds := is 'E' || is 'A' || is 'e'
    showsTabs := is 'T' || is 'A' || is 't'
    squeezes := is 's'
    showsHidden := is 'v' || is 'A' || is 'e' || is 't' }
  let isPlain := given.all fun option => option.name == ['u']
  let mut state := (0, false)
  for path in if operands.isEmpty then [['-']] else operands do
    match ← call.read path with
    | .error fault => call.refuseFile path fault
    | .ok content =>
        if isPlain then print content
        else
          let (told, number, wasEmpty) := telling.print state (octets content)
          printOctets told
          state := (number, wasEmpty)

def countOf? (text : Text) : Option Nat :=
  let number := text.takeWhile Char.isDigit
  (digits? number).bind fun value =>
    match String.ofList (text.drop number.length) with
    | "" => some value
    | "b" => some (512 * value)
    | "k" => some (1024 * value)
    | "K" => some (1024 * value)
    | "kB" => some (1000 * value)
    | "M" => some (1048576 * value)
    | _ => none

/-- Which part of a file is printed: how much, whether in bytes, and with what sign. -/
structure Stretch where
  inBytes : Bool
  sign : Option Char
  count : Nat

def Stretch.parts (stretch : Stretch) (ending : Char) (text : Text) : List Text :=
  if stretch.inBytes then text.map fun c => [c]
  else
    let lines := linesOf ending text
    let count := lines.length
    let isWhole := text.getLast? == some ending
    lines.zipIdx.map fun (line, index) => if index + 1 < count || isWhole then line ++ [ending] else line

/-- The beginning of a text; after a minus sign, all but its end. -/
def Stretch.start (stretch : Stretch) (ending : Char) (text : Text) : Text :=
  let parts := stretch.parts ending text
  if stretch.sign = some '-' then (parts.take (parts.length - stretch.count)).flatten
  else (parts.take stretch.count).flatten

/-- The end of a text; after a plus sign, all from a part on. -/
def Stretch.finish (stretch : Stretch) (ending : Char) (text : Text) : Text :=
  let parts := stretch.parts ending text
  if stretch.sign = some '+' then (parts.drop (stretch.count - 1)).flatten
  else (parts.drop (parts.length - stretch.count)).flatten

/-- Arguments with a number of lines behind a sign alone in its usual form. -/
def withPlainCount (arguments : List Text) : List Text :=
  match arguments with
  | ('-' :: c :: rest) :: others =>
      if c.isDigit ∧ rest.all Char.isDigit then "-n".toList :: (c :: rest) :: others else arguments
  | _ => arguments

def printStretches (isEnd : Bool) : Work m Unit := do
  let (given, operands) ← call.optionsWith true 1
    "c,bytes= n,lines= q,quiet,silent v,verbose z,zero-terminated f,follow? F s,sleep-interval= pid= retry"
    (withPlainCount call.arguments)
  let last? := (given.filter fun option => option.name == ['c'] || option.name == ['n']).getLast?
  let word := (last?.map Given.value).getD "10"
  let inBytes := last?.any fun option => option.name == ['c']
  let sign := word.head?.filter fun c => c == '-' || c == '+'
  match countOf? (if sign.isSome then word.tail else word) with
  | none =>
      let what : Text := if inBytes then "bytes" else "lines"
      call.fail 1 ("invalid number of " ++ what ++ ": " ++ escaped word)
  | some count => do
      let stretch : Stretch := ⟨inBytes, sign, count⟩
      let ending := if isGiven given ['z'] then '\x00' else '\n'
      let paths := if operands.isEmpty then [['-']] else operands
      let isHeaded := (1 < paths.length && !isGiven given ['q']) || isGiven given ['v']
      let mut isFirst := true
      for path in paths do
        match ← call.read path with
        | .error .isDirectory => call.complain 1 ("error reading " ++ quoted path ++ ": Is a directory")
        | .error fault =>
            call.complain 1 ("cannot open " ++ quoted path ++ " for reading: " ++ fault.reason)
        | .ok content => do
            if isHeaded then
              let name : Text := if path = ['-'] then "standard input" else path
              printText ((if isFirst then [] else ['\n']) ++ "==> " ++ name ++ " <==\n")
            isFirst := false
            let text := octets content
            if isEnd then printOctets (stretch.finish ending text)
            else
              let start := stretch.start ending text
              printOctets start
              if path = ['-'] then call.putBack (content.drop start.length)

def head : Work m Unit := printStretches call false

def tail : Work m Unit := printStretches call true

structure Amount where
  lines : Nat
  words : Nat
  bytes : Nat
  width : Nat

def isSpace (c : Char) : Bool := c == ' ' || ('\t' ≤ c && c ≤ '\r')

def wordCount : Bool → Text → Nat
  | _, [] => 0
  | inWord, c :: rest =>
      if isSpace c then wordCount false rest
      else (if inWord then 0 else 1) + wordCount true rest

def Amount.of (text : Text) : Amount where
  lines := text.count '\n'
  words := wordCount false text
  bytes := text.length
  width := (linesOf '\n' text).foldl (fun width line => max width line.length) 0

def Amount.add (first second : Amount) : Amount where
  lines := first.lines + second.lines
  words := first.words + second.words
  bytes := first.bytes + second.bytes
  width := max first.width second.width

def wc : Work m Unit := do
  let (given, operands) ← call.options 1
    "c,bytes m,chars l,lines w,words L,max-line-length files0-from= total="
  let is (letter : Char) := isGiven given [letter]
  let isDefault := given.isEmpty
  let columns (amount : Amount) : List Nat :=
    (if isDefault || is 'l' then [amount.lines] else []) ++
      (if isDefault || is 'w' then [amount.words] else []) ++
      (if is 'm' then [amount.bytes] else []) ++
      (if isDefault || is 'c' then [amount.bytes] else []) ++
      (if is 'L' then [amount.width] else [])
  let found ← (if operands.isEmpty then [['-']] else operands).mapM fun path => do
    match ← call.read path with
    | .ok content => return some (path, octets content)
    | .error fault => do
        call.refuseFile path fault
        return if fault = .isDirectory then some (path, []) else none
  let amounts := (found.filterMap id).map fun (path, text) => (path, Amount.of text)
  let total := amounts.foldl (fun total entry => total.add entry.2) ⟨0, 0, 0, 0⟩
  let count := (columns total).length
  let hasFolder ← operands.anyM call.isFolder
  let width :=
    if operands.length ≤ 1 ∧ count = 1 then 1
    else if hasFolder then 7
    else if (operands.isEmpty ∨ operands.contains ['-']) ∧ call.inputIsFile = false then 7
    else (Text.ofNat total.bytes).length
  let tell (amount : Amount) (name : Text) : Work m Unit :=
    let numbers := Text.joinWith " " ((columns amount).map fun number => padLeft width (Text.ofNat number))
    printLine (if name.isEmpty then numbers else numbers ++ ' ' :: name)
  amounts.forM fun (path, amount) => tell amount (if operands.isEmpty then [] else path)
  if 1 < operands.length then tell total "total"

structure Numbering where
  style : Text
  format : Text
  separator : Text
  width : Nat
  step : Int

def Numbering.text (numbering : Numbering) (number : Int) : Text :=
  let sign : Text := if number < 0 then ['-'] else []
  let digits := Text.ofNat number.natAbs
  let blank := numbering.width - (sign.length + digits.length)
  if numbering.format = "ln".toList then sign ++ digits ++ List.replicate blank ' '
  else if numbering.format = "rz".toList then sign ++ List.replicate blank '0' ++ digits
  else List.replicate blank ' ' ++ sign ++ digits

def nl : Work m Unit := do
  let (given, operands) ← call.options 1 <|
    "b,body-numbering= d,section-delimiter= f,footer-numbering= h,header-numbering= i,line-increment= " ++
      "l,join-blank-lines= n,number-format= p,no-renumber s,number-separator= v,starting-line-number= w,number-width="
  let value (letter : Char) (default : Text) : Text := (valueGiven? given [letter]).getD default
  let number (letter : Char) (default : Nat) : Nat := ((valueGiven? given [letter]).bind digits?).getD default
  let numbering : Numbering := {
    style := value 'b' ['t']
    format := value 'n' "rn"
    separator := octetsOf (value 's' ['\t'])
    width := number 'w' 6
    step := number 'i' 1 }
  let found ← call.readAll operands (call.refuseFile)
  let lines := found.flatMap fun (_, text) => linesOf '\n' text
  let (told, _) := lines.foldl (fun (told, next) line =>
    let counts := numbering.style = ['a'] ∨ (numbering.style = ['t'] ∧ line.isEmpty = false)
    if counts then
      (told ++ [numbering.text next ++ numbering.separator ++ line ++ ['\n']], next + numbering.step)
    else
      (told ++ [List.replicate (numbering.width + numbering.separator.length) ' ' ++ line ++ ['\n']], next))
    (([] : List Text), (number 'v' 1 : Int))
  printOctets told.flatten

end UniversalModule.Host.Utility
