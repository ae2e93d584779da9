import UniversalModule.Host.CharacterSet
import UniversalModule.Host.Utility.Ordering

/-!
Programs that change the characters and columns of lines.
-/

namespace UniversalModule.Host.Utility

variable {m : Type → Type} [Monad m] (call : Call m)

/-- The ranges of a list of numbers; nothing when the list is refused. -/
def readRanges (text : Text) : Option (List (Nat × Option Nat)) :=
  (Text.splitAt ',' text).mapM fun item =>
    match Text.splitAt '-' item with
    | [only] => (digits? only).bind fun number => if number = 0 then none else some (number, some number)
    | [first, last] =>
        if first.isEmpty ∧ last.isEmpty then none
        else
          let start := if first.isEmpty then some 1 else digits? first
          let finish := if last.isEmpty then some none else (digits? last).map some
          start.bind fun start => finish.bind fun finish =>
            if start = 0 ∨ finish.any (· < start) then none else some (start, finish)
    | _ => none

def inRanges (ranges : List (Nat × Option Nat)) (number : Nat) : Bool :=
  ranges.any fun (start, finish) => start ≤ number && finish.all (number ≤ ·)

def cut : Work m Unit := do
  let (given, operands) ← call.options 1 <|
    "b,bytes= c,characters= d,delimiter= f,fields= n s,only-delimited z,zero-terminated complement output-delimiter="
  let list? := (valueGiven? given ['f']).orElse fun _ =>
    (valueGiven? given ['b']).orElse fun _ => valueGiven? given ['c']
  let kinds := (["b", "c", "f"] : List Text).filter (isGiven given)
  let delimiter := octetsOf ((valueGiven? given ['d']).getD ['\t'])
  match list?, kinds with
  | none, _ => call.fail 1 ("you must specify a list of bytes, characters, or fields" ++ call.helpLine)
  | some list, _ =>
      if 1 < kinds.length then call.fail 1 ("only one list may be specified" ++ call.helpLine)
      else if 1 < delimiter.length then
        call.fail 1 ("the delimiter must be a single character" ++ call.helpLine)
      else
        let isFields := isGiven given ['f']
        match readRanges list with
        | none =>
            let what : Text := if isFields then "fields are numbered from 1" else "byte/character positions are numbered from 1"
            call.fail 1 (what ++ call.helpLine)
        | some ranges => do
            let isKept (number : Nat) := inRanges ranges number != isGiven given "complement"
            let separator := delimiter.headD '\x00'
            let between := ((valueGiven? given "output-delimiter").map octetsOf).getD (if isFields then delimiter else [])
            let change (line : Text) : Option Text :=
              if isFields then
                if line.contains separator = false then
                  if isGiven given ['s'] then none else some line
                else
                  let fields := (Text.splitAt separator line).zipIdx 1
                  some (Text.joinWith between ((fields.filter fun field => isKept field.2).map Prod.fst))
              else
                some (((line.zipIdx 1).filter fun char => isKept char.2).map Prod.fst)
            let ending := if isGiven given ['z'] then '\x00' else '\n'
            let found ← call.readAll operands (call.refuseFile)
            found.forM fun (_, text) =>
              printOctets ((linesOf ending text).flatMap fun line =>
                match change line with
                | some line => line ++ [ending]
                | none => [])

/-- The first items of columns, then the second ones, up to the end of the longest column. -/
def rowsOf : Nat → List (List Text) → List (List Text)
  | 0, _ => []
  | fuel + 1, columns =>
      if columns.all List.isEmpty then []
      else columns.map (·.headD []) :: rowsOf fuel (columns.map List.tail)

def paste : Work m Unit := do
  let (given, operands) ← call.options 1 "d,delimiters= s,serial z,zero-terminated"
  let delimiters := Text.ofUtf8Lossy (Shell.unescape .program 1000 ((valueGiven? given ['d']).getD ['\t'])).1
  let delimiter (index : Nat) : Text :=
    if delimiters.isEmpty then [] else [delimiters.getD (index % delimiters.length) '\t']
  let paths := if operands.isEmpty then [['-']] else operands
  let named := paths.filter (· != ['-'])
  let refuse (path : Text) (fault : IoFault) : Work m Unit :=
    call.fail 1 (quotedIfOdd path ++ ": " ++ fault.reason)
  let found ← if named.isEmpty then pure [] else call.readAll named refuse
  let input ← if paths.contains ['-'] then (do return linesOf '\n' (octets (← takeInput))) else pure []
  let shares := paths.count ['-']
  let isSerial := isGiven given ['s']
  let columns := (paths.zipIdx).map fun (path, index) =>
    if path = ['-'] then
      if isSerial then (if (paths.take index).contains ['-'] then [] else input)
      else
        let before := (paths.take index).count ['-']
        (input.zipIdx.filter fun (_, number) => number % shares == before).map Prod.fst
    else linesOf '\n' ((found.find? fun entry => entry.1 == path).elim [] Prod.snd)
  let joined (items : List Text) : Text :=
    (items.zipIdx.flatMap fun (item, index) => (if index = 0 then [] else delimiter (index - 1)) ++ item) ++ ['\n']
  if isSerial then columns.forM fun items => printOctets (joined items)
  else
    let count := columns.foldl (fun count column => max count column.length) 0
    printOctets ((rowsOf count columns).flatMap joined)

/-- What an escape in a set means, and the text behind it. -/
def setEscape (c : Char) (rest : Text) : Char × Text :=
  if '0' ≤ c ∧ c ≤ '7' then
    let digits := (c :: rest).take 3 |>.takeWhile fun c => '0' ≤ c && c ≤ '7'
    let value := digits.foldl (fun value c => 8 * value + (c.toNat - '0'.toNat)) 0
    (Char.ofNat (value % 256), (c :: rest).drop digits.length)
  else
    let meant := match c with
      | 'a' => '\x07'
      | 'b' => '\x08'
      | 'f' => '\x0c'
      | 'n' => '\n'
      | 'r' => '\r'
      | 't' => '\t'
      | 'v' => '\x0b'
      | c => c
    (meant, rest)

inductive SetItem where
  | chars (chars : Text)
  /-- A character that is repeated, as often as is needed when no count is given. -/
  | filling (c : Char) (count : Option Nat)
  | upper
  | lower

def takeSetChar : Text → Option (Char × Text)
  | [] => none
  | '\\' :: c :: rest => some (setEscape c rest)
  | c :: rest => some (c, rest)

/-- A class, an equivalence or a repeated character between brackets. -/
def bracketItem? (text : Text) : Option (SetItem × Text) :=
  match text with
  | '[' :: ':' :: rest =>
      let name := rest.takeWhile (· != ':')
      match rest.drop name.length with
      | ':' :: ']' :: rest =>
          if name = "upper".toList then some (.upper, rest)
          else if name = "lower".toList then some (.lower, rest)
          else (CharacterSet.class? name).map fun ranges =>
            (.chars ((List.range 256).map Char.ofNat |>.filter (CharacterSet.covers ranges)), rest)
      | _ => none
  | '[' :: '=' :: c :: '=' :: ']' :: rest => some (.chars [c], rest)
  | '[' :: rest =>
      match takeSetChar rest with
      | some (c, '*' :: rest) =>
          let digits := rest.takeWhile Char.isDigit
          match rest.drop digits.length with
          | ']' :: rest => some (.filling c ((digits? digits).filter (· != 0)), rest)
          | _ => none
      | _ => none
  | _ => none

def readSetItems : Nat → Text → Except Text (List SetItem)
  | 0, _ => .ok []
  | _, [] => .ok []
  | fuel + 1, text =>
      match bracketItem? text, takeSetChar text with
      | some (item, rest), _ => return item :: (← readSetItems fuel rest)
      | none, none => .ok []
      | none, some (first, rest) =>
          match rest with
          | '-' :: c :: others =>
              match takeSetChar (c :: others) with
              | some (last, rest) =>
                  if last.toNat < first.toNat then
                    .error ("range-endpoints of '" ++ [first, '-', last] ++ "' are in reverse collating sequence order")
                  else
                    let chars := (List.range (last.toNat - first.toNat + 1)).map fun further =>
                      Char.ofNat (first.toNat + further)
                    return .chars chars :: (← readSetItems fuel rest)
              | none => return .chars [first] :: (← readSetItems fuel rest)
          | rest => return .chars [first] :: (← readSetItems fuel rest)

def upperLetters : Text := "ABCDEFGHIJKLMNOPQRSTUVWXYZ".toList

/-- The characters of a set, one repeated so often that there are as many as are wanted. -/
def charsOf (wanted : Nat) (items : List SetItem) : Text :=
  let fixed := items.foldl (fun count item =>
    match item with
    | .chars chars => count + chars.length
    | .filling _ number => count + number.getD 0
    | _ => count + 26) 0
  items.flatMap fun item =>
    match item with
    | .chars chars => chars
    | .filling c number => List.replicate (number.getD (wanted - fixed)) c
    | .upper => upperLetters
    | .lower => upperLetters.map Char.toLower

def squeeze (set : Text) (text : Text) : Text :=
  (text.foldl (fun (kept : Text) c =>
    if kept.head? = some c ∧ set.contains c then kept else c :: kept) []).reverse

def tr : Work m Unit := do
  let (given, operands) ← call.optionsWith false 1
    "c,C,complement d,delete s,squeeze-repeats t,truncate-set1" call.arguments
  let deletes := isGiven given ['d']
  let squeezes := isGiven given ['s']
  let sets ← (operands.take 2).mapM fun operand => do
    match readSetItems (operand.length + 1) (octetsOf operand) with
    | .ok items => return items
    | .error message => call.fail 1 message
  let input := octets (← takeInput)
  let all := (List.range 256).map Char.ofNat
  let complemented (chars : Text) : Text :=
    if isGiven given ['c'] then all.filter (!chars.contains ·) else chars
  match operands, sets with
  | [], _ => call.fail 1 ("missing operand" ++ call.helpLine)
  | [word], [items] =>
      let set := complemented (charsOf 0 items)
      if deletes ∧ squeezes then
        call.fail 1 ("missing operand after " ++ escaped word ++
          "\nTwo strings must be given when both deleting and squeezing repeats." ++ call.helpLine)
      else if deletes then printOctets (input.filter (!set.contains ·))
      else if squeezes then printOctets (squeeze set input)
      else
        call.fail 1 ("missing operand after " ++ escaped word ++
          "\nTwo strings must be given when translating." ++ call.helpLine)
  | [_, second], [items, others] =>
      let set := complemented (charsOf 0 items)
      let target := charsOf set.length others
      if deletes ∧ squeezes then printOctets (squeeze target (input.filter (!set.contains ·)))
      else if deletes then
        call.fail 1 ("extra operand " ++ escaped second ++
          "\nOnly one string may be given when deleting without squeezing repeats." ++ call.helpLine)
      else if target.isEmpty then
        call.fail 1 "when not truncating set1, string2 must be non-empty"
      else
        let last := target.getLast?.getD ' '
        let pairs := set.zipIdx.map fun (c, index) => (c, target.getD index last)
        let pairs := if isGiven given ['t'] then pairs.take target.length else pairs
        let table := pairs.foldl (fun (table : Array Char) (c, other) => table.setIfInBounds c.toNat other) all.toArray
        let changed := input.map fun c => table.getD c.toNat c
        printOctets (if squeezes then squeeze target changed else changed)
  | _, _ => call.fail 1 ("extra operand " ++ escaped (operands.getD 2 []) ++ call.helpLine)

def rev : Work m Unit := do
  let (_, operands) ← call.options 1 "0,zero h,help V,version"
  let found ← call.readAll operands fun path fault =>
    call.complain 1 ("cannot open " ++ path ++ ": " ++ fault.reason)
  found.forM fun (_, text) =>
    let stretch : Stretch := ⟨false, none, 0⟩
    printOctets ((stretch.parts '\n' text).flatMap fun line =>
      if line.getLast? = some '\n' then line.dropLast.reverse ++ ['\n'] else line.reverse)

/-- Breaks a line so that no part is wider than allowed, at a blank if that is asked for. -/
def foldLine (width : Nat) (atBlanks : Bool) : Nat → Text → List Text
  | 0, line => [line]
  | fuel + 1, line =>
      if line.length ≤ width then [line]
      else
        let part := line.take width
        let atBlank := (part.reverse.dropWhile (!isLineBlank ·)).reverse
        let part := if atBlanks ∧ atBlank.isEmpty = false then atBlank else part
        part :: foldLine width atBlanks fuel (line.drop part.length)

def fold : Work m Unit := do
  let (given, operands) ← call.options 1 "b,bytes c s,spaces w,width="
  let width := ((valueGiven? given ['w']).bind digits?).getD 80
  if width = 0 then call.fail 1 ("invalid number of columns: " ++ escaped ((valueGiven? given ['w']).getD []))
  let found ← call.readAll operands (call.refuseFile)
  let stretch : Stretch := ⟨false, none, 0⟩
  found.forM fun (_, text) =>
    printOctets ((stretch.parts '\n' text).flatMap fun line =>
      let isWhole := line.getLast? = some '\n'
      let parts := foldLine width (isGiven given ['s']) line.length (if isWhole then line.dropLast else line)
      Text.joinWith ['\n'] parts ++ (if isWhole then ['\n'] else []))

def expandTabs (width : Nat) (line : Text) : Text :=
  (line.foldl (fun (shown : Text × Nat) c =>
    if c = '\t' then
      let count := width - shown.2 % width
      (List.replicate count ' ' ++ shown.1, shown.2 + count)
    else (c :: shown.1, shown.2 + 1)) ([], 0)).1.reverse

def expand : Work m Unit := do
  let (given, operands) ← call.options 1 "i,initial t,tabs="
  let width := max (((valueGiven? given ['t']).bind digits?).getD 8) 1
  let found ← call.readAll operands (call.refuseFile)
  let stretch : Stretch := ⟨false, none, 0⟩
  found.forM fun (_, text) => printOctets ((stretch.parts '\n' text).flatMap (expandTabs width))

/-- A line with tabs in place of blanks that lead up to a place where columns begin. What follows the
first character that is no blank changes only if `changesAll` says so. -/
def withTabs (width : Nat) (changesAll : Bool) (line : Text) : Text :=
  let put (blanks : Nat) (column : Nat) (shown : Text) : Text :=
    if blanks = 1 ∧ (column / width ≠ (column - 1) / width) ∧ changesAll = false then ' ' :: shown
    else List.replicate blanks ' ' ++ shown
  let (shown, _, blanks, _) := line.foldl (fun (shown, column, blanks, isInside) c =>
    if c = ' ' ∧ (changesAll ∨ isInside = false) then
      if (column + 1) % width = 0 then
        (if blanks = 0 ∧ isInside then ' ' :: shown else '\t' :: shown, column + 1, 0, isInside)
      else (shown, column + 1, blanks + 1, isInside)
    else if c = '\t' ∧ (changesAll ∨ isInside = false) then
      ('\t' :: shown, column + (width - column % width), 0, isInside)
    else (c :: put blanks column shown, column + 1, 0, true)) (([] : Text), 0, 0, false)
  (List.replicate blanks ' ' ++ shown).reverse

def unexpand : Work m Unit := do
  let (given, operands) ← call.options 1 "a,all first-only t,tabs="
  let width := max (((valueGiven? given ['t']).bind digits?).getD 8) 1
  let changesAll := (isGiven given ['a'] || isGiven given ['t']) && !isGiven given "first-only"
  let found ← call.readAll operands (call.refuseFile)
  let stretch : Stretch := ⟨false, none, 0⟩
  found.forM fun (_, text) => printOctets ((stretch.parts '\n' text).flatMap (withTabs width changesAll))

end UniversalModule.Host.Utility
