import UniversalModule.Host.Utility.Ordering

/-!
The program that joins the lines of two files that have a field in common.
-/

namespace UniversalModule.Host.Utility

variable {m : Type → Type} [Monad m] (call : Call m)

/-- A field of a joined line: the common one, or one of the first or of the second file. -/
inductive JoinField where
  | common
  | ofFile (isSecond : Bool) (number : Nat)

structure Joining where
  firstField : Nat
  secondField : Nat
  separator? : Option Char
  /-- The fields of a joined line; all of them when nothing is said. -/
  fields : List JoinField
  /-- What stands for a field that is missing. -/
  filling : Text
  ignoresCase : Bool
  showsFirst : Bool
  showsSecond : Bool
  showsPairs : Bool

namespace Joining

def fieldsOf (joining : Joining) (line : Text) : List Text :=
  match joining.separator? with
  | some c => Text.splitAt c line
  | none => ((line.splitBy fun c d => isLineBlank c == isLineBlank d).filter fun run => !run.any isLineBlank)

def keyOf (joining : Joining) (isSecond : Bool) (fields : List Text) : Text :=
  let key := fields.getD (if isSecond then joining.secondField else joining.firstField) []
  if joining.ignoresCase then key.map Char.toLower else key

/-- The line of two lines, or of one that has no partner. -/
def line (joining : Joining) (first? second? : Option (List Text)) : Text :=
  let shown (field : Text) : Text := if field.isEmpty then joining.filling else field
  let without (number : Nat) (fields : List Text) : List Text := (fields.take number) ++ fields.drop (number + 1)
  let common : Text :=
    match first?, second? with
    | some fields, _ => fields.getD joining.firstField []
    | none, some fields => fields.getD joining.secondField []
    | none, none => []
  let told : List Text :=
    if joining.fields.isEmpty then
      shown common :: ((first?.elim [] (without joining.firstField)) ++
        (second?.elim [] (without joining.secondField))).map shown
    else
      joining.fields.map fun field =>
        match field with
        | .common => shown common
        | .ofFile isSecond number => shown (((if isSecond then second? else first?).getD []).getD number [])
  Text.joinWith [joining.separator?.getD ' '] told ++ ['\n']

def lines (joining : Joining) : Nat → List (List Text) → List (List Text) → Text
  | 0, _, _ => []
  | fuel + 1, first, second =>
      let alone (line? other? : Option (List Text)) (isShown : Bool) : Text :=
        if isShown then joining.line line? other? else []
      match first, second with
      | [], [] => []
      | line :: first, [] => alone (some line) none joining.showsFirst ++ joining.lines fuel first []
      | [], other :: second => alone none (some other) joining.showsSecond ++ joining.lines fuel [] second
      | line :: rest, other :: others =>
          let key := joining.keyOf false line
          let otherKey := joining.keyOf true other
          if key = otherKey then
            let left := first.takeWhile fun fields => joining.keyOf false fields == key
            let right := second.takeWhile fun fields => joining.keyOf true fields == key
            let pairs : Text := left.flatMap fun line => right.flatMap fun other => joining.line (some line) (some other)
            (if joining.showsPairs then pairs else []) ++
              joining.lines fuel (first.drop left.length) (second.drop right.length)
          else if notAfter key otherKey then
            alone (some line) none joining.showsFirst ++ joining.lines fuel rest second
          else alone none (some other) joining.showsSecond ++ joining.lines fuel first others

end Joining

def readJoinFields? (text : Text) : Option (List JoinField) :=
  (((text.map fun c => if c = ',' then ' ' else c).splitBy fun c d => (c == ' ') == (d == ' ')).filter
    (!·.contains ' ')).mapM fun word =>
      match word with
      | ['0'] => some .common
      | '1' :: '.' :: number => ((digits? number).filter (· != 0)).map fun number => .ofFile false (number - 1)
      | '2' :: '.' :: number => ((digits? number).filter (· != 0)).map fun number => .ofFile true (number - 1)
      | _ => none

/-- The place of the first line whose key comes before the one above it. -/
def unorderedPlace? (keys : List Text) : Option Nat :=
  ((keys.zip keys.tail).findIdx? fun (key, next) => !notAfter key next).map (· + 2)

def join : Work m Unit := do
  let (given, operands) ← call.options 1 <|
    "1= 2= j= t= a= v= e= o= i,ignore-case check-order nocheck-order header z,zero-terminated"
  match operands with
  | [] => call.fail 1 ("missing operand" ++ call.helpLine)
  | [first] => call.fail 1 ("missing operand after " ++ escaped first ++ call.helpLine)
  | _ :: _ :: extra :: _ => call.fail 1 ("extra operand " ++ escaped extra ++ call.helpLine)
  | [first, second] => do
      let number (letter : Char) : Work m Nat := do
        match (valueGiven? given [letter]).orElse fun _ => valueGiven? given ['j'] with
        | none => return 0
        | some word =>
            match (digits? word).filter (· != 0) with
            | some number => return number - 1
            | none => call.fail 1 ("invalid field number: " ++ escaped word)
      let firstField ← number '1'
      let secondField ← number '2'
      let letters := (valueGiven? given ['t']).getD []
      if 1 < letters.length then call.fail 1 ("multi-character tab " ++ escaped letters)
      let alone (letter : Char) (file : Text) : Bool :=
        given.any fun option => option.name == [letter] && option.value == file
      let format? := valueGiven? given ['o']
      let isAuto := format? == some "auto".toList
      let fields ←
        match format? with
        | none => pure []
        | some format =>
            if isAuto then pure []
            else
              match readJoinFields? format with
              | some fields => pure fields
              | none =>
                  let isNumber := format.head?.any fun c => c == '0' || c == '1' || c == '2'
                  let what : Text :=
                    if isNumber then "invalid field specifier: " else "invalid file number in field spec: "
                  call.fail 1 (what ++ escaped format)
      let contents ← [first, second].mapM fun path => do
        match ← call.read path with
        | .ok content => return linesOf '\n' (octets content)
        | .error fault => call.fail 1 (quotedIfOdd path ++ ": " ++ fault.reason)
      let plain : Joining := {
        firstField
        secondField
        separator? := letters.head?
        fields
        filling := octetsOf ((valueGiven? given ['e']).getD [])
        ignoresCase := isGiven given ['i']
        showsFirst := alone 'a' ['1'] || alone 'v' ['1']
        showsSecond := alone 'a' ['2'] || alone 'v' ['2']
        showsPairs := !isGiven given ['v'] }
      let left := (contents.headD []).map plain.fieldsOf
      let right := (contents.getD 1 []).map plain.fieldsOf
      let others (isSecond : Bool) (own : Nat) (lines : List (List Text)) : List JoinField :=
        ((List.range (lines.headD []).length).filter (· != own)).map (JoinField.ofFile isSecond)
      let joining :=
        if isAuto then
          { plain with fields := .common :: (others false firstField left ++ others true secondField right) }
        else plain
      let fuel := left.length + right.length + 1
      let hasHeader := isGiven given "header"
      let drop (lines : List (List Text)) : List (List Text) := if hasHeader then lines.tail else lines
      let check (path : Text) (isSecond : Bool) (lines : List (List Text)) (texts : List Text) : Work m Bool := do
        match unorderedPlace? (lines.map (joining.keyOf isSecond)), isGiven given "nocheck-order" with
        | some place, false => do
            call.complain 0 <|
              path ++ ':' :: Text.ofNat place ++ ": is not sorted: " ++
                Text.ofUtf8Lossy (bytesOf (texts.getD (place - 1) []))
            return true
        | _, _ => return false
      let isFirst ← check first false left (contents.headD [])
      let isSecond ← check second true right (contents.getD 1 [])
      if hasHeader then printOctets (joining.line left.head? right.head?)
      printOctets (joining.lines fuel (drop left) (drop right))
      if isFirst || isSecond then call.complain 1 "input is not in sorted order"

end UniversalModule.Host.Utility
