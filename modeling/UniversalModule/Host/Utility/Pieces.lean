import UniversalModule.Host.Utility.Differing
import UniversalModule.Host.Utility.Dumping
import UniversalModule.Host.Utility.Naming

/-!
Programs that take pieces out of files, cut files into pieces, and give files a length.
-/

namespace UniversalModule.Host.Utility

variable {m : Type → Type} [Monad m] (call : Call m)

/-- Bytes with zeros behind them, or cut, so that they have a length. -/
def withLength (length : Nat) (bytes : Bytes) : Bytes :=
  bytes.take length ++ List.replicate (length - bytes.length) 0

/-- A number with a letter that multiplies it; several may be multiplied by `x`. -/
def blockCount? (word : Text) : Option Nat :=
  let factor? (word : Text) : Option Nat :=
    let number := word.takeWhile Char.isDigit
    (digits? number).bind fun value =>
      match String.ofList (word.drop number.length) with
      | "c" => some value
      | "w" => some (2 * value)
      | "B" => some value
      | "MB" => some (1000000 * value)
      | "KiB" => some (1024 * value)
      | "MiB" => some (1048576 * value)
      | _ => countOf? word
  ((Text.splitAt 'x' word).mapM factor?).map fun factors => factors.foldl (· * ·) 1

/-- What is said of a copy: how many whole blocks and cut ones went in or out. -/
def recordLine (size length : Nat) (direction : Text) : Text :=
  Text.ofNat (length / size) ++ '+' :: Text.ofNat (if length % size = 0 then 0 else 1) ++ " records " ++
    direction ++ ['\n']

def swapped : Bytes → Bytes
  | first :: second :: rest => second :: first :: swapped rest
  | rest => rest

/-- The conversions that are known, most of which change nothing here. -/
def knownConversions : List Text :=
  Text.splitAt ' ' "ucase lcase swab sync notrunc noerror fsync fdatasync excl nocreat sparse".toList

/-- The words before the signs of equality of the operands of a copy. -/
def copyOperands : List Text :=
  Text.splitAt ' ' "bs cbs conv count ibs if iflag iseek obs of oflag oseek seek skip status".toList

def checkCopyOperand (operand : Text) : Work m Unit := do
  let name := operand.takeWhile (· != '=')
  let value := operand.drop (name.length + 1)
  let isOf (names : List Text) : Bool := names.contains name
  if (operand.contains '=' && copyOperands.contains name) = false then
    call.fail 1 ("unrecognized operand " ++ escaped operand ++ call.helpLine)
  else if name = "conv".toList then
    match (Text.splitAt ',' value).find? (!knownConversions.contains ·) with
    | some word => call.fail 1 ("invalid conversion: " ++ escaped word ++ call.helpLine)
    | none => return ()
  else if name = "status".toList then
    if (["none", "noxfer", "progress"] : List Text).contains value then return ()
    else call.fail 1 ("invalid status level: " ++ escaped value ++ call.helpLine)
  else if isOf ["bs", "cbs", "ibs", "obs", "count", "iseek", "oseek", "seek", "skip"] then
    match blockCount? value, isOf ["bs", "cbs", "ibs", "obs"] with
    | none, _ => call.fail 1 ("invalid number: " ++ escaped value)
    | some 0, true => call.fail 1 ("invalid number: " ++ escaped value)
    | _, _ => return ()
  else return ()

def dd : Work m Unit := do
  let (_, operands) ← call.options 1 []
  operands.forM (checkCopyOperand call)
  let value? (name : Text) : Option Text :=
    ((operands.filter (name ++ ['=']).isPrefixOf).getLast?).map (·.drop (name.length + 1))
  let number (name : Text) (default : Nat) : Nat := ((value? name).bind blockCount?).getD default
  let both := number "bs" 512
  let inSize := if (value? "bs").isSome then both else number "ibs" both
  let outSize := if (value? "bs").isSome then both else number "obs" both
  let conversions := Text.splitAt ',' ((value? "conv").getD [])
  let converts (name : Text) : Bool := conversions.contains name
  let isTold := value? "status" ≠ some "none".toList
  let path := (value? "if").getD "/dev/stdin"
  let target? := value? "of"
  let refuse {α : Type} (path : Text) (fault : IoFault) : Work m α :=
    call.fail 1 ("failed to open " ++ quoted path ++ ": " ++ fault.reason)
  let content ←
    match ← call.read path with
    | .ok content => pure content
    | .error .isDirectory => do
        call.complain 1 ("error reading " ++ quoted path ++ ": Is a directory")
        pure []
    | .error fault => refuse path fault
  let start := inSize * number "iseek" (number "skip" 0)
  let rest := content.drop start
  let limit? := (value? "count").bind fun word =>
    (blockCount? word).map fun count => if word.getLast? = some 'B' then count else count * inSize
  let taken := limit?.elim rest rest.take
  if Call.isInput path then modify fun progress => { progress with input := rest.drop taken.length }
  let filled :=
    if converts "sync" ∧ taken.length % inSize ≠ 0 then
      withLength ((taken.length / inSize + 1) * inSize) taken
    else taken
  let cased := octets (if converts "swab" then swapped filled else filled)
  let cased := if converts "ucase" then cased.map Char.toUpper else cased
  let given := bytesOf (if converts "lcase" then cased.map Char.toLower else cased)
  match target? with
  | none => print given
  | some target => do
      let place := outSize * number "oseek" (number "seek" 0)
      let old ←
        match ← ask (call.files.find (call.place target)) with
        | .ok (.file file) => pure file.content
        | _ => pure []
      if converts "excl" ∧ (← call.isThere target) then refuse target .alreadyExists
      let appends := (value? "oflag").any fun flags => (Text.splitAt ',' flags).contains "append".toList
      let place := if appends ∧ converts "notrunc" then old.length else place
      let kept := if converts "notrunc" then old.drop (place + given.length) else []
      match ← call.write target (withLength place old ++ given ++ kept) with
      | .ok () => pure ()
      | .error .noSpace => call.complain 1 ("error writing " ++ quoted target ++ ": No space left on device")
      | .error fault => refuse target fault
  if isTold then
    let bytes : Text := Text.ofNat given.length ++ (if given.length = 1 then " byte" else " bytes")
    let speed : Text :=
      if value? "status" = some "noxfer".toList then [] else bytes ++ " copied, 0.0001 s, 1.0 MB/s\n"
    printError (recordLine inSize taken.length "in" ++ recordLine outSize given.length "out" ++ speed)

/-- The length that a file is to have, from what is asked for and the length that it has. -/
def lengthFor? (asked : Text) (old : Nat) : Option Nat :=
  match asked with
  | '+' :: word => (countOf? word).map (old + ·)
  | '-' :: word => (countOf? word).map (old - ·)
  | '<' :: word => (countOf? word).map (min old)
  | '>' :: word => (countOf? word).map (max old)
  | '/' :: word => (countOf? word).bind fun size => if size = 0 then none else some (old / size * size)
  | '%' :: word =>
      (countOf? word).bind fun size => if size = 0 then none else some ((old + size - 1) / size * size)
  | word => countOf? word

def truncate : Work m Unit := do
  let (given, operands) ← call.options 1 "c,no-create o,io-blocks r,reference= s,size="
  match valueGiven? given ['s'], valueGiven? given ['r'] with
  | none, none =>
      call.fail 1 ("you must specify either " ++ escaped "--size" ++ " or " ++ escaped "--reference" ++ call.helpLine)
  | size?, reference? => do
      match size? with
      | some size => if (lengthFor? size 0).isNone then call.fail 1 ("Invalid number: " ++ escaped size)
      | none => pure ()
      let base? : Option Nat ←
        match reference? with
        | none => pure none
        | some path =>
            match ← call.read path with
            | .ok content => pure (some content.length)
            | .error fault => call.fail 1 ("cannot stat " ++ quoted path ++ ": " ++ fault.reason)
      if operands.isEmpty then call.fail 1 ("missing file operand" ++ call.helpLine)
      operands.forM fun path => do
        let refuse (fault : IoFault) : Work m Unit :=
          call.complain 1 ("cannot open " ++ quoted path ++ " for writing: " ++ fault.reason)
        let old? : Option Bytes ←
          match ← call.read path with
          | .ok content => pure (some content)
          | .error .notFound => pure (if isGiven given ['c'] then none else some [])
          | .error fault => do
              refuse fault
              pure none
        match old? with
        | none => pure ()
        | some old =>
            let base := base?.getD old.length
            let length := (size?.bind fun size => lengthFor? size base).getD base
            match ← call.write path (withLength length old) with
            | .ok () => pure ()
            | .error fault => refuse fault

/-- The ending of the name of a piece: its number in digits of an alphabet. When the endings of one
width give out, those of a greater width begin with the last digit, unless the width is fixed. -/
def pieceEnding? (alphabet : Text) (isFixed : Bool) : Nat → Nat → Nat → Option Text
  | 0, _, _ => none
  | fuel + 1, width, index =>
      let base := alphabet.length
      let count := if isFixed then Nat.pow base width else (base - 1) * Nat.pow base (width - 1)
      if index < count then
        some ((List.range width).map fun place => alphabet.getD (index / Nat.pow base (width - 1 - place) % base) 'a')
      else if isFixed then none
      else (pieceEnding? alphabet isFixed fuel (width + 1) (index - count)).map (alphabet.getLast?.toList ++ ·)

def joinedBy (count : Nat) : Nat → List Text → List Text
  | 0, _ => []
  | fuel + 1, items =>
      if items.isEmpty then [] else (items.take count).flatten :: joinedBy count fuel (items.drop count)

/-- Cuts a text into a number of pieces, the first of which may be longer by one character. -/
def inPieces (count : Nat) (text : Text) : List Text :=
  let size := text.length / count
  let longer := text.length % count
  (List.range count).map fun index =>
    (text.drop (index * size + min index longer)).take (size + if index < longer then 1 else 0)

def split : Work m Unit := do
  let (given, operands) ← call.options 1 <|
    "a,suffix-length= b,bytes= C,line-bytes= d e,elide-empty-files l,lines= n,number= x verbose " ++
      "additional-suffix= numeric-suffixes? hex-suffixes? t,separator= u,unbuffered"
  let count (letter : Char) (what : Text) : Work m (Option Nat) := do
    match valueGiven? given [letter] with
    | none => return none
    | some word =>
        match (countOf? word).filter (· != 0) with
        | some count => return some count
        | none => call.fail 1 ("invalid number of " ++ what ++ ": " ++ escaped word)
  let lines? ← count 'l' "lines"
  let bytes? ← count 'b' "bytes"
  let pieces? ← count 'n' "chunks"
  match operands with
  | _ :: _ :: extra :: _ => call.failExtra extra
  | _ => pure ()
  let path := operands.headD ['-']
  let name := operands.getD 1 ['x']
  let content ←
    match ← call.read path with
    | .ok content => pure (octets content)
    | .error .isDirectory => call.fail 1 (quotedIfOdd path ++ ": Is a directory")
    | .error fault => call.fail 1 ("cannot open " ++ quoted path ++ " for reading: " ++ fault.reason)
  let pieces : List Text :=
    match bytes?, pieces? with
    | some size, _ => joinedBy size content.length (content.map fun c => [c])
    | none, some count => inPieces count content
    | none, none => joinedBy (lines?.getD 1000) content.length (wholeLines content)
  let alphabet : Text :=
    if isGiven given ['d'] || isGiven given "numeric-suffixes" then "0123456789"
    else if isGiven given ['x'] || isGiven given "hex-suffixes" then "0123456789abcdef"
    else "abcdefghijklmnopqrstuvwxyz"
  let width? := ((valueGiven? given ['a']).bind digits?).filter (· != 0)
  let ending := (valueGiven? given "additional-suffix").getD []
  pieces.zipIdx.forM fun (piece, index) => do
    match pieceEnding? alphabet width?.isSome 20 (width?.getD 2) index with
    | none => call.fail 1 "output file suffixes exhausted"
    | some letters => do
        let path := name ++ letters ++ ending
        if isGiven given "verbose" then printLine ("creating file " ++ quoted path)
        match ← call.write path (bytesOf piece) with
        | .ok () => pure ()
        | .error fault => call.fail 1 (quotedIfOdd path ++ ": " ++ fault.reason)

end UniversalModule.Host.Utility
