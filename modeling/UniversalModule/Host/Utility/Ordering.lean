import UniversalModule.Host.Utility.Counting
import UniversalModule.Number.Notation

/-!
Programs that put lines in order or compare lines that are in order.
-/

namespace UniversalModule.Host.Utility

variable {m : Type → Type} [Monad m] (call : Call m)

structure Comparing where
  letters : Text
deriving DecidableEq

/-- A number at the beginning of a text, as digits before and behind the point. -/
def leadingNumber (text : Text) : Bool × Text × Text :=
  let rest := text.dropWhile fun c => c == ' ' || c == '\t'
  let isNegative := rest.head? = some '-'
  let rest := if isNegative then rest.tail else rest
  let whole := rest.takeWhile Char.isDigit
  let after := rest.drop whole.length
  let places := if after.head? = some '.' then after.tail.takeWhile Char.isDigit else []
  (isNegative, whole, places)

def compareLeading (first second : Text) : Ordering :=
  let (firstNegative, firstWhole, firstPlaces) := leadingNumber first
  let (secondNegative, secondWhole, secondPlaces) := leadingNumber second
  let count := max firstPlaces.length secondPlaces.length
  let value (isNegative : Bool) (whole places : Text) : Int :=
    let digits := whole ++ places ++ List.replicate (count - places.length) '0'
    let number : Nat := digits.foldl (fun value c => 10 * value + (c.toNat - '0'.toNat)) 0
    if isNegative then -(number : Int) else number
  compare (value firstNegative firstWhole firstPlaces) (value secondNegative secondWhole secondPlaces)

/-- Orders texts by the floating numbers at their beginnings; texts without one come first. -/
def compareGeneral (first second : Text) : Ordering :=
  let number (text : Text) : Option Int := do
    let decimal ← leadingDecimal? (text.dropWhile isSpace)
    let value ← Binary64.ofDecimal decimal.negative decimal.digits decimal.power
    some (if value.negative then -value.magnitude else value.magnitude)
  match number first, number second with
  | none, none => .eq
  | none, some _ => .lt
  | some _, none => .gt
  | some first, some second => compare first second

def monthNames : List Text :=
  ["JAN", "FEB", "MAR", "APR", "MAY", "JUN", "JUL", "AUG", "SEP", "OCT", "NOV", "DEC"]

def monthOf (text : Text) : Nat :=
  let name := ((text.dropWhile isSpace).take 3).map Char.toUpper
  (monthNames.findIdx? (· == name)).elim 0 (· + 1)

/-- A number with a letter for a power of a thousand behind it. -/
def humanSize (text : Text) : Nat × Text :=
  let (_, whole, places) := leadingNumber text
  let rest := (text.dropWhile isSpace).drop (whole.length + (if places.isEmpty then 0 else places.length + 1))
  let power := match rest.head? with
    | some c => ("KMGTPEZY".toList.findIdx? (· == c.toUpper)).elim 0 (· + 1)
    | none => 0
  (power, text)

/-- Cuts a text into runs of digits and of other characters. -/
def runsOf (text : Text) : List Text := text.splitBy fun c d => c.isDigit == d.isDigit

/-- Orders names with numbers in them by these numbers. -/
def compareVersions : List Text → List Text → Ordering
  | [], [] => .eq
  | [], _ => .lt
  | _, [] => .gt
  | first :: others, second :: more =>
      let order :=
        if first.all Char.isDigit ∧ second.all Char.isDigit then compareLeading first second
        else if first = second then .eq
        else if notAfter first second then .lt else .gt
      order.then (compareVersions others more)

namespace Comparing

def has (comparing : Comparing) (letter : Char) : Bool := comparing.letters.contains letter

def counted (comparing : Comparing) (text : Text) : Text :=
  let text := if comparing.has 'd' then text.filter fun c => c.isAlphanum || c == ' ' || c == '\t' else text
  let text := if comparing.has 'i' then text.filter fun c => ' ' ≤ c && c ≤ '~' else text
  if comparing.has 'f' then text.map Char.toUpper else text

def compare (comparing : Comparing) (first second : Text) : Ordering :=
  let order :=
    if comparing.has 'n' then compareLeading first second
    else if comparing.has 'g' then compareGeneral first second
    else if comparing.has 'M' then Ord.compare (monthOf first) (monthOf second)
    else if comparing.has 'h' then
      (Ord.compare (humanSize first).1 (humanSize second).1).then (compareLeading first second)
    else if comparing.has 'V' then compareVersions (runsOf first) (runsOf second)
    else
      let first := comparing.counted first
      let second := comparing.counted second
      if first = second then .eq else if notAfter first second then .lt else .gt
  if comparing.has 'r' then order.swap else order

end Comparing

/-- A place in a line: a field, a character in it, and whether blanks are passed over first. -/
structure FieldPlace where
  field : Nat
  char : Nat
  skipsBlanks : Bool

structure SortKey where
  start : FieldPlace
  finish : Option FieldPlace
  comparing : Comparing

def isLineBlank (c : Char) : Bool := c == ' ' || c == '\t'

def afterFields (separator : Option Char) : Nat → Text → Text
  | 0, line => line
  | count + 1, line =>
      match separator with
      | some c => afterFields separator count (line.dropWhile (· != c)).tail
      | none => afterFields separator count ((line.dropWhile isLineBlank).dropWhile (!isLineBlank ·))

def SortKey.part (key : SortKey) (separator : Option Char) (line : Text) : Text :=
  let field := afterFields separator (key.start.field - 1) line
  let field := if key.start.skipsBlanks then field.dropWhile isLineBlank else field
  let begun := field.drop (key.start.char - 1)
  match key.finish with
  | none => begun
  | some place =>
      let rest :=
        if place.char = 0 then
          match separator with
          | some c => (afterFields separator (place.field - 1) line).dropWhile (· != c)
          | none => afterFields separator place.field line
        else
          let field := afterFields separator (place.field - 1) line
          let field := if place.skipsBlanks then field.dropWhile isLineBlank else field
          field.drop place.char
      begun.take (begun.length - rest.length)

def readFieldPlace (default : Nat) (text : Text) : Option (FieldPlace × Text) :=
  let field := text.takeWhile Char.isDigit
  let rest := text.drop field.length
  let char := if rest.head? = some '.' then rest.tail.takeWhile Char.isDigit else []
  let letters := if rest.head? = some '.' then rest.tail.drop char.length else rest
  (digits? field).map fun number =>
    (⟨number, (digits? char).getD default, letters.contains 'b'⟩, letters)

/-- Reads a key; letters of its own take the place of those for all keys. -/
def readSortKey (common : Text) (text : Text) : Option SortKey := do
  let startText := text.takeWhile (· != ',')
  let (start, letters) ← readFieldPlace 1 startText
  let finish ←
    match text.drop startText.length with
    | _ :: finishText => (readFieldPlace 0 finishText).map some
    | [] => some none
  let own := letters ++ (finish.map Prod.snd).getD []
  let letters := if own.isEmpty then common else own
  let place (place : FieldPlace) : FieldPlace :=
    if own.isEmpty then { place with skipsBlanks := common.contains 'b' } else place
  some ⟨place start, finish.map fun found => place found.1, ⟨letters⟩⟩

structure Sorting where
  separator : Option Char
  keys : List SortKey
  common : Comparing
  isStable : Bool

def Sorting.compareKeys (sorting : Sorting) (first second : Text) : Ordering :=
  sorting.keys.foldl (fun order key => order.then
    (key.comparing.compare (key.part sorting.separator first) (key.part sorting.separator second))) .eq

/-- Orders lines; those that are alike in all that counts are ordered by all of their text. -/
def Sorting.compare (sorting : Sorting) (first second : Text) : Ordering :=
  let order := sorting.compareKeys first second
  if sorting.isStable then order
  else
    let plain := if first = second then Ordering.eq else if notAfter first second then .lt else .gt
    order.then (if sorting.common.has 'r' then plain.swap else plain)

def firstOfAlike (alike : Text → Text → Bool) : List Text → List Text
  | [] => []
  | line :: lines =>
      line :: (firstOfAlike alike (lines.dropWhile (alike line)))
termination_by lines => lines.length
decreasing_by
  have := (List.dropWhile_sublist (alike line) (l := lines)).length_le
  simp only [List.length_cons]
  omega

def disorder? (isOrdered : Text → Text → Bool) : Nat → List Text → Option (Nat × Text)
  | number, first :: second :: rest =>
      if isOrdered first second then disorder? isOrdered (number + 1) (second :: rest)
      else some (number + 1, second)
  | _, _ => none

def sort : Work m Unit := do
  let (given, operands) ← call.options 2 <|
    "b,ignore-leading-blanks d,dictionary-order f,ignore-case g,general-numeric-sort i,ignore-nonprinting " ++
      "M,month-sort h,human-numeric-sort n,numeric-sort R,random-sort r,reverse V,version-sort c,check? " ++
      "C m,merge o,output= s,stable S,buffer-size= t,field-separator= T,temporary-directory= u,unique " ++
      "z,zero-terminated k,key= parallel= batch-size= sort="
  let is (letter : Char) := isGiven given [letter]
  let letters := "bdfgiMhnrV".toList.filter is
  let words := (given.filter fun option => option.name == ['k']).map Given.value
  let keys := words.map (readSortKey letters)
  match (words.zip keys).find? fun entry => entry.2.isNone with
  | some (word, _) => call.fail 2 ("invalid number at field start: invalid count at start of " ++ escaped word)
  | none => pure ()
  let whole : SortKey := ⟨⟨1, 1, letters.contains 'b'⟩, none, ⟨letters⟩⟩
  let keys := if keys.isEmpty then [whole] else keys.filterMap id
  let separator := (valueGiven? given ['t']).map fun text => if text = ['\\', '0'] then '\x00' else text.headD ' '
  let sorting : Sorting := ⟨separator, keys, ⟨letters⟩, is 's' || is 'u'⟩
  let ending := if is 'z' then '\x00' else '\n'
  let refuse (path : Text) (fault : IoFault) : Work m Unit :=
    call.fail 2 (if fault = .isDirectory then "read failed: " ++ quotedIfOdd path ++ ": " ++ fault.reason
      else "cannot read: " ++ quotedIfOdd path ++ ": " ++ fault.reason)
  let found ← call.readAll operands refuse
  let lines := found.flatMap fun (_, text) => linesOf ending text
  if is 'c' ∨ is 'C' then
    let isOrdered (first second : Text) : Bool :=
      let order := sorting.compare first second
      if is 'u' then order == .lt else order != .gt
    match disorder? isOrdered 1 lines with
    | none => return ()
    | some (number, line) =>
        if is 'C' then giveStatus 1
        else
          let name := operands.headD ['-']
          call.complain 1 (name ++ ':' :: Text.ofNat number ++ ": disorder: " ++ Text.ofUtf8Lossy (bytesOf line))
  else
    let ordered := lines.mergeSort fun first second => sorting.compare first second != .gt
    let kept :=
      if is 'u' then firstOfAlike (fun first second => sorting.compareKeys first second == .eq) ordered
      else ordered
    let bytes := bytesOf (kept.flatMap (· ++ [ending]))
    match valueGiven? given ['o'] with
    | none => print bytes
    | some path =>
        match ← call.write path bytes with
        | .ok () => return ()
        | .error fault => call.fail 2 ("open failed: " ++ quotedIfOdd path ++ ": " ++ fault.reason)

def groupsOf (alike : Text → Text → Bool) (lines : List Text) : List (List Text) := lines.splitBy alike

def uniq : Work m Unit := do
  let (given, operands) ← call.options 1 <|
    "c,count d,repeated D u,unique i,ignore-case f,skip-fields= s,skip-chars= w,check-chars= z,zero-terminated " ++
      "all-repeated? group?"
  let is (letter : Char) := isGiven given [letter]
  let number (letter : Char) : Option Nat := (valueGiven? given [letter]).bind digits?
  let ending := if is 'z' then '\x00' else '\n'
  let counted (line : Text) : Text :=
    let line := afterFields none ((number 'f').getD 0) line
    let line := line.drop ((number 's').getD 0)
    let line := match number 'w' with
      | some count => line.take count
      | none => line
    if is 'i' then line.map Char.toUpper else line
  let input := operands.headD ['-']
  match ← call.read input with
  | .error fault => call.fail 1 (quotedIfOdd input ++ ": " ++ fault.reason)
  | .ok content => do
      let groups := groupsOf (fun first second => counted first == counted second) (linesOf ending (octets content))
      let shown := groups.flatMap fun group =>
        let isRepeated := 1 < group.length
        let isKept := (!is 'd' || isRepeated) && (!is 'u' || !isRepeated)
        if is 'D' then (if isRepeated then group else [])
        else if isKept then
          let line := group.headD []
          [if is 'c' then padLeft 7 (Text.ofNat group.length) ++ ' ' :: line else line]
        else []
      let bytes := bytesOf (shown.flatMap (· ++ [ending]))
      match operands with
      | [_, output] =>
          match ← call.write output bytes with
          | .ok () => return ()
          | .error fault => call.fail 1 (quotedIfOdd output ++ ": " ++ fault.reason)
      | _ :: _ :: extra :: _ => call.fail 1 ("extra operand " ++ escaped extra ++ call.helpLine)
      | _ => print bytes

/-- Where a line of two ordered files is: in the first, in the second or in both. -/
def mergeLines : Nat → List Text → List Text → List (Nat × Text)
  | 0, _, _ => []
  | _, [], others => others.map fun line => (2, line)
  | _, lines, [] => lines.map fun line => (1, line)
  | fuel + 1, first :: lines, second :: others =>
      if first = second then (3, first) :: mergeLines fuel lines others
      else if notAfter first second then (1, first) :: mergeLines fuel lines (second :: others)
      else (2, second) :: mergeLines fuel (first :: lines) others

def comm : Work m Unit := do
  let (given, operands) ← call.options 1
    "1 2 3 check-order nocheck-order output-delimiter= total z,zero-terminated"
  match operands with
  | [first, second] => do
      let found ← call.readAll [first, second] fun path fault =>
        call.fail 1 (quotedIfOdd path ++ ": " ++ fault.reason)
      let lines (index : Nat) := linesOf '\n' ((found[index]?.map Prod.snd).getD [])
      let delimiter := octetsOf ((valueGiven? given "output-delimiter").getD ['\t'])
      let isShown (column : Nat) := !isGiven given (Text.ofNat column)
      let tabs (column : Nat) : Text :=
        ((List.range (column - 1)).filter fun before => isShown (before + 1)).flatMap fun _ => delimiter
      let merged := mergeLines ((lines 0).length + (lines 1).length + 1) (lines 0) (lines 1)
      printOctets (merged.flatMap fun (column, line) =>
        if isShown column then tabs column ++ line ++ ['\n'] else [])
  | [] => call.fail 1 ("missing operand" ++ call.helpLine)
  | [first] => call.fail 1 ("missing operand after " ++ escaped first ++ call.helpLine)
  | _ :: _ :: extra :: _ => call.fail 1 ("extra operand " ++ escaped extra ++ call.helpLine)

def tac : Work m Unit := do
  let (_, operands) ← call.options 1 "b,before r,regex s,separator="
  let found ← call.readAll operands fun path fault =>
    call.complain 1 ("failed to open " ++ quoted path ++ " for reading: " ++ fault.reason)
  found.forM fun (_, text) =>
    let stretch : Stretch := ⟨false, none, 0⟩
    printOctets (stretch.parts '\n' text).reverse.flatten

end UniversalModule.Host.Utility
