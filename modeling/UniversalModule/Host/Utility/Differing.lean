import UniversalModule.Host.Utility.Counting
import UniversalModule.Host.Utility.Naming

/-!
Programs that tell how files differ.
-/

namespace UniversalModule.Host.Utility

variable {m : Type → Type} [Monad m] (call : Call m)

/-- The place of the first difference, and the line in which it is. -/
def firstDifference : Nat → Nat → Text → Text → Option (Nat × Nat)
  | place, line, c :: first, d :: second =>
      if c = d then firstDifference (place + 1) (if c = '\n' then line + 1 else line) first second
      else some (place, line)
  | _, _, _, _ => none

def octalOf (c : Char) : Text := padLeft 3 (Nat.toDigits 8 c.toNat)

def cmp : Work m Unit := do
  let (given, operands) ← call.options 2 "b,print-bytes i,ignore-initial= l,verbose n,bytes= s,quiet,silent"
  let isSilent := isGiven given ['s']
  match operands with
  | [] => call.fail 2 ("missing operand after '" ++ call.name ++ "'" ++ call.helpLine)
  | first :: others => do
      let second := others.headD ['-']
      let contents ← [first, second].mapM fun path => do
        match ← call.read path with
        | .ok content => return octets content
        | .error fault =>
            if isSilent then stop 2
            else call.fail 2 (path ++ ": " ++ fault.reason)
      let limit := (valueGiven? given ['n']).bind digits?
      let cut (text : Text) : Text := limit.elim text text.take
      let left := cut (contents.headD [])
      let right := cut (contents.getD 1 [])
      if left = right then return ()
      else if isSilent then stop 1
      else if isGiven given ['l'] then do
        (left.zip right).zipIdx 1 |>.forM fun ((c, d), place) => do
          if c ≠ d then printLine (Text.ofNat place ++ ' ' :: octalOf c ++ ' ' :: octalOf d)
        giveStatus 1
      else do
        match firstDifference 1 1 left right with
        | some (place, line) => do
            printLine (first ++ ' ' :: second ++ " differ: char " ++ Text.ofNat place ++ ", line " ++ Text.ofNat line)
            giveStatus 1
        | none =>
            let (shorter, text) := if left.length < right.length then (first, left) else (second, right)
            if text.isEmpty then call.fail 1 ("EOF on " ++ shorter ++ " which is empty")
            else
              let count := text.count '\n'
              let place : Text :=
                if text.getLast? = some '\n' then ", line " ++ Text.ofNat count
                else ", in line " ++ Text.ofNat (count + 1)
              call.fail 1 ("EOF on " ++ shorter ++ " after byte " ++ Text.ofNat text.length ++ place)

/-- The lengths of the longest common parts of the ends of two lists, for each end of the first
one, from the shortest on. -/
def commonLengths (first second : List Text) : List (List Nat) :=
  first.foldr (fun line rows =>
    let below := rows.headD (List.replicate (second.length + 1) 0)
    let row := (second.zip (below.zip below.tail)).foldr (fun (other, here, next) (row : List Nat) =>
      (if line = other then next + 1 else max here (row.headD 0)) :: row) [0]
    row :: rows) [List.replicate (second.length + 1) 0]

/-- A stretch of lines that differ: how many of each file come before it, and its lines. -/
structure Change where
  left : Nat
  right : Nat
  removed : List Text
  added : List Text

/-- Puts a line that differs behind what differs already. -/
def addChange (left right : Nat) (removed added : List Text) : List Change → List Change
  | change :: changes =>
      if change.left + change.removed.length = left ∧ change.right + change.added.length = right then
        { change with removed := change.removed ++ removed, added := change.added ++ added } :: changes
      else ⟨left, right, removed, added⟩ :: change :: changes
  | [] => [⟨left, right, removed, added⟩]

/-- The stretches that differ, the last one first, from the lengths of the common parts. -/
def changesOf : Nat → Nat → Nat → List (List Nat) → List Text → List Text → List Change → List Change
  | 0, _, _, _, _, _, changes => changes
  | _, _, _, _, [], [], changes => changes
  | _, left, right, _, [], added, changes => addChange left right [] added changes
  | _, left, right, _, removed, [], changes => addChange left right removed [] changes
  | fuel + 1, left, right, rows, line :: first, other :: second, changes =>
      let here := rows.headD []
      let below := rows.tail.headD []
      if line = other then
        changesOf fuel (left + 1) (right + 1) (rows.tail.map List.tail) first second changes
      else if (here.getD 1 0) ≤ below.headD 0 then
        changesOf fuel (left + 1) right rows.tail first (other :: second) (addChange left right [line] [] changes)
      else
        changesOf fuel left (right + 1) (rows.map List.tail) (line :: first) second
          (addChange left right [] [other] changes)

def wholeLines (text : Text) : List Text :=
  let lines := linesOf '\n' text
  let count := lines.length
  let isWhole := text.getLast? == some '\n'
  lines.mapIdx fun index line => if index + 1 < count || isWhole then line ++ ['\n'] else line

def rangeText (start count : Nat) : Text :=
  if count ≤ 1 then Text.ofNat (start + count) else Text.ofNat (start + 1) ++ ',' :: Text.ofNat (start + count)

/-- Lines with a mark in front of each; a last line without an end is told of. -/
def markedLines (mark : Text) (lines : List Text) : Text :=
  lines.flatMap fun line =>
    let shown := mark ++ line
    if line.getLast? = some '\n' then shown else shown ++ "\n\\ No newline at end of file\n"

def Change.text (change : Change) : Text :=
  let letter : Text :=
    if change.removed.isEmpty then ['a'] else if change.added.isEmpty then ['d'] else ['c']
  let rule : Text := if letter = ['c'] then "---\n" else []
  rangeText change.left change.removed.length ++ letter ++ rangeText change.right change.added.length ++ ['\n'] ++
    markedLines "< " change.removed ++ rule ++ markedLines "> " change.added

/-- Whether two stretches are so near that they share the lines around them. -/
def Change.isNear (context : Nat) (change next : Change) : Bool :=
  next.left ≤ change.left + change.removed.length + 2 * context

/-- A place and a number of lines at the head of a group of stretches. -/
def groupRange (start count : Nat) : Text :=
  if count = 0 then Text.ofNat start ++ ",0"
  else if count = 1 then Text.ofNat (start + 1)
  else Text.ofNat (start + 1) ++ ',' :: Text.ofNat count

/-- A group of stretches, with the lines of the first file around them. -/
def groupText (context : Nat) (lines : List Text) (group : List Change) : Text :=
  match group.head?, group.getLast? with
  | some first, some last =>
      let before := min context first.left
      let finish := min lines.length (last.left + last.removed.length + context)
      let start := first.left - before
      let between (place upTo : Nat) : List Text := (lines.drop place).take (upTo - place)
      let (body, here) := group.foldl (fun (body, here) change =>
        (body ++ markedLines [' '] (between here change.left) ++ markedLines ['-'] change.removed ++
          markedLines ['+'] change.added, change.left + change.removed.length)) (([] : Text), start)
      let grown : Int := group.foldl (fun (grown : Int) change =>
        grown + change.added.length - change.removed.length) 0
      let added := ((finish - start : Nat) + grown).toNat
      "@@ -" ++ groupRange start (finish - start) ++ " +" ++ groupRange (first.right - before) added ++ " @@\n" ++
        body ++ markedLines [' '] (between here finish)
  | _, _ => []

structure DifferenceStyle where
  given : List Given
  /-- The options as they were written. -/
  switches : Text
  /-- How many lines around differences are told, if any are. -/
  context? : Option Nat

namespace DifferenceStyle

def has (style : DifferenceStyle) (letter : Char) : Bool := isGiven style.given [letter]

def counted (style : DifferenceStyle) (line : Text) : Text :=
  let isPlain (c : Char) := c != '\n' && isSpace c
  let line :=
    if style.has 'w' then line.filter (!isPlain ·)
    else if style.has 'b' then
      let words := (line.splitBy fun c d => isPlain c == isPlain d).map fun run =>
        if run.any isPlain then [' '] else run
      if words.getLast? = some ['\n'] ∧ words.dropLast.getLast? = some [' '] then
        words.dropLast.dropLast.flatten ++ ['\n']
      else words.flatten
    else line
  if style.has 'i' then line.map Char.toLower else line

/-- The stretches in which two texts differ, in the lines as they are. -/
def changes (style : DifferenceStyle) (left right : Text) : List Change :=
  let first := wholeLines left
  let second := wholeLines right
  let firstCounted := first.map style.counted
  let secondCounted := second.map style.counted
  let found := changesOf (first.length + second.length + 1) 0 0 (commonLengths firstCounted secondCounted)
    firstCounted secondCounted []
  let shown := found.reverse.map fun change => { change with
    removed := (first.drop change.left).take change.removed.length
    added := (second.drop change.right).take change.added.length }
  let isBlank (lines : List Text) : Bool := lines.all (· == ['\n'])
  if style.has 'B' then shown.filter fun change => !(isBlank change.removed && isBlank change.added) else shown

/-- The two lines in front of groups: labels or paths with the time that is not known. -/
def heads (style : DifferenceStyle) (first second : Text) : Text :=
  let labels := (style.given.filter fun option => option.name == "label".toList).map Given.value
  let head (mark path : Text) (index : Nat) : Text :=
    mark ++ ' ' :: (labels.getD index (path ++ "\t1970-01-01 00:00:00.000000000 +0000")) ++ ['\n']
  head "---" first 0 ++ head "+++" second 1

end DifferenceStyle

/-- Tells how two texts differ; a line with the command may come first. -/
def tellDifference (style : DifferenceStyle) (isNamed : Bool) (first second : Text) (left right : Text) :
    Work m Unit := do
  let changes := style.changes left right
  if changes.isEmpty then
    if style.has 's' then printLine ("Files " ++ first ++ " and " ++ second ++ " are identical")
  else do
    giveStatus 1
    if style.has 'q' then printLine ("Files " ++ first ++ " and " ++ second ++ " differ")
    else do
      if isNamed then printLine (call.name ++ style.switches ++ ' ' :: first ++ ' ' :: second)
      match style.context? with
      | none => changes.forM fun change => printOctets change.text
      | some context => do
          printText (style.heads first second)
          let groups := changes.splitBy (Change.isNear context)
          groups.forM fun group => printOctets (groupText context (wholeLines left) group)

def kindText (entry : Entry) : Text :=
  match entry with
  | .file file => if file.content.isEmpty then "regular empty file" else "regular file"
  | .folder => "directory"
  | .link _ => "symbolic link"
  | .device _ => "character special file"
  | .program _ => "regular file"

/-- Tells how what two paths lead to differs, as deep as the fuel allows. -/
def differAt (style : DifferenceStyle) : Nat → Bool → Text → Text → Work m Unit
  | 0, _, _, _ => return ()
  | fuel + 1, isInside, first, second => do
      let found (path : Text) : Work m (Except IoFault Entry) :=
        if path = ['-'] then return .ok (.device .nothing) else call.find path
      let takesMissing := style.has 'N'
      let content (path : Text) : Work m (Except IoFault Text) := do
        match ← call.read path with
        | .ok content => return .ok (octets content)
        | .error fault => return if takesMissing ∧ fault = .notFound then .ok [] else .error fault
      let compare (first second : Text) : Work m Unit := do
        let refuse (path : Text) (fault : IoFault) : Work m Unit := call.complain 2 (path ++ ": " ++ fault.reason)
        match ← content first, ← content second with
        | .ok left, .ok right => tellDifference call style isInside first second left right
        | .error fault, .error other => do
            refuse first fault
            if other ≠ .isDirectory then refuse second other
        | .error fault, _ => refuse first fault
        | _, .error fault => refuse second fault
      let inside (folder : Text) (pathsOf : Text → Text × Text) : Work m Unit := do
        let names ← ask (call.files.names (call.place folder))
        (names.mergeSort notAfter).forM fun name => differAt style fuel true (pathsOf name).1 (pathsOf name).2
      match ← found first, ← found second with
      | .ok .folder, .ok .folder =>
          if isInside ∧ style.has 'r' = false then
            printLine ("Common subdirectories: " ++ first ++ " and " ++ second)
          else do
            let left ← ask (call.files.names (call.place first))
            let right ← ask (call.files.names (call.place second))
            let all := (left ++ right.filter (!left.contains ·)).mergeSort notAfter
            all.forM fun name => do
              let hasBoth := left.contains name && right.contains name
              if hasBoth || takesMissing then
                differAt style fuel true (inFolder first name) (inFolder second name)
              else do
                let folder := if left.contains name then first else second
                printLine ("Only in " ++ folder ++ ": " ++ name)
                giveStatus 1
      | .ok .folder, .error .notFound =>
          if takesMissing ∧ isInside then inside first fun name => (inFolder first name, inFolder second name)
          else compare first second
      | .error .notFound, .ok .folder =>
          if takesMissing ∧ isInside then inside second fun name => (inFolder first name, inFolder second name)
          else compare first second
      | .ok .folder, .ok other =>
          if isInside then do
            printLine ("File " ++ first ++ " is a directory while file " ++ second ++ " is a " ++ kindText other)
            giveStatus 1
          else compare (inFolder first (baseName second)) second
      | .ok entry, .ok .folder =>
          if isInside then do
            printLine ("File " ++ first ++ " is a " ++ kindText entry ++ " while file " ++ second ++ " is a directory")
            giveStatus 1
          else compare first (inFolder second (baseName first))
      | _, _ => compare first second

def diff : Work m Unit := do
  let (given, operands) ← call.options 2 <|
    "q,brief s,report-identical-files b,ignore-space-change w,ignore-all-space i,ignore-case B,ignore-blank-lines " ++
      "r,recursive N,new-file a,text u U,unified= c C= e,ed n,rcs y,side-by-side normal label,L= t T d E Z color?"
  match operands with
  | [first, second] =>
      let switches := (call.arguments.filter fun word => word.head? == some '-' && 1 < word.length).flatMap (' ' :: ·)
      let context? :=
        ((valueGiven? given ['U']).bind digits?).orElse fun _ => if isGiven given ['u'] then some 3 else none
      differAt call ⟨given, switches, context?⟩ folderDepth false first second
  | [] => call.fail 2 ("missing operand after '" ++ call.name ++ "'" ++ call.helpLine)
  | [first] => call.fail 2 ("missing operand after " ++ escaped first ++ call.helpLine)
  | _ :: _ :: extra :: _ => call.fail 2 ("extra operand " ++ escaped extra ++ call.helpLine)

end UniversalModule.Host.Utility
