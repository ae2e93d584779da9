import UniversalModule.Host.Utility.Work

/-!
Programs that take paths apart or tell where they lead.
-/

namespace UniversalModule.Host.Utility

def baseName (path : Text) : Text :=
  let kept := (path.reverse.dropWhile (· == '/')).takeWhile (· != '/')
  if kept.isEmpty ∧ path.isEmpty = false then ['/'] else kept.reverse

def folderName (path : Text) : Text :=
  let isSeparator (c : Char) := c == '/'
  let before := (path.reverse.dropWhile isSeparator).dropWhile (!isSeparator ·)
  let kept := (before.dropWhile isSeparator).reverse
  if kept.isEmpty then (if path.head? = some '/' then ['/'] else ['.']) else kept

def folderDepth : Nat := 200

def inFolder (folder name : Text) : Text :=
  if folder.getLast? = some '/' then folder ++ name else folder ++ '/' :: name

/-- A name without an ending, unless nothing else is left. -/
def withoutEnding (ending name : Text) : Text :=
  if ending.isSuffixOf name ∧ name ≠ ending then name.take (name.length - ending.length) else name

variable {m : Type → Type} [Monad m] (call : Call m)

def Call.failMissing {α : Type} (what : Text) : Work m α :=
  call.fail 1 (what ++ call.helpLine)

def Call.failExtra {α : Type} (operand : Text) : Work m α :=
  call.fail 1 ("extra operand " ++ escaped operand ++ call.helpLine)

def endLine (given : List Given) : Text := if isGiven given ['z'] then ['\x00'] else ['\n']

def basename : Work m Unit := do
  let (given, operands) ← call.optionsWith false 1 "a,multiple s,suffix= z,zero" call.arguments
  let ending := valueGiven? given ['s']
  let tell (ending path : Text) : Work m Unit :=
    printText (withoutEnding ending (baseName path) ++ endLine given)
  match operands, isGiven given ['a'] || ending.isSome with
  | [], _ => call.failMissing "missing operand"
  | paths, true => paths.forM (tell (ending.getD []))
  | [path], false => tell [] path
  | [path, ending], false => tell ending path
  | _ :: _ :: extra :: _, false => call.failExtra extra

def dirname : Work m Unit := do
  let (given, operands) ← call.options 1 "z,zero"
  if operands.isEmpty then call.failMissing "missing operand"
  else operands.forM fun path => printText (folderName path ++ endLine given)

def workingFolder : Work m Unit := do
  let _ ← call.options 1 "L,logical P,physical"
  printLine call.folder.text

/-- The one path from the root that leads to where a path leads; its last name may be missing. -/
def canonicalPath (mustExist : Bool) (path : Text) : Work m (Except IoFault Text) := do
  match ← ask (call.files.canonical (call.place path)) with
  | .ok found => return .ok found.text
  | .error fault =>
      if mustExist ∨ fault ≠ .notFound then return .error fault
      else
        match ← call.findUnfollowed path with
        | .ok (.link target) =>
            let target := Text.ofUtf8Lossy target
            let base := if target.head? = some '/' then target else inFolder (folderName path) target
            match ← ask (call.files.canonical (call.place (folderName base))) with
            | .ok folder => return .ok (inFolder folder.text (baseName base))
            | .error fault => return .error fault
        | _ =>
            match ← ask (call.files.canonical (call.place (folderName path))) with
            | .ok folder => return .ok (inFolder folder.text (baseName path))
            | .error fault => return .error fault

def readlink : Work m Unit := do
  let (given, operands) ← call.options 1
    "f,canonicalize e,canonicalize-existing m,canonicalize-missing n,no-newline q,quiet s,silent v,verbose z,zero"
  if operands.isEmpty then call.failMissing "missing operand"
  else
    let follows := isGiven given ['f'] || isGiven given ['e'] || isGiven given ['m']
    let ending := if isGiven given ['n'] ∧ operands.length = 1 then [] else endLine given
    operands.forM fun path => do
      let refuse (fault : IoFault) : Work m Unit :=
        if isGiven given ['v'] then call.complain 1 (quotedIfOdd path ++ ": " ++ fault.reason)
        else giveStatus 1
      if follows then
        match ← canonicalPath call (isGiven given ['e']) path with
        | .ok found => printText (found ++ ending)
        | .error fault => refuse fault
      else
        match ← call.findUnfollowed path with
        | .ok (.link target) => printText (Text.ofUtf8Lossy target ++ ending)
        | .ok _ => refuse .invalidArgument
        | .error fault => refuse fault

def realpath : Work m Unit := do
  let (given, operands) ← call.options 1
    "e,canonicalize-existing m,canonicalize-missing L,logical P,physical q,quiet s,strip,no-symlinks z,zero"
  if operands.isEmpty then call.failMissing "missing operand"
  else operands.forM fun path => do
    match ← canonicalPath call (isGiven given ['e']) path with
    | .ok found => printText (found ++ endLine given)
    | .error fault =>
        if isGiven given ['q'] then giveStatus 1
        else call.complain 1 (quotedIfOdd path ++ ": " ++ fault.reason)

end UniversalModule.Host.Utility
