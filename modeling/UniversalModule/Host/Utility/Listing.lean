import UniversalModule.Host.Utility.Naming

/-!
Lists of what is in folders.
-/

namespace UniversalModule.Host.Utility

variable {m : Type → Type} [Monad m] (call : Call m)

structure Listing where
  given : List Given

namespace Listing

def has (listing : Listing) (letter : Char) : Bool := isGiven listing.given [letter]

def ordered (listing : Listing) (names : List Text) : List Text :=
  let sorted :=
    if listing.has 'U' || listing.has 'f' then names
    else names.mergeSort notAfter
  if listing.has 'r' then sorted.reverse else sorted

def shows (listing : Listing) (name : Text) : Bool :=
  listing.has 'a' || listing.has 'A' || listing.has 'f' || name.head? != some '.'

def namesIn (listing : Listing) (path : Text) : Work m (List Text) := do
  let names ← ask (call.files.names (call.place path))
  let own : List Text := if listing.has 'a' || listing.has 'f' then [['.'], ['.', '.']] else []
  return listing.ordered (own ++ names.filter listing.shows)

/-- What is put behind a name to tell what it stands for. -/
def mark (listing : Listing) (entry : Except IoFault Entry) : Text :=
  match entry with
  | .ok .folder => if listing.has 'F' || listing.has 'p' then ['/'] else []
  | .ok (.file file) => if listing.has 'F' && file.isExecutable then ['*'] else []
  | .ok (.program _) => if listing.has 'F' then ['*'] else []
  | .ok (.link _) => if listing.has 'F' then ['@'] else []
  | _ => []

def rights (entry : Except IoFault Entry) : Text :=
  match entry with
  | .ok .folder => "drwxr-xr-x"
  | .ok (.file file) => if file.isExecutable then "-rwxr-xr-x" else "-rw-r--r--"
  | .ok (.link _) => "lrwxrwxrwx"
  | .ok (.device _) => "crw-rw-rw-"
  | _ => "-rwxr-xr-x"

/-- The line for a name, with the path that leads to what it stands for. -/
def line (listing : Listing) (name path : Text) : Work m Text := do
  let entry ← call.findUnfollowed path
  let shown := name ++ listing.mark entry
  if listing.has 'l' then
    let size := match entry with
      | .ok (.file file) => file.content.length
      | _ => 4096
    let target : Text := match entry with
      | .ok (.link target) => " -> " ++ Text.ofUtf8Lossy target
      | _ => []
    return rights entry ++ " 1 root root " ++ Text.ofNat size ++ " Jan  1 00:00 " ++ shown ++ target
  else return shown

/-- Prints what is in a folder, and in the folders in it as deep as the fuel allows. -/
def printFolder (listing : Listing) (isFirst isNamed : Bool) : Nat → Text → Work m Unit
  | fuel, path => do
      if isFirst = false then printLine []
      if isNamed then printLine (path ++ [':'])
      let names ← listing.namesIn call path
      if listing.has 'l' then printLine "total 0"
      names.forM fun name => do printLine (← listing.line call name (inFolder path name))
      match fuel with
      | 0 => return ()
      | fuel + 1 =>
          if listing.has 'R' then
            for name in names.filter fun name => name != ['.'] && name != ['.', '.'] do
              let inner := inFolder path name
              match ← call.findUnfollowed inner with
              | .ok .folder => printFolder listing false true fuel inner
              | _ => pure ()

end Listing

def ls : Work m Unit := do
  let (given, operands) ← call.options 2 <|
    "a,all A,almost-all r,reverse p F,classify? d,directory R,recursive 1 t S U f C x m l g o n h i s k q b X " ++
      "N c u v L,dereference H G Q,quote-name B Z T= w,width= I,ignore= color? sort= time= group-directories-first " ++
      "file-type full-time format= indicator-style= zero"
  let listing : Listing := ⟨given⟩
  match operands, listing.has 'd' with
  | [], true => printLine ['.']
  | [], false => listing.printFolder call true (listing.has 'R') 100 ['.']
  | paths, itself => do
      let mut found := []
      for path in paths do
        match ← call.findUnfollowed path with
        | .error fault => call.complain 2 ("cannot access " ++ quoted path ++ ": " ++ fault.reason)
        | .ok (.link _) => found := found ++ [(path, ← call.isFolder path)]
        | .ok entry => found := found ++ [(path, entry == .folder)]
      let kept (isFolder : Bool) :=
        listing.ordered ((found.filter fun (_, folder) => (folder && !itself) == isFolder).map Prod.fst)
      let files := kept false
      files.forM fun path => do printLine (← listing.line call path path)
      let folders := kept true
      let isNamed := 1 < paths.length || listing.has 'R'
      for (path, index) in folders.zipIdx do
        listing.printFolder call (files.isEmpty && index == 0) isNamed 100 path

end UniversalModule.Host.Utility
