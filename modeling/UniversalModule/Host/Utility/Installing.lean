import UniversalModule.Host.Utility.Differing
import UniversalModule.Host.Utility.Listing
import UniversalModule.Host.Utility.Placing

/-!
Programs that put copies of files in place, give and take single names, and tell what is known of
files.
-/

namespace UniversalModule.Host.Utility

variable {m : Type → Type} [Monad m] (call : Call m)

def link : Work m Unit := do
  let (_, operands) ← call.options 1 []
  match operands with
  | [] => call.failMissing "missing operand"
  | [path] => call.failMissing ("missing operand after " ++ quoted path)
  | [path, new] =>
      match ← ask (call.files.addName (call.place path) (call.place new)) with
      | .ok () => return ()
      | .error fault =>
          call.fail 1 ("cannot create link " ++ quoted new ++ " to " ++ quoted path ++ ": " ++ fault.reason)
  | _ :: _ :: extra :: _ => call.failExtra extra

def unlink : Work m Unit := do
  let (_, operands) ← call.options 1 []
  match operands with
  | [] => call.failMissing "missing operand"
  | [path] =>
      match ← ask (call.files.remove (call.place path)) with
      | .ok () => return ()
      | .error fault => call.refusePath "cannot unlink" path fault
  | _ :: extra :: _ => call.failExtra extra

/-- Makes the folders on the way to a path that are not there yet. -/
def makeFolders (tells : Bool) (path : Text) : Work m Unit := do
  for start in pathsTo path do
    if ← call.isFolder start then continue
    match ← ask (call.files.makeFolder (call.place start)) with
    | .ok () => if tells then printLine (call.name ++ ": creating directory " ++ quoted start)
    | .error fault => do
        call.refusePath "cannot create directory" start fault
        throw ()

def install : Work m Unit := do
  let (given, operands) ← call.options 1 <|
    "b c C,compare d,directory D g,group= m,mode= o,owner= p,preserve-timestamps s,strip S,suffix= " ++
      "t,target-directory= T,no-target-directory v,verbose Z"
  let mode := (valueGiven? given ['m']).getD "755"
  let tells := isGiven given ['v']
  match executableAfter? mode false with
  | none => call.fail 1 ("invalid mode " ++ escaped mode)
  | some isExecutable =>
      if isGiven given ['d'] then
        if operands.isEmpty then call.failMissing "missing file operand"
        else operands.forM (makeFolders call tells)
      else do
        if isGiven given ['D'] then
          match valueGiven? given ['t'], operands.getLast? with
          | some folder, _ => makeFolders call tells folder
          | none, some target => makeFolders call tells (folderName target)
          | none, none => pure ()
        let (sources, target, isFolder) ← targetOf call given operands
        sources.forM fun source => do
          let path := targetFor target isFolder source
          match ← call.find source with
          | .error fault => call.refusePath "cannot stat" source fault
          | .ok .folder => call.complain 1 ("omitting directory " ++ quoted source)
          | .ok _ =>
              match ← call.read source with
              | .error fault => call.refusePath "cannot open" source fault
              | .ok content => do
                  if ← isSame call source path then
                    call.complain 1 (quoted source ++ " and " ++ quoted path ++ " are the same file")
                  else
                    let _ ← ask (call.files.remove (call.place path))
                    match ← call.write path content with
                    | .error fault => call.refusePath "cannot create regular file" path fault
                    | .ok () => do
                        let _ ← ask (call.files.setExecutable (call.place path) isExecutable)
                        if tells then printLine (quoted source ++ " -> " ++ quoted path)

def rightsDigits (entry : Entry) : Text :=
  match entry with
  | .folder => "755"
  | .file file => if file.isExecutable then "755" else "644"
  | .link _ => "777"
  | .device _ => "666"
  | .program _ => "755"

def sizeOf (entry : Entry) : Nat :=
  match entry with
  | .file file => file.content.length
  | .folder => 4096
  | .link target => target.length
  | _ => 0

def toldOf (path : Text) (entry : Entry) (letter : Char) : Text :=
  match letter, entry with
  | 'n', _ => path
  | 'N', .link target => quoted path ++ " -> " ++ quoted (Text.ofUtf8Lossy target)
  | 'N', _ => quoted path
  | 's', entry => Text.ofNat (sizeOf entry)
  | 'F', entry => kindText entry
  | 'a', entry => rightsDigits entry
  | 'A', entry => Listing.rights (.ok entry)
  | 'U', _ => "root"
  | 'G', _ => "root"
  | 'u', _ => ['0']
  | 'g', _ => ['0']
  | 'h', .folder => ['2']
  | 'h', _ => ['1']
  | '%', _ => ['%']
  | _, _ => ['?']

def fillFormat (path : Text) (entry : Entry) : Text → Text
  | [] => []
  | '%' :: letter :: rest => toldOf path entry letter ++ fillFormat path entry rest
  | c :: rest => c :: fillFormat path entry rest

def stat : Work m Unit := do
  let (given, operands) ← call.options 1 "L,dereference f,file-system c,format= printf= t,terse cached="
  if operands.isEmpty then call.failMissing "missing operand"
  else operands.forM fun path => do
    match ← if isGiven given ['L'] then call.find path else call.findUnfollowed path with
    | .error fault => call.refusePath "cannot statx" path fault
    | .ok entry =>
        match valueGiven? given "printf", valueGiven? given ['c'] with
        | some format, _ =>
            print (Shell.unescape .program 100000 (fillFormat path entry format)).1
        | none, some format => printLine (fillFormat path entry format)
        | none, none =>
            printLine <|
              "  File: " ++ path ++ "\n  Size: " ++ Text.ofNat (sizeOf entry) ++ '\t' :: kindText entry ++
                "\nAccess: (0" ++ rightsDigits entry ++ '/' :: Listing.rights (.ok entry) ++ [')']

end UniversalModule.Host.Utility
