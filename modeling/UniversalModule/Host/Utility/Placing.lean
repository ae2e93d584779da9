import UniversalModule.Host.Utility.Naming

/-!
Programs that make, copy, move and take away files, folders and links.
-/

namespace UniversalModule.Host.Utility

variable {m : Type → Type} [Monad m] (call : Call m)

def Call.refusePath (what path : Text) (fault : IoFault) : Work m Unit :=
  call.complain 1 (what ++ ' ' :: quoted path ++ ": " ++ fault.reason)

def isDotName (path : Text) : Bool :=
  let name := baseName path
  name == ['.'] || name == ['.', '.']

/-- Takes away what is at a path, with all that is in it as deep as the fuel allows. -/
def removeAt (recurses tells : Bool) : Nat → Text → Work m Unit
  | fuel, path => do
      match ← call.findUnfollowed path with
      | .error fault => call.refusePath "cannot remove" path fault
      | .ok .folder =>
          match fuel with
          | fuel + 1 =>
              if recurses then
                (← ask (call.files.names (call.place path))).forM fun name =>
                  removeAt recurses tells fuel (inFolder path name)
              match ← ask (call.files.removeFolder (call.place path)) with
              | .ok () => if tells then printLine ("removed directory " ++ quoted path)
              | .error fault => call.refusePath "cannot remove" path fault
          | 0 => call.refusePath "cannot remove" path .tooManyLinks
      | .ok _ =>
          match ← ask (call.files.remove (call.place path)) with
          | .ok () => if tells then printLine ("removed " ++ quoted path)
          | .error fault => call.refusePath "cannot remove" path fault

def rm : Work m Unit := do
  let (given, operands) ← call.options 1
    "r,R,recursive f,force d,dir v,verbose i I interactive? one-file-system no-preserve-root preserve-root?"
  let isForced := isGiven given ['f']
  let recurses := isGiven given ['r']
  if operands.isEmpty ∧ isForced = false then call.failMissing "missing operand"
  else operands.forM fun path => do
    match ← call.findUnfollowed path with
    | .error fault =>
        if isForced ∧ (fault = .notFound ∨ fault = .notDirectory) then return ()
        else call.refusePath "cannot remove" path fault
    | .ok .folder =>
        if recurses = false ∧ isGiven given ['d'] = false then
          call.refusePath "cannot remove" path .isDirectory
        else if isDotName path then
          call.complain 1 ("refusing to remove '.' or '..' directory: skipping " ++ quoted path)
        else removeAt call recurses (isGiven given ['v']) folderDepth path
    | .ok _ => removeAt call recurses (isGiven given ['v']) folderDepth path

/-- The paths on the way to a path, the path itself last. -/
def pathsTo (path : Text) : List Text :=
  let names := Text.splitAt '/' path
  (List.range names.length).filterMap fun count =>
    let start := Text.joinWith ['/'] (names.take (count + 1))
    if start.isEmpty ∨ (names[count]?).any List.isEmpty then none else some start

def mkdir : Work m Unit := do
  let (given, operands) ← call.options 1 "p,parents m,mode= v,verbose Z context?"
  let made (path : Text) : Work m Unit :=
    if isGiven given ['v'] then printLine (call.name ++ ": created directory " ++ quoted path) else return ()
  let refuse (path : Text) (fault : IoFault) : Work m Unit :=
    call.complain 1 ("cannot create directory " ++ escaped path ++ ": " ++ fault.reason)
  let make (path : Text) : Work m Unit := do
    match ← ask (call.files.makeFolder (call.place path)) with
    | .ok () => made path
    | .error fault => refuse path fault
  let makeAll (path : Text) : Work m Unit := do
    for start in pathsTo path do
      if ← call.isFolder start then continue
      match ← ask (call.files.makeFolder (call.place start)) with
      | .ok () => made start
      | .error fault => do
          let told := if fault = .alreadyExists ∧ start ≠ path then .notDirectory else fault
          refuse (if fault = .alreadyExists then start else path) told
          break
  if operands.isEmpty then call.failMissing "missing operand"
  else operands.forM (if isGiven given ['p'] then makeAll else make)

def rmdir : Work m Unit := do
  let (given, operands) ← call.options 1 "p,parents v,verbose ignore-fail-on-non-empty"
  if operands.isEmpty then call.failMissing "missing operand"
  else operands.forM fun operand => do
    for path in if isGiven given ['p'] then (pathsTo operand).reverse else [operand] do
      match ← ask (call.files.removeFolder (call.place path)) with
      | .ok () => if isGiven given ['v'] then printLine (call.name ++ ": removing directory, " ++ quoted path)
      | .error fault => do
          if fault ≠ .notEmpty ∨ isGiven given "ignore-fail-on-non-empty" = false then
            call.refusePath "failed to remove" path fault
          break

def touch : Work m Unit := do
  let (given, operands) ← call.options 1
    "c,no-create a m f h,no-dereference d,date= r,reference= t= time="
  match valueGiven? given ['r'] with
  | some path =>
      match ← call.find path with
      | .ok _ => pure ()
      | .error fault => call.fail 1 ("failed to get attributes of " ++ quoted path ++ ": " ++ fault.reason)
  | none => pure ()
  if operands.isEmpty then call.failMissing "missing file operand"
  else operands.forM fun path => do
    match ← call.find path with
    | .ok _ => return ()
    | .error fault =>
        if isGiven given ['c'] then
          if fault = .notFound then return () else call.refusePath "cannot touch" path fault
        else
          match ← call.write path [] with
          | .ok () => return ()
          | .error fault =>
              let told := if path.getLast? = some '/' then IoFault.notFound else fault
              call.refusePath "cannot touch" path told

/-- The target and the sources among operands, and whether the target is a folder in which the
sources are to be. -/
def targetOf (given : List Given) (operands : List Text) : Work m (List Text × Text × Bool) := do
  match valueGiven? given ['t'], operands.reverse with
  | some folder, sources =>
      if operands.isEmpty then call.failMissing "missing file operand"
      else
        match ← call.find folder with
        | .ok .folder => return (sources.reverse, folder, true)
        | .ok _ => call.fail 1 ("target directory " ++ quoted folder ++ ": Not a directory")
        | .error fault => call.fail 1 ("target directory " ++ quoted folder ++ ": " ++ fault.reason)
  | none, [] => call.failMissing "missing file operand"
  | none, [path] => call.failMissing ("missing destination file operand after " ++ quoted path)
  | none, target :: sources =>
      let found ← call.find target
      match found, isGiven given ['T'], sources with
      | _, true, [source] => return ([source], target, false)
      | _, true, _ => call.failExtra target
      | .ok .folder, false, _ => return (sources.reverse, target, true)
      | _, false, [source] =>
          match found, target.getLast? with
          | .error .notDirectory, some '/' =>
              call.fail 1 ("failed to access " ++ quoted target ++ ": Not a directory")
          | _, _ => return ([source], target, false)
      | .ok _, false, _ => call.fail 1 ("target " ++ quoted target ++ ": Not a directory")
      | .error fault, false, _ => call.fail 1 ("target " ++ quoted target ++ ": " ++ fault.reason)

structure Copying where
  recurses : Bool
  follows : Bool
  keepsOld : Bool
  keepsMode : Bool
  tells : Bool
  links : Bool
  linksSymbolically : Bool

def tellCopied (copying : Copying) (source target : Text) : Work m Unit :=
  if copying.tells then printLine (quoted source ++ " -> " ++ quoted target) else return ()

def isSame (first second : Text) : Work m Bool := do
  match ← ask (call.files.canonical (call.place first)), ← ask (call.files.canonical (call.place second)) with
  | .ok first, .ok second => return first == second
  | _, _ => return false

def copyFile (copying : Copying) (source target : Text) (file : File) : Work m Unit := do
  let isNew := (← call.isThere target) = false
  let refuse (fault : IoFault) : Work m Unit :=
    let isSeparated := fault = .isDirectory ∧ target.getLast? = some '/'
    call.refusePath "cannot create regular file" target (if isSeparated then .notDirectory else fault)
  let copied ←
    if copying.links then ask (call.files.addName (call.place source) (call.place target))
    else if copying.linksSymbolically then ask (call.files.makeLink source (call.place target))
    else call.write target file.content
  match copied with
  | .error fault => refuse fault
  | .ok () => do
      if (isNew ∨ copying.keepsMode) ∧ copying.links = false ∧ copying.linksSymbolically = false then
        let _ ← ask (call.files.setExecutable (call.place target) file.isExecutable)
      tellCopied copying source target

/-- Copies what is at one path to another one, as deep as the fuel allows. -/
def copyTo (copying : Copying) : Nat → Text → Text → Work m Unit
  | 0, source, _ => call.refusePath "cannot stat" source .tooManyLinks
  | fuel + 1, source, target => do
      let found ← if copying.follows then call.find source else call.findUnfollowed source
      let old ← call.find target
      match found, old with
      | .error fault, _ => call.refusePath "cannot stat" source fault
      | .ok .folder, old =>
          if copying.recurses = false then
            call.complain 1 ("-r not specified; omitting directory " ++ quoted source)
          else if (source ++ ['/']).isPrefixOf target then
            call.complain 1 ("cannot copy a directory, " ++ quoted source ++ ", into itself, " ++ quoted target)
          else
            let names ← ask (call.files.names (call.place source))
            let made ←
              match old with
              | .ok .folder => pure (.ok ())
              | .ok _ => pure (.error .alreadyExists)
              | .error _ => ask (call.files.makeFolder (call.place target))
            match made with
            | .error .alreadyExists =>
                call.complain 1 ("cannot overwrite non-directory " ++ quoted target ++ " with directory " ++ quoted source)
            | .error fault => call.refusePath "cannot create directory" target fault
            | .ok () => do
                if old.isOk = false then tellCopied copying source target
                names.forM fun name =>
                  copyTo copying fuel (inFolder source name) (inFolder target name)
      | .ok _, .ok .folder =>
          call.complain 1 ("cannot overwrite directory " ++ quoted target ++ " with non-directory " ++ quoted source)
      | .ok entry, old => do
          if ← isSame call source target then
            call.complain 1 (quoted source ++ " and " ++ quoted target ++ " are the same file")
          else if copying.keepsOld ∧ old.isOk then return ()
          else
            match entry with
            | .file file => copyFile call copying source target file
            | .link path => do
                let _ ← ask (call.files.remove (call.place target))
                match ← ask (call.files.makeLink (Text.ofUtf8Lossy path) (call.place target)) with
                | .ok () => tellCopied copying source target
                | .error fault => call.refusePath "cannot create symbolic link" target fault
            | .device device =>
                match device.read with
                | .ok content => copyFile call copying source target ⟨content, false⟩
                | .error fault =>
                    call.complain 1 ("cannot open " ++ quoted source ++ " for reading: " ++ fault.reason)
            | _ =>
                match ← ask (call.files.addName (call.place source) (call.place target)) with
                | .ok () => tellCopied copying source target
                | .error fault => call.refusePath "cannot create regular file" target fault

def targetFor (target : Text) (isFolder : Bool) (source : Text) : Text :=
  if isFolder then inFolder target (baseName source) else target

def cp : Work m Unit := do
  let (given, operands) ← call.options 1 <|
    "a,archive b f,force i,interactive H l,link L,dereference n,no-clobber P,no-dereference p d " ++
      "r,R,recursive s,symbolic-link t,target-directory= T,no-target-directory u v,verbose x,one-file-system " ++
      "preserve? no-preserve= parents strip-trailing-slashes update? sparse= reflink?"
  let (sources, target, isFolder) ← targetOf call given operands
  let is (name : Text) := isGiven given name
  let recurses := is ['r'] || is ['a']
  let copying : Copying := {
    recurses
    follows := is ['L'] || !(is ['P'] || is ['d'] || recurses)
    keepsOld := is ['n']
    keepsMode := is ['p'] || is ['a'] || is "preserve"
    tells := is ['v']
    links := is ['l']
    linksSymbolically := is ['s'] }
  sources.forM fun source => copyTo call copying folderDepth source (targetFor target isFolder source)

def moveTo (keepsOld tells : Bool) (source target : Text) : Work m Unit := do
  let found ← call.findUnfollowed source
  let old ← call.findUnfollowed target
  match found, old with
  | .error fault, _ => call.refusePath "cannot stat" source fault
  | .ok .folder, .ok .folder => rename
  | .ok .folder, .ok _ =>
      call.complain 1 ("cannot overwrite non-directory " ++ quoted target ++ " with directory " ++ quoted source)
  | .ok entry, .ok .folder =>
      if entry = .folder then rename
      else call.complain 1 ("cannot overwrite directory " ++ quoted target ++ " with non-directory")
  | .ok _, .ok _ => do
      if keepsOld then return ()
      else if ← isSame call source target then
        call.complain 1 (quoted source ++ " and " ++ quoted target ++ " are the same file")
      else rename
  | .ok _, .error _ => rename
where
  rename : Work m Unit := do
    match ← ask (call.files.rename (call.place source) (call.place target)) with
    | .ok () => if tells then printLine ("renamed " ++ quoted source ++ " -> " ++ quoted target)
    | .error .invalidArgument =>
        call.complain 1
          ("cannot move " ++ quoted source ++ " to a subdirectory of itself, " ++ quoted target)
    | .error fault =>
        call.complain 1 ("cannot move " ++ quoted source ++ " to " ++ quoted target ++ ": " ++ fault.reason)

def mv : Work m Unit := do
  let (given, operands) ← call.options 1 <|
    "b f,force i,interactive n,no-clobber t,target-directory= T,no-target-directory u v,verbose Z " ++
      "strip-trailing-slashes update? backup?"
  let (sources, target, isFolder) ← targetOf call given operands
  sources.forM fun source =>
    moveTo call (isGiven given ['n']) (isGiven given ['v']) source (targetFor target isFolder source)

def linkTo (given : List Given) (source target : Text) : Work m Unit := do
  let isSymbolic := isGiven given ['s']
  let found ← call.findUnfollowed source
  match found, isSymbolic with
  | .error fault, false => call.refusePath "failed to access" source fault
  | .ok .folder, false => call.complain 1 (quotedIfOdd source ++ ": hard link not allowed for directory")
  | _, _ => do
      if isGiven given ['f'] then
        match ← call.findUnfollowed target with
        | .ok .folder => pure ()
        | .ok _ => do
            let _ ← ask (call.files.remove (call.place target))
        | .error _ => pure ()
      let made ←
        if isSymbolic then ask (call.files.makeLink source (call.place target))
        else ask (call.files.addName (call.place source) (call.place target))
      match made with
      | .ok () =>
          if isGiven given ['v'] then
            printLine (quoted target ++ (if isSymbolic then " -> " else " => ") ++ quoted source)
      | .error fault =>
          let kind : Text := if isSymbolic then "symbolic" else "hard"
          call.refusePath ("failed to create " ++ kind ++ " link") target fault

def ln : Work m Unit := do
  let (given, operands) ← call.options 1 <|
    "s,symbolic f,force n,no-dereference i,interactive v,verbose t,target-directory= T,no-target-directory " ++
      "L,logical P,physical r,relative b d,F,directory"
  match operands, valueGiven? given ['t'] with
  | [], _ => call.failMissing "missing file operand"
  | [source], none => linkTo call given source (baseName source)
  | operands, some folder => operands.forM fun source => linkTo call given source (inFolder folder (baseName source))
  | operands, none => do
      let target := operands.getLast?.getD []
      let isLink ←
        match ← call.findUnfollowed target with
        | .ok (.link _) => pure true
        | _ => pure false
      let isFolder := (← call.isFolder target) && !isGiven given ['T'] && !(isLink && isGiven given ['n'])
      if operands.length = 2 ∨ isFolder then
        operands.dropLast.forM fun source => linkTo call given source (targetFor target isFolder source)
      else call.fail 1 ("target " ++ quoted target ++ ": Not a directory")

/-- Whether a file can be run after its mode was changed; nothing when the mode is refused. -/
def executableAfter? (mode : Text) (isExecutable : Bool) : Option Bool :=
  if mode.isEmpty = false ∧ mode.all fun c => '0' ≤ c && c ≤ '7' then
    let bits := mode.foldl (fun value c => 8 * value + (c.toNat - '0'.toNat)) 0
    some ((bits / 64 + bits / 8 + bits) % 2 != 0 || bits / 64 % 2 != 0 || bits / 8 % 2 != 0)
  else
    (Text.splitAt ',' mode).foldlM (fun isExecutable clause =>
      let who := clause.takeWhile "ugoa".toList.contains
      match clause.drop who.length with
      | sign :: rights =>
          if "+-=".toList.contains sign = false ∨ rights.any (!"rwxXst".toList.contains ·) then none
          else
            let grants := rights.contains 'x' || (rights.contains 'X' && isExecutable)
            let counts := who.isEmpty || who.contains 'u' || who.contains 'a'
            some <|
              if sign = '+' then isExecutable || grants
              else if sign = '-' then isExecutable && !(grants && counts)
              else if counts then grants else isExecutable || grants
      | [] => none) isExecutable

def chmod : Work m Unit := do
  let isMode (word : Text) : Bool :=
    match word with
    | '-' :: c :: _ => "rwxXstugoa".toList.contains c
    | _ => false
  let modes := call.arguments.filter isMode
  let (given, operands) ← call.optionsWith true 1
    "R,recursive v,verbose c,changes f,silent,quiet reference= preserve-root no-preserve-root"
    (call.arguments.filter (!isMode ·))
  let operands := modes ++ operands
  match operands with
  | [] => call.failMissing "missing operand"
  | [mode] => call.failMissing ("missing operand after " ++ escaped mode)
  | mode :: paths =>
      if (executableAfter? mode false).isNone then
        call.fail 1 ("invalid mode: " ++ escaped mode ++ call.helpLine)
      else paths.forM fun path => do
        match ← call.find path with
        | .error fault =>
            if isGiven given ['f'] then giveStatus 1 else call.refusePath "cannot access" path fault
        | .ok (.file file) => do
            let value := (executableAfter? mode file.isExecutable).getD false
            let _ ← ask (call.files.setExecutable (call.place path) value)
        | .ok _ => return ()

def tee : Work m Unit := do
  let (given, operands) ← call.options 1 "a,append i,ignore-interrupts p output-error?"
  let opened ← operands.filterMapM fun path => do
    let before ←
      match isGiven given ['a'], ← ask (call.files.read (call.place path)) with
      | true, .ok content => pure content
      | _, _ => pure []
    match ← call.write path before with
    | .ok () => return some (path, before)
    | .error fault => do
        call.refuseFile path fault
        return none
  let input ← takeInput
  print input
  opened.forM fun (path, before) => do
    let _ ← call.write path (before ++ input)

/-- The first path made from a template that leads nowhere yet. -/
def freshPath (template ending : Text) : Nat → Work m Text
  | 0 => return template
  | fuel + 1 => do
      let start := (template.reverse.dropWhile (· == 'X')).reverse
      let count := template.length - start.length
      let digits := Text.ofNat (1000 - fuel)
      let path := start ++ List.replicate (count - digits.length) 'a' ++ digits ++ ending
      if ← call.isThere path then freshPath template ending fuel else return path

def mktemp : Work m Unit := do
  let (given, operands) ← call.options 1 "d,directory u,dry-run q,quiet p= tmpdir? suffix= t"
  let template := operands.headD "tmp.XXXXXXXXXX"
  let inTemporary := operands.isEmpty || isGiven given ['t'] || isGiven given ['p'] || isGiven given "tmpdir"
  let folder := ((valueGiven? given ['p']).orElse fun _ =>
    (valueGiven? given "tmpdir").filter (!List.isEmpty ·)).getD
      ((call.environment.get? "TMPDIR".toList).getD "/tmp")
  let isShort := ((template.reverse.takeWhile (· == 'X')).length < 3 : Bool)
  if isShort then call.fail 1 ("too few X's in template " ++ escaped template)
  else
    let full := if inTemporary then inFolder folder template else template
    let path ← freshPath call full ((valueGiven? given "suffix").getD []) 1000
    let kind : Text := if isGiven given ['d'] then "directory" else "file"
    let made ←
      if isGiven given ['u'] then pure (.ok ())
      else if isGiven given ['d'] then ask (call.files.makeFolder (call.place path))
      else call.write path []
    match made with
    | .ok () => printLine path
    | .error fault =>
        call.fail 1 ("failed to create " ++ kind ++ " via template " ++ escaped full ++ ": " ++ fault.reason)

end UniversalModule.Host.Utility
