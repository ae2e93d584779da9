import UniversalModule.Host.Shell.Redirecting

/-!
The folder in which a script is.
-/

namespace UniversalModule.Host.Shell

/-- The place of a folder that is entered, with its path made plain. -/
def enteredFolder (folder : Path) (word : Text) : Path :=
  let whole := (pathFrom folder ⟨word⟩).text
  let plain := (Text.splitAt '/' whole).foldl (fun names piece =>
    if Path.isSkipped piece then names
    else if piece = ['.', '.'] then names.dropLast
    else names ++ [piece]) []
  let start : Text :=
    match whole with
    | ['/', '/'] => "//"
    | '/' :: '/' :: c :: _ => if c = '/' then "/" else "//"
    | _ => "/"
  ⟨start ++ Text.joinWith ['/'] plain⟩

/-- Whether letters in front of a folder ask for its one path; gives the operands behind them, or the
letter that is not known. -/
def folderOptions (variety : Variety) : List Text → Bool → Except Char (Bool × List Text)
  | ('-' :: letter :: letters) :: words, isPhysical =>
      let known : Text := match variety with
        | .dash => "LP"
        | .bash => "LPe@"
      if letter = '-' ∧ letters.isEmpty then .ok (isPhysical, words)
      else
        match (letter :: letters).find? fun c => !known.contains c with
        | some unknown => .error unknown
        | none =>
            let last := ((letter :: letters).filter fun c => c == 'L' || c == 'P').getLast?
            folderOptions variety words (last.elim isPhysical (· == 'P'))
  | words, isPhysical => .ok (isPhysical, words)

/-- Whether a path is looked for in the current folder alone. -/
def isOwnPath (word : Text) : Bool :=
  word.head? == some '/' ||
    match (Text.splitAt '/' word).head? with
    | some piece => piece == ['.'] || piece == ['.', '.']
    | none => false

variable {m : Type → Type} [Monad m] (setting : Setting m)

/-- Whether a path leads to a folder, as it stands and made plain. -/
def canEnter (path : Text) (state : State) : m Bool := do
  let isPlain ← setting.files.isFolder (enteredFolder state.folder path)
  if isPlain then setting.files.isFolder (pathFrom state.folder ⟨path⟩) else return false

/-- The path under which a folder is entered, and whether it is told, from the folders in which it is
looked for. -/
def findFolder (word : Text) (state : State) : List Text → m (Text × Bool)
  | [] => return (word, false)
  | folder :: folders => do
      let path := if folder.isEmpty then word else folder ++ '/' :: word
      if ← canEnter setting path state then return (path, !folder.isEmpty)
      else findFolder word state folders

def enter (isPhysical isTold : Bool) (word path : Text) (state : State) : m State := do
  if ← canEnter setting path state then
    let plain := enteredFolder state.folder path
    let folder ←
      if isPhysical then pure ((← setting.files.canonical plain).toOption.getD plain) else pure plain
    let state := (state.setVariable "OLDPWD" state.folder.text).exportName "OLDPWD"
    let state := ((state.setVariable "PWD" folder.text).exportName "PWD").withStatus 0
    let state := { state with folder }
    if isTold then setting.emitText (folder.text ++ ['\n']) state else return state
  else
    match setting.variety, ← setting.files.find (enteredFolder state.folder path) with
    | .dash, _ => setting.finish ("cd: can't cd to " ++ word) state
    | .bash, .error fault => setting.complain ("cd: " ++ word ++ ": " ++ fault.reason) 1 state
    | .bash, .ok _ => setting.complain ("cd: " ++ word ++ ": Not a directory") 1 state

def runEnter (words : List Text) (state : State) : m State := do
  let valueOf (name : Text) : Option Text := state.values.get? name
  let missing (name : Text) : m State := setting.complain ("cd: " ++ name ++ " not set") 1 state
  match folderOptions setting.variety words false, setting.variety with
  | .error letter, _ => setting.refuseLetter "cd" letter "cd: usage: cd [-L|[-P [-e]] [-@]] [dir]" state
  | .ok (_, _ :: _ :: _), .bash => setting.complain "cd: too many arguments" 1 state
  | .ok (isPhysical, operands), variety =>
      match operands, valueOf "HOME", valueOf "OLDPWD", variety with
      | [], none, _, .bash => missing "HOME"
      | ['-'] :: _, _, none, .bash => missing "OLDPWD"
      | ['-'] :: _, _, old, _ =>
          let word := old.getD []
          enter setting isPhysical true word (if word.isEmpty then ['.'] else word) state
      | operands, home, _, _ =>
          let word := operands.headD (home.getD [])
          let named := if word.isEmpty then ['.'] else word
          let folders := (valueOf "CDPATH").getD []
          let (path, isTold) ←
            if isOwnPath named ∨ folders.isEmpty then pure (named, false)
            else findFolder setting named state (Text.splitAt ':' folders)
          enter setting isPhysical isTold word path state

def runTellFolder (words : List Text) (state : State) : m State := do
  match folderOptions setting.variety words false with
  | .error letter => setting.refuseLetter "pwd" letter "pwd: usage: pwd [-LP]" state
  | .ok (isPhysical, _) =>
      let path ←
        if isPhysical then pure ((← setting.files.canonical state.folder).toOption.getD state.folder)
        else pure state.folder
      return (← setting.emitText (path.text ++ ['\n']) state).withStatus 0

end UniversalModule.Host.Shell
