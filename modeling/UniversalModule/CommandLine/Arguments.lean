import UniversalModule.Keyed
import UniversalModule.Path

/-!
The arguments of a call. An option takes a value, behind `=` or as the next argument, and only
aliases may come several times; a switch takes none. What is neither is a template. The value of
an option is looked at only when the next option or switch comes, or a template, or the end.
-/

namespace UniversalModule.CommandLine

inductive Setting where
  | project
  | outFile
  | outDir
  | core
  | exportName
  | aliasName
  | coreOptions
  | bundler
deriving DecidableEq

/-- The value is a path, which may not be empty. -/
def Setting.isPath : Setting → Bool
  | .project => true
  | .outFile => true
  | .outDir => true
  | .core => true
  | _ => false

inductive Switch where
  | noScope
  | inlineSourceMap
  | init
deriving DecidableEq

inductive Item where
  | setting (setting : Setting)
  | switch (switch : Switch)
  | help
  | version
deriving DecidableEq

/-- The items by their names behind two dashes. -/
def longNames : List (Text × Item) :=
  [("project", .setting .project), ("out-file", .setting .outFile), ("out-dir", .setting .outDir),
    ("core", .setting .core), ("export-name", .setting .exportName), ("alias", .setting .aliasName),
    ("no-scope", .switch .noScope), ("inline-source-map", .switch .inlineSourceMap),
    ("core-options", .setting .coreOptions), ("bundler", .setting .bundler),
    ("init", .switch .init), ("help", .help), ("version", .version)]

/-- The items by the letters behind one dash. -/
def shortNames : List (Char × Item) :=
  [('p', .setting .project), ('o', .setting .outFile), ('h', .help), ('V', .version)]

inductive Refusal where
  | unknown
  /-- A value that is missing, or an empty path. -/
  | badValue
  /-- A switch with a value. -/
  | valueNotWanted
  /-- An option or switch that came before. -/
  | repeated
  | help
  | version
deriving DecidableEq

def Refusal.message : Refusal → Text
  | .unknown => "unexpected argument"
  | .badValue => "a value is required"
  | .valueNotWanted => "unexpected value"
  | .repeated => "an argument cannot be used multiple times"
  | .help => "help was asked for"
  | .version => "the version was asked for"

structure Arguments where
  files : List Path
  settings : Keyed Setting Text
  aliases : List Text
  switches : List Switch
deriving DecidableEq

namespace Arguments

def empty : Arguments := ⟨[], [], [], []⟩

def value? (arguments : Arguments) (setting : Setting) : Option Text := arguments.settings.get? setting

def has (arguments : Arguments) (switch : Switch) : Bool := arguments.switches.contains switch

def addSetting (arguments : Arguments) (setting : Setting) (value : Text) :
    Except Refusal Arguments :=
  if setting = .aliasName then .ok { arguments with aliases := arguments.aliases ++ [value] }
  else if (arguments.value? setting).isSome then .error .repeated
  else if setting.isPath ∧ value.isEmpty then .error .badValue
  else .ok { arguments with settings := arguments.settings.put setting value }

def addSwitch (arguments : Arguments) (switch : Switch) : Except Refusal Arguments :=
  if arguments.has switch then .error .repeated
  else .ok { arguments with switches := arguments.switches ++ [switch] }

def addFiles (arguments : Arguments) (files : List Text) : Except Refusal Arguments :=
  if files.any (·.isEmpty) then .error .badValue
  else .ok { arguments with files := arguments.files ++ files.map Path.mk }

inductive Pending where
  | nothing
  | setting (setting : Setting) (value : Option Text)
  | files (files : List Text)

def settle (arguments : Arguments) : Pending → Except Refusal Arguments
  | .nothing => .ok arguments
  | .setting _ none => .error .badValue
  | .setting setting (some value) => arguments.addSetting setting value
  | .files files => arguments.addFiles files

def takeFile (arguments : Arguments) (pending : Pending) (file : Text) :
    Except Refusal (Arguments × Pending) :=
  match pending with
  | .files files => .ok (arguments, .files (files ++ [file]))
  | pending => (arguments.settle pending).map fun arguments => (arguments, .files [file])

/-- Takes an option or a switch with the value that is attached to it. -/
def takeItem (arguments : Arguments) (pending : Pending) (item : Item) (value : Option Text) :
    Except Refusal (Arguments × Pending) :=
  match item, value with
  | .setting setting, none => do
      let arguments ← arguments.settle pending
      return (arguments, .setting setting none)
  | .setting setting, some value => do
      let arguments ← arguments.settle pending
      return (← arguments.addSetting setting value, .nothing)
  | _, some _ => .error .valueNotWanted
  | .switch switch, none => do
      let arguments ← arguments.settle pending
      return (← arguments.addSwitch switch, .nothing)
  | .help, none => do
      let _ ← arguments.settle pending
      throw .help
  | .version, none => do
      let _ ← arguments.settle pending
      throw .version

/-- The name behind two dashes, and the value behind `=`. -/
def splitLong (text : Text) : Text × Option Text :=
  match text.dropWhile (· != '=') with
  | [] => (text, none)
  | _ :: value => (text.takeWhile (· != '='), some value)

/-- The value that directly follows the letter of an option. -/
def attached : Text → Option Text
  | [] => none
  | '=' :: value => some value
  | value => some value

/-- Takes an argument that is not behind `--`. -/
def take (arguments : Arguments) (pending : Pending) (argument : Text) :
    Except Refusal (Arguments × Pending) :=
  match argument with
  | '-' :: '-' :: text =>
      let (name, value) := splitLong text
      match longNames.lookup name with
      | none => .error .unknown
      | some item => arguments.takeItem pending item value
  | '-' :: letter :: text =>
      match shortNames.lookup letter with
      | none => .error .unknown
      | some (.setting setting) => arguments.takeItem pending (.setting setting) (attached text)
      | some item => arguments.takeItem pending item none
  | text =>
      match pending with
      | .setting setting none => .ok (arguments, .setting setting (some text))
      | pending => arguments.takeFile pending text

/-- Takes the arguments one by one. Behind `--`, all are templates. -/
def takeAll (arguments : Arguments) (pending : Pending) (onlyFiles : Bool) :
    List Text → Except Refusal Arguments
  | [] => arguments.settle pending
  | argument :: rest =>
      if onlyFiles then do
        let (arguments, pending) ← arguments.takeFile pending argument
        takeAll arguments pending true rest
      else if argument = ['-', '-'] then takeAll arguments pending true rest
      else do
        let (arguments, pending) ← arguments.take pending argument
        takeAll arguments pending false rest

def ofTexts (texts : List Text) : Except Refusal Arguments := takeAll empty .nothing false texts

end Arguments

end UniversalModule.CommandLine
