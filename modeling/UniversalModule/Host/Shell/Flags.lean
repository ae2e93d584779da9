import UniversalModule.Host.Shell.Script

/-!
The flags of a shell. Each has a name, and most have a letter under which they are set and told too.
-/

namespace UniversalModule.Host.Shell

/-- The flags that a shell knows, in the order in which it lists them. -/
def flagTable : Variety → List (Text × Option Char)
  | .dash =>
      [("errexit", 'e'), ("noglob", 'f'), ("ignoreeof", 'I'), ("interactive", 'i'), ("monitor", 'm'),
        ("noexec", 'n'), ("stdin", 's'), ("xtrace", 'x'), ("verbose", 'v'), ("vi", 'V'), ("emacs", 'E'),
        ("noclobber", 'C'), ("allexport", 'a'), ("notify", 'b'), ("nounset", 'u'), ("privileged", 'p'),
        ("nolog", none), ("debug", none)]
  | .bash =>
      [("allexport", 'a'), ("braceexpand", 'B'), ("emacs", none), ("errexit", 'e'), ("errtrace", 'E'),
        ("functrace", 'T'), ("hashall", 'h'), ("histexpand", 'H'), ("history", none), ("ignoreeof", none),
        ("interactive-comments", none), ("keyword", 'k'), ("monitor", 'm'), ("noclobber", 'C'),
        ("noexec", 'n'), ("noglob", 'f'), ("nolog", none), ("notify", 'b'), ("nounset", 'u'),
        ("onecmd", 't'), ("physical", 'P'), ("pipefail", none), ("posix", none), ("privileged", 'p'),
        ("verbose", 'v'), ("vi", none), ("xtrace", 'x')]

/-- The letters of flags in the order in which they are told. -/
def letterOrder : Variety → Text
  | .dash => "pubaCEVvxsnmiIfe"
  | .bash => "abefhkmnptuvxBCEHPT"

structure Flags where
  variety : Variety
  /-- The names of the flags that are set. -/
  names : List Text

namespace Flags

def initial : Variety → Flags
  | .dash => ⟨.dash, []⟩
  | .bash => ⟨.bash, ["braceexpand", "hashall", "interactive-comments"]⟩

def has (flags : Flags) (name : Text) : Bool := flags.names.contains name

/-- Whether the script ends at a failure that nothing provides for. -/
def endsOnFailure (flags : Flags) : Bool := flags.has "errexit"

def refusesUnset (flags : Flags) : Bool := flags.has "nounset"

def traces (flags : Flags) : Bool := flags.has "xtrace"

def keepsPatterns (flags : Flags) : Bool := flags.has "noglob"

def onlyReads (flags : Flags) : Bool := flags.has "noexec"

def failsInPipes (flags : Flags) : Bool := flags.has "pipefail"

/-- Whether the lines of a script are told as they are read. -/
def echoes (flags : Flags) : Bool := flags.has "verbose"

/-- Whether files that are there already are not written over. -/
def sparesFiles (flags : Flags) : Bool := flags.has "noclobber"

/-- Whether all names that are given values are exported. -/
def exportsAll (flags : Flags) : Bool := flags.has "allexport"

def letters (flags : Flags) : Text :=
  (letterOrder flags.variety).filter fun letter =>
    (flagTable flags.variety).any fun (name, own) => own == some letter && flags.has name

/-- The flags after one was set or cleared by its name, if the name is known. -/
def putNamed (flags : Flags) (value : Bool) (name : Text) : Option Flags :=
  if (flagTable flags.variety).any (·.1 == name) then
    let others := flags.names.filter (· != name)
    some { flags with names := if value then name :: others else others }
  else none

/-- The flags after one was set or cleared by its letter, if the letter is known. -/
def put (flags : Flags) (value : Bool) (letter : Char) : Option Flags := do
  let (name, _) ← (flagTable flags.variety).find? fun flag => flag.2 == some letter
  flags.putNamed value name

/-- The flags after several were set or cleared, or the letter that is not known. -/
def putAll (flags : Flags) (value : Bool) (letters : Text) : Except Char Flags :=
  letters.foldlM (fun flags letter =>
    match flags.put value letter with
    | some flags => .ok flags
    | none => .error letter) flags

/-- What is told of all flags, at length or as commands that set them. -/
def told (flags : Flags) (asCommands : Bool) : Text :=
  let padded (width : Nat) (name : Text) : Text := name ++ List.replicate (width - name.length) ' '
  let head : Text :=
    match flags.variety, asCommands with
    | .dash, false => "Current option settings\n"
    | _, _ => []
  let line (name : Text) : Text :=
    let sign : Text := if flags.has name then "-o " else "+o "
    let state : Text := if flags.has name then "on" else "off"
    match flags.variety, asCommands with
    | _, true => "set " ++ sign ++ name ++ ['\n']
    | .dash, false => padded 16 name ++ state ++ ['\n']
    | .bash, false => padded 15 name ++ '\t' :: state ++ ['\n']
  head ++ (flagTable flags.variety).flatMap fun (name, _) => line name

end Flags

end UniversalModule.Host.Shell
