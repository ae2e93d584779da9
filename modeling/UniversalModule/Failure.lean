import UniversalModule.Path
import UniversalModule.Requirement

/-!
What can go wrong on the way to a module, and the texts that tell it. A chain is the text of a
failure followed by the texts of its causes.
-/

namespace UniversalModule

inductive IoFault where
  | notFound
  | permissionDenied
  | alreadyExists
  | notDirectory
  | isDirectory
  | nameTooLong
  | nulInPath
  | nulInArgument
  /-- What was read is no text. -/
  | notText
  /-- What was to be run is no program. -/
  | notProgram
  /-- Too many links or interpreters stand behind one another. -/
  | tooManyLinks
  | notEmpty
  | invalidArgument
  | notPermitted
  | noSpace
  | noDevice
  /-- What was to be read or written is not open. -/
  | notOpen
  /-- The arguments of a program are too long. -/
  | argumentsTooLong
  | reported (text : Text)
deriving DecidableEq

namespace IoFault

def reason : IoFault → Text
  | .notFound => "No such file or directory"
  | .permissionDenied => "Permission denied"
  | .alreadyExists => "File exists"
  | .notDirectory => "Not a directory"
  | .isDirectory => "Is a directory"
  | .nameTooLong => "File name too long"
  | .nulInPath => "file name contained an unexpected NUL byte"
  | .nulInArgument => "nul byte found in provided data"
  | .notText => "stream did not contain valid UTF-8"
  | .notProgram => "Exec format error"
  | .tooManyLinks => "Too many levels of symbolic links"
  | .notEmpty => "Directory not empty"
  | .invalidArgument => "Invalid argument"
  | .notPermitted => "Operation not permitted"
  | .noSpace => "No space left on device"
  | .noDevice => "No such device or address"
  | .notOpen => "Bad file descriptor"
  | .argumentsTooLong => "Argument list too long"
  | .reported text => text

/-- The number under which the system knows a failure of its own. -/
def number? : IoFault → Option Nat
  | .notFound => some 2
  | .argumentsTooLong => some 7
  | .notProgram => some 8
  | .permissionDenied => some 13
  | .alreadyExists => some 17
  | .notDirectory => some 20
  | .isDirectory => some 21
  | .nameTooLong => some 36
  | .tooManyLinks => some 40
  | .notEmpty => some 39
  | .invalidArgument => some 22
  | .notPermitted => some 1
  | .noSpace => some 28
  | .noDevice => some 6
  | .notOpen => some 9
  | _ => none

def message (fault : IoFault) : Text :=
  match fault.number? with
  | none => fault.reason
  | some number => fault.reason ++ " (os error " ++ Text.ofNat number ++ ")"

end IoFault

inductive BundleError where
  | spawn (program : Text) (cause : IoFault)
  | failed (program status stderr : Text)
  | invalidOutput (program : Text)
  | unresolved (package : Text)
deriving DecidableEq

namespace BundleError

def message : BundleError → Text
  | .spawn program cause => "could not run `" ++ program ++ "`: " ++ cause.message
  | .failed program status stderr => "`" ++ program ++ "` exited with " ++ status ++ ": " ++ stderr
  | .invalidOutput program => "`" ++ program ++ "` produced non UTF-8 output"
  | .unresolved package => "cannot resolve package `" ++ package ++ "`"

def causes : BundleError → List Text
  | .spawn _ cause => [cause.message]
  | _ => []

def chain (error : BundleError) : List Text := error.message :: error.causes

end BundleError

/-- The options that give a name inside the module. -/
inductive NameOption where
  | exportName
  | runtimeVar
deriving DecidableEq

def NameOption.key : NameOption → Text
  | .exportName => "exportName"
  | .runtimeVar => "runtimeVar"

inductive OptionFault where
  | notIdentifier (option : NameOption) (name : Text)
  | sameNames
  | usedByWrapper (option : NameOption) (name : Text)
  | looksLikeParameter (name : Text)
  | blankAlias
  | noCore
deriving DecidableEq

namespace OptionFault

def option : OptionFault → Text
  | .notIdentifier option _ => option.key
  | .sameNames => NameOption.runtimeVar.key
  | .usedByWrapper option _ => option.key
  | .looksLikeParameter _ => NameOption.runtimeVar.key
  | .blankAlias => "exportAliases"
  | .noCore => "coreFilename"

def reason : OptionFault → Text
  | .notIdentifier _ name => "`" ++ name ++ "` is not a valid identifier"
  | .sameNames => "must differ from exportName"
  | .usedByWrapper _ name => "`" ++ name ++ "` is used by the module wrapper"
  | .looksLikeParameter name => "`" ++ name ++ "` clashes with a named-module handler parameter"
  | .blankAlias => "aliases cannot be empty"
  | .noCore => "core library path is required"

end OptionFault

inductive CompileError where
  | missingOutput
  | invalidOption (fault : OptionFault)
  | invalidRequire (name : Text) (fault : Requirement.Fault)
  | coreLoad (path : Path) (cause : IoFault)
  | bundle (cause : BundleError)
deriving DecidableEq

namespace CompileError

def message : CompileError → Text
  | .missingOutput => "output file path is required (set `filename`)"
  | .invalidOption fault => "invalid option `" ++ fault.option ++ "`: " ++ fault.reason
  | .invalidRequire name fault => "invalid requirement `" ++ name ++ "`: " ++ fault.reason
  | .coreLoad path cause => "failed to read core library " ++ path.text ++ ": " ++ cause.message
  | .bundle cause => "dependency bundling failed: " ++ cause.message

def causes : CompileError → List Text
  | .coreLoad _ cause => [cause.message]
  | .bundle cause => cause.chain
  | _ => []

def chain (error : CompileError) : List Text := error.message :: error.causes

end CompileError

inductive ProjectError where
  | io (cause : IoFault)
  | parse
deriving DecidableEq

namespace ProjectError

def message : ProjectError → Text
  | .io cause => "IO error: " ++ cause.message
  | .parse => "Parse error"

def chain : ProjectError → List Text
  | .io cause => [message (.io cause), cause.message]
  | .parse => [message .parse]

end ProjectError

end UniversalModule
