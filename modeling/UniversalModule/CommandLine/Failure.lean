import UniversalModule.CommandLine.Arguments
import UniversalModule.CommandLine.Starter
import UniversalModule.Failure

/-!
How a call of the program can fail, with the texts that tell it.
-/

namespace UniversalModule.CommandLine

inductive Failure where
  | refused (refusal : Refusal)
  | projectFileExists
  | loadProject (path : Path) (cause : ProjectError)
  | coreOptionsNotJson
  | noInput
  | compile (cause : CompileError)
  | read (path : Path) (cause : IoFault)
  | create (path : Path) (cause : IoFault)
  | write (path : Path) (cause : IoFault)
deriving DecidableEq

namespace Failure

def message : Failure → Text
  | .refused refusal => refusal.message
  | .projectFileExists => projectFile.text ++ " already exists"
  | .loadProject path _ => "failed to load " ++ path.text
  | .coreOptionsNotJson => "--core-options is not valid JSON"
  | .noInput => "no input files specified, use --help for usage information"
  | .compile cause => cause.message
  | .read path _ => "failed to read " ++ path.text
  | .create path _ => "failed to create " ++ path.text
  | .write path _ => "failed to write " ++ path.text

def causes : Failure → List Text
  | .loadProject _ cause => cause.chain
  | .compile cause => cause.causes
  | .read _ cause => [cause.message]
  | .create _ cause => [cause.message]
  | .write _ cause => [cause.message]
  | _ => []

def chain (failure : Failure) : List Text := failure.message :: failure.causes

end Failure

end UniversalModule.CommandLine
