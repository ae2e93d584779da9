import UniversalModule.Host.Exit

/-!
What is left of programs that print where nothing can be printed.
-/

namespace UniversalModule.Host.Utility

/-- The status with which a program ends that cannot print. -/
def refusedStatus (program : Text) : Nat :=
  match String.ofList program with
  | "awk" => 2
  | "cmp" => 2
  | "diff" => 2
  | "egrep" => 2
  | "env" => 125
  | "expr" => 3
  | "fgrep" => 2
  | "grep" => 2
  | "ls" => 2
  | "mawk" => 2
  | "printenv" => 2
  | "sed" => 4
  | "sort" => 2
  | _ => 1

/-- What a program says that cannot print; `name` is what it is called. -/
def refusedText (fault : IoFault) (program name : Text) : Text :=
  let said (text : Text) : Text := name ++ ": " ++ text
  let toOutput : Text := said ("standard output: " ++ fault.reason)
  let quotedOutput : Text := said ("'standard output': " ++ fault.reason)
  let usual : Text := said ("write error: " ++ fault.reason)
  match String.ofList program, fault with
  | "cat", .notOpen => toOutput
  | "cmp", _ => toOutput
  | "diff", _ => toOutput
  | "yes", _ => toOutput
  | "tee", _ => quotedOutput
  | "wc", .noSpace => said "write error"
  | "find", .notOpen => quotedOutput ++ '\n' :: usual
  | "find", _ => quotedOutput ++ '\n' :: said "write error"
  | "sort", _ => said ("fflush failed: 'standard output': " ++ fault.reason) ++ '\n' :: said "write error"
  | "sed", .notOpen => said ("couldn't close stdout: " ++ fault.reason)
  | "sed", _ => said ("couldn't flush stdout: " ++ fault.reason)
  | "awk", _ => said ("close failed on file \"/dev/stdout\" (" ++ fault.reason ++ [')'])
  | "mawk", _ => said ("close failed on file \"/dev/stdout\" (" ++ fault.reason ++ [')'])
  | _, _ => usual

/-- What is left of a program whose output may be refused. One that starts others is refused nothing
itself: they are. -/
def withoutOutput (fault : Option IoFault) (program name : Text) (exit : Exit) : Exit :=
  match fault with
  | none => exit
  | some fault =>
      if (exit.on .output).isEmpty then exit
      else
        let said : Text := refusedText fault program name ++ ['\n']
        { exit with
          ending := .status (refusedStatus program)
          printed := exit.printed.filter (fun part => part.1 == .errors) ++ [(.errors, said.utf8)] }

end UniversalModule.Host.Utility
