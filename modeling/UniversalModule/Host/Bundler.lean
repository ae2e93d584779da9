import UniversalModule.Host.Exit
import UniversalModule.Text.Blank

/-!
Bundler commands: such a command gets `-r` with each package and prints the bundle.
-/

namespace UniversalModule.Host.Command

/-- The bundler that is run when no other is set. -/
def defaultBundler : Text := "browserify"

/-- The arguments that ask a bundler for packages. -/
def bundlerArguments (packages : List Text) : List Text :=
  packages.flatMap fun package => ["-r".toList, package]

/-- The bundle that a command prints, from how it ended. -/
def bundleOf (program : Text) (ended : Except IoFault Exit) : Except BundleError Text :=
  match ended with
  | .error fault => .error (.spawn program fault)
  | .ok exit =>
      if exit.ending ≠ .status 0 then
        .error (.failed program exit.ending.message (Text.trim (Text.ofUtf8Lossy (exit.on .errors))))
      else
        match Text.ofUtf8? (exit.on .output) with
        | none => .error (.invalidOutput program)
        | some text => .ok text

end UniversalModule.Host.Command
