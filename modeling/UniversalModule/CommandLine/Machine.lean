import UniversalModule.Failure
import UniversalModule.Host.Name

/-!
What the program needs of the machine on which it is called: files, folders and bundler commands.
-/

namespace UniversalModule.CommandLine

structure Machine (m : Type → Type) where
  read : Path → m (Except IoFault Text)
  isThere : Path → m Bool
  /-- The names on the one way from the root that leads to a file or folder, links followed. -/
  canonical? : Path → m (Option Host.Location)
  /-- The output of a bundler command in a folder for packages. -/
  bundle : Text → Path → List Text → m (Except BundleError Text)
  isFolder : Path → m Bool
  /-- Makes a folder in one that is there. -/
  makeFolder : Path → m (Except IoFault Unit)
  write : Path → Text → m (Except IoFault Unit)

namespace Machine

variable {m : Type → Type} [Monad m] (machine : Machine m)

/-- A folder is there after all, or it could not be made. -/
def unlessFolder (path : Path) (fault : IoFault) : m (Except IoFault Unit) := do
  if ← machine.isFolder path then return .ok () else return .error fault

/-- Makes a folder after the folders on the way to it; the fuel bounds their number. Those that
were made stay when a later one cannot be made. -/
def makeFoldersWithin : Nat → Path → m (Except IoFault Unit)
  | 0, _ => return .ok ()
  | fuel + 1, path => do
      if path.isEmpty then return .ok ()
      else
        match ← machine.makeFolder path with
        | .ok () => return .ok ()
        | .error .notFound =>
            match path.parent? with
            | none => return .error .notFound
            | some parent =>
                match ← makeFoldersWithin fuel parent with
                | .error fault => return .error fault
                | .ok () =>
                    match ← machine.makeFolder path with
                    | .ok () => return .ok ()
                    | .error fault => machine.unlessFolder path fault
        | .error fault => machine.unlessFolder path fault

/-- Makes the folder at a path with all folders on the way to it. -/
def makeFolders (path : Path) : m (Except IoFault Unit) :=
  machine.makeFoldersWithin (path.text.length + 1) path

end Machine

end UniversalModule.CommandLine
