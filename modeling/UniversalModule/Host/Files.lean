import UniversalModule.Host.Tree

/-!
The files that commands see and change. Every path is followed from the root.
-/

namespace UniversalModule.Host

structure Files (m : Type → Type) where
  /-- What a path leads to. -/
  find : Path → m (Except IoFault Entry)
  /-- What is at the end of a path, where a link is not followed. -/
  findUnfollowed : Path → m (Except IoFault Entry)
  /-- The one path from the root that leads to a file or folder. -/
  canonical : Path → m (Except IoFault Path)
  /-- The names in a folder. -/
  names : Path → m (List Text)
  write : Path → Bytes → m (Except IoFault Unit)
  makeFolder : Path → m (Except IoFault Unit)
  /-- Makes a link that points along a path. -/
  makeLink : Text → Path → m (Except IoFault Unit)
  /-- Gives a file another name. -/
  addName : Path → Path → m (Except IoFault Unit)
  remove : Path → m (Except IoFault Unit)
  removeFolder : Path → m (Except IoFault Unit)
  rename : Path → Path → m (Except IoFault Unit)
  setExecutable : Path → Bool → m (Except IoFault Unit)

/-- A path that is seen from a folder, from the root. -/
def pathFrom (folder path : Path) : Path :=
  if path.isRooted ∨ path.isEmpty then path
  else if folder.text = ['/'] then ⟨'/' :: path.text⟩
  else ⟨folder.text ++ '/' :: path.text⟩

/-- The order of names by the codes of their characters. -/
def notAfter : Text → Text → Bool
  | [], _ => true
  | _ :: _, [] => false
  | c :: first, d :: second => c.toNat < d.toNat || (c == d && notAfter first second)

namespace Files

variable {m : Type → Type} [Monad m] (files : Files m)

/-- The names in a folder that do not begin with a point, in order. -/
def listing (folder : Path) : m (List Text) := do
  let names ← files.names folder
  return (names.filter fun name => name.head? != some '.').mergeSort notAfter

def read (path : Path) : m (Except IoFault Bytes) := do
  match ← files.find path with
  | .error fault => return .error fault
  | .ok .folder => return .error .isDirectory
  | .ok (.program _) => return .error .notText
  | .ok (.link _) => return .error .notFound
  | .ok (.device device) => return device.read
  | .ok (.file file) => return .ok file.content

def isFolder (path : Path) : m Bool := do
  match ← files.find path with
  | .ok .folder => return true
  | _ => return false

def isThere (path : Path) : m Bool := return (← files.findUnfollowed path).isOk

/-- The path under which a name is found as a program in one of some folders. -/
def search (current : Path) (name : Text) : List Text → m (Except IoFault Text)
  | [] => return .error .notFound
  | folder :: folders => do
      let path := if folder.isEmpty then name else folder ++ '/' :: name
      match ← files.find (pathFrom current ⟨path⟩) with
      | .ok (.program _) => return .ok path
      | .ok (.file file) =>
          if file.isExecutable then return .ok path
          else
            match ← search current name folders with
            | .ok path => return .ok path
            | .error _ => return .error .permissionDenied
      | _ => search current name folders

end Files

def namesAt (tree : Tree) (path : Path) : List Text :=
  match tree.locate [] path with
  | .ok place => (tree.names place).map Name.text
  | .error _ => []

def treeFiles : Files (StateM Tree) where
  find path := return (← get).found [] path
  findUnfollowed path := return (← get).foundUnfollowed [] path
  canonical path := return ((← get).locate [] path).map Tree.pathOf
  names path := return namesAt (← get) path
  write path content := changeTree fun tree => tree.write [] path content
  makeFolder path := changeTree fun tree => tree.makeFolder [] path
  makeLink target path := changeTree fun tree => tree.makeLink [] target.utf8 path
  addName path new := changeTree fun tree => tree.addName [] path new
  remove path := changeTree fun tree => tree.remove [] path
  removeFolder path := changeTree fun tree => tree.removeFolder [] path
  rename path new := changeTree fun tree => tree.rename [] path new
  setExecutable path value := changeTree fun tree => tree.setExecutable [] path value

end UniversalModule.Host
