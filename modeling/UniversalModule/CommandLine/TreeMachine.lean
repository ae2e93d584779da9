import UniversalModule.CommandLine.Run
import UniversalModule.Host.Tree

/-!
Calls of the program in a folder of a tree.
-/

namespace UniversalModule.CommandLine

open Host (Location Tree changeTree)

/-- What bundler commands print and how they change a tree: from a folder in it, a command, a path
from that folder and packages. -/
abbrev Commands := Location → Text → Path → List Text → StateM Tree (Except BundleError Text)

/-- Commands that write no files: they leave the tree on which their answers depend as it is. -/
def readingCommands
    (answer : Tree → Location → Text → Path → List Text → Except BundleError Text) : Commands :=
  fun current program folder packages => return answer (← get) current program folder packages

/-- How writing into an open file comes to an early end: after how many bytes, and why. -/
structure Stop where
  count : Nat
  fault : IoFault

/-- Which contents cannot be written whole, when they are written along a path in a tree. -/
abbrev Disk := Tree → Path → Bytes → Option Stop

def Disk.ample : Disk := fun _ _ _ => none

/-- Writes a file. It is opened first, and an old one is emptied by that; so what is in it when writing comes to
an early end is a beginning of the content. -/
def writeOn (disk : Disk) (current : Location) (path : Path) (content : Bytes) :
    StateM Tree (Except IoFault Unit) := do
  match disk (← get) path content with
  | none => changeTree fun tree => tree.write current path content
  | some stop =>
      match ← changeTree fun tree => tree.write current path (content.take stop.count) with
      | .error fault => return .error fault
      | .ok () => return .error stop.fault

/-- What the program sees and changes when it is called in a folder of a tree that is on a disk. -/
def diskMachine (disk : Disk) (commands : Commands) (current : Location) : Machine (StateM Tree) where
  read path := return (← get).read current path
  isThere path := return (← get).holds current path
  canonical? path := return (← get).canonical? current path
  bundle program folder packages := commands current program folder packages
  isFolder path := return (← get).leadsToFolder current path
  makeFolder path := changeTree fun tree => tree.makeFolder current path
  write path content := writeOn disk current path (Text.utf8 content)

abbrev treeMachine (commands : Commands) (current : Location) : Machine (StateM Tree) :=
  diskMachine .ample commands current

/-- What a call ends with, and the tree that it leaves on a disk. -/
def runOnDisk (disk : Disk) (commands : Commands) (current : Location) (texts : List Text) (tree : Tree) :
    Except Failure Unit × Tree :=
  ((diskMachine disk commands current).run texts).run tree

/-- What a call ends with, and the tree that it leaves, when there is room for everything. -/
def runOnTree (commands : Commands) (current : Location) (texts : List Text) (tree : Tree) :
    Except Failure Unit × Tree :=
  runOnDisk .ample commands current texts tree

end UniversalModule.CommandLine
