import UniversalModule.Failure
import UniversalModule.Host.Name
import UniversalModule.Keyed

/-!
Trees of folders, files, links and installed programs. What a file holds is kept apart from where it
is found, so that one file can have several names. Paths are followed name by name: every name but the
last has to lead to a folder, `..` leads back, a link leads on to where it points, and a separator at
the end demands a folder. A path that is given is a text, but a link may point along any bytes.
-/

namespace UniversalModule.Host

/-- What a file holds, and whether it may be run. -/
structure File where
  content : Bytes
  isExecutable : Bool
deriving DecidableEq

/-- Something in a folder that takes what is written without keeping it. -/
inductive Device where
  /-- It is empty. -/
  | nothing
  /-- It is full of zeros without end. -/
  | zeros
  /-- It is full of zeros too, and has no room for more. -/
  | full
  /-- A terminal that is not there. -/
  | terminal
deriving DecidableEq

namespace Device

def zeroBytes : Bytes := List.replicate 1048576 0

def read : Device → Except IoFault Bytes
  | nothing => .ok []
  | zeros => .ok zeroBytes
  | full => .ok zeroBytes
  | terminal => .error .noDevice

def write (content : Bytes) : Device → Except IoFault Unit
  | nothing => .ok ()
  | zeros => .ok ()
  | full => if content.isEmpty then .ok () else .error .noSpace
  | terminal => .error .noDevice

end Device

/-- Why nothing new can be put into a folder: no file, and no folder. -/
structure Seal where
  file : IoFault
  folder : IoFault

inductive Slot where
  /-- The file with a number. -/
  | file (number : Nat)
  | folder
  /-- An installed program, which is no text. -/
  | program (name : Text)
  | link (target : Bytes)
  | device (device : Device)
deriving DecidableEq

inductive Entry where
  | file (file : File)
  | folder
  | program (name : Text)
  | link (target : Bytes)
  | device (device : Device)
deriving DecidableEq

structure Tree where
  slots : Keyed Location Slot
  files : List File
  seals : Keyed Location Seal

namespace Tree

def empty : Tree := ⟨[], [], []⟩

/-- What a location stands for. The root is always a folder. -/
def slot? (tree : Tree) (place : Location) : Option Slot :=
  if place.isEmpty then some .folder else tree.slots.get? place

def put (tree : Tree) (place : Location) (slot : Slot) : Tree :=
  { tree with slots := tree.slots.put place slot }

theorem slot?_put {tree : Tree} {place other : Location} {slot : Slot} (below : place ≠ []) :
    (tree.put place slot).slot? other = if place = other then some slot else tree.slot? other := by
  simp only [slot?, put, List.isEmpty_iff, Keyed.get?_put]
  by_cases root : other = []
  · simp [root, below]
  · simp [root]

def entryOf? (tree : Tree) : Slot → Option Entry
  | .file number => tree.files[number]?.map .file
  | .folder => some .folder
  | .program name => some (.program name)
  | .link target => some (.link target)
  | .device device => some (.device device)

/-- What is found at a location; links are not followed. -/
def find? (tree : Tree) (place : Location) : Option Entry := (tree.slot? place).bind tree.entryOf?

def addFile (tree : Tree) (place : Location) (file : File) : Tree :=
  { tree.put place (.file tree.files.length) with files := tree.files ++ [file] }

def changeFile (tree : Tree) (number : Nat) (change : File → File) : Tree :=
  { tree with files := tree.files.modify number change }

def isFolder (tree : Tree) (place : Location) : Bool := tree.find? place == some .folder

def nameLimit : Nat := 255

def pathLimit : Nat := 4095

/-- How many links may stand behind one another. -/
def linkLimit : Nat := 40

inductive Move where
  | to (place : Location)
  /-- From the same place, along the path to which a link points. -/
  | along (target : Bytes)

def step (tree : Tree) (place : Location) (piece : Name) : Except IoFault Move :=
  if tree.isFolder place = false then .error .notDirectory
  else if piece.isSkipped then .ok (.to place)
  else if piece = .above then .ok (.to place.dropLast)
  else if nameLimit < piece.bytes.length then .error .nameTooLong
  else
    match tree.find? (place ++ [piece]) with
    | none => .error .notFound
    | some (.link target) => .ok (.along target)
    | some _ => .ok (.to (place ++ [piece]))

/-- The place at which a path begins that is seen from another one. -/
def startOf (current : Location) (path : Bytes) : Location :=
  if path.head? = some Name.separator then [] else current

/-- Follows the pieces of a path; `onLink` follows what comes from a link on. -/
def walk (tree : Tree) (onLink : Location → List Name → Except IoFault Location) :
    Location → List Name → Except IoFault Location
  | place, [] => .ok place
  | place, piece :: pieces => do
      match ← tree.step place piece with
      | .to next => tree.walk onLink next pieces
      | .along target => onLink (startOf place target) (Name.ofPath target ++ pieces)

/-- Follows the pieces of a path through as many links as are allowed. -/
def follow (tree : Tree) : Nat → Location → List Name → Except IoFault Location
  | 0 => tree.walk fun _ _ => .error .tooManyLinks
  | links + 1 => tree.walk (tree.follow links)

/-- Refuses the paths that no file system takes. -/
def checkPath (path : Path) : Except IoFault Unit :=
  if path.text.contains '\x00' then .error .nulInPath
  else if path.isEmpty then .error .notFound
  else if pathLimit < path.text.utf8.length then .error .nameTooLong
  else .ok ()

/-- The location to which a path leads from the current one. -/
def locate (tree : Tree) (current : Location) (path : Path) : Except IoFault Location := do
  checkPath path
  tree.follow linkLimit (startOf current path.text.utf8) (Name.ofPath path.text.utf8)

def found (tree : Tree) (current : Location) (path : Path) : Except IoFault Entry := do
  let place ← tree.locate current path
  match tree.find? place with
  | some entry => .ok entry
  | none => .error .notFound

def read (tree : Tree) (current : Location) (path : Path) : Except IoFault Text := do
  match ← tree.found current path with
  | .file file =>
      match Text.ofUtf8? file.content with
      | some text => .ok text
      | none => .error .notText
  | .folder => .error .isDirectory
  | .program _ => .error .notText
  | .link _ => .error .notFound
  | .device device =>
      match Text.ofUtf8? (← device.read) with
      | some text => .ok text
      | none => .error .notText

def holds (tree : Tree) (current : Location) (path : Path) : Bool :=
  match tree.locate current path with
  | .ok _ => true
  | .error _ => false

/-- The path of a location from the root, as a text. -/
def pathOf (place : Location) : Path :=
  if place.isEmpty then ⟨['/']⟩ else ⟨place.flatMap fun name => '/' :: name.text⟩

/-- The location to which a path leads, the same for every path that leads there. -/
def canonical? (tree : Tree) (current : Location) (path : Path) : Option Location :=
  (tree.locate current path).toOption

def leadsToFolder (tree : Tree) (current : Location) (path : Path) : Bool :=
  match tree.locate current path with
  | .ok place => tree.isFolder place
  | .error _ => false

/-- Where a path ends when its last name is not followed: the folder in which that name is looked
for, the name, if it is one, and whether separators follow it. -/
structure Spot where
  folder : Location
  name? : Option Name
  isSeparated : Bool

/-- The pieces before the last name of a path, that name, and whether separators follow it. -/
def splitLast (path : Bytes) : List Name × Name × Bool :=
  let reversed := (Name.ofPath path).reverse
  match reversed.dropWhile Name.isEmpty with
  | [] => ([], ⟨[]⟩, true)
  | last :: before => (before.reverse, last, reversed.head?.any Name.isEmpty)

def spot (tree : Tree) (current : Location) (path : Bytes) : Except IoFault Spot := do
  let (before, name, isSeparated) := splitLast path
  let folder ← tree.follow linkLimit (startOf current path) before
  if tree.isFolder folder = false then .error .notDirectory
  else
    let isDots := name.isSkipped ∨ name = .above
    .ok ⟨folder, if isDots then none else some name, isSeparated⟩

/-- The location of the last name; dots and a path without a name denote what is there already. -/
def Spot.place? (spot : Spot) : Except IoFault (Option Location) :=
  match spot.name? with
  | none => .ok none
  | some name =>
      if nameLimit < name.bytes.length then .error .nameTooLong else .ok (some (spot.folder ++ [name]))

/-- The place of the last name of a path in a folder. No file has dots for a name, and a separator
behind the name demands a folder; `onLink` follows a link. -/
def lastPlace (tree : Tree) (onLink : Location → List Name → Except IoFault Location)
    (place : Location) (name : Name) (isSeparated : Bool) : Except IoFault Location :=
  if tree.isFolder place = false then .error .notDirectory
  else if isSeparated ∨ name.isSkipped ∨ name = .above then .error .isDirectory
  else if nameLimit < name.bytes.length then .error .nameTooLong
  else
    match tree.find? (place ++ [name]) with
    | some .folder => .error .isDirectory
    | some (.link target) => onLink (startOf place target) (Name.ofPath target)
    | _ => .ok (place ++ [name])

/-- Follows the pieces of a path up to its last name, at which nothing has to be. -/
def walkOut (tree : Tree) (onLink : Location → List Name → Except IoFault Location) :
    Location → List Name → Except IoFault Location
  | _, [] => .error .isDirectory
  | place, piece :: pieces =>
      if pieces.all Name.isEmpty then tree.lastPlace onLink place piece (!pieces.isEmpty)
      else do
        match ← tree.step place piece with
        | .to next => tree.walkOut onLink next pieces
        | .along target => onLink (startOf place target) (Name.ofPath target ++ pieces)

/-- Follows the pieces of a path to its last name through as many links as are allowed. -/
def followOut (tree : Tree) : Nat → Location → List Name → Except IoFault Location
  | 0 => tree.walkOut fun _ _ => .error .tooManyLinks
  | links + 1 => tree.walkOut (tree.followOut links)

/-- The location of a file that is to be written, behind the links at which a path ends. -/
def outputPlace (tree : Tree) (current : Location) (path : Bytes) : Except IoFault Location :=
  tree.followOut linkLimit (startOf current path) (Name.ofPath path)

/-- Refuses something new at a place whose folder takes nothing new. -/
def checkSeal (tree : Tree) (place : Location) (fault : Seal → IoFault) : Except IoFault Unit :=
  match tree.seals.get? place.dropLast with
  | some refusal => .error (fault refusal)
  | none => .ok ()

/-- Writes a file, over an old one or as a new one in a folder that is there. -/
def write (tree : Tree) (current : Location) (path : Path) (content : Bytes) :
    Except IoFault Tree := do
  checkPath path
  let place ← tree.outputPlace current path.text.utf8
  match tree.slot? place with
  | some (.file number) => .ok (tree.changeFile number fun file => { file with content })
  | some (.program _) => .error .permissionDenied
  | some (.device device) => do
      device.write content
      .ok tree
  | _ => do
      tree.checkSeal place Seal.file
      .ok (tree.addFile place ⟨content, false⟩)

/-- The location at which something new is to be. -/
def freePlace (tree : Tree) (current : Location) (path : Path) : Except IoFault Location := do
  checkPath path
  let spot ← tree.spot current path.text.utf8
  match ← spot.place? with
  | none => .error .alreadyExists
  | some place => if (tree.find? place).isSome then .error .alreadyExists else .ok place

def makeFolder (tree : Tree) (current : Location) (path : Path) : Except IoFault Tree := do
  let place ← tree.freePlace current path
  tree.checkSeal place Seal.folder
  return tree.put place .folder

/-- Makes a link that points along a path, which may lead nowhere. -/
def makeLink (tree : Tree) (current : Location) (target : Bytes) (path : Path) : Except IoFault Tree :=
  if target.isEmpty then .error .notFound
  else do
    let place ← tree.freePlace current path
    tree.checkSeal place Seal.file
    return tree.put place (.link target)

/-- What is at the end of a path, with its location, when the last name is not followed. -/
def ending (tree : Tree) (current : Location) (path : Path) : Except IoFault (Location × Slot) := do
  checkPath path
  let spot ← tree.spot current path.text.utf8
  match ← spot.place? with
  | none => .ok (← tree.locate current path, .folder)
  | some place =>
      match tree.slot? place with
      | none => .error .notFound
      | some .folder => .ok (place, .folder)
      | some slot => if spot.isSeparated then .error .notDirectory else .ok (place, slot)

/-- What is at the end of a path; a link is not followed there unless separators follow it. -/
def foundUnfollowed (tree : Tree) (current : Location) (path : Path) : Except IoFault Entry := do
  if path.text.getLast? = some '/' then tree.found current path
  else
    let (_, slot) ← tree.ending current path
    match tree.entryOf? slot with
    | some entry => .ok entry
    | none => .error .notFound

/-- Gives a file another name beside the one that it has. -/
def addName (tree : Tree) (current : Location) (path new : Path) : Except IoFault Tree := do
  let (_, slot) ← tree.ending current path
  if slot = .folder then .error .notPermitted
  else
    let place ← tree.freePlace current new
    tree.checkSeal place Seal.file
    return tree.put place slot

def without (tree : Tree) (place : Location) : Tree :=
  { tree with slots := tree.slots.filter fun slot => slot.1 != place }

def remove (tree : Tree) (current : Location) (path : Path) : Except IoFault Tree := do
  match ← tree.ending current path with
  | (_, .folder) => .error .isDirectory
  | (place, _) => .ok (tree.without place)

def names (tree : Tree) (folder : Location) : List Name :=
  tree.slots.filterMap fun (place, _) =>
    if place.dropLast = folder then place.getLast? else none

def removeFolder (tree : Tree) (current : Location) (path : Path) : Except IoFault Tree := do
  match ← tree.ending current path with
  | (place, .folder) =>
      if (tree.names place).isEmpty then .ok (tree.without place) else .error .notEmpty
  | _ => .error .notDirectory

/-- A location below one place, seen from another one. -/
def moved (place other location : Location) : Location :=
  match List.isPrefixOf? place location with
  | some rest => other ++ rest
  | none => location

/-- Gives a file or folder another place, in which nothing may be but what it can replace. -/
def rename (tree : Tree) (current : Location) (path new : Path) : Except IoFault Tree := do
  let (place, slot) ← tree.ending current path
  checkPath new
  let spot ← tree.spot current new.text.utf8
  match ← spot.place? with
  | none => .error .notPermitted
  | some other =>
      let old := tree.slot? other
      if old = some slot ∧ (place = other ∨ slot ≠ .folder) then .ok tree
      else if slot = .folder ∧ place.isPrefixOf other then .error .invalidArgument
      else if slot ≠ .folder ∧ old = some .folder then .error .isDirectory
      else if slot = .folder ∧ old.any (· != .folder) then .error .notDirectory
      else if slot ≠ .folder ∧ spot.isSeparated then .error .notDirectory
      else if slot = .folder ∧ (tree.names other).isEmpty = false then .error .notEmpty
      else
        tree.checkSeal other Seal.file
        let kept := tree.without other
        .ok { kept with slots := kept.slots.map fun (location, slot) => (moved place other location, slot) }

def setExecutable (tree : Tree) (current : Location) (path : Path) (value : Bool) :
    Except IoFault Tree := do
  let place ← tree.locate current path
  match tree.slot? place with
  | some (.file number) => .ok (tree.changeFile number fun file => { file with isExecutable := value })
  | _ => .ok tree

end Tree

/-- Goes on with the changed tree, or with the old one when it cannot be changed. -/
def changeTree (action : Tree → Except IoFault Tree) : StateM Tree (Except IoFault Unit) := do
  match action (← get) with
  | .error fault => return .error fault
  | .ok tree =>
      set tree
      return .ok ()

end UniversalModule.Host
