import UniversalModule.Proofs.Host.Following
import UniversalModule.Proofs.Host.Names
import UniversalModule.Proofs.Text.Utf8

/-!
What a new folder and a written file change in a tree. Everything else is found as before, and the
path that was named leads to what was made.
-/

namespace UniversalModule.Host.Tree

def Numbered (tree : Tree) : Prop :=
  ∀ place number, tree.slot? place = some (.file number) → number < tree.files.length

variable {tree before after : Tree} {current place other : Location} {path : Path} {content : Bytes}

theorem numbered_empty : Numbered empty := by
  intro place number standing
  unfold slot? at standing
  split at standing <;> exact absurd standing (by simp [empty, Keyed.get?])

theorem numbered_putFolder (numbered : tree.Numbered) (below : place ≠ []) :
    (tree.put place .folder).Numbered := by
  intro other number standing
  rw [slot?_put below] at standing
  split at standing
  · exact absurd standing (by simp)
  · exact numbered other number standing

theorem slot?_addFile (below : place ≠ []) (file : File) :
    (tree.addFile place file).slot? other = if place = other then some (.file tree.files.length) else tree.slot? other :=
  slot?_put below

theorem numbered_addFile (numbered : tree.Numbered) (below : place ≠ []) (file : File) :
    (tree.addFile place file).Numbered := by
  intro other number standing
  have more : (tree.addFile place file).files.length = tree.files.length + 1 := by simp [addFile]
  rw [slot?_addFile below] at standing
  rw [more]
  split at standing
  · cases standing
    exact Nat.lt_succ_self _
  · exact Nat.lt_succ_of_lt (numbered other number standing)

theorem find?_eq_none_iff (numbered : tree.Numbered) :
    tree.find? place = none ↔ tree.slot? place = none := by
  rw [find?, Option.bind_eq_none_iff]
  constructor
  · intro unfound
    cases standing : tree.slot? place with
    | none => rfl
    | some slot =>
        have missing := unfound slot standing
        cases slot with
        | file number =>
            rw [entryOf?, Option.map_eq_none_iff, List.getElem?_eq_none_iff] at missing
            exact absurd (numbered place number standing) (Nat.not_lt_of_le missing)
        | _ => exact absurd missing (by simp [entryOf?])
  · intro missing slot standing
    rw [missing] at standing
    exact absurd standing (by simp)

theorem find?_root (tree : Tree) : tree.find? [] = some .folder := rfl

theorem find?_put {slot : Slot} (below : place ≠ []) :
    (tree.put place slot).find? other =
      if place = other then tree.entryOf? slot else tree.find? other := by
  have same : (tree.put place slot).entryOf? = tree.entryOf? := by
    funext slot
    cases slot <;> rfl
  rw [find?, slot?_put below, same, find?]
  split <;> rfl

theorem ne_nil_of_find?_eq_none (unfound : tree.find? place = none) : place ≠ [] := by
  rintro rfl
  exact absurd unfound (by simp [find?_root])

theorem extends_put (unfound : tree.find? place = none) (slot : Slot) :
    Extends tree (tree.put place slot) := by
  intro other turn turned
  rw [turn?, find?_put (ne_nil_of_find?_eq_none unfound)]
  split
  · next same =>
      rw [same] at unfound
      rw [turn?_eq_none_iff.mpr unfound] at turned
      exact absurd turned (by simp)
  · exact turned

theorem find?_addFile (unfound : tree.find? place = none) (file : File) :
    (tree.addFile place file).find? place = some (.file file) := by
  have below := ne_nil_of_find?_eq_none unfound
  have standing : (tree.addFile place file).slot? place = some (.file tree.files.length) := by
    rw [slot?_addFile below, if_pos rfl]
  have kept : (tree.addFile place file).files[tree.files.length]? = some file := by simp [addFile]
  rw [find?, standing, Option.bind_some, entryOf?, kept]
  rfl

theorem find?_addFile_of_found {entry : Entry} (unfound : tree.find? place = none)
    (found : tree.find? other = some entry) (file : File) :
    (tree.addFile place file).find? other = some entry := by
  have below := ne_nil_of_find?_eq_none unfound
  obtain ⟨slot, standing, meant⟩ := Option.bind_eq_some_iff.mp found
  have apart : place ≠ other := by
    rintro rfl
    rw [unfound] at found
    exact absurd found (by simp)
  have still : (tree.addFile place file).slot? other = some slot := by
    rw [slot?_addFile below, if_neg apart, standing]
  have meaning : (tree.addFile place file).entryOf? slot = some entry := by
    cases slot with
    | file number =>
        obtain ⟨old, kept, rfl⟩ := Option.map_eq_some_iff.mp meant
        have early := (List.getElem?_eq_some_iff.mp kept).1
        have later : (tree.addFile place file).files[number]? = some old := by
          have files : (tree.addFile place file).files = tree.files ++ [file] := rfl
          rw [files, List.getElem?_append_left early, kept]
        rw [entryOf?, later]
        rfl
    | _ => exact meant
  rw [find?, still, Option.bind_some, meaning]

theorem extends_addFile (unfound : tree.find? place = none) (file : File) :
    Extends tree (tree.addFile place file) := by
  intro other turn turned
  obtain ⟨entry, found, rfl⟩ := Option.map_eq_some_iff.mp turned
  rw [turn?, find?_addFile_of_found unfound found]
  rfl

theorem slot?_changeFile (tree : Tree) (number : Nat) (change : File → File) (place : Location) :
    (tree.changeFile number change).slot? place = tree.slot? place := rfl

theorem turn?_changeFile (tree : Tree) (number : Nat) (change : File → File) (place : Location) :
    (tree.changeFile number change).turn? place = tree.turn? place := by
  rw [turn?, turn?, find?, find?, slot?_changeFile]
  cases tree.slot? place with
  | none => rfl
  | some slot =>
      cases slot with
      | file other =>
          have files : (tree.changeFile number change).files = tree.files.modify number change := rfl
          simp only [Option.bind_some, entryOf?, files, List.getElem?_modify]
          cases tree.files[other]? <;> rfl
      | _ => rfl

theorem getElem?_of_slot (numbered : tree.Numbered) {number : Nat}
    (standing : tree.slot? place = some (.file number)) : ∃ file, tree.files[number]? = some file :=
  ⟨_, List.getElem?_eq_getElem (numbered place number standing)⟩

theorem find?_changeFile {number : Nat} {file : File} (standing : tree.slot? place = some (.file number))
    (kept : tree.files[number]? = some file) (change : File → File) :
    (tree.changeFile number change).find? place = some (.file (change file)) := by
  have files : (tree.changeFile number change).files = tree.files.modify number change := rfl
  rw [find?, slot?_changeFile, standing, Option.bind_some, entryOf?, files]
  simp [kept]

theorem extends_changeFile (tree : Tree) (number : Nat) (change : File → File) :
    Extends tree (tree.changeFile number change) := by
  intro place turn turned
  rw [turn?_changeFile]
  exact turned

theorem find?_changeFile_of_ne {number : Nat} (apart : tree.slot? other ≠ some (.file number))
    (change : File → File) : (tree.changeFile number change).find? other = tree.find? other := by
  have files : (tree.changeFile number change).files = tree.files.modify number change := rfl
  rw [find?, find?, slot?_changeFile]
  cases standing : tree.slot? other with
  | none => rfl
  | some slot =>
      cases slot with
      | file kept =>
          have different : number ≠ kept := by
            rintro rfl
            exact apart standing
          simp [entryOf?, files, different]
      | _ => rfl

/-- What the last name of a path is: there is none when all pieces are empty, or it stands before
empty pieces. -/
inductive EndsIn (path : Bytes) : List Name × Name × Bool → Prop where
  | nowhere {isSeparated : Bool} (all : (Name.ofPath path).all Name.isEmpty = true) :
      EndsIn path ([], ⟨[]⟩, isSeparated)
  | name {before empties : List Name} {name : Name} {isSeparated : Bool}
      (pieces : Name.ofPath path = before ++ name :: empties) (all : empties.all Name.isEmpty = true) :
      EndsIn path (before, name, isSeparated)

theorem endsIn_splitLast (path : Bytes) : EndsIn path (splitLast path) := by
  let reversed := (Name.ofPath path).reverse
  have whole : reversed.takeWhile Name.isEmpty ++ reversed.dropWhile Name.isEmpty = reversed :=
    List.takeWhile_append_dropWhile
  have pieces : Name.ofPath path =
      (reversed.takeWhile Name.isEmpty ++ reversed.dropWhile Name.isEmpty).reverse := by
    rw [whole]
    exact (List.reverse_reverse _).symm
  have empties : (reversed.takeWhile Name.isEmpty).reverse.all Name.isEmpty = true := by
    rw [List.all_reverse]
    exact List.all_takeWhile
  unfold splitLast
  simp only
  cases remains : (Name.ofPath path).reverse.dropWhile Name.isEmpty with
  | nil =>
      apply EndsIn.nowhere
      rw [pieces, remains, List.append_nil]
      exact empties
  | cons last others =>
      refine .name ?_ empties
      rw [pieces, remains, List.reverse_append, List.reverse_cons, List.append_assoc]
      rfl

/-- Where a path ends at a name in a folder, what is at that name decides where it leads. -/
structure EndsAt (tree : Tree) (current : Location) (path : Bytes) (folder : Location) (name : Name) :
    Prop where
  into : tree.turn? folder = some .into
  shown : name.isSkipped = false
  notUp : name ≠ .above
  pieces : ∃ before empties, Name.ofPath path = before ++ name :: empties ∧
    empties.all Name.isEmpty = true ∧ Leads tree linkLimit (startOf current path) before folder

theorem spot_ok {path : Bytes} {name : Name} {ending : Spot} (reached : tree.spot current path = .ok ending)
    (named : ending.name? = some name) : EndsAt tree current path ending.folder name := by
  have ends := endsIn_splitLast path
  unfold spot at reached
  generalize splitLast path = parts at ends reached
  cases ends with
  | nowhere =>
      obtain ⟨folder, -, rest⟩ := bind_eq_ok reached
      split at rest
      · exact absurd rest (by simp)
      · cases rest
        have nameless : (⟨[]⟩ : Name).isSkipped = true := rfl
        exact absurd named (by simp [nameless])
  | name pieces all =>
      obtain ⟨folder, followed, rest⟩ := bind_eq_ok reached
      split at rest
      · exact absurd rest (by simp)
      next isFolder =>
      cases rest
      simp only [Option.ite_none_left_eq_some, not_or, Bool.not_eq_true] at named
      obtain ⟨⟨shown, notUp⟩, same⟩ := named
      cases same
      exact ⟨isFolder_iff.mp (by simpa using isFolder), shown, notUp, _, _, pieces, all,
        follow_ok_iff.mp followed⟩

theorem EndsAt.leads {path : Bytes} {name : Name} {folder : Location} (ends : EndsAt tree current path folder name)
    (short : name.bytes.length ≤ nameLimit) (larger : Extends tree after)
    (made : after.turn? (folder ++ [name]) = some .into) :
    Leads after linkLimit (startOf current path) (Name.ofPath path) (folder ++ [name]) := by
  obtain ⟨before, empties, pieces, all, reached⟩ := ends.pieces
  have named : IsName name := ⟨ends.shown, ends.notUp, short⟩
  have last : Leads after 0 folder (name :: empties) (folder ++ [name]) :=
    .goes (.enters (larger _ _ ends.into) named made (by simp)) (.empties made all)
  rw [pieces]
  exact (reached.extends larger).append last

theorem freePlace_ok (free : tree.freePlace current path = .ok place) :
    checkPath path = .ok () ∧ tree.find? place = none ∧
      ∃ folder name, place = folder ++ [name] ∧ name.bytes.length ≤ nameLimit ∧
        EndsAt tree current path.text.utf8 folder name := by
  obtain ⟨⟨⟩, checked, rest⟩ := bind_eq_ok free
  obtain ⟨ending, reached, rest⟩ := bind_eq_ok rest
  obtain ⟨place?, placed, rest⟩ := bind_eq_ok rest
  unfold Spot.place? at placed
  cases named : ending.name? with
  | none =>
      rw [named] at placed
      cases placed
      exact absurd rest (by simp)
  | some name =>
      rw [named] at placed
      simp only at placed
      split at placed
      · exact absurd placed (by simp)
      next short =>
      cases placed
      simp only at rest
      split at rest
      · exact absurd rest (by simp)
      next unfound =>
      cases rest
      exact ⟨checked, by simpa using unfound, _, name, rfl, Nat.le_of_not_lt short, spot_ok reached named⟩

/-- A folder that is made stands in one that was there, under a name that nothing had, and its path
leads to it. -/
theorem makeFolder_ok (made : tree.makeFolder current path = .ok after) :
    ∃ folder name, EndsAt tree current path.text.utf8 folder name ∧ tree.find? (folder ++ [name]) = none ∧
      after = tree.put (folder ++ [name]) .folder ∧ after.locate current path = .ok (folder ++ [name]) := by
  obtain ⟨place, free, rest⟩ := bind_eq_ok made
  obtain ⟨⟨⟩, -, rest⟩ := bind_eq_ok rest
  cases rest
  obtain ⟨checked, unfound, folder, name, rfl, short, ends⟩ := freePlace_ok free
  have larger := extends_put unfound .folder
  have present : (tree.put (folder ++ [name]) .folder).turn? (folder ++ [name]) = some .into := by
    rw [turn?, find?_put (by simp), if_pos rfl]
    rfl
  exact ⟨folder, name, ends, unfound, rfl, locate_of_leads checked (ends.leads short larger present)⟩

/-- Where a path leads, its last name is taken, unless it is no name. -/
theorem spot_of_leads {path : Bytes}
    (leads : Leads tree linkLimit (startOf current path) (Name.ofPath path) place) :
    ∃ ending, tree.spot current path = .ok ending ∧ ∀ name, ending.name? = some name →
      name.bytes.length ≤ nameLimit ∧ (tree.find? (ending.folder ++ [name])).isSome = true := by
  have ends := endsIn_splitLast path
  unfold spot
  generalize splitLast path = parts at ends
  cases ends with
  | @nowhere isSeparated =>
      have start : tree.turn? (startOf current path) = some .into := by
        cases pieces : Name.ofPath path with
        | nil => exact absurd pieces (Name.ofPath_ne_nil path)
        | cons piece rest =>
            rw [pieces] at leads
            exact leads.folder
      have followed : tree.follow linkLimit (startOf current path) [] = .ok (startOf current path) :=
        follow_ok_iff.mpr .ends
      refine ⟨⟨startOf current path, none, isSeparated⟩, ?_, by simp⟩
      simp only [followed, bind, Except.bind, isFolder_iff.mpr start]
      rfl
  | @name before empties name isSeparated pieces all =>
      rw [pieces] at leads
      obtain ⟨middle, rest, reached, onward⟩ := leads.split
      refine ⟨⟨middle, if name.isSkipped ∨ name = .above then none else some name, isSeparated⟩, ?_, ?_⟩
      · simp only [follow_ok_iff.mpr reached, bind, Except.bind, isFolder_iff.mpr onward.folder]
        rfl
      · intro other named
        simp only [Option.ite_none_left_eq_some, not_or, Option.some.injEq, Bool.not_eq_true] at named
        obtain ⟨⟨shown, notUp⟩, rfl⟩ := named
        have taken {turn : Turn} (found : tree.turn? (middle ++ [name]) = some turn) :
            (tree.find? (middle ++ [name])).isSome = true := by
          obtain ⟨entry, stands, -⟩ := Option.map_eq_some_iff.mp found
          rw [stands]
          rfl
        cases onward with
        | goes steps _ =>
            cases steps with
            | stays _ skipped =>
                rw [shown] at skipped
                exact absurd skipped (by simp)
            | rises => exact absurd rfl notUp
            | enters _ named found _ => exact ⟨named.short, taken found⟩
        | turns steps _ =>
            cases steps with
            | turns _ named found => exact ⟨named.short, taken found⟩

theorem makeFolder_of_locate (located : tree.locate current path = .ok place) :
    tree.makeFolder current path = .error .alreadyExists := by
  obtain ⟨checked, leads⟩ := locate_ok located
  obtain ⟨ending, reached, taken⟩ := spot_of_leads leads
  have refused : tree.freePlace current path = .error .alreadyExists := by
    rw [freePlace, checked, reached]
    simp only [bind, Except.bind, Spot.place?]
    cases named : ending.name? with
    | none => rfl
    | some name =>
        obtain ⟨short, present⟩ := taken name named
        simp only [if_neg (Nat.not_lt_of_le short), present, if_true]
  rw [makeFolder, refused]
  rfl

/-- What writing a file does to a tree: it changes the file to which the path leads, or adds one to
which it leads then. A device takes what is written and keeps nothing. -/
inductive Written (current : Location) (path : Path) (content : Bytes) (before : Tree) : Tree → Prop where
  | changed {place : Location} {number : Nat} (stands : before.slot? place = some (.file number))
      (leads : (before.changeFile number fun file => { file with content }).locate current path = .ok place) :
      Written current path content before (before.changeFile number fun file => { file with content })
  | added {place : Location} (free : before.slot? place = none)
      (leads : (before.addFile place ⟨content, false⟩).locate current path = .ok place) :
      Written current path content before (before.addFile place ⟨content, false⟩)
  | taken {place : Location} {device : Device} (stands : before.slot? place = some (.device device))
      (leads : before.locate current path = .ok place) : Written current path content before before

theorem turn?_of_slot {slot : Slot} (standing : tree.slot? place = some slot) :
    tree.turn? place = (tree.entryOf? slot).map Entry.turn := by
  rw [turn?, find?, standing, Option.bind_some]

theorem free_of_ended (ended : ∀ turn, tree.turn? place = some turn → turn = .nowhere)
    (notFile : ∀ number, tree.slot? place ≠ some (.file number))
    (notProgram : ∀ name, tree.slot? place ≠ some (.program name))
    (notDevice : ∀ device, tree.slot? place ≠ some (.device device)) : tree.slot? place = none := by
  cases standing : tree.slot? place with
  | none => rfl
  | some slot =>
      have turned := turn?_of_slot standing
      cases slot with
      | file number => exact absurd standing (notFile number)
      | program name => exact absurd standing (notProgram name)
      | device device => exact absurd standing (notDevice device)
      | folder => exact absurd (ended _ turned) (by simp [Entry.turn])
      | link target => exact absurd (ended _ turned) (by simp [Entry.turn])

theorem write_ok (numbered : tree.Numbered) (written : tree.write current path content = .ok after) :
    Written current path content tree after := by
  obtain ⟨⟨⟩, checked, rest⟩ := bind_eq_ok written
  obtain ⟨place, reached, rest⟩ := bind_eq_ok rest
  have leads := followOut_ok reached
  obtain ⟨-, -, ended⟩ := leads.housed
  split at rest
  · next number standing =>
      cases rest
      obtain ⟨file, kept⟩ := getElem?_of_slot numbered standing
      have present : tree.turn? place = some .nowhere := by
        rw [turn?_of_slot standing, entryOf?, kept]
        rfl
      apply Written.changed standing
      apply locate_of_leads checked
      exact leads.leads (extends_changeFile tree number _) (by rw [turn?_changeFile, present])
  · exact absurd rest (by simp)
  · next device standing =>
      obtain ⟨⟨⟩, -, rest⟩ := bind_eq_ok rest
      cases rest
      have present : tree.turn? place = some .nowhere := by
        rw [turn?_of_slot standing]
        rfl
      exact .taken standing (locate_of_leads checked (leads.leads (.refl tree) present))
  · next notFile notProgram notDevice =>
      obtain ⟨⟨⟩, -, rest⟩ := bind_eq_ok rest
      cases rest
      have free := free_of_ended ended notFile notProgram notDevice
      have unfound : tree.find? place = none := (find?_eq_none_iff numbered).mpr free
      have present : (tree.addFile place ⟨content, false⟩).turn? place = some .nowhere := by
        rw [turn?, find?_addFile unfound]
        rfl
      exact .added free (locate_of_leads checked (leads.leads (extends_addFile unfound _) present))

theorem found_of_locate {entry : Entry} (leads : tree.locate current path = .ok place)
    (found : tree.find? place = some entry) : tree.found current path = .ok entry := by
  rw [Tree.found, leads]
  simp only [bind, Except.bind, found]

theorem read_of_found {file : File} {text : Text} (found : tree.found current path = .ok (.file file))
    (content : file.content = text.utf8) : tree.read current path = .ok text := by
  rw [Tree.read, found]
  simp only [bind, Except.bind, content, Text.ofUtf8?_utf8]

theorem stands_of_find? {entry : Entry} (found : tree.find? place = some entry) :
    (tree.slot? place).isSome = true := by
  obtain ⟨slot, standing, -⟩ := Option.bind_eq_some_iff.mp found
  rw [standing]
  rfl

theorem stands_of_read {text : Text} (content : tree.read current path = .ok text) :
    ∃ place, tree.locate current path = .ok place ∧ (tree.slot? place).isSome = true := by
  obtain ⟨entry, found, -⟩ := bind_eq_ok content
  obtain ⟨place, located, rest⟩ := bind_eq_ok found
  refine ⟨place, located, ?_⟩
  cases stands : tree.find? place with
  | none =>
      rw [stands] at rest
      exact absurd rest (by simp)
  | some entry => exact stands_of_find? stands

theorem stands_of_leadsToFolder (leads : tree.leadsToFolder current path = true) :
    ∃ place, tree.locate current path = .ok place ∧ (tree.slot? place).isSome = true := by
  unfold leadsToFolder at leads
  cases located : tree.locate current path with
  | error fault =>
      rw [located] at leads
      exact absurd leads (by simp)
  | ok place =>
      rw [located] at leads
      have found : tree.find? place = some .folder := by simpa [isFolder] using leads
      exact ⟨place, rfl, stands_of_find? found⟩

theorem Written.read {text : Text} (written : Written current path text.utf8 before after)
    (numbered : before.Numbered) :
    after.read current path = .ok text ∨
      ∃ place device, before.slot? place = some (.device device) ∧ after.found current path = .ok (.device device) := by
  cases written with
  | changed standing leads =>
      left
      obtain ⟨file, kept⟩ := getElem?_of_slot numbered standing
      exact read_of_found (found_of_locate leads (find?_changeFile standing kept _)) rfl
  | added free leads =>
      left
      have unfound := (find?_eq_none_iff numbered).mpr free
      exact read_of_found (found_of_locate leads (find?_addFile unfound _)) rfl
  | @taken place device standing leads =>
      right
      have found : before.find? place = some (.device device) := by
        rw [find?, standing]
        rfl
      exact ⟨place, device, standing, found_of_locate leads found⟩

end UniversalModule.Host.Tree
