import UniversalModule.Proofs.Host.WellFormed

/-!
Writing a file a second time. A path that leads to a file is the path of that file also for writing,
so the second writing changes no more than the content, and nothing when the content is the same.
-/

namespace UniversalModule.Host

namespace Tree

variable {tree before after : Tree} {current place other out : Location} {path : Path} {content : Bytes}
  {links number : Nat} {piece : Name} {pieces : List Name}

section Leading

variable {onLink : Location → List Name → Except IoFault Location}

theorem lastPlace_named (folder : tree.turn? place = some .into) (named : IsName piece) :
    tree.lastPlace onLink place piece false =
      match tree.find? (place ++ [piece]) with
      | some .folder => .error .isDirectory
      | some (.link target) => onLink (startOf place target) (Name.ofPath target)
      | _ => .ok (place ++ [piece]) := by
  have plain : ¬(false = true ∨ piece.isSkipped = true ∨ piece = .above) := by
    simp [named.shown, named.notUp]
  have short := Nat.not_lt_of_le named.short
  unfold lastPlace
  exact (if_neg (by simp [isFolder_iff.mpr folder])).trans ((if_neg plain).trans (if_neg short))

theorem walkOut_ends (folder : tree.turn? place = some .into) (named : IsName piece)
    (found : tree.turn? (place ++ [piece]) = some .nowhere) :
    tree.walkOut onLink place [piece] = .ok (place ++ [piece]) := by
  have last : tree.walkOut onLink place [piece] = tree.lastPlace onLink place piece false := rfl
  rw [last, lastPlace_named folder named]
  obtain ⟨entry, stands, turn⟩ := Option.map_eq_some_iff.mp found
  rw [stands]
  cases entry with
  | folder => exact absurd turn (by simp [Entry.turn])
  | link target => exact absurd turn (by simp [Entry.turn])
  | _ => rfl

theorem walkOut_goes {next : Location} (steps : Steps tree place piece (.to next))
    (more : pieces.all Name.isEmpty = false) :
    tree.walkOut onLink place (piece :: pieces) = tree.walkOut onLink next pieces := by
  rw [walkOut, if_neg (by simp [more]), step_ok_iff.mpr steps]
  rfl

theorem walkOut_turns {target : Bytes} (steps : Steps tree place piece (.along target))
    (more : pieces = [] ∨ pieces.all Name.isEmpty = false) :
    tree.walkOut onLink place (piece :: pieces) =
      onLink (startOf place target) (Name.ofPath target ++ pieces) := by
  rcases more with rfl | more
  · have last : tree.walkOut onLink place [piece] = tree.lastPlace onLink place piece false := rfl
    cases steps with
    | turns folder named found =>
        rw [last, lastPlace_named folder named, turn?_eq_along_iff.mp found, List.append_nil]
  · rw [walkOut, if_neg (by simp [more]), step_ok_iff.mpr steps]
    rfl

end Leading

theorem Leads.of_empties (leads : Leads tree links place pieces out)
    (all : pieces.all Name.isEmpty = true) : out = place := by
  have shown {name : Name} (empty : name.isEmpty = true) (named : IsName name) : False := by
    have skipped := named.shown
    rw [Name.isSkipped, empty] at skipped
    exact absurd skipped (by simp)
  induction leads with
  | ends => rfl
  | goes steps _ induction =>
      rw [List.all_cons, Bool.and_eq_true] at all
      cases steps with
      | stays _ _ => exact induction all.2
      | rises _ => exact absurd all.1 (by decide)
      | enters _ named _ _ => exact (shown all.1 named).elim
  | turns steps _ _ =>
      rw [List.all_cons, Bool.and_eq_true] at all
      cases steps with
      | turns _ named _ => exact (shown all.1 named).elim

theorem Leads.not_empties (leads : Leads tree links place pieces out) (ended : tree.turn? out = some .nowhere)
    (more : pieces ≠ []) : pieces.all Name.isEmpty = false := by
  apply Bool.eq_false_iff.mpr
  intro all
  have same := leads.of_empties all
  subst same
  cases leads with
  | ends => exact more rfl
  | goes steps rest =>
      have folder := (Leads.goes steps rest).folder
      rw [ended] at folder
      exact absurd folder (by simp)
  | turns steps rest =>
      have folder := (Leads.turns steps rest).folder
      rw [ended] at folder
      exact absurd folder (by simp)

theorem followOut_of_leads (sound : tree.WellFormed) (leads : Leads tree links place pieces out)
    (ended : tree.turn? out = some .nowhere) (more : pieces ≠ []) :
    tree.followOut links place pieces = .ok out := by
  have opened (links : Nat) : ∃ onLink, tree.followOut links = tree.walkOut onLink ∧
      ∀ fewer, links = fewer + 1 → onLink = tree.followOut fewer := by
    cases links with
    | zero => exact ⟨_, rfl, by simp⟩
    | succ fewer => exact ⟨_, rfl, by rintro _ ⟨⟩; rfl⟩
  induction leads with
  | ends => exact absurd rfl more
  | @goes links place next out piece pieces steps rest induction =>
      obtain ⟨onLink, walks, -⟩ := opened links
      by_cases last : pieces = []
      · subst last
        cases rest with
        | ends =>
            cases steps with
            | stays folder _ =>
                rw [ended] at folder
                exact absurd folder (by simp)
            | rises folder =>
                rw [sound.rooted folder] at ended
                exact absurd ended (by simp)
            | enters folder named _ _ =>
                rw [walks]
                exact walkOut_ends folder named ended
      · have onward := induction ended last
        rw [walks] at onward ⊢
        rw [walkOut_goes steps (rest.not_empties ended last)]
        exact onward
  | @turns links place out piece target pieces steps rest induction =>
      obtain ⟨onLink, walks, links⟩ := opened (links + 1)
      have onward := induction ended (by simp [Name.ofPath_ne_nil])
      have several : pieces = [] ∨ pieces.all Name.isEmpty = false := by
        by_cases last : pieces = []
        · exact .inl last
        · obtain ⟨middle, fewer, -, remains⟩ := rest.split
          exact .inr (remains.not_empties ended last)
      rw [walks, walkOut_turns steps several, links _ rfl]
      exact onward

/-- A path that leads to a file is also the path at which that file is written. -/
theorem outputPlace_of_locate (sound : tree.WellFormed) (located : tree.locate current path = .ok place)
    (ended : tree.turn? place = some .nowhere) : tree.outputPlace current path.text.utf8 = .ok place := by
  obtain ⟨-, leads⟩ := locate_ok located
  exact followOut_of_leads sound leads ended (Name.ofPath_ne_nil _)

theorem turn?_of_file (numbered : tree.Numbered) (stands : tree.slot? place = some (.file number)) :
    tree.turn? place = some .nowhere := by
  obtain ⟨file, kept⟩ := getElem?_of_slot numbered stands
  rw [turn?_of_slot stands, entryOf?, kept]
  rfl

theorem write_file (sound : tree.WellFormed) (located : tree.locate current path = .ok place)
    (stands : tree.slot? place = some (.file number)) (content : Bytes) :
    tree.write current path content = .ok (tree.changeFile number fun file => { file with content }) := by
  obtain ⟨checked, -⟩ := locate_ok located
  have reached := outputPlace_of_locate sound located (turn?_of_file sound.numbered stands)
  rw [Tree.write, checked, reached]
  simp only [bind, Except.bind, stands]

theorem write_device (sound : tree.WellFormed) (located : tree.locate current path = .ok place)
    {device : Device} (stands : tree.slot? place = some (.device device)) (content : Bytes) :
    tree.write current path content = (device.write content).map fun _ => tree := by
  obtain ⟨checked, -⟩ := locate_ok located
  have ended : tree.turn? place = some .nowhere := by
    rw [turn?_of_slot stands]
    rfl
  have reached := outputPlace_of_locate sound located ended
  rw [Tree.write, checked, reached]
  simp only [bind, Except.bind, stands]
  cases device.write content <;> rfl

theorem changeFile_same {file : File} (kept : tree.files[number]? = some file) (same : file.content = content) :
    (tree.changeFile number fun file => { file with content }) = tree := by
  have files : (tree.files.modify number fun file => { file with content }) = tree.files := by
    apply List.ext_getElem?
    intro index
    rw [List.getElem?_modify]
    by_cases here : number = index
    · subst here
      rw [kept, ← same]
      simp
    · simp [here]
  rw [changeFile, files]

/-- The place of a new file has a name that can stand in a folder. -/
theorem LeadsOut.named (leads : LeadsOut tree links place pieces out) (whole : ∀ piece ∈ pieces, Name.separator ∉ piece.bytes) :
    ∃ folder name, out = folder ++ [name] ∧ tree.turn? folder = some .into ∧ IsProper name := by
  induction leads with
  | @ends links place name folder named _ =>
      exact ⟨place, name, rfl, folder, named.shown, named.notUp, whole name List.mem_cons_self⟩
  | @goes links place next out piece pieces _ _ induction =>
      exact induction fun other member => whole other (List.mem_cons_of_mem piece member)
  | @turns links place out piece target pieces _ _ induction =>
      apply induction
      intro other member
      rcases List.mem_append.mp member with inTarget | later
      · exact Name.separator_notMem inTarget
      · exact whole other (List.mem_cons_of_mem piece later)

namespace WellFormed

theorem changeFile (sound : tree.WellFormed) (number : Nat) (change : File → File) :
    (tree.changeFile number change).WellFormed := by
  refine ⟨?_, sound.housed, sound.named⟩
  intro place kept stands
  have files : (tree.changeFile number change).files.length = tree.files.length := by
    simp [Tree.changeFile]
  rw [files]
  exact sound.numbered place kept stands

theorem write (sound : tree.WellFormed) (written : tree.write current path content = .ok after) :
    after.WellFormed := by
  obtain ⟨⟨⟩, -, rest⟩ := bind_eq_ok written
  obtain ⟨place, reached, rest⟩ := bind_eq_ok rest
  have leads := followOut_ok reached
  obtain ⟨-, -, ended⟩ := leads.housed
  split at rest
  · cases rest
    exact sound.changeFile _ _
  · exact absurd rest (by simp)
  · obtain ⟨⟨⟩, -, rest⟩ := bind_eq_ok rest
    cases rest
    exact sound
  · next notFile notProgram notDevice =>
      obtain ⟨⟨⟩, -, rest⟩ := bind_eq_ok rest
      cases rest
      have free := free_of_ended ended notFile notProgram notDevice
      obtain ⟨folder, name, rfl, into, proper⟩ := leads.named fun _ member => Name.separator_notMem member
      exact sound.addFile (turn?_eq_into_iff.mp into) proper free _

end WellFormed

theorem device_write_again {device : Device} (nonempty : content ≠ []) (taken : device.write content = .ok ())
    (other : Bytes) : device.write other = .ok () := by
  cases device with
  | nothing => rfl
  | zeros => rfl
  | full => exact absurd taken (by simp [Device.write, nonempty])
  | terminal => exact absurd taken (by simp [Device.write])

/-- What was written can be written over, and the same content changes nothing. -/
theorem write_again (sound : tree.WellFormed) (written : tree.write current path content = .ok after)
    (nonempty : content ≠ []) (other : Bytes) :
    ∃ last, after.write current path other = .ok last ∧ (other = content → last = after) := by
  have kept := sound.write written
  -- The file that was written is there, with what was written.
  have rewrites {place : Location} {number : Nat} {file : File} (located : after.locate current path = .ok place)
      (stands : after.slot? place = some (.file number)) (holds : after.files[number]? = some file)
      (holding : file.content = content) :
      ∃ last, after.write current path other = .ok last ∧ (other = content → last = after) := by
    refine ⟨_, write_file kept located stands other, ?_⟩
    rintro rfl
    exact changeFile_same holds holding
  cases write_ok sound.numbered written with
  | @changed place number stands located =>
      obtain ⟨file, holds⟩ := getElem?_of_slot sound.numbered stands
      have changed : (tree.changeFile number fun file => { file with content }).files[number]? =
          some { file with content } := by
        simp [Tree.changeFile, holds]
      exact rewrites located stands changed rfl
  | @added place free located =>
      have unfound := (find?_eq_none_iff sound.numbered).mpr free
      have stands : (tree.addFile place ⟨content, false⟩).slot? place = some (.file tree.files.length) := by
        rw [slot?_addFile (ne_nil_of_find?_eq_none unfound), if_pos rfl]
      have holds : (tree.addFile place ⟨content, false⟩).files[tree.files.length]? = some ⟨content, false⟩ := by
        simp [Tree.addFile]
      exact rewrites located stands holds rfl
  | @taken place device stands located =>
      rw [write_device sound located stands] at written
      cases taken : device.write content with
      | error fault =>
          rw [taken] at written
          exact absurd written (by simp [Except.map])
      | ok done =>
          refine ⟨tree, ?_, fun _ => rfl⟩
          rw [write_device sound located stands, device_write_again nonempty taken]
          rfl

def SameFile (tree : Tree) (current : Location) (path other : Path) : Prop :=
  ∃ number place again, tree.locate current path = .ok place ∧ tree.slot? place = some (.file number) ∧
    tree.locate current other = .ok again ∧ tree.slot? again = some (.file number)

namespace Written

variable {written : Path}

theorem larger (numbered : before.Numbered) (change : Written current path content before after) :
    Extends before after := by
  cases change with
  | changed stands leads => exact extends_changeFile before _ _
  | added free leads => exact extends_addFile ((find?_eq_none_iff numbered).mpr free) _
  | taken stands leads => exact .refl before

theorem found (numbered : before.Numbered) (change : Written current written content before after)
    (apart : ¬after.SameFile current written path) {entry : Entry}
    (found : before.found current path = .ok entry) : after.found current path = .ok entry := by
  obtain ⟨place, located, rest⟩ := bind_eq_ok found
  have still := locate_extends (change.larger numbered) located
  cases stands : before.find? place with
  | none =>
      rw [stands] at rest
      exact absurd rest (by simp)
  | some entry =>
      rw [stands] at rest
      cases rest
      cases change with
      | @changed output number here leads =>
          have different : before.slot? place ≠ some (.file number) := by
            intro same
            exact apart ⟨number, output, place, leads, here, still, same⟩
          apply found_of_locate still
          rw [find?_changeFile_of_ne different, stands]
      | added free leads =>
          exact found_of_locate still (find?_addFile_of_found ((find?_eq_none_iff numbered).mpr free) stands _)
      | taken here leads => exact found_of_locate still stands

end Written

end Tree

end UniversalModule.Host
