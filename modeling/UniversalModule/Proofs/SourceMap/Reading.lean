import UniversalModule.Proofs.Json.Layouts
import UniversalModule.Proofs.Json.Numerals
import UniversalModule.SourceMap.Reader

/-!
Source maps read back from their JSON, compact or over several lines. Each member is read by the
reader that its name chooses; what is left out when it is empty comes back as empty.
-/

namespace UniversalModule.SourceMap

open Json (Form Layout Reader Reads Value)

theorem reads_into {α : Type} {reader : Reader α} {text : Text} {value : α} (member : α → Member)
    (read : Reads reader text value) : Reads (into member reader) text (member value) where
  starts := read.starts
  reads rest delimited := by rw [into, read.reads rest delimited, Option.map_some]

variable {text : Nat → Value → Text}

theorem reads_string (layout : Layout .data text) (level : Nat) (content : Text) :
    Reads Json.readText (text level (.string content)) content := by
  rw [layout.scalar level (.string content) rfl]
  exact Json.reads_quoted .data content

theorem reads_optionalText (layout : Layout .data text) (level : Nat) (content : Option Text) :
    Reads readOptionalText (text level (optionalText content)) content := by
  cases content with
  | none =>
      rw [optionalText, layout.scalar level .null rfl]
      exact ⟨⟨'n', _, rfl, by decide⟩, fun rest _ => rfl⟩
  | some content =>
      have quoted := reads_string layout level content
      refine ⟨quoted.starts, ?_⟩
      intro rest delimited
      have read := quoted.reads rest delimited
      rw [optionalText]
      unfold readOptionalText
      split
      · next same =>
          rw [same] at read
          exact absurd read (by simp [Json.readText])
      · rw [read]
        rfl

theorem reads_list {α β : Type} (layout : Layout .data text) (level : Nat) (item : Reader β)
    (toValue : α → Value) (meaning : α → β)
    (each : ∀ value, Reads item (text (level + 1) (toValue value)) (meaning value)) (values : List α) :
    Reads (readList item) (text level (.array (values.map toValue))) (values.map meaning) := by
  have entries : ∀ entry ∈ values.map fun value => (toValue value, meaning value),
      Reads item (text (level + 1) entry.1) entry.2 := by
    intro entry member
    obtain ⟨value, _, rfl⟩ := List.mem_map.mp member
    exact each value
  obtain ⟨inner, written, read⟩ := layout.reads_array level entries
  simp only [List.map_map, Function.comp_def] at written read
  rw [written]
  exact ⟨⟨'[', _, rfl, by decide⟩, fun rest _ => read rest⟩

theorem reads_texts (layout : Layout .data text) (level : Nat) (items : List Text) :
    Reads (readList Json.readText) (text level (texts items)) items := by
  have read := reads_list layout level Json.readText Value.string id (reads_string layout (level + 1)) items
  rwa [List.map_id] at read

theorem reads_contents (layout : Layout .data text) (level : Nat) (contents : List (Option Text)) :
    Reads (readList readOptionalText) (text level (.array (contents.map optionalText))) contents := by
  have read := reads_list layout level readOptionalText optionalText id
    (reads_optionalText layout (level + 1)) contents
  rwa [List.map_id] at read

theorem reads_version (layout : Layout .data text) (level : Nat) (version : UInt8) :
    Reads readVersion (text level (versionValue version)) version := by
  have same : text level (versionValue version) = Json.wholeText version.toNat :=
    layout.scalar level (versionValue version) rfl
  have positive : ¬(version.toNat : Int) < 0 := by omega
  rw [same]
  constructor
  · have plain : Json.wholeText version.toNat = Text.ofNat version.toNat := if_neg positive
    obtain ⟨c, more, digits⟩ := List.exists_cons_of_ne_nil (Text.ofNat_ne_nil version.toNat)
    have digit : c.isDigit = true := Text.isDigit_of_mem_ofNat (n := version.toNat) (by simp [digits])
    rw [plain]
    exact ⟨c, more, digits, Json.startsItem_of_isDigit digit⟩
  · intro rest delimited
    have small := version.toNat_lt
    have value : Json.digitsValue (Json.wholeNumeral version.toNat).digits = version.toNat :=
      Json.digitsValue_ofNat version.toNat
    have accepted : ¬((Json.wholeNumeral version.toNat).isPlain = false ∨
        (Json.wholeNumeral version.toNat).negative = true ∨ 256 ≤ version.toNat) := by
      rintro (mixed | negative | large)
      · exact absurd mixed (by simp [Json.wholeNumeral, Json.Numeral.isPlain])
      · exact positive (of_decide_eq_true negative)
      · omega
    simp only [readVersion, delimited.readNumeral_append (Json.readNumeral_wholeText _), Option.bind_eq_bind,
      Option.bind_some, value, if_neg accepted, UInt8.ofNat_toNat, List.nil_append]

/-- The members that are written for a map, each with what is read back from it. -/
def written (map : SourceMap) : List ((Text × Value) × Member) :=
  [(("version".toList, versionValue map.version), .version map.version)] ++
    (match map.file with
      | none => []
      | some file => [(("file".toList, .string file), .file (some file))]) ++
    [(("sources".toList, texts map.sources), .sources map.sources)] ++
    (if map.sourcesContent.isEmpty then []
      else
        [(("sourcesContent".toList, .array (map.sourcesContent.map optionalText)),
          .sourcesContent map.sourcesContent)]) ++
    [(("names".toList, texts map.names), .names map.names),
      (("mappings".toList, .string map.mappings), .mappings map.mappings)]

theorem toJson_eq_written (map : SourceMap) : map.toJson = .object ((written map).map Prod.fst) := by
  unfold toJson written
  cases map.file <;> by_cases bare : map.sourcesContent.isEmpty = true <;> simp [bare]

theorem reads_written (layout : Layout .data text) (level : Nat) {map : SourceMap}
    {entry : (Text × Value) × Member} (member : entry ∈ written map) :
    Reads (readNamed entry.1.1) (text level entry.1.2) entry.2 := by
  simp only [written, List.mem_append, List.mem_cons, List.not_mem_nil, or_false] at member
  rcases member with (((rfl | file) | rfl) | contents) | rfl | rfl
  · exact reads_into .version (reads_version layout level map.version)
  · cases given : map.file with
    | none => simp [given] at file
    | some name =>
        simp only [given, List.mem_singleton] at file
        rw [file]
        exact reads_into .file (reads_optionalText layout level (some name))
  · exact reads_into .sources (reads_texts layout level map.sources)
  · split at contents
    · exact absurd contents (by simp)
    · rw [List.mem_singleton] at contents
      rw [contents]
      exact reads_into .sourcesContent (reads_contents layout level map.sourcesContent)
  · exact reads_into .names (reads_texts layout level map.names)
  · exact reads_into .mappings (reads_string layout level map.mappings)

theorem ofMembers_written (map : SourceMap) : ofMembers ((written map).map Prod.snd) = some map := by
  obtain ⟨version, file, sources, contents, names, mappings⟩ := map
  cases file <;> cases contents <;> rfl

theorem reads_toJson (layout : Layout .data text) (level : Nat) (map : SourceMap) :
    Reads readMembers (text level map.toJson) ((written map).map Prod.snd) := by
  have each : ∀ entry ∈ written map, Reads (readNamed entry.1.1) (text (level + 1) entry.1.2) entry.2 :=
    fun _ member => reads_written layout (level + 1) member
  obtain ⟨inner, same, read⟩ := layout.reads_object level each
  rw [toJson_eq_written, same]
  refine ⟨⟨'\x7b', inner, rfl, by decide⟩, ?_⟩
  intro rest _
  simp only [List.cons_append, readMembers, read rest, Option.map_some, List.map_map, Function.comp_def]

theorem ofJsonText?_of_layout (layout : Layout .data text) (level : Nat) (map : SourceMap) :
    ofJsonText? (text level map.toJson) = some map := by
  rw [ofJsonText?, (reads_toJson layout level map).readWhole]
  exact ofMembers_written map

theorem ofJsonText?_render (map : SourceMap) : ofJsonText? (map.toJson.render .data) = some map :=
  ofJsonText?_of_layout (Json.layout_render .data) 0 map

end UniversalModule.SourceMap
