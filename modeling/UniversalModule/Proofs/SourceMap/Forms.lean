import UniversalModule.Proofs.SourceMap.Reading
import UniversalModule.Proofs.Text.Base64
import UniversalModule.Proofs.Text.Utf8

/-!
The texts in which a map travels: JSON over several lines, the data URI with compact JSON, and the
comment with the URI. Each gives the map back, so maps that differ share none of them.
-/

namespace UniversalModule.SourceMap

def ofDataUri? (uri : Text) : Option SourceMap := do
  let payload ← Text.after? uriStart uri
  let bytes ← Base64.decode? payload
  let json ← Text.ofUtf8? bytes
  ofJsonText? json

theorem ofJsonText?_jsonText (map : SourceMap) : ofJsonText? map.jsonText = some map :=
  ofJsonText?_of_layout Json.layout_renderPretty 0 map

theorem ofDataUri?_dataUri (map : SourceMap) : ofDataUri? map.dataUri = some map := by
  have payload : Text.after? uriStart map.dataUri =
      some (Base64.encode (Text.utf8 (map.toJson.render .data))) := Text.after?_eq_some_iff.mpr rfl
  simp only [ofDataUri?, payload, Base64.decode?_encode, Text.ofUtf8?_utf8, Option.bind_eq_bind,
    Option.bind_some]
  exact ofJsonText?_render map

theorem after?_comment (map : SourceMap) : Text.after? commentStart map.comment = some map.dataUri :=
  Text.after?_eq_some_iff.mpr rfl

/-- The members of a map by their names. A file that is not given and contents of which there are none
are left out. -/
theorem exists_toJson (map : SourceMap) :
    ∃ members, map.toJson = .object members ∧
      ("file".toList ∈ Keyed.keys members ↔ map.file ≠ none) ∧
      ("sourcesContent".toList ∈ Keyed.keys members ↔ map.sourcesContent ≠ []) := by
  refine ⟨(written map).map Prod.fst, toJson_eq_written map, ?_⟩
  obtain ⟨version, file, sources, contents, names, mappings⟩ := map
  cases file <;> cases contents <;> simp [written, Keyed.keys]

def forms (map : SourceMap) : List Text := [map.jsonText, map.dataUri, map.comment]

/-- The map in any of its forms, which differ in their first characters. -/
def ofForm? : Text → Option SourceMap
  | '/' :: rest => (Text.after? commentStart ('/' :: rest)).bind ofDataUri?
  | 'd' :: rest => ofDataUri? ('d' :: rest)
  | text => ofJsonText? text

theorem ofForm?_of_mem_forms {map : SourceMap} {form : Text} (member : form ∈ map.forms) :
    ofForm? form = some map := by
  simp only [forms, List.mem_cons, List.not_mem_nil, or_false] at member
  rcases member with rfl | rfl | rfl
  · exact ofJsonText?_jsonText map
  · exact ofDataUri?_dataUri map
  · have uri := after?_comment map
    have opened : ofForm? map.comment = (Text.after? commentStart map.comment).bind ofDataUri? := rfl
    rw [opened, uri, Option.bind_some]
    exact ofDataUri?_dataUri map

/-- A map comes back from each of its forms, whatever is left out in them. The comment is the data URI
behind a fixed start, and the URI is a fixed start with digits to the base sixty-four. Maps that differ
share no form. -/
theorem forms_recover (map : SourceMap) :
    (∃ members, map.toJson = .object members ∧
      ("file".toList ∈ Keyed.keys members ↔ map.file ≠ none) ∧
      ("sourcesContent".toList ∈ Keyed.keys members ↔ map.sourcesContent ≠ [])) ∧
    ofJsonText? map.jsonText = some map ∧
    (∃ payload, map.dataUri = "data:application/json;charset=utf-8;base64," ++ payload ∧
      map.comment = "//# sourceMappingURL=" ++ map.dataUri ∧
      (∀ c ∈ payload, Base64.isWritten c = true) ∧
      ((Base64.decode? payload).bind Text.ofUtf8?).bind ofJsonText? = some map) ∧
    ∀ other : SourceMap, (∃ form, form ∈ map.forms ∧ form ∈ other.forms) ↔ other = map := by
  refine ⟨exists_toJson map, ofJsonText?_jsonText map, ⟨_, rfl, rfl, ?_, ?_⟩, ?_⟩
  · intro c member
    exact Base64.isWritten_of_mem_encode member
  · rw [Base64.decode?_encode, Option.bind_some, Text.ofUtf8?_utf8, Option.bind_some]
    exact ofJsonText?_render map
  · intro other
    constructor
    · rintro ⟨form, member, otherMember⟩
      have found := ofForm?_of_mem_forms otherMember
      rw [ofForm?_of_mem_forms member] at found
      exact (Option.some.inj found).symm
    · rintro rfl
      exact ⟨other.jsonText, List.mem_cons_self, List.mem_cons_self⟩

end UniversalModule.SourceMap
