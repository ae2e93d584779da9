import UniversalModule.Proofs.SourceMap.Reading
import UniversalModule.Proofs.Text.Base64
import UniversalModule.Proofs.Text.Rows
import UniversalModule.Proofs.Text.Utf8

/-!
The map that a script carries in the comment of its last row, and its way through JSON, bytes and
digits to the base sixty-four and back.
-/

namespace UniversalModule.SourceMap

def ofScript? (code : Text) : Option SourceMap := do
  let row ← code.rows.getLast?
  let payload ← Text.after? (commentStart ++ uriStart) row
  let bytes ← Base64.decode? payload
  let json ← Text.ofUtf8? bytes
  ofJsonText? json

theorem feed_notMem_comment (map : SourceMap) : '\n' ∉ map.comment := by
  have starts : '\n' ∉ commentStart ++ uriStart := by decide
  intro member
  rw [comment, dataUri, ← List.append_assoc, List.mem_append] at member
  rcases member with start | digit
  · exact starts start
  · exact absurd (Base64.isWritten_of_mem_encode digit) (by decide +kernel)

/-- After a complete text the comment is a row of its own, the last one. -/
theorem rows_append_comment {code : Text} (complete : code.Complete) (map : SourceMap) :
    (code ++ map.comment ++ ['\n']).rows = code.rows ++ [map.comment] := by
  rw [List.append_assoc, Text.rows_append complete,
    Text.rows_append_feed (feed_notMem_comment map)]
  rfl

/-- A script gives back the map whose comment was appended to it. -/
theorem ofScript?_append_comment {code : Text} (complete : code.Complete) (map : SourceMap) :
    ofScript? (code ++ map.comment ++ ['\n']) = some map := by
  have last : (code.rows ++ [map.comment]).getLast? = some map.comment := by simp
  have payload : Text.after? (commentStart ++ uriStart) map.comment =
      some (Base64.encode (Text.utf8 (map.toJson.render .data))) := by
    rw [Text.after?_eq_some_iff, comment, dataUri, List.append_assoc]
  simp only [ofScript?, rows_append_comment complete, last, payload, Base64.decode?_encode,
    Text.ofUtf8?_utf8, Option.bind_eq_bind, Option.bind_some]
  exact ofJsonText?_render map

end UniversalModule.SourceMap
