import UniversalModule.Text.Blank

/-!
Access paths written with dots. Blanks around the path and around a segment do not count, and no
segment is blank.
-/

namespace UniversalModule.DottedPath

/-- The segments of a dotted path, unless the path or one of them is blank. -/
def segments? (dotted : Text) : Option (List Text) :=
  let path := dotted.trim
  if path.isEmpty then none
  else
    let segments := (Text.splitAt '.' path).map Text.trim
    if segments.any (·.isEmpty) then none else some segments

end UniversalModule.DottedPath
