import UniversalModule.Json.Writer
import UniversalModule.Text.Base64

/-!
Source maps of version three and the texts in which they travel: JSON, a data URI with the JSON
in base 64, and a comment with that URI for the last line of a script. A file name that is not
given and contents that are not given are left out.
-/

namespace UniversalModule

structure SourceMap where
  version : UInt8
  file : Option Text
  sources : List Text
  sourcesContent : List (Option Text)
  names : List Text
  mappings : Text
deriving DecidableEq

namespace SourceMap

open Json (Value Whole)

def versionValue (version : UInt8) : Value :=
  .whole ⟨version.toNat, by have := version.toNat_lt; rw [twoTo_63, twoTo_64]; omega⟩

def texts (items : List Text) : Value := .array (items.map .string)

def optionalText : Option Text → Value
  | none => .null
  | some text => .string text

/-- The members of a map as JSON, in their order. -/
def toJson (map : SourceMap) : Value :=
  .object
    ([("version".toList, versionValue map.version)] ++
      (match map.file with
        | none => []
        | some file => [("file".toList, .string file)]) ++
      [("sources".toList, texts map.sources)] ++
      (if map.sourcesContent.isEmpty then []
        else [("sourcesContent".toList, .array (map.sourcesContent.map optionalText))]) ++
      [("names".toList, texts map.names), ("mappings".toList, .string map.mappings)])

def jsonText (map : SourceMap) : Text := map.toJson.renderPretty 0

def uriStart : Text := "data:application/json;charset=utf-8;base64,"

def dataUri (map : SourceMap) : Text :=
  uriStart ++ Base64.encode (Text.utf8 (map.toJson.render .data))

def commentStart : Text := "//# sourceMappingURL="

def comment (map : SourceMap) : Text := commentStart ++ map.dataUri

end SourceMap

end UniversalModule
