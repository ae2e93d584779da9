import UniversalModule.Path
import UniversalModule.Text.Utf8

/-!
Names in folders. A name is any bytes without a separator, so that not every name is a text; where a
text is wanted, what is none is replaced. A location is the list of names on the way from the root.
-/

namespace UniversalModule.Host

structure Name where
  bytes : Bytes
deriving DecidableEq

namespace Name

def ofText (text : Text) : Name := ⟨text.utf8⟩

instance : Coe Text Name := ⟨ofText⟩

/-- The name as a text, with U+FFFD where it is none. -/
def text (name : Name) : Text := Text.ofUtf8Lossy name.bytes

def here : Name := ⟨[0x2E]⟩

def above : Name := ⟨[0x2E, 0x2E]⟩

def isEmpty (name : Name) : Bool := name.bytes.isEmpty

def isSkipped (name : Name) : Bool := name.isEmpty || name == here

def separator : UInt8 := 0x2F

/-- The names of a path, empty ones included. -/
def ofPath (path : Bytes) : List Name := (Text.splitAt separator path).map Name.mk

end Name

abbrev Location := List Name

/-- The path of a location from the root, as bytes. -/
def Location.bytes (place : Location) : Bytes :=
  if place.isEmpty then [Name.separator] else place.flatMap fun name => Name.separator :: name.bytes

end UniversalModule.Host
