import TripleIndex.Json.Print
import TripleIndex.Json.Read
import TripleIndex.Settings

/-!
Settings kept in a JSON document.
-/

namespace TripleIndex.Settings

/-- The document that settings are saved as. -/
def saved (s : Settings) : Except Fault String := written s.toValue.isWritable s.toValue.text

/-- Settings from a document, or the defaults when there is none. -/
def ofDocument : Option String → Except Fault Settings
  | none => .ok default
  | some text => (JsonValue.ofDocument text).bind ofValue

end TripleIndex.Settings
