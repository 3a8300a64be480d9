import TripleIndex.Memory
import TripleIndex.Reader

/-!
An index with its readers in one memory. A reader that is opened is given the places of the index, and from
then on they are shared. The first change after that makes a copy of the index and goes on in the copy, which
nobody shares; the changes after it are made in place, until the next reader is opened. Whatever is refused
changes nothing and copies nothing.
-/

namespace TripleIndex

structure SharedIndex where
  schema : Schema
  memory : Memory
  current : Layout
  shared : Bool
  readers : List (Option Layout)

namespace SharedIndex

def empty (schema : Schema) : SharedIndex :=
  let (memory, current) := Memory.start schema
  ⟨schema, memory, current, false, []⟩

def content (s : SharedIndex) : Index := s.memory.read s.schema s.current

/-- What a reader sees at present in the places that it was given. -/
def reader (s : SharedIndex) (place : Nat) : Reader :=
  match s.readers[place]? with
  | some (some l) => .opened (s.memory.read s.schema l)
  | _ => .closed

def openReader (s : SharedIndex) : SharedIndex :=
  { s with shared := true, readers := s.readers ++ [some s.current] }

def closeReader (s : SharedIndex) (place : Nat) : SharedIndex :=
  { s with readers := s.readers.set place none }

/-- Copy the index if its places are shared. -/
def writable (s : SharedIndex) : SharedIndex :=
  if s.shared then
    let (memory, current) := s.memory.copy s.current
    { s with memory := memory, current := current, shared := false }
  else s

/-- Write a document, which needs an identifier and values that suit their fields. -/
def write (s : SharedIndex) (d : Document) : Except Fault SharedIndex := do
  if !((d.lookup Field.id).getD .null).isSet then .error .noId
  else
    let stored ← Index.convertAll s.schema d
    let id := s.content.newId ((stored.lookup Field.id).getD .null)
    let w := s.writable
    return { w with memory := w.memory.put w.current id stored }

/-- Remove the documents that a query selects, and tell how many they were. -/
def delete (s : SharedIndex) (f : Filter) : SharedIndex × Except Fault Nat :=
  match s.content.evaluate f none with
  | .error e => (s, .error e)
  | .ok selected =>
    if selected.isEmpty then (s, .ok 0)
    else
      let w := s.writable
      let (memory, outcome) := w.memory.removeAll w.current selected.toList
      ({ w with memory := memory }, outcome.map fun _ => selected.size)

/-- Remove the documents that the text of a query selects. -/
def deleteText (s : SharedIndex) (text : String) : SharedIndex × Except Fault Nat :=
  match Filter.ofText text with
  | .error e => (s, .error e)
  | .ok f => s.delete f

end SharedIndex

end TripleIndex
