import TripleIndex.Codec

/-!
Which codec takes the literals of a datatype. A datatype has one codec at most, and literals of the
other datatypes, or of none, go to the codec that catches all.
-/

namespace TripleIndex

structure Registry where
  codecs : List (String × Codec)
  catchAll : Codec
  deriving DecidableEq, Repr

namespace Registry

def register (codec : Codec) :
    List String → List (String × Codec) → Except Fault (List (String × Codec))
  | [], known => .ok known
  | d :: ds, known =>
    if (known.lookup d).isSome then .error (.datatypeTwice d)
    else register codec ds (known ++ [(d, codec)])

def registerAll : List Codec → List (String × Codec) → Except Fault (List (String × Codec))
  | [], known => .ok known
  | c :: cs, known =>
    match register c c.datatypes known with
    | .error e => .error e
    | .ok more => registerAll cs more

def ofCodecs (codecs : List Codec) (catchAll : Codec) : Except Fault Registry :=
  (registerAll codecs []).map fun known => ⟨known, catchAll⟩

def ofFamily (family : CodecFamily) : List (String × Codec) :=
  family.datatypes.map fun d => (d, ⟨family, family.datatypes⟩)

/-- Numbers, dates and truth values of XML Schema have their codecs, the rest is text. -/
def default : Registry :=
  ⟨ofFamily .numeric ++ ofFamily .date ++ ofFamily .boolean, ⟨.text, []⟩⟩

def lookup (r : Registry) (datatype : Option String) : Codec :=
  match datatype with
  | none => r.catchAll
  | some d => (r.codecs.lookup d).getD r.catchAll

def forLiteral (r : Registry) (l : Literal) : CodecFamily :=
  match l.datatype with
  | some (.text d) => (r.lookup (some d)).family
  | _ => r.catchAll.family

/-- Whether the codec that catches all takes a datatype. -/
def leavesToCatchAll (r : Registry) : Option String → Bool
  | none => true
  | some d => (r.codecs.lookup d).isNone

def size (r : Registry) : Nat := r.codecs.length

def contains (r : Registry) (datatype : String) : Bool := (r.codecs.lookup datatype).isSome

def datatypes (r : Registry) : List String := (r.codecs.map (·.1)).mergeSort (· ≤ ·)

end Registry

end TripleIndex
