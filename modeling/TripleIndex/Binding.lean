import TripleIndex.Fault

/-!
Bindings of variables to terms, in the order in which they were made. A variable that has a value
keeps it.
-/

namespace TripleIndex

abbrev Binding := List (String × Term)

namespace Binding

def get? (b : Binding) (name : String) : Option Term := b.lookup name

def has (b : Binding) (name : String) : Bool := (b.get? name).isSome

/-- Bind a variable unless it has a value. -/
def bind (b : Binding) (name : String) (value : Term) : Binding :=
  if b.has name then b else b ++ [(name, value)]

/-- The value of a variable, which must have one. -/
def value (b : Binding) (name : String) : Except Fault Term :=
  match b.get? name with
  | some t => .ok t
  | none => .error (.unknownKey name)

/-- Every variable of one binding has the same value in the other. -/
def within (a b : Binding) : Bool :=
  a.all fun (name, t) => ((b.get? name).map t.same).getD false

/-- Equal bindings agree on every variable, in whatever order they were made. -/
def same (a b : Binding) : Bool := a.length = b.length && a.within b

/-- The bindings of a list, each once. -/
def distinct (bs : List Binding) : List Binding :=
  bs.foldl (fun seen b => if seen.any (same · b) then seen else seen ++ [b]) []

def text (b : Binding) : String :=
  "Binding(" ++ ", ".intercalate (b.map fun (name, t) => "?" ++ name ++ "=" ++ t.text) ++ ")"

def written (b : Binding) : Except Fault String :=
  TripleIndex.written (b.all fun e => e.2.isWritable) b.text

theorem get?_nil (name : String) : get? [] name = none := rfl

theorem get?_bind_self (b : Binding) (name : String) (value : Term) :
    (b.bind name value).get? name = some ((b.get? name).getD value) := by
  unfold bind has
  cases h : b.get? name with
  | some t => simp [h]
  | none =>
    simp only [Option.isSome_none, Bool.false_eq_true, if_false, Option.getD_none]
    simp only [get?] at h ⊢
    rw [List.lookup_append, h]
    simp

end Binding

end TripleIndex
