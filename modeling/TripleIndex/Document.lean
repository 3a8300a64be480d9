import TripleIndex.Scalar

/-!
Flat documents: fields with their values, each field once, in the order in which they were entered.
-/

namespace TripleIndex

abbrev Document := List (String × Scalar)

namespace Document

def sorted (d : Document) : Document := d.mergeSort fun a b => a.1 ≤ b.1

end Document

end TripleIndex
