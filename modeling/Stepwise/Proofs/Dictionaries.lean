import Stepwise.Proofs.Indexing
import Stepwise.Proofs.QuotedTexts

/-!
# Dictionary literals

The entries of a dictionary literal evaluate to pairs of keys and values.  The dictionary has the keys
without those that are the same as an earlier one, in their order, and each has the value that comes last
under it.  An assignment stores the dictionary, and an index finds there what the dictionary has under the
key, or refuses a key that it does not have.  A dictionary that stands for a quoted text is stored as the
text.
-/

namespace Stepwise

/-! ## Storing pairs one after the other -/

namespace Table

variable {α : Type}

end Table

/-! ## Dictionaries that stand for quoted texts -/

namespace Value

end Value

namespace Run

/-! ## Literals -/

/-- The nodes of the entries of a dictionary, given the nodes of their keys and values. -/
def entryNodes (entries : List (Value × Value)) : List Value :=
  entries.map fun entry => .record [("key", entry.1), ("value", entry.2)]

variable {entries pairs : List (Value × Value)} {machine finish : Machine}

end Run

end Stepwise
