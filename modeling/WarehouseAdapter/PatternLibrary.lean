/-!
# Libraries of patterns

What the adapter asks of a library of regular expressions: a text is compiled to a pattern unless it
is none, and a pattern is searched for in a text.
-/

namespace WarehouseAdapter

class PatternLibrary where
  Compiled : Type
  compile? : String → Option Compiled
  /-- Whether the pattern has a match anywhere in the text. -/
  isMatch : Compiled → String → Bool

end WarehouseAdapter
