import WarehouseAdapter.Pattern.Reading
import WarehouseAdapter.Pattern.Span
import WarehouseAdapter.PatternLibrary

/-!
# Patterns as a library

The patterns of this folder serve as a library. They cover the common part of the syntax and need
not agree with other libraries outside of it: classes by Unicode property are not read, the flag for
carriage returns changes nothing, word boundaries always go by Unicode, and in verbose mode blanks
and comments are passed over between the parts of a pattern only.
-/

namespace WarehouseAdapter

instance : PatternLibrary where
  Compiled := Pattern
  compile? := Pattern.ofText?
  isMatch p text := p.isMatch text.toList

end WarehouseAdapter
