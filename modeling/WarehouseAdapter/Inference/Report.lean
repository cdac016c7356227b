import WarehouseAdapter.DataType.Text
import WarehouseAdapter.Text.Quoted

/-!
# Reports of columns without a settled type
-/

namespace WarehouseAdapter

/-- Every column whose type could not be settled, over a whole frame. -/
structure InferenceReport where
  /-- Columns without a candidate type. -/
  unresolved : List String := []
  /-- Columns with several candidate types. -/
  ambiguous : List (String × List DataType) := []
deriving DecidableEq, Repr

namespace InferenceReport

def isEmpty (r : InferenceReport) : Bool := r.unresolved.isEmpty && r.ambiguous.isEmpty

def unresolvedText (columns : List String) : String :=
  "Unable to infer type of column(s) " ++ quotedList columns ++
    ". Try supplying explicit type overrides:\n\t" ++
    ",\n\t".intercalate (columns.map (· ++ ": <explicit type>"))

def ambiguousText (columns : List (String × List DataType)) : String :=
  "Multiple types found for column(s):" ++
    String.join (columns.map fun (column, types) =>
      "\n" ++ column ++ ":" ++ String.join (types.map fun t => "\n\t" ++ t.text))

def message (r : InferenceReport) : String :=
  "\n".intercalate <|
    (if r.unresolved.isEmpty then [] else [unresolvedText r.unresolved]) ++
      (if r.ambiguous.isEmpty then [] else [ambiguousText r.ambiguous])

end InferenceReport

end WarehouseAdapter
