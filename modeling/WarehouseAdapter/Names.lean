/-!
# Repeated names

The names of a list that occur more than once, in the order in which they are met for the second
time.
-/

namespace WarehouseAdapter

/-- Repeated names of `names`, where the names of `seen` have gone before. -/
def repeatedAfter (seen : List String) : List String → List String
  | [] => []
  | name :: rest =>
    if seen.count name = 1 then name :: repeatedAfter (name :: seen) rest
    else repeatedAfter (name :: seen) rest

def repeatedNames (names : List String) : List String := repeatedAfter [] names

end WarehouseAdapter
