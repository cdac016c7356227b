import WarehouseAdapter.Text.Basic
import WarehouseAdapter.Text.CaseFold
import WarehouseAdapter.Text.Word

/-!
# Sets of characters

A set is kept as its ranges of code points, in order and apart from one another, so that sets with
the same members are the same value.
-/

namespace WarehouseAdapter

structure CharSet where
  ranges : List (Nat × Nat)
deriving DecidableEq, Repr

namespace CharSet

def none : CharSet := ⟨[]⟩

def word : CharSet := ⟨wordRanges⟩

def digit : CharSet := ⟨digitRanges⟩

def blank : CharSet := ⟨blankRanges⟩

def range (low high : Nat) : CharSet := ⟨[(low, high)]⟩

def single (c : Char) : CharSet := range c.toNat c.toNat

def contains (s : CharSet) (c : Char) : Bool := inRanges s.ranges c

def holds (s : CharSet) (n : Nat) : Bool := s.ranges.any fun r => r.1 ≤ n && n ≤ r.2

/-- A range put in its place among others and joined with those that it meets. -/
def insertRange (low high : Nat) : List (Nat × Nat) → List (Nat × Nat)
  | [] => [(low, high)]
  | (a, b) :: rest =>
    if high + 1 < a then (low, high) :: (a, b) :: rest
    else if b + 1 < low then (a, b) :: insertRange low high rest
    else insertRange (min low a) (max high b) rest

def insert (n : Nat) (s : CharSet) : CharSet := ⟨insertRange n n s.ranges⟩

def union (s t : CharSet) : CharSet :=
  ⟨s.ranges.foldr (fun r rs => insertRange r.1 r.2 rs) t.ranges⟩

def unionAll (sets : List CharSet) : CharSet := sets.foldr union none

/-- What some ranges leave out of the code points from a start on. -/
def gapsFrom (start : Nat) : List (Nat × Nat) → List (Nat × Nat)
  | [] => if start ≤ 0x10FFFF then [(start, 0x10FFFF)] else []
  | (a, b) :: rest =>
    if start < a then (start, a - 1) :: gapsFrom (b + 1) rest else gapsFrom (b + 1) rest

def compl (s : CharSet) : CharSet := ⟨gapsFrom 0 s.ranges⟩

def inter (s t : CharSet) : CharSet := (s.compl.union t.compl).compl

def diff (s t : CharSet) : CharSet := s.inter t.compl

/-- The members of just one of two sets. -/
def either (s t : CharSet) : CharSet := (s.diff t).union (t.diff s)

/-- Adds the second code point of each pair whose first one is a member. -/
def follow (pairs : List (Nat × Nat)) (s : CharSet) : CharSet :=
  pairs.foldl (fun t p => if t.holds p.1 && !t.holds p.2 then t.insert p.2 else t) s

/-- Adds all spellings of the letters of a set, by pairs of a letter and the one it folds to. -/
def allCases (pairs : List (Nat × Nat)) (s : CharSet) : CharSet :=
  (s.follow pairs).follow (pairs.map Prod.swap)

/-- The only member of a set. -/
def onlyChar? (s : CharSet) : Option Char :=
  match s.ranges with
  | [(low, high)] => if low = high then some (Char.ofNat low) else .none
  | _ => .none

end CharSet

end WarehouseAdapter
