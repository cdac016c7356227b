import WarehouseAdapter.Pattern.Basic
import WarehouseAdapter.Text.Utf8

/-!
# The size of a pattern

A pattern stands for an automaton over bytes, and one that takes more than ten mebibytes is refused.
A state takes 32 bytes, an unlabelled transition out of a choice takes 4 more and a labelled one
out of a branching state 8 more. The automaton exists in two forms, which read a text forward, with
the places of the groups, and backward, without them; both are bounded.
-/

namespace WarehouseAdapter.Pattern

/-- The nodes of the tree of some byte forms, each as the forms below it; `depth` bounds the bytes. -/
def formNodes : Nat → List ByteRanges → List (List ByteRanges)
  | 0, _ => []
  | depth + 1, forms =>
    let inner := forms.filter (· ≠ [])
    if inner.isEmpty then []
    else
      inner :: (inner.splitBy fun f g => f.head? == g.head?).flatMap fun below =>
        formNodes depth (below.map List.tail)

def heads (forms : List ByteRanges) : Nat :=
  (forms.splitBy fun f g => f.head? == g.head?).length

/-- Forward, equal ends of forms share their states; backward, equal beginnings do. -/
def setSize (backward : Bool) (s : CharSet) : Nat :=
  if s.ranges.all (·.2 < 0x80) then 64 + 8 * s.ranges.length
  else
    let forms := s.ranges.flatMap fun r => utf8Forms r.1 r.2
    let nodes := formNodes 4 forms
    if backward then 64 + 4 * forms.length + 32 * total (nodes.map heads)
    else 32 + total (nodes.eraseDups.map fun n => 32 + 8 * heads n)

/-- The words before each end of a word and those behind the last one; ends with nothing before any
of them count once. -/
def chunks (ws : List (List UInt8)) : List (List (List UInt8)) :=
  let rest := ws.dropWhile List.isEmpty
  let cut := rest.splitOnP List.isEmpty
  if rest.length < ws.length then [] :: cut else cut

/-- A branching state and the way to it. -/
def branchingSize : Nat → Nat
  | 0 => 0
  | 1 => 36
  | n => 36 + 8 * n

/-- The tree of some words, with a choice at each node and a branching state for each chunk. -/
def treeSize : Nat → List (List UInt8) → Nat
  | 0, _ => 0
  | depth + 1, ws =>
    if ws.all List.isEmpty then 0
    else
      let parts := chunks ws
      let sizes := parts.flatMap fun chunk =>
        let firsts := (chunk.filterMap List.head?).eraseDups
        branchingSize firsts.length :: firsts.map fun b =>
          treeSize depth ((chunk.filter (·.head? == some b)).map List.tail)
      32 + 4 * (parts.length - 1) + total sizes

def wordsSize (backward : Bool) (ws : List (List Char)) : Nat :=
  let forms := ws.map fun w => if backward then (utf8Bytes w).reverse else utf8Bytes w
  match forms with
  | [w] => 32 * w.length
  | ws => 32 + treeSize ((ws.map List.length).foldl max 0 + 1) ws

/-- The least number of characters of a match, if there is one at all. -/
def leastLength? : Pattern → Option Nat
  | empty => some 0
  | words ws => (ws.map List.length).min?
  | one s => if s.ranges.isEmpty then none else some 1
  | anchor _ => some 0
  | seq p q => do return (← p.leastLength?) + (← q.leastLength?)
  | alt p q => do return min (← p.leastLength?) (← q.leastLength?)
  | repeated least _ p => p.leastLength?.map (least * ·)
  | group p => p.leastLength?

/-- Size of a repetition, given the size of what is repeated and whether that takes a character. -/
def repeatedSize (least : Nat) (most : Option Nat) (n : Nat) (takes : Bool) : Nat :=
  match least, most with
  | 0, some 1 => n + 72
  | 0, none => if takes then n + 40 else n + 112
  | least, none => least * n + 40
  | least, some most =>
    if least = most then least * n
    else (if least = 0 then 32 else least * n) + 32 + (most - least) * (n + 40)

/-- A choice has a state for its start and one for its end. -/
def size (backward : Bool) : Pattern → Nat
  | empty => 32
  | words ws => wordsSize backward ws
  | one s => setSize backward s
  | anchor _ => 32
  | seq p q => p.size backward + q.size backward
  | alt p q =>
    let rest := q.size backward
    match q with
    | alt _ _ => p.size backward + 4 + rest
    | _ => 64 + (p.size backward + 4) + (rest + 4)
  | repeated least most p => repeatedSize least most (p.size backward) (p.leastLength?.any (0 < ·))
  | group p => if backward then p.size backward else 64 + p.size backward

/-- Whether every match begins at a place that an anchor fixes, or ends there when read backward. -/
def isFixed (backward : Bool) (a : Anchor) : Pattern → Bool
  | anchor b => a = b
  | seq p q =>
    let first := p.isFixed backward a
    let last := q.isFixed backward a
    if backward then last || q.onlyEmpty && first else first || p.onlyEmpty && last
  | alt p q => p.isFixed backward a && q.isFixed backward a
  | repeated least _ p => 0 < least && p.isFixed backward a
  | group p => p.isFixed backward a
  | _ => false

/-- An automaton whose matches may begin anywhere passes over any bytes first. -/
def automatonSize (backward : Bool) (p : Pattern) : Nat :=
  let fixed := p.isFixed backward (if backward then .textEnd else .textStart)
  32 + (if fixed then 32 else 112) + (group p).size backward

def sizeLimit : Nat := 10 * Nat.pow 2 20

def isTooLarge (p : Pattern) : Bool :=
  sizeLimit < p.automatonSize false || sizeLimit < p.automatonSize true

end WarehouseAdapter.Pattern
