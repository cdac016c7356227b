import WarehouseAdapter.Pattern.CharSet

/-!
# Patterns

Regular expressions over characters. `concat`, `alternation` and `repetition` build them in a
normal form: neighbouring characters form one word, sequences and alternatives are flat,
alternatives that are single characters form one set, a common beginning of alternatives is taken
out of them, and what matches only the empty text is repeated at most once.
-/

namespace WarehouseAdapter

/-- A condition on a place of a text. -/
inductive Anchor
  | textStart | textEnd | lineStart | lineEnd | boundary | noBoundary
  | wordStart | wordEnd | halfWordStart | halfWordEnd
deriving DecidableEq, Repr

namespace Anchor

def holds (before after : Option Char) (a : Anchor) : Bool :=
  let left := before.any isWordChar
  let right := after.any isWordChar
  match a with
  | textStart => before.isNone
  | textEnd => after.isNone
  | lineStart => before.all (· == '\n')
  | lineEnd => after.all (· == '\n')
  | boundary => left != right
  | noBoundary => left == right
  | wordStart => !left && right
  | wordEnd => left && !right
  | halfWordStart => !left
  | halfWordEnd => !right

end Anchor

inductive Pattern
  | empty
  | words (ws : List (List Char))
  | one (set : CharSet)
  | anchor (a : Anchor)
  | seq (p q : Pattern)
  | alt (p q : Pattern)
  | repeated (least : Nat) (most : Option Nat) (p : Pattern)
  | group (p : Pattern)
deriving DecidableEq, Repr

namespace Pattern

def word (w : List Char) : Pattern := words [w]

def ofSet (s : CharSet) : Pattern :=
  match s.onlyChar? with
  | some c => word [c]
  | none => one s

/-- The members of a sequence. -/
def parts : Pattern → List Pattern
  | empty => []
  | seq p q => p :: q.parts
  | p => [p]

def ofParts : List Pattern → Pattern
  | [] => empty
  | [p] => p
  | p :: ps => seq p (ofParts ps)

/-- Puts a pattern before the members of a sequence; a word grows into the word behind it. -/
def prepend : Pattern → List Pattern → List Pattern
  | words [v], words [w] :: ps => word (v ++ w) :: ps
  | p, ps => p :: ps

def concat (ps : List Pattern) : Pattern := ofParts ((ps.flatMap parts).foldr prepend [])

def branches : Pattern → List Pattern
  | words ws => ws.map word
  | alt p q => p :: q.branches
  | p => [p]

def ofBranches : List Pattern → Pattern
  | [] => one .none
  | [p] => p
  | p :: ps => alt p (ofBranches ps)

def word? : Pattern → Option (List Char)
  | words [w] => some w
  | _ => none

def char? : Pattern → Option CharSet
  | words [[c]] => some (.single c)
  | _ => none

def set? : Pattern → Option CharSet
  | one s => some s
  | _ => none

/-- Alternatives of which none begins like all others. -/
def unite (ps : List Pattern) : Pattern :=
  match ps.flatMap branches with
  | [p] => p
  | ps =>
    match ps.mapM char?, ps.mapM set?, ps.mapM word? with
    | some sets, _, _ => ofSet (.unionAll sets)
    | _, some sets, _ => ofSet (.unionAll sets)
    | _, _, some ws => words ws
    | _, _, _ => ofBranches ps

def hasGroup : Pattern → Bool
  | seq p q => p.hasGroup || q.hasGroup
  | alt p q => p.hasGroup || q.hasGroup
  | repeated _ _ p => p.hasGroup
  | group _ => true
  | _ => false

/-- Number of members, none with a group, with which two sequences begin alike. -/
def commonParts : List Pattern → List Pattern → Nat
  | p :: ps, q :: qs => if p = q && !p.hasGroup then commonParts ps qs + 1 else 0
  | _, _ => 0

/-- The members with which all alternatives begin, if each is a sequence. -/
def commonBeginning : List Pattern → List Pattern
  | p :: ps =>
    if (p :: ps).all fun p => 1 < p.parts.length then
      ps.foldl (fun first q => first.take (commonParts first q.parts)) p.parts
    else []
  | [] => []

def alternation (ps : List Pattern) : Pattern :=
  match ps.flatMap branches with
  | [p] => p
  | ps =>
    match commonBeginning ps with
    | [] => unite ps
    | first => concat (first ++ [unite (ps.map fun p => concat (p.parts.drop first.length))])

/-- Whether all matches are empty. -/
def onlyEmpty : Pattern → Bool
  | empty => true
  | words _ => false
  | one _ => false
  | anchor _ => true
  | seq p q => p.onlyEmpty && q.onlyEmpty
  | alt p q => p.onlyEmpty && q.onlyEmpty
  | repeated _ most p => most.isSome && p.onlyEmpty
  | group p => p.onlyEmpty

def repetition (least : Nat) (most : Option Nat) (p : Pattern) : Pattern :=
  let (least, most) :=
    if p.onlyEmpty then (min least 1, some (min (most.getD 1) 1)) else (least, most)
  if most = some 0 then empty
  else if least = 1 && most = some 1 then p
  else repeated least most p

end Pattern

end WarehouseAdapter
