import WarehouseAdapter.Pattern.Escape
import WarehouseAdapter.Pattern.Size
import WarehouseAdapter.Text.Letter

/-!
# Reading patterns from text

Alternatives, sequences, repetitions, groups and bracketed sets. Flags given inside a group hold up
to its end. A repetition needs something to repeat, and the name of a group is given once. Patterns
whose parts nest too deeply and those that grow too large are refused.
-/

namespace WarehouseAdapter.Pattern

/-- A number that fits in 32 bits, with blanks around it. -/
def readCount? (s : List Char) : Option (Nat × List Char) :=
  let r := skipBlank s
  let ds := r.takeWhile Char.isDigit
  let n := ds.foldl (fun n c => 10 * n + (c.toNat - 48)) 0
  if ds.isEmpty || UInt32.size ≤ n then none else some (n, skipBlank (r.dropWhile Char.isDigit))

/-- The end of a counted repetition with both bounds. -/
def endBounds? (least most : Nat) : List Char → Option ((Nat × Option Nat) × List Char)
  | '\x7d' :: r => if least ≤ most then some ((least, some most), r) else none
  | _ => none

/-- The rest of a counted repetition after its lower bound. -/
def readMost? (least : Nat) : List Char → Option ((Nat × Option Nat) × List Char)
  | '\x7d' :: r => some ((least, some least), r)
  | ',' :: '\x7d' :: r => some ((least, none), r)
  | ',' :: r => do
    let (most, r) ← readCount? r
    endBounds? least most r
  | _ => none

/-- The bounds of a counted repetition after its brace. -/
def readBounds? (s : List Char) : Option ((Nat × Option Nat) × List Char) := do
  let (least, r) ← readCount? s
  readMost? least r

/-- Passes over the mark that makes a repetition prefer fewer rounds. -/
def skipLazy : List Char → List Char
  | '?' :: r => r
  | r => r

/-- Something read, with the depth to which its parts are nested. -/
structure Nested (α : Type) where
  value : α
  depth : Nat

/-- Depth of parts side by side; a single part adds no depth. -/
def depthBeside : List Nat → Nat
  | [] => 0
  | [d] => d
  | ds => ds.foldl max 0 + 1

def isBracketChar (c : Char) : Bool := c == ']' || c == '-'

/-- A character or a set inside brackets. -/
def readSetItem? (m : Mode) : List Char → Option (Escape × List Char)
  | '\\' :: r =>
    match readEscape? m r with
    | some (.anchor _, _) => none
    | item => item
  | c :: r => some (.char c, r)
  | [] => none

def Escape.toSet : Escape → CharSet
  | .char c => .single c
  | .set s => s
  | .anchor _ => .none

/-- The characters from one to another one. -/
def Escape.rangeTo? : Escape → Escape → Option CharSet
  | .char a, .char b => if a ≤ b then some (.range a.toNat b.toNat) else none
  | _, _ => none

/-- What follows a character or an abbreviation inside brackets, which may make it a range. -/
def readRangeEnd? (m : Mode) (low : Escape) : List Char → Option (CharSet × List Char)
  | '-' :: c :: r =>
    if isBracketChar c then some (low.toSet, '-' :: c :: r)
    else do
      let (high, r) ← readSetItem? m (c :: r)
      (low.rangeTo? high).map fun set => (set, r)
  | r => some (low.toSet, r)

/-- A character, an abbreviation or a range of characters inside brackets. -/
def readSetRange? (m : Mode) (s : List Char) : Option (CharSet × List Char) := do
  let (low, r) ← readSetItem? m s
  readRangeEnd? m low r

/-- The sets joined by an operator so far, with the operator, which waits for the next one. -/
abbrev Pending := Option ((CharSet → CharSet → CharSet) × Nested CharSet)

def joinSets (m : Mode) (pending : Pending) (items : List (Nested CharSet)) : Nested CharSet :=
  let last : Nested CharSet :=
    ⟨.unionAll (items.map (·.value)), depthBeside (items.map (·.depth))⟩
  match pending with
  | some (op, left) =>
    ⟨op (m.spellings left.value) (m.spellings last.value), max left.depth last.depth + 1⟩
  | none => last

/-- A part of a bracketed set that is read by itself. -/
inductive SetToken
  | skipped
  | members (set : CharSet)
  | operator (op : CharSet → CharSet → CharSet)
  | opening
  | closing

/-- A named class behind an inner bracket. -/
def readNamedClass? (m : Mode) : List Char → Option (CharSet × List Char)
  | ':' :: r => readAsciiClass? m r
  | _ => none

/-- A part of a set that begins with neither an operator nor a bracket. -/
def readMember? (m : Mode) (s : List Char) : Option (SetToken × List Char) :=
  if s.head?.any isBlank && m.verbose then some (.skipped, s.tail)
  else (readSetRange? m s).map fun (set, r) => (.members set, r)

def readSetToken? (m : Mode) (s : List Char) : Option (SetToken × List Char) :=
  match s with
  | ']' :: r => some (.closing, r)
  | '&' :: '&' :: r => some (.operator .inter, r)
  | '-' :: '-' :: r => some (.operator .diff, r)
  | '~' :: '~' :: r => some (.operator .either, r)
  | '[' :: r =>
    match readNamedClass? m r with
    | some (set, r) => some (.members set, r)
    | none => some (.opening, r)
  | r => readMember? m r

/-- What has been read of a bracketed set. -/
structure SetDraft where
  negated : Bool
  pending : Pending := none
  items : List (Nested CharSet)

namespace SetDraft

/-- Dashes or a closing bracket at the start of a set, which stand for themselves. -/
def readPlain (s : List Char) : List Char × List Char :=
  match s.takeWhile (· == '-'), s.dropWhile (· == '-') with
  | [], ']' :: r => ([']'], r)
  | dashes, r => (dashes, r)

/-- The start of a set after its opening bracket. -/
def start (s : List Char) : SetDraft × List Char :=
  let (negated, s) := readNegation s
  let (plain, s) := readPlain s
  ({ negated := negated, items := plain.map fun c => ⟨.single c, 0⟩ }, s)

def put (d : SetDraft) (set : Nested CharSet) : SetDraft := { d with items := set :: d.items }

/-- What is read so far becomes the left side of an operator. -/
def operate (d : SetDraft) (m : Mode) (op : CharSet → CharSet → CharSet) : SetDraft :=
  { d with pending := some (op, joinSets m d.pending d.items), items := [] }

def finish? (d : SetDraft) (m : Mode) : Option (Nested CharSet) :=
  let joined := joinSets m d.pending d.items
  let set := m.spellings joined.value
  if d.negated && m.ascii then none
  else some ⟨if d.negated then set.compl else set, joined.depth + 1⟩

end SetDraft

/-- Goes on behind a part of a bracketed set; `rest` reads the rest of any set. -/
def followSet? (rest : SetDraft → List Char → Option (Nested CharSet × List Char)) (m : Mode)
    (d : SetDraft) : SetToken → List Char → Option (Nested CharSet × List Char)
  | .skipped, r => rest d r
  | .members set, r => rest (d.put ⟨set, 0⟩) r
  | .operator op, r => rest (d.operate m op) r
  | .opening, r => do
    let (set, r) ← rest (SetDraft.start r).1 (SetDraft.start r).2
    rest (d.put set) r
  | .closing, r => (d.finish? m).map fun set => (set, r)

/-- The rest of a bracketed set; `fuel` bounds the characters read. -/
def readMembers? (fuel : Nat) (m : Mode) (d : SetDraft) (s : List Char) :
    Option (Nested CharSet × List Char) :=
  match fuel with
  | 0 => none
  | fuel + 1 => do
    let (token, r) ← readSetToken? m s
    followSet? (readMembers? fuel m) m d token r

/-- A bracketed set after its opening bracket. -/
def readSet? (fuel : Nat) (m : Mode) (s : List Char) : Option (Nested CharSet × List Char) :=
  readMembers? fuel m (SetDraft.start s).1 (SetDraft.start s).2

/-- What an opening parenthesis with a question mark begins. -/
inductive GroupHead
  | flags (m : Mode)
  | group (m : Mode) (name : Option (List Char))

def isGroupNameChar (c : Char) : Bool :=
  c == '_' || c == '.' || c == '[' || c == ']' || isLetterOrNumber c

def isGroupNameStart (c : Char) : Bool := c == '_' || isLetter c

def readGroupName? (m : Mode) (s : List Char) : Option (GroupHead × List Char) :=
  match s.takeWhile (· != '>'), s.dropWhile (· != '>') with
  | c :: name, _ :: rest =>
    if isGroupNameStart c && name.all isGroupNameChar then
      some (.group m (some (c :: name)), rest)
    else none
  | _, _ => none

/-- The end of flags: a group in which they hold, or the rest of the body. -/
def endFlags? (m : Mode) (seen : List Char) : List Char → Option (GroupHead × List Char)
  | ':' :: r => some (.group m none, r)
  | ')' :: r => if seen.isEmpty then none else some (.flags m, r)
  | _ => none

def readFlagHead? (m : Mode) (s : List Char) : Option (GroupHead × List Char) := do
  let (m, seen, r) ← readFlags? m true [] s
  endFlags? m seen r

def readGroupHead? (m : Mode) (s : List Char) : Option (GroupHead × List Char) :=
  match s with
  | '=' :: _ => none
  | '!' :: _ => none
  | '<' :: '=' :: _ => none
  | '<' :: '!' :: _ => none
  | 'P' :: '<' :: r => readGroupName? m r
  | '<' :: r => readGroupName? m r
  | r => readFlagHead? m r

/-- Items of a sequence, the last one first, each with a mark whether it may be repeated. -/
abbrev Items := List (Nested Pattern × Bool)

def sequence (items : Items) : Nested Pattern :=
  let ps := items.reverse.map (·.1)
  ⟨concat (ps.map (·.value)), depthBeside (ps.map (·.depth))⟩

/-- The last sequence together with those before it, the latest first. -/
def alternatives (done : List (Nested Pattern)) (items : Items) : Nested Pattern :=
  let ps := (sequence items :: done).reverse
  ⟨alternation (ps.map (·.value)), depthBeside (ps.map (·.depth))⟩

def repeatLast? (least : Nat) (most : Option Nat) : Items → Option Items
  | (p, true) :: items => some ((⟨repetition least most p.value, p.depth + 1⟩, true) :: items)
  | _ => none

def dot (m : Mode) : Option Pattern :=
  if m.ascii then none
  else some (.one (if m.dotAll then CharSet.none.compl else (CharSet.single '\n').compl))

def literal (m : Mode) (c : Char) : Pattern := ofSet (m.spellings (.single c))

/-- One character that is neither an operator nor the start of a bracketed part. -/
def readSingle? (m : Mode) (c : Char) : Option Pattern :=
  match c with
  | '.' => dot m
  | '^' => some (.anchor (if m.lineAnchors then .lineStart else .textStart))
  | '$' => some (.anchor (if m.lineAnchors then .lineEnd else .textEnd))
  | c => some (literal m c)

def Escape.toPattern (m : Mode) : Escape → Pattern
  | .char c => literal m c
  | .set s => ofSet s
  | .anchor a => .anchor a

/-- What is left of a text after the rest of its line. -/
def skipLine (s : List Char) : List Char := (s.dropWhile (· != '\n')).drop 1

/-- A part of a pattern's text that is read by itself. -/
inductive Token
  | skipped
  | flags (m : Mode)
  | item (p : Nested Pattern)
  | bar
  | repetition (least : Nat) (most : Option Nat)
  | opening (m : Mode) (name : Option (List Char)) (numbered : Bool)

/-- A group behind a question mark has a number only if it has a name. -/
def GroupHead.token : GroupHead → Token
  | .flags m => .flags m
  | .group m name => .opening m name name.isSome

/-- What begins with a character that is neither an operator nor opens a bracketed part. -/
def readOther? (m : Mode) (c : Char) (r : List Char) : Option (Token × List Char) :=
  if m.verbose && isBlank c then some (.skipped, r)
  else if m.verbose && c == '#' then some (.skipped, skipLine r)
  else (readSingle? m c).map fun p => (.item ⟨p, 0⟩, r)

/-- The next token; `fuel` bounds the characters of a bracketed set. -/
def readToken? (fuel : Nat) (m : Mode) (s : List Char) : Option (Token × List Char) :=
  match s with
  | [] => none
  | '|' :: r => some (.bar, r)
  | '*' :: r => some (.repetition 0 none, skipLazy r)
  | '+' :: r => some (.repetition 1 none, skipLazy r)
  | '?' :: r => some (.repetition 0 (some 1), skipLazy r)
  | '\x7b' :: r => (readBounds? r).map fun (bounds, r) =>
    (.repetition bounds.1 bounds.2, skipLazy r)
  | '(' :: '?' :: r => (readGroupHead? m r).map fun (head, r) => (head.token, r)
  | '(' :: r => some (.opening m none true, r)
  | '[' :: r => (readSet? fuel m r).map fun (set, r) => (.item ⟨ofSet set.value, set.depth⟩, r)
  | '\\' :: r => (readEscape? m r).map fun (e, r) => (.item ⟨e.toPattern m, 0⟩, r)
  | c :: r => readOther? m c r

/-- What has been read of a body: the flags in force, the names given so far, the alternatives that
are complete and the items of the last one. -/
structure Draft where
  mode : Mode := {}
  names : List (List Char) := []
  done : List (Nested Pattern) := []
  items : Items := []

namespace Draft

variable (d : Draft)

def result : Nested Pattern := alternatives d.done d.items

def add? : Token → Option Draft
  | .skipped => some d
  | .flags m => some { d with mode := m, items := (⟨.empty, 0⟩, false) :: d.items }
  | .item p => some { d with items := (p, true) :: d.items }
  | .bar => some { d with done := sequence d.items :: d.done, items := [] }
  | .repetition least most =>
    (repeatLast? least most d.items).map fun items => { d with items := items }
  | .opening _ _ _ => none

/-- The start of a group, whose name must be new. -/
def open? (m : Mode) (name : Option (List Char)) : Option Draft :=
  if name.any d.names.contains then none
  else some { mode := m, names := name.toList ++ d.names }

/-- A group at its end becomes an item of the body around it. -/
def close (inner : Draft) (numbered : Bool) : Draft :=
  let p := inner.result
  let q := if numbered then p.value.group else p.value
  { d with names := inner.names, items := (⟨q, p.depth + 1⟩, true) :: d.items }

end Draft

/-- Goes on behind the parenthesis that closes a group; `rest` reads the rest of any body. -/
def followGroup? (rest : Draft → List Char → Option (Draft × List Char)) (d : Draft)
    (numbered : Bool) (inner : Draft) : List Char → Option (Draft × List Char)
  | ')' :: r => rest (d.close inner numbered) r
  | _ => none

/-- Goes on behind a token. -/
def follow? (rest : Draft → List Char → Option (Draft × List Char)) (d : Draft) :
    Token → List Char → Option (Draft × List Char)
  | .opening m name numbered, r => do
    let (inner, r) ← rest (← d.open? m name) r
    followGroup? rest d numbered inner r
  | token, r => do rest (← d.add? token) r

/-- Reads up to the end or to a parenthesis that closes nothing; `fuel` bounds the characters. -/
def readBody? (fuel : Nat) (d : Draft) (s : List Char) : Option (Draft × List Char) :=
  match fuel with
  | 0 => none
  | fuel + 1 =>
    if s.head?.all (· == ')') then some (d, s)
    else do
      let (token, r) ← readToken? fuel d.mode s
      follow? (readBody? fuel) d token r

def depthLimit : Nat := 250

/-- Whether a pattern is neither nested too deeply nor too large. -/
def Nested.isWithinLimits (p : Nested Pattern) : Bool :=
  p.depth ≤ depthLimit && !p.value.isTooLarge

/-- What is read of a text by itself, and what is left of it. -/
def read? (s : List Char) : Option (Draft × List Char) := readBody? (s.length + 1) {} s

/-- The pattern that a text spells. -/
def ofChars? (s : List Char) : Option Pattern :=
  match read? s with
  | some (d, []) => if d.result.isWithinLimits then some d.result.value else none
  | _ => none

def ofText? (s : String) : Option Pattern := ofChars? s.toList

end WarehouseAdapter.Pattern
