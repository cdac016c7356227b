import WarehouseAdapter.Pattern.Basic

/-!
# Escapes, flags and character classes of patterns

The parts of a pattern's text that stand for a single character, a set of characters or a condition
on a place, and the flags that change how the text after them is read.
-/

namespace WarehouseAdapter.Pattern

/-- The flags in force at a place of a pattern's text. -/
structure Mode where
  fold : Bool := false
  lineAnchors : Bool := false
  dotAll : Bool := false
  verbose : Bool := false
  ascii : Bool := false
deriving DecidableEq, Repr

inductive Escape
  | char (c : Char)
  | set (s : CharSet)
  | anchor (a : Anchor)
deriving DecidableEq, Repr

def asciiWord : CharSet := ⟨[(0x30, 0x39), (0x41, 0x5A), (0x5F, 0x5F), (0x61, 0x7A)]⟩

def asciiBlank : CharSet := ⟨[(0x9, 0xD), (0x20, 0x20)]⟩

/-- All spellings of the members of a set, where letters stand for all their spellings. -/
def Mode.spellings (m : Mode) (s : CharSet) : CharSet :=
  if m.fold then
    s.allCases (if m.ascii then foldPairs.filter (·.1 < 0x80) else foldPairs)
  else s

/-- The abbreviation behind a letter, with capitals for complements. -/
def abbreviation? (m : Mode) (c : Char) : Option CharSet :=
  let complement (s : CharSet) : Option CharSet := if m.ascii then none else some s.compl
  match c with
  | 'd' => some (if m.ascii then .range 0x30 0x39 else .digit)
  | 's' => some (if m.ascii then asciiBlank else .blank)
  | 'w' => some (if m.ascii then asciiWord else .word)
  | 'D' => complement .digit
  | 'S' => complement .blank
  | 'W' => complement .word
  | _ => none

def controlEscape? : Char → Option Char
  | 'a' => some '\x07'
  | 'f' => some '\x0c'
  | 't' => some '\t'
  | 'n' => some '\n'
  | 'r' => some '\r'
  | 'v' => some '\x0b'
  | _ => none

def anchorEscape? : Char → Option Anchor
  | 'A' => some .textStart
  | 'z' => some .textEnd
  | 'B' => some .noBoundary
  | '<' => some .wordStart
  | '>' => some .wordEnd
  | _ => none

/-- ASCII characters other than letters, digits and angle brackets stand for themselves. -/
def isEscapable (c : Char) : Bool :=
  c.toNat < 128 && !c.isAlphanum && c != '<' && c != '>'

def hexValue? (c : Char) : Option Nat :=
  if c.isDigit then some (c.toNat - 48)
  else if 'a' ≤ c ∧ c ≤ 'f' then some (c.toNat - 87)
  else if 'A' ≤ c ∧ c ≤ 'F' then some (c.toNat - 55)
  else none

def charOfHex? (ds : List Char) : Option Char := do
  let values ← ds.mapM hexValue?
  let n := values.foldl (fun n d => 16 * n + d) 0
  if h : n.isValidChar then some (Char.ofNatAux n h) else none

/-- A code point as a fixed number of hexadecimal digits or as any number of them in braces. -/
def readHex? (count : Nat) : List Char → Option (Char × List Char)
  | '\x7b' :: r =>
    match r.takeWhile (· != '\x7d'), r.dropWhile (· != '\x7d') with
    | d :: ds, _ :: rest => (charOfHex? (d :: ds)).map fun c => (c, rest)
    | _, _ => none
  | r =>
    if r.length < count then none
    else (charOfHex? (r.take count)).map fun c => (c, r.drop count)

def namedBoundary? (name : String) : Option Anchor :=
  match name with
  | "start" => some .wordStart
  | "end" => some .wordEnd
  | "start-half" => some .halfWordStart
  | "end-half" => some .halfWordEnd
  | _ => none

/-- A word boundary, which may be narrowed by a name in braces. -/
def readBoundary? (r : List Char) : Option (Escape × List Char) :=
  let isNameChar (c : Char) : Bool := c.isAlpha || c == '-'
  match r with
  | '\x7b' :: s =>
    match s.takeWhile isNameChar, s.dropWhile isNameChar with
    | [], [] => none
    | [], _ => some (.anchor .boundary, r)
    | name, '\x7d' :: rest =>
      (namedBoundary? (String.ofList name)).map fun a => (.anchor a, rest)
    | _, _ => none
  | _ => some (.anchor .boundary, r)

/-- What a single character stands for behind a backslash. -/
def escaped? (m : Mode) (c : Char) : Option Escape :=
  if isEscapable c then some (.char c)
  else
    match abbreviation? m c, controlEscape? c, anchorEscape? c with
    | some s, _, _ => some (.set s)
    | _, some d, _ => some (.char d)
    | _, _, some a => some (.anchor a)
    | _, _, _ => none

/-- What stands after a backslash. -/
def readEscape? (m : Mode) : List Char → Option (Escape × List Char)
  | [] => none
  | 'x' :: r => (readHex? 2 r).map fun (c, r) => (.char c, r)
  | 'u' :: r => (readHex? 4 r).map fun (c, r) => (.char c, r)
  | 'U' :: r => (readHex? 8 r).map fun (c, r) => (.char c, r)
  | 'b' :: r => readBoundary? r
  | c :: r => (escaped? m c).map fun e => (e, r)

def Mode.set? (m : Mode) (value : Bool) : Char → Option Mode
  | 'i' => some { m with fold := value }
  | 'm' => some { m with lineAnchors := value }
  | 's' => some { m with dotAll := value }
  | 'x' => some { m with verbose := value }
  | 'u' => some { m with ascii := !value }
  | 'U' => some m
  | 'R' => some m
  | _ => none

/-- Flags, each at most once, up to a colon or a closing parenthesis, which is left. -/
def readFlags? (m : Mode) (value : Bool) (seen : List Char) :
    List Char → Option (Mode × List Char × List Char)
  | [] => none
  | ':' :: r => if seen.head? = some '-' then none else some (m, seen, ':' :: r)
  | ')' :: r => if seen.head? = some '-' then none else some (m, seen, ')' :: r)
  | c :: r =>
    if seen.contains c then none
    else if c = '-' then readFlags? m false ('-' :: seen) r
    else
      match m.set? value c with
      | some m => readFlags? m value (c :: seen) r
      | none => none

def asciiClass? (name : String) : Option CharSet :=
  match name with
  | "alnum" => some ⟨[(0x30, 0x39), (0x41, 0x5A), (0x61, 0x7A)]⟩
  | "alpha" => some ⟨[(0x41, 0x5A), (0x61, 0x7A)]⟩
  | "ascii" => some ⟨[(0x0, 0x7F)]⟩
  | "blank" => some ⟨[(0x9, 0x9), (0x20, 0x20)]⟩
  | "cntrl" => some ⟨[(0x0, 0x1F), (0x7F, 0x7F)]⟩
  | "digit" => some ⟨[(0x30, 0x39)]⟩
  | "graph" => some ⟨[(0x21, 0x7E)]⟩
  | "lower" => some ⟨[(0x61, 0x7A)]⟩
  | "print" => some ⟨[(0x20, 0x7E)]⟩
  | "punct" => some ⟨[(0x21, 0x2F), (0x3A, 0x40), (0x5B, 0x60), (0x7B, 0x7E)]⟩
  | "space" => some asciiBlank
  | "upper" => some ⟨[(0x41, 0x5A)]⟩
  | "word" => some asciiWord
  | "xdigit" => some ⟨[(0x30, 0x39), (0x41, 0x46), (0x61, 0x66)]⟩
  | _ => none

/-- A mark of negation, if there is one. -/
def readNegation : List Char → Bool × List Char
  | '^' :: r => (true, r)
  | r => (false, r)

/-- A named class after its bracket and colon. -/
def readAsciiClass? (m : Mode) (s : List Char) : Option (CharSet × List Char) :=
  let (negated, s) := readNegation s
  match s.dropWhile Char.isAlpha with
  | ':' :: ']' :: rest =>
    (asciiClass? (String.ofList (s.takeWhile Char.isAlpha))).map fun set =>
      (if negated then (m.spellings set).compl else set, rest)
  | _ => none

end WarehouseAdapter.Pattern
