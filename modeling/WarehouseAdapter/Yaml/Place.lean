/-!
# Places of a YAML text

Line breaks, blanks and marks, and the way from one place of a text to the next one with something
on it. A text is read with its breaks unified: three characters end a line, and a byte order mark at
the start of a line takes up the first column.
-/

namespace WarehouseAdapter.Yaml

def isBreak (c : Char) : Bool := c == '\n' || c == '\u2028' || c == '\u2029'

def isGap (c : Char) : Bool := c == ' ' || c == '\t'

def startsBlank : List Char → Bool
  | [] => true
  | c :: _ => isGap c || isBreak c

def isFlowMark (c : Char) : Bool := c == ',' || c == '[' || c == ']' || c == '\x7b' || c == '\x7d'

def byteOrderMark : Char := '\ufeff'

def isLegible (c : Char) : Bool :=
  c == '\t' || c == '\n' || c == '\r' || ' ' ≤ c && c ≤ '~' || c == '\x85' ||
    '\xa0' ≤ c && c ≤ '\ud7ff' || '\ue000' ≤ c && c ≤ '\ufffd' || '\uffff' < c

/-- The text with a single character for each carriage return, line feed, next line or pair. -/
def unifyBreaks : List Char → List Char
  | '\r' :: '\n' :: r => '\n' :: unifyBreaks r
  | '\r' :: r => '\n' :: unifyBreaks r
  | '\x85' :: r => '\n' :: unifyBreaks r
  | c :: r => c :: unifyBreaks r
  | [] => []

/-- A line that ends or separates documents. -/
def isMarker (s : List Char) : Bool :=
  match s with
  | '-' :: '-' :: '-' :: r => startsBlank r
  | '.' :: '.' :: '.' :: r => startsBlank r
  | _ => false

structure Place where
  /-- Tells whether a block may open here: at the first text of a line or behind a dash. -/
  opens : Bool
  column : Nat
  /-- What stands behind the place. -/
  rest : List Char
deriving Repr

namespace Place

def isMarked (p : Place) : Bool := p.opens && p.column = 0 && isMarker p.rest

def isEnd (p : Place) : Bool := p.rest.isEmpty || p.isMarked

/-- What stands between a place and a later one. -/
def passed (p : Place) (rest : List Char) : List Char := p.rest.take (p.rest.length - rest.length)

/-- The later place with a given rest. -/
def moveTo (p : Place) (rest : List Char) : Place :=
  let passed := p.passed rest
  let last := (passed.reverse.takeWhile (!isBreak ·)).length
  ⟨false, if last < passed.length then last else p.column + last, rest⟩

/-- The place behind a number of characters of the same line. -/
def skip (n : Nat) (p : Place) : Place := ⟨false, p.column + n, p.rest.drop n⟩

end Place

/-- The next place with text; a tab may not stand where a block may open. -/
def gapFrom? (comment opens : Bool) (column : Nat) : List Char → Option Place
  | [] => some ⟨opens, column, []⟩
  | c :: r =>
    if isBreak c then gapFrom? false true 0 r
    else if comment then gapFrom? true opens (column + 1) r
    else if c = '#' then gapFrom? true opens (column + 1) r
    else if c = ' ' || column = 0 && c = byteOrderMark then gapFrom? false opens (column + 1) r
    else if c = '\t' then if opens then none else gapFrom? false opens (column + 1) r
    else some ⟨opens, column, c :: r⟩

def Place.gap? (p : Place) : Option Place := gapFrom? false p.opens p.column p.rest

/-- Blanks, breaks and comments between brackets or braces are passed over; no marker may follow. -/
def flowGapFrom? (comment opens : Bool) (column : Nat) : List Char → Option Place
  | [] => some ⟨opens, column, []⟩
  | c :: r =>
    if isBreak c then flowGapFrom? false true 0 r
    else if comment || c = '#' then flowGapFrom? true opens (column + 1) r
    else if isGap c || column = 0 && c = byteOrderMark then
      flowGapFrom? false opens (column + 1) r
    else if column = 0 && isMarker (c :: r) then none
    else some ⟨opens, column, c :: r⟩

def Place.flowGap? (p : Place) : Option Place := flowGapFrom? false p.opens p.column p.rest

/-- Blanks and breaks inside a scalar, the breaks listed. A tab at the start of a later line may not
stand left of the indentation. -/
def blanksFrom? (indent : Nat) (opens : Bool) (column : Nat) :
    List Char → Option (List Char × Place)
  | [] => some ([], ⟨opens, column, []⟩)
  | c :: r =>
    if isBreak c then (blanksFrom? indent true 0 r).map fun (breaks, p) => (c :: breaks, p)
    else if c = '\t' && opens && column < indent then none
    else if isGap c then blanksFrom? indent opens (column + 1) r
    else some ([], ⟨opens, column, c :: r⟩)

def Place.blanks? (indent : Nat) (p : Place) : Option (List Char × Place) :=
  blanksFrom? indent false p.column p.rest

end WarehouseAdapter.Yaml
