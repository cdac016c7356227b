import WarehouseAdapter.Yaml.Scalar

/-!
# Reading of YAML text

A text holds at most one document. Blocks are told apart by their columns, and brackets and braces
hold values regardless of columns. A key stands on one line and ends within 1024 characters.
Anchors, tags, directives, block scalars and keys of blocks that are marked by `?` are not read.
-/

namespace WarehouseAdapter.Yaml

def isDash : List Char → Bool
  | '-' :: r => startsBlank r
  | _ => false

def keyLimit : Nat := 1024

/-- Tells whether a key may begin at a place and end where this rest, with its colon, begins. -/
def Place.mayHoldKey (p : Place) (rest : List Char) : Bool :=
  let key := p.passed rest
  key.all (!isBreak ·) && key.length ≤ keyLimit

mutual

/-- A value between brackets or braces; plain lines below a block are indented. -/
def flowNode? (fuel indent : Nat) (p : Place) : Option (Yaml × Place) :=
  match fuel with
  | 0 => none
  | fuel + 1 =>
    match p.rest with
    | '[' :: _ => do
      let (items, q) ← flowItems? fuel indent (← (p.skip 1).flowGap?)
      return (sequence items, q)
    | '\x7b' :: _ => do
      let (members, q) ← flowMembers? fuel indent (← (p.skip 1).flowGap?)
      return (mapping members, q)
    | _ => scalar? true indent p

/-- A value that may be left out before a comma, a colon or a closing mark. -/
def flowValue? (fuel indent : Nat) (p : Place) : Option (Yaml × Place) :=
  match fuel with
  | 0 => none
  | fuel + 1 =>
    match p.rest.head? with
    | some ',' | some ':' | some ']' | some '\x7d' => some (empty, p)
    | _ => do
      let (value, q) ← flowNode? fuel indent p
      return (value, ← q.flowGap?)

/-- A value and, behind a colon, a second one. Behind a question mark the first one is a key, which
may be left out and need not end on its line. -/
def flowEntry? (fuel indent : Nat) (p : Place) : Option (Yaml × Option Yaml × Place) :=
  match fuel with
  | 0 => none
  | fuel + 1 => do
    let marked := p.rest.head? = some '?'
    let (key, q) ←
      if marked then flowValue? fuel indent (← (p.skip 1).flowGap?) else flowNode? fuel indent p
    let q ← q.flowGap?
    if q.rest.head? = some ':' then
      if marked || p.mayHoldKey q.rest then
        let (value, q) ← flowValue? fuel indent (← (q.skip 1).flowGap?)
        return (key, some value, q)
      else none
    else return (key, if marked then some empty else none, q)

/-- The values up to a closing bracket; a pair stands for a mapping of one member. -/
def flowItems? (fuel indent : Nat) (p : Place) : Option (List Yaml × Place) :=
  match fuel with
  | 0 => none
  | fuel + 1 =>
    if p.rest.head? = some ']' then some ([], p.skip 1)
    else do
      let (item, value?, q) ← flowEntry? fuel indent p
      let item := value?.elim item fun value => mapping [(item, value)]
      match q.rest.head? with
      | some ']' => return ([item], q.skip 1)
      | some ',' =>
        let (items, q) ← flowItems? fuel indent (← (q.skip 1).flowGap?)
        return (item :: items, q)
      | _ => none

/-- The members up to a closing brace; a key alone has the empty value. -/
def flowMembers? (fuel indent : Nat) (p : Place) : Option (List (Yaml × Yaml) × Place) :=
  match fuel with
  | 0 => none
  | fuel + 1 =>
    if p.rest.head? = some '\x7d' then some ([], p.skip 1)
    else do
      let (key, value?, q) ← flowEntry? fuel indent p
      let member := (key, value?.getD empty)
      match q.rest.head? with
      | some '\x7d' => return ([member], q.skip 1)
      | some ',' =>
        let (members, q) ← flowMembers? fuel indent (← (q.skip 1).flowGap?)
        return (member :: members, q)
      | _ => none

end

/-- A value that begins on a line, and the place behind it. -/
def lineNode? (indent : Nat) (p : Place) : Option (Yaml × Place) :=
  match p.rest.head? with
  | some '[' | some '\x7b' => flowNode? (4 * p.rest.length + 4) indent p
  | _ => scalar? false indent p

/-- The place at the colon of a key, if one follows. -/
def colon? (p : Place) : Option Place :=
  let rest := p.rest.dropWhile isGap
  match rest with
  | ':' :: r => if startsBlank r then some (p.moveTo rest) else none
  | _ => none

mutual

/-- The value at a place that stands deeper than `indent` columns tell, or the empty one. -/
def node? (fuel indent : Nat) (p : Place) : Option (Yaml × Place) :=
  match fuel with
  | 0 => none
  | fuel + 1 =>
    if p.isEnd || p.column < indent then some (empty, p)
    else if isDash p.rest then
      if p.opens then (items? fuel p.column p).map fun (items, q) => (sequence items, q) else none
    else do
      let (value, q) ← lineNode? indent p
      match colon? q with
      | some colon =>
        if p.opens && p.mayHoldKey colon.rest then
          let (members, q) ← members? fuel p.column value (colon.skip 1)
          return (mapping members, q)
        else none
      | none =>
        let q ← q.gap?
        if q.opens || q.isEnd then return (value, q) else none

/-- The items whose dashes stand in a column. -/
def items? (fuel column : Nat) (p : Place) : Option (List Yaml × Place) :=
  match fuel with
  | 0 => none
  | fuel + 1 => do
    let p ← gapFrom? false true (column + 1) (p.rest.drop 1)
    let (item, q) ← node? fuel (column + 1) p
    if !q.isEnd && q.opens && q.column = column && isDash q.rest then
      let (items, q) ← items? fuel column q
      return (item :: items, q)
    else return ([item], q)

/-- The members whose keys stand in a column, from behind the colon of the first key on. -/
def members? (fuel column : Nat) (key : Yaml) (p : Place) : Option (List (Yaml × Yaml) × Place) :=
  match fuel with
  | 0 => none
  | fuel + 1 => do
    let p ← p.gap?
    let (value, q) ←
      if !p.isEnd && p.opens && p.column = column && isDash p.rest then
        (items? fuel column p).map fun (items, q) => (sequence items, q)
      else node? fuel (column + 1) p
    if !q.isEnd && q.opens && q.column = column then
      let (next, r) ← lineNode? (column + 1) q
      let colon ← colon? r
      if q.mayHoldKey colon.rest then
        let (members, q) ← members? fuel column next (colon.skip 1)
        return ((key, value) :: members, q)
      else none
    else return ([(key, value)], q)

end

/-- Nothing but marks of a document's end. -/
def isClosed (fuel : Nat) (p : Place) : Bool :=
  match fuel with
  | 0 => false
  | fuel + 1 =>
    match p.isEnd, p.rest with
    | true, [] => true
    | true, '.' :: _ =>
      match (p.skip 3).gap? with
      | some q => (q.opens || q.rest.isEmpty) && isClosed fuel q
      | none => false
    | _, _ => false

/-- The value of a document from its first place on. -/
def document? (fuel : Nat) (p : Place) : Option Yaml := do
  let (value, q) ← node? fuel 0 p
  if isClosed fuel q then some value else none

/-- The document of a text; a text without one reads as the empty scalar. -/
def ofText? (source : String) : Option Yaml :=
  if source.toList.all isLegible then do
    let s := unifyBreaks source.toList
    let fuel := 4 * s.length + 4
    let p ← gapFrom? false true 0 s
    match p.isEnd, p.rest with
    | true, '-' :: _ => document? fuel (← (p.skip 3).gap?)
    | true, '.' :: _ => none
    | _, _ => document? fuel p
  else none

end WarehouseAdapter.Yaml
