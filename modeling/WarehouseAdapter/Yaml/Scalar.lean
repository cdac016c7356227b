import WarehouseAdapter.Pattern.Escape
import WarehouseAdapter.Yaml.Basic
import WarehouseAdapter.Yaml.Place

/-!
# Scalars of YAML text

Plain scalars, scalars in quotes and the breaks between the lines of either. A line feed alone
inside a scalar reads as a space; other breaks read as themselves, but a line feed before them is
lost.
-/

namespace WarehouseAdapter.Yaml

/-- Tells whether a plain scalar may begin here. -/
def startsPlain (flow : Bool) : List Char → Bool
  | [] => false
  | c :: r =>
    if c = '-' then !startsBlank r
    else if c = '?' || c = ':' then !flow && !startsBlank r
    else !(startsBlank [c]) && !"#&*!|>'\"%@\x60".toList.contains c && !isFlowMark c

/-- One line of a plain scalar, and what follows it. Between brackets or braces a colon in it stands
before no mark of theirs. -/
def plainLine? (flow : Bool) (before : Char) : List Char → Option (List Char × List Char)
  | [] => some ([], [])
  | c :: r =>
    if isBreak c || flow && isFlowMark c || c = ':' && startsBlank r || c = '#' && isGap before then
      some ([], c :: r)
    else if flow && c = ':' && r.head?.any fun d => isFlowMark d || d == '?' then none
    else (plainLine? flow c r).map fun (line, rest) => (c :: line, rest)

def trimGaps (cs : List Char) : List Char := (cs.reverse.dropWhile isGap).reverse

/-- The breaks between two lines, as they read. -/
def foldBreaks : List Char → List Char
  | ['\n'] => [' ']
  | '\n' :: more => more
  | breaks => breaks

/-- A plain scalar over lines that are indented. -/
def plainScalar? (fuel : Nat) (flow : Bool) (indent : Nat) (p : Place) :
    Option (List Char × Place) :=
  match fuel with
  | 0 => none
  | fuel + 1 => do
    let (line, rest) ← plainLine? flow ' ' p.rest
    let (breaks, q) ← (p.moveTo rest).blanks? indent
    if breaks.isEmpty || q.isEnd || !flow && q.column < indent then return (trimGaps line, q)
    else
      let (next, _) ← plainLine? flow ' ' q.rest
      if next.isEmpty then return (trimGaps line, q)
      else
        let (more, q) ← plainScalar? fuel flow indent q
        return (trimGaps line ++ foldBreaks breaks ++ more, q)

/-- Breaks inside quotes with the blanks around them, and the text behind; no marker may follow. -/
def quotedBreaks? (opens : Bool) (s : List Char) : Option (List Char × List Char) :=
  match blanksFrom? 0 opens (if opens then 0 else 1) s with
  | some (breaks, q) => if q.isMarked then none else some (breaks, q.rest)
  | none => none

/-- A blank or break inside quotes, as it reads. -/
def quotedBlank? (c : Char) (r : List Char) : Option (List Char × List Char) :=
  match quotedBreaks? false (c :: r) with
  | some ([], _) => some ([c], r)
  | some (breaks, rest) => some (foldBreaks breaks, rest)
  | none => none

/-- A scalar in single quotes, after the first quote. -/
def singleQuoted? (fuel : Nat) (s : List Char) : Option (List Char × List Char) :=
  match fuel with
  | 0 => none
  | fuel + 1 =>
    match s with
    | [] => none
    | '\'' :: '\'' :: r => (singleQuoted? fuel r).map fun (t, r) => ('\'' :: t, r)
    | '\'' :: r => some ([], r)
    | c :: r => do
      let (t, r) ← if startsBlank [c] then quotedBlank? c r else some ([c], r)
      let (u, r) ← singleQuoted? fuel r
      return (t ++ u, r)

def namedEscape? : Char → Option Char
  | '0' => some '\x00'
  | 'a' => some '\x07'
  | 'b' => some '\x08'
  | 't' => some '\t'
  | '\t' => some '\t'
  | 'n' => some '\n'
  | 'v' => some '\x0b'
  | 'f' => some '\x0c'
  | 'r' => some '\r'
  | 'e' => some '\x1b'
  | ' ' => some ' '
  | '"' => some '"'
  | '/' => some '/'
  | '\\' => some '\\'
  | 'N' => some '\x85'
  | '_' => some '\xa0'
  | 'L' => some '\u2028'
  | 'P' => some '\u2029'
  | _ => none

def escapeLength? : Char → Option Nat
  | 'x' => some 2
  | 'u' => some 4
  | 'U' => some 8
  | _ => none

/-- What stands after a backslash in double quotes. A break is lost, and those right behind it read
as themselves. -/
def escape? : List Char → Option (List Char × List Char)
  | [] => none
  | c :: r =>
    match namedEscape? c, escapeLength? c with
    | some d, _ => some ([d], r)
    | none, some n =>
      if r.length < n then none
      else (Pattern.charOfHex? (r.take n)).map fun d => ([d], r.drop n)
    | none, none => if isBreak c then quotedBreaks? true r else none

/-- A scalar in double quotes, after the first quote. -/
def doubleQuoted? (fuel : Nat) (s : List Char) : Option (List Char × List Char) :=
  match fuel with
  | 0 => none
  | fuel + 1 =>
    match s with
    | [] => none
    | '"' :: r => some ([], r)
    | c :: r => do
      let (t, r) ←
        if c = '\\' then escape? r else if startsBlank [c] then quotedBlank? c r else some ([c], r)
      let (u, r) ← doubleQuoted? fuel r
      return (t ++ u, r)

/-- A scalar and the place behind it; the lines of a plain one are indented. -/
def scalar? (flow : Bool) (indent : Nat) (p : Place) : Option (Yaml × Place) :=
  let fuel := p.rest.length + 1
  match p.rest with
  | '"' :: r =>
    (doubleQuoted? fuel r).map fun (t, rest) => (scalar false (String.ofList t), p.moveTo rest)
  | '\'' :: r =>
    (singleQuoted? fuel r).map fun (t, rest) => (scalar false (String.ofList t), p.moveTo rest)
  | s =>
    if startsPlain flow s then
      (plainScalar? fuel flow indent p).map fun (t, q) => (scalar true (String.ofList t), q)
    else none

end WarehouseAdapter.Yaml
