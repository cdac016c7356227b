import WarehouseAdapter.DataType.Text
import WarehouseAdapter.Names

/-!
# Reading types from text

A type is read from the characters that remain; each step leaves fewer of them. A failure keeps the
characters that remained where it was noticed, which fixes its place in the source.
-/

namespace WarehouseAdapter.DataType

/-- What is wrong at a place of a type's text. -/
inductive Fault
  | expected (c : Char)
  | expectedSeparator
  | expectedIdentifier
  | unterminatedName
  | unknownType (word : String)
  | trailing
deriving DecidableEq, Repr

def Fault.message : Fault → String
  | expected c => s!"expected '{c}'"
  | expectedSeparator => "expected ',' or '>'"
  | expectedIdentifier => "expected identifier"
  | unterminatedName => "unterminated quoted field name"
  | unknownType word => s!"unknown type '{word}'"
  | trailing => "trailing input"

inductive Failure
  | malformed (rest : List Char) (fault : Fault)
  | repeatedFields (names : List String)
deriving DecidableEq, Repr

/-- Fewer characters than `s` has. -/
abbrev Shorter (s : List Char) := { r : List Char // r.length < s.length }

def readChar (c : Char) (s : List Char) : Except Failure (Shorter s) :=
  match h : skipBlank s with
  | [] => .error (.malformed [] (.expected c))
  | d :: r =>
    if d = c then
      .ok ⟨r, by have := length_skipBlank_le s; simp only [h, List.length_cons] at this; omega⟩
    else .error (.malformed (d :: r) (.expected c))

/-- The longest run of name characters after blanks. -/
def readWord (s : List Char) : Except Failure (List Char × Shorter s) :=
  let r := skipBlank s
  if h : r.takeWhile isNameChar = [] then .error (.malformed r .expectedIdentifier)
  else
    .ok (r.takeWhile isNameChar, ⟨r.dropWhile isNameChar, by
      have h₁ := List.length_pos_iff.2 h
      have h₂ := congrArg List.length (List.takeWhile_append_dropWhile (p := isNameChar) (l := r))
      have h₃ : r.length ≤ s.length := length_skipBlank_le s
      simp only [List.length_append] at h₂
      omega⟩)

/-- The name up to the closing backtick, and what follows. -/
def readTicked : List Char → Option (List Char × List Char)
  | [] => none
  | '\x60' :: '\x60' :: r => (readTicked r).map fun p => ('\x60' :: p.1, p.2)
  | '\x60' :: r => some ([], r)
  | c :: r => (readTicked r).map fun p => (c :: p.1, p.2)

theorem length_readTicked {s n r : List Char} (h : readTicked s = some (n, r)) :
    r.length < s.length := by
  fun_induction readTicked s generalizing n with
  | case1 => simp at h
  | case2 s ih =>
    obtain ⟨⟨m, q⟩, hm, he⟩ := Option.map_eq_some_iff.1 h
    obtain ⟨rfl, rfl⟩ := Prod.mk.inj he
    have : q.length < s.length := ih hm
    simp only [List.length_cons]
    omega
  | case3 s =>
    obtain ⟨rfl, rfl⟩ := Prod.mk.inj (Option.some.inj h)
    simp
  | case4 c s _ _ ih =>
    obtain ⟨⟨m, q⟩, hm, he⟩ := Option.map_eq_some_iff.1 h
    obtain ⟨rfl, rfl⟩ := Prod.mk.inj he
    have : q.length < s.length := ih hm
    simp only [List.length_cons]
    omega

def readFieldName (s : List Char) : Except Failure (List Char × Shorter s) :=
  match h : skipBlank s with
  | '\x60' :: r =>
    match h' : readTicked r with
    | none => .error (.malformed [] .unterminatedName)
    | some (name, r') => .ok (name, ⟨r', by
        have h₁ := length_skipBlank_le s
        have h₂ := length_readTicked h'
        simp only [h, List.length_cons] at h₁
        omega⟩)
  | _ => readWord s

/-- The text up to the next `>`, which is passed over. -/
def readKind (s : List Char) : Except Failure (List Char × Shorter s) :=
  match h : s.dropWhile (· != '>') with
  | [] => .error (.malformed s (.expected '>'))
  | _ :: r => .ok (s.takeWhile (· != '>'), ⟨r, by
      have h₁ := (List.dropWhile_sublist (l := s) (· != '>')).length_le
      simp only [h, List.length_cons] at h₁
      omega⟩)

mutual

def readType (s : List Char) : Except Failure (DataType × Shorter s) := do
  let (w, ⟨r, _⟩) ← readWord s
  let word := lowerAscii (String.ofList w)
  if word = "array" then
    let ⟨r₁, _⟩ ← readChar '<' r
    let (element, ⟨r₂, _⟩) ← readType r₁
    let ⟨r₃, _⟩ ← readChar '>' r₂
    return (array element, ⟨r₃, by omega⟩)
  else if word = "struct" then
    let ⟨r₁, _⟩ ← readChar '<' r
    let (fields, ⟨r₂, _⟩) ← readFields r₁
    if (fields.map Prod.fst).Nodup then return (struct fields, ⟨r₂, by omega⟩)
    else throw (.repeatedFields (repeatedNames (fields.map Prod.fst)))
  else if word = "unrecognized" then
    let ⟨r₁, _⟩ ← readChar '<' r
    let (kind, ⟨r₂, _⟩) ← readKind r₁
    return (unrecognized (String.ofList (trim kind)), ⟨r₂, by omega⟩)
  else
    match Primitive.ofName? word with
    | some p => return (primitive p, ⟨r, by omega⟩)
    | none => throw (.malformed r (.unknownType word))
termination_by s.length

/-- One field or more, up to and with the closing `>`. -/
def readFields (s : List Char) : Except Failure (List (String × DataType) × Shorter s) := do
  let (name, ⟨r₁, _⟩) ← readFieldName s
  let ⟨r₂, _⟩ ← readChar ':' r₁
  let (t, ⟨r₃, _⟩) ← readType r₂
  let field := (String.ofList name, t)
  match h : skipBlank r₃ with
  | ',' :: r₄ =>
    have h₄ : r₄.length < r₃.length := by
      have := length_skipBlank_le r₃
      simp only [h, List.length_cons] at this
      omega
    let (rest, ⟨r₅, _⟩) ← readFields r₄
    return (field :: rest, ⟨r₅, by omega⟩)
  | '>' :: r₄ =>
    have h₄ : r₄.length < r₃.length := by
      have := length_skipBlank_le r₃
      simp only [h, List.length_cons] at this
      omega
    return ([field], ⟨r₄, by omega⟩)
  | r₄ => throw (.malformed r₄ .expectedSeparator)
termination_by s.length

end

/-- A type and nothing but blanks after it. -/
def ofChars (s : List Char) : Except Failure DataType := do
  let (t, ⟨r, _⟩) ← readType s
  match skipBlank r with
  | [] => return t
  | rest => throw (.malformed rest .trailing)

end WarehouseAdapter.DataType
