import WarehouseAdapter.DataType.Parser
import WarehouseAdapter.Proofs.Except

/-!
# What the steps of the type reader give

A step of the reader gives a result together with fewer characters than it was given. `Yields` says
so without the proof that there are fewer of them. Each step has one statement here that says when
it yields what; the statements for types and fields follow the grammar.
-/

namespace WarehouseAdapter.DataType

variable {α β : Type} {s s' r : List Char}

/-- A reading step gives `a` and leaves `r`. -/
def Yields (x : Except Failure (α × Shorter s)) (a : α) (r : List Char) : Prop :=
  ∃ q : Shorter s, x = .ok (a, q) ∧ q.val = r

@[simp] theorem yields_pure {p : α × Shorter s} {a : α} :
    Yields (pure p) a r ↔ p.1 = a ∧ p.2.val = r := by
  constructor
  · rintro ⟨q, h, rfl⟩
    cases h
    exact ⟨rfl, rfl⟩
  · rintro ⟨rfl, rfl⟩
    exact ⟨p.2, rfl, rfl⟩

@[simp] theorem yields_throw (f : Failure) (a : α) (r : List Char) :
    ¬ Yields (s := s) (throw f) a r := by
  rintro ⟨q, h, -⟩
  cases h

theorem Yields.unique {x : Except Failure (α × Shorter s)} {a b : α} {q : List Char}
    (h : Yields x a r) (h' : Yields x b q) : b = a ∧ q = r := by
  obtain ⟨p, rfl, rfl⟩ := h
  obtain ⟨h₁, h₂⟩ := yields_pure.1 h'
  exact ⟨h₁.symm, h₂.symm⟩

theorem yields_bind {x : Except Failure (β × Shorter s')}
    {f : β × Shorter s' → Except Failure (α × Shorter s)} {a : α} {Q : β → List Char → Prop}
    (hf : ∀ b q h, Yields (f (b, ⟨q, h⟩)) a r ↔ Q b q) :
    Yields (x >>= f) a r ↔ ∃ b q, Yields x b q ∧ Q b q := by
  constructor
  · rintro ⟨p, h, rfl⟩
    obtain ⟨⟨b, q, hq⟩, rfl, h⟩ := bind_eq_ok_iff.1 h
    exact ⟨b, q, yields_pure.2 ⟨rfl, rfl⟩, (hf b q hq).1 ⟨p, h, rfl⟩⟩
  · rintro ⟨b, q, ⟨q', rfl, rfl⟩, h⟩
    exact (hf b q'.val q'.property).2 h

theorem yields_readChar_bind {c : Char} {f : Shorter s' → Except Failure (α × Shorter s)} {a : α}
    {Q : List Char → Prop} (hf : ∀ q h, Yields (f ⟨q, h⟩) a r ↔ Q q) :
    Yields (readChar c s' >>= f) a r ↔ ∃ q, skipBlank s' = c :: q ∧ Q q := by
  unfold readChar
  split
  · rename_i h
    simp only [h, reduceCtorEq, false_and, exists_false, iff_false]
    exact yields_throw _ _ _
  · rename_i d q h
    split
    · subst d
      simpa [h, bind, Except.bind] using hf q _
    · rename_i hd
      simp only [h, List.cons.injEq, hd, false_and, exists_false, iff_false]
      exact yields_throw _ _ _

theorem yields_readWord {w : List Char} :
    Yields (readWord s) w r ↔ w ≠ [] ∧ (skipBlank s).takeWhile isNameChar = w ∧
      (skipBlank s).dropWhile isNameChar = r := by
  unfold readWord
  by_cases h : (skipBlank s).takeWhile isNameChar = []
  · simp only [h, dite_true]
    refine iff_of_false (yields_throw _ _ _) ?_
    rintro ⟨hw, rfl, -⟩
    exact hw rfl
  · simp only [h, dite_false]
    refine yields_pure.trans ⟨?_, And.right⟩
    rintro ⟨rfl, rfl⟩
    exact ⟨h, rfl, rfl⟩

theorem yields_readKind {kind : List Char} :
    Yields (readKind s) kind r ↔
      s.takeWhile (· != '>') = kind ∧ ∃ c, s.dropWhile (· != '>') = c :: r := by
  unfold readKind
  split
  · rename_i h
    simp only [h, reduceCtorEq, exists_false, and_false, iff_false]
    exact yields_throw _ _ _
  · rename_i c q h
    simp only [h, List.cons.injEq, exists_eq_left']
    exact yields_pure

theorem yields_readFieldName_of_ticked {name q : List Char} (h : skipBlank s = '\x60' :: q) :
    Yields (readFieldName s) name r ↔ readTicked q = some (name, r) := by
  unfold readFieldName
  split
  · rename_i q' h'
    obtain rfl : q = q' := by simpa [h] using h'
    split
    · rename_i hn
      exact iff_of_false (yields_throw _ _ _) (by simp [hn])
    · rename_i n r' hn
      refine yields_pure.trans ⟨?_, fun hq => ?_⟩
      · rintro ⟨rfl, rfl⟩
        exact hn
      · exact Prod.mk.inj (Option.some.inj (hn.symm.trans hq))
  · rename_i h'
    exact absurd h (h' q)

theorem yields_readFieldName_of_word {name : List Char} (h : ∀ q, skipBlank s ≠ '\x60' :: q) :
    Yields (readFieldName s) name r ↔ Yields (readWord s) name r := by
  unfold readFieldName
  split
  · rename_i q h'
    exact absurd h' (h q)
  · rfl

/-- After the word `w`, the characters `q` complete the type `t` and leave `r`. -/
def Completes (w q : List Char) (t : DataType) (r : List Char) : Prop :=
  if lowerAscii (String.ofList w) = "array" then
    ∃ q₁, skipBlank q = '<' :: q₁ ∧ ∃ element q₂, Yields (readType q₁) element q₂ ∧
      ∃ q₃, skipBlank q₂ = '>' :: q₃ ∧ array element = t ∧ q₃ = r
  else if lowerAscii (String.ofList w) = "struct" then
    ∃ q₁, skipBlank q = '<' :: q₁ ∧ ∃ fields q₂, Yields (readFields q₁) fields q₂ ∧
      (fields.map Prod.fst).Nodup ∧ struct fields = t ∧ q₂ = r
  else if lowerAscii (String.ofList w) = "unrecognized" then
    ∃ q₁, skipBlank q = '<' :: q₁ ∧ ∃ kind q₂, Yields (readKind q₁) kind q₂ ∧
      unrecognized (String.ofList (trim kind)) = t ∧ q₂ = r
  else (Primitive.ofName? (lowerAscii (String.ofList w))).map primitive = some t ∧ q = r

theorem yields_readType {t : DataType} :
    Yields (readType s) t r ↔ ∃ w q, Yields (readWord s) w q ∧ Completes w q t r := by
  rw [readType]
  refine yields_bind fun w q hq => ?_
  unfold Completes
  dsimp only
  split
  · refine yields_readChar_bind fun q₁ h₁ => yields_bind fun element q₂ h₂ => ?_
    exact yields_readChar_bind fun q₃ h₃ => yields_pure
  split
  · refine yields_readChar_bind fun q₁ h₁ => yields_bind fun fields q₂ h₂ => ?_
    dsimp only
    split
    · rename_i hn
      simpa only [hn, true_and] using yields_pure
    · rename_i hn
      simpa only [hn, false_and, iff_false] using yields_throw _ _ _
  split
  · refine yields_readChar_bind fun q₁ h₁ => yields_bind fun kind q₂ h₂ => ?_
    exact yields_pure
  · split
    · rename_i p hp
      simpa only [hp, Option.map_some, Option.some.injEq] using yields_pure
    · rename_i hp
      simpa only [hp, Option.map_none, reduceCtorEq, false_and, iff_false] using yields_throw _ _ _

theorem yields_readFields {fields : List (String × DataType)} :
    Yields (readFields s) fields r ↔ ∃ name q₁, Yields (readFieldName s) name q₁ ∧
      ∃ q₂, skipBlank q₁ = ':' :: q₂ ∧ ∃ t q₃, Yields (readType q₂) t q₃ ∧
        ((∃ q₄, skipBlank q₃ = ',' :: q₄ ∧ ∃ rest q₅, Yields (readFields q₄) rest q₅ ∧
          (String.ofList name, t) :: rest = fields ∧ q₅ = r) ∨
        (∃ q₄, skipBlank q₃ = '>' :: q₄ ∧ [(String.ofList name, t)] = fields ∧ q₄ = r)) := by
  rw [readFields]
  refine yields_bind fun name q₁ h₁ => yields_readChar_bind fun q₂ h₂ => ?_
  refine yields_bind fun t q₃ h₃ => ?_
  dsimp only
  split
  · rename_i q₄ h₄
    simp only [h₄, List.cons.injEq, true_and, exists_eq_left', Char.reduceEq, false_and,
      exists_false, or_false]
    exact yields_bind fun rest q₅ h₅ => yields_pure
  · rename_i q₄ h₄
    simp only [h₄, List.cons.injEq, true_and, exists_eq_left', Char.reduceEq, false_and,
      exists_false, false_or]
    exact yields_pure
  · rename_i hc hg
    refine iff_of_false (yields_throw _ _ _) ?_
    rintro (⟨q₄, h, -⟩ | ⟨q₄, h, -⟩)
    · exact hc q₄ h
    · exact hg q₄ h

end WarehouseAdapter.DataType
