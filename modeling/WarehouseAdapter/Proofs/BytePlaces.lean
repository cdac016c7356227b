import Mathlib
import WarehouseAdapter.Text.Basic

/-!
# Places in a text, counted in bytes

A place is the number of bytes in front of it. It is a place of the text where a character begins
or the text ends, and just there can the text be cut in two.
-/

namespace WarehouseAdapter

variable {cs p s : List Char} {n : Nat}

@[simp] theorem utf8Length_nil : utf8Length [] = 0 := rfl

@[simp] theorem utf8Length_cons (c : Char) (cs : List Char) :
    utf8Length (c :: cs) = c.utf8Size + utf8Length cs := rfl

@[simp] theorem utf8Length_append (p s : List Char) :
    utf8Length (p ++ s) = utf8Length p + utf8Length s := by
  induction p with
  | nil => simp
  | cons c p ih => simp [ih, Nat.add_assoc]

theorem utf8Length_eq_utf8ByteSize (cs : List Char) :
    utf8Length cs = (String.ofList cs).utf8ByteSize := by
  rw [String.utf8ByteSize_ofList]
  induction cs with
  | nil => rfl
  | cons c cs ih => rw [utf8Length_cons, String.utf8Len_cons, ih, Nat.add_comm]

theorem utf8Length_toList (source : String) : utf8Length source.toList = source.utf8ByteSize := by
  rw [utf8Length_eq_utf8ByteSize, String.ofList_toList]

theorem utf8Length_eq_zero_iff : utf8Length cs = 0 ↔ cs = [] := by
  cases cs with
  | nil => simp
  | cons c cs =>
    have := c.utf8Size_pos
    simp only [utf8Length_cons, reduceCtorEq, iff_false]
    omega

/-- The texts in front of the place `n` and behind it. There are none if the text ends before `n` or
`n` lies inside a character. -/
def cut? : Nat → List Char → Option (List Char × List Char)
  | 0, cs => some ([], cs)
  | _ + 1, [] => none
  | n + 1, c :: cs =>
    if c.utf8Size ≤ n + 1 then (cut? (n + 1 - c.utf8Size) cs).map fun q => (c :: q.1, q.2)
    else none

theorem cut?_append (p s : List Char) : cut? (utf8Length p) (p ++ s) = some (p, s) := by
  induction p with
  | nil => cases s <;> rfl
  | cons c p ih =>
    obtain ⟨k, hk⟩ : ∃ k, utf8Length (c :: p) = k + 1 :=
      Nat.exists_eq_succ_of_ne_zero (utf8Length_eq_zero_iff.not.2 (List.cons_ne_nil c p))
    have hle : c.utf8Size ≤ k + 1 := by
      rw [← hk, utf8Length_cons]
      omega
    have hrest : k + 1 - c.utf8Size = utf8Length p := by
      rw [← hk, utf8Length_cons]
      omega
    rw [hk, List.cons_append, cut?, if_pos hle, hrest, ih]
    rfl

theorem eq_append_of_cut? (h : cut? n cs = some (p, s)) : cs = p ++ s ∧ utf8Length p = n := by
  fun_induction cut? n cs generalizing p with
  | case1 cs =>
    obtain ⟨rfl, rfl⟩ := Prod.mk.inj (Option.some.inj h)
    exact ⟨rfl, rfl⟩
  | case2 => cases h
  | case3 n c cs hle ih =>
    obtain ⟨⟨q, r⟩, hq, he⟩ := Option.map_eq_some_iff.1 h
    obtain ⟨rfl, rfl⟩ := Prod.mk.inj he
    obtain ⟨rfl, hlength⟩ : cs = q ++ r ∧ utf8Length q = n + 1 - c.utf8Size := ih hq
    refine ⟨rfl, ?_⟩
    change c.utf8Size + utf8Length q = n + 1
    omega
  | case4 => cases h

theorem cut?_eq_some_iff : cut? n cs = some (p, s) ↔ cs = p ++ s ∧ utf8Length p = n := by
  refine ⟨eq_append_of_cut?, ?_⟩
  rintro ⟨rfl, rfl⟩
  exact cut?_append p s

/-- A text can be cut just at the places between its characters. -/
theorem isSome_cut?_iff (source : String) (n : Nat) :
    (cut? n source.toList).isSome = true ↔ (⟨n⟩ : String.Pos.Raw).IsValid source := by
  rw [String.Pos.Raw.isValid_iff_exists_append, Option.isSome_iff_exists]
  constructor
  · rintro ⟨⟨p, s⟩, h⟩
    obtain ⟨hsource, rfl⟩ := eq_append_of_cut? h
    refine ⟨String.ofList p, String.ofList s, ?_, ?_⟩
    · rw [← String.ofList_append, ← hsource, String.ofList_toList]
    · rw [utf8Length_eq_utf8ByteSize]
      rfl
  · rintro ⟨p, s, rfl, hn⟩
    refine ⟨(p.toList, s.toList), cut?_eq_some_iff.2 ⟨String.toList_append, ?_⟩⟩
    rw [utf8Length_toList]
    exact (congrArg String.Pos.Raw.byteIdx hn).symm

/-- The place of the first character that `found` accepts. -/
def placeOf? (found : Char → Bool) : List Char → Option Nat
  | [] => none
  | c :: cs => if found c then some 0 else (placeOf? found cs).map (c.utf8Size + ·)

theorem placeOf?_eq (found : Char → Bool) (cs : List Char) : placeOf? found cs =
    if cs.dropWhile (!found ·) = [] then none else some (utf8Length (cs.takeWhile (!found ·))) := by
  induction cs with
  | nil => rfl
  | cons c cs ih =>
    cases hc : found c with
    | true => simp [placeOf?, hc]
    | false =>
      by_cases hnil : cs.dropWhile (!found ·) = []
      · simp [placeOf?, hc, ih, hnil]
      · simp [placeOf?, hc, ih, hnil]

/-- Without such a character the whole text goes before it. -/
theorem placeOf?_getD (found : Char → Bool) (cs : List Char) :
    (placeOf? found cs).getD (utf8Length cs) = utf8Length (cs.takeWhile (!found ·)) := by
  rw [placeOf?_eq]
  split_ifs with hnil
  · have hall := List.takeWhile_append_dropWhile (p := (!found ·)) (l := cs)
    rw [hnil, List.append_nil] at hall
    rw [Option.getD_none, hall]
  · rfl

end WarehouseAdapter
