import WarehouseAdapter.Backend
import WarehouseAdapter.Proofs.Texts

/-!
# Names of datasets

A name with one dot splits into a project and a dataset; any other name stands for a dataset of the
project that is given beside it. So the text of a dataset reads back as that dataset exactly when
neither of its parts has a dot of its own.
-/

namespace WarehouseAdapter

def dots (s : String) : Nat := s.toList.count '.'

/-- Neither part of the reference has a dot. -/
def DatasetReference.IsPlain (d : DatasetReference) : Prop :=
  dots d.project = 0 ∧ dots d.dataset = 0

variable {name project : String} {d : DatasetReference}

theorem dots_text (d : DatasetReference) : dots d.text = dots d.project + 1 + dots d.dataset := by
  unfold dots DatasetReference.text
  rw [String.toList_append, String.toList_append, List.count_append, List.count_append]
  rfl

theorem dots_text_eq_one_iff : dots d.text = 1 ↔ d.IsPlain := by
  rw [dots_text, DatasetReference.IsPlain]
  omega

theorem dots_eq_zero_iff {s : String} : dots s = 0 ↔ '.' ∉ s.toList := List.count_eq_zero

/-- A name divided at its first dot. -/
theorem twoParts_text (h : dots d.project = 0) :
    twoParts? d.text = if dots d.dataset = 0 then some (d.project, d.dataset) else none := by
  have htext : d.text.toList = d.project.toList ++ '.' :: d.dataset.toList := by
    simp [DatasetReference.text]
  obtain ⟨htake, hdrop⟩ := takeWhile_dropWhile_ne (dots_eq_zero_iff.1 h) d.dataset.toList
  unfold twoParts?
  rw [htext, hdrop, htake]
  by_cases hdataset : dots d.dataset = 0
  · rw [if_pos hdataset]
    rw [dots_eq_zero_iff] at hdataset
    simp [hdataset]
  · rw [if_neg hdataset]
    rw [dots_eq_zero_iff] at hdataset
    simpa using hdataset

theorem twoParts_of_dots_eq_zero (h : dots name = 0) : twoParts? name = none := by
  have hdrop : name.toList.dropWhile (· != '.') = [] := by
    rw [List.dropWhile_eq_nil_iff]
    intro c hc
    rw [bne_iff_ne]
    rintro rfl
    exact dots_eq_zero_iff.1 h hc
  unfold twoParts?
  rw [hdrop]

theorem exists_text_of_dots_ne_zero (h : dots name ≠ 0) :
    ∃ d : DatasetReference, dots d.project = 0 ∧ d.text = name := by
  have hmem : '.' ∈ name.toList := Decidable.not_not.1 fun hno => h (dots_eq_zero_iff.2 hno)
  obtain ⟨cs, rest, hname, hcs⟩ := List.eq_append_cons_of_mem hmem
  refine ⟨⟨.ofList cs, .ofList rest⟩, ?_, ?_⟩
  · rw [dots_eq_zero_iff, String.toList_ofList]
    exact hcs
  · apply String.toList_injective
    simp [DatasetReference.text, hname]

/-- A dataset without dots in its parts is read back from its text. -/
theorem datasetReference_text (h : d.IsPlain) : datasetReference project d.text = d := by
  rw [datasetReference, twoParts_text h.1, if_pos h.2]

/-- A name that has no dot, or several, is taken whole. -/
theorem datasetReference_of_dots_ne_one (h : dots name ≠ 1) :
    datasetReference project name = ⟨project, name⟩ := by
  have hnone : twoParts? name = none := by
    by_cases hzero : dots name = 0
    · exact twoParts_of_dots_eq_zero hzero
    · obtain ⟨d, hproject, rfl⟩ := exists_text_of_dots_ne_zero hzero
      have hdataset : ¬ dots d.dataset = 0 := fun hd => h (dots_text_eq_one_iff.2 ⟨hproject, hd⟩)
      rw [twoParts_text hproject, if_neg hdataset]
  rw [datasetReference, hnone]

/-- A name beside a project has one dot, or neither has any. -/
def NamesPlain (project name : String) : Prop := dots name = 1 ∨ (dots name = 0 ∧ dots project = 0)

theorem datasetReference_isPlain_iff :
    (datasetReference project name).IsPlain ↔ NamesPlain project name := by
  unfold NamesPlain
  by_cases hone : dots name = 1
  · obtain ⟨d, hproject, rfl⟩ := exists_text_of_dots_ne_zero (hone ▸ Nat.one_ne_zero)
    have hd := dots_text_eq_one_iff.1 hone
    rw [datasetReference_text hd]
    exact iff_of_true hd (.inl hone)
  · rw [datasetReference_of_dots_ne_one hone, DatasetReference.IsPlain, and_comm]
    simp [hone]

end WarehouseAdapter
