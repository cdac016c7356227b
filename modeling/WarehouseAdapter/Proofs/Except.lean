import Mathlib

/-!
# Steps that may fail

When a chain of steps that may fail succeeds: each step does, on what the step before it gave. A
step taken on every element of a list relates the list to its results one by one (`List.Forall₂`).
`FailsIff` says exactly when a step fails, and in which ways; `SucceedsIff` says exactly when it
succeeds, and with which results. Both are followed through chains and through lists.
-/

namespace WarehouseAdapter

variable {ε ε' α β : Type} {F : ε → Prop} {p q : Prop} {x : Except ε α}

theorem bind_eq_ok_iff {f : α → Except ε β} {b : β} :
    (x >>= f) = .ok b ↔ ∃ a, x = .ok a ∧ f a = .ok b := by
  cases x with
  | error e => simp [bind, Except.bind]
  | ok a => simp [bind, Except.bind]

theorem bind_eq_error_iff {f : α → Except ε β} {e : ε} :
    (x >>= f) = .error e ↔ x = .error e ∨ ∃ a, x = .ok a ∧ f a = .error e := by
  cases x with
  | error e' => simp [bind, Except.bind]
  | ok a => simp [bind, Except.bind]

theorem bind_cons_eq_ok_iff {f : α → β} {rest : Except ε (List β)} {bs : List β} :
    (do return f (← x) :: (← rest)) = .ok bs ↔
      ∃ a cs, x = .ok a ∧ rest = .ok cs ∧ bs = f a :: cs := by
  rw [bind_eq_ok_iff]
  constructor
  · rintro ⟨a, ha, h⟩
    obtain ⟨cs, hcs, h⟩ := bind_eq_ok_iff.1 h
    cases h
    exact ⟨a, cs, ha, hcs, rfl⟩
  · rintro ⟨a, cs, ha, hcs, rfl⟩
    exact ⟨a, ha, bind_eq_ok_iff.2 ⟨cs, hcs, rfl⟩⟩

theorem map_eq_ok_iff {f : α → β} {b : β} : x.map f = .ok b ↔ ∃ a, x = .ok a ∧ f a = b := by
  cases x with
  | error e => simp [Except.map]
  | ok a => simp [Except.map]

theorem map_eq_error_iff {f : α → β} {e : ε} : x.map f = .error e ↔ x = .error e := by
  cases x with
  | error e' => simp [Except.map]
  | ok a => simp [Except.map]

theorem mapError_eq_ok_iff {f : ε → ε'} {a : α} : x.mapError f = .ok a ↔ x = .ok a := by
  cases x with
  | error e => simp [Except.mapError]
  | ok b => simp [Except.mapError]

theorem mapError_eq_error_iff {f : ε → ε'} {e : ε'} :
    x.mapError f = .error e ↔ ∃ e', x = .error e' ∧ f e' = e := by
  cases x with
  | error e' => simp [Except.mapError]
  | ok a => simp [Except.mapError]

theorem toOption_eq_some_iff {a : α} : x.toOption = some a ↔ x = .ok a := by
  cases x with
  | error e => simp [Except.toOption]
  | ok b => simp [Except.toOption]

/-- The same result, or none from either. -/
theorem toOption_eq_toOption_iff {y : Except ε' α} :
    x.toOption = y.toOption ↔ ∀ a, x = .ok a ↔ y = .ok a := by
  rw [Option.ext_iff]
  simp only [toOption_eq_some_iff]

theorem mapM_eq_ok_iff {f : α → Except ε β} {as : List α} {bs : List β} :
    as.mapM f = .ok bs ↔ List.Forall₂ (fun a b => f a = .ok b) as bs := by
  induction as generalizing bs with
  | nil => simp [pure, Except.pure, eq_comm]
  | cons a as ih =>
    rw [List.mapM_cons, List.forall₂_cons_left_iff, bind_eq_ok_iff]
    apply exists_congr
    intro b
    rw [bind_eq_ok_iff]
    constructor
    · rintro ⟨ha, cs, hcs, h⟩
      cases h
      exact ⟨cs, ha, ih.1 hcs, rfl⟩
    · rintro ⟨cs, ha, hcs, rfl⟩
      exact ⟨ha, cs, ih.2 hcs, rfl⟩

theorem forall_mem_of_forall₂ {S : α → β → Prop} {T : β → Prop} {as : List α} {bs : List β}
    (h : List.Forall₂ S as bs) (hT : ∀ a b, S a b → T b) : ∀ b ∈ bs, T b := by
  induction h with
  | nil => exact List.forall_mem_nil T
  | cons hab _ ih => exact List.forall_mem_cons.2 ⟨hT _ _ hab, ih⟩

theorem exists_forall₂_iff {S : α → β → Prop} {as : List α} :
    (∃ bs, List.Forall₂ S as bs) ↔ ∀ a ∈ as, ∃ b, S a b := by
  induction as with
  | nil => simp
  | cons a as ih =>
    rw [List.forall_mem_cons, ← ih]
    constructor
    · rintro ⟨_, _ | ⟨hab, hrest⟩⟩
      exact ⟨⟨_, hab⟩, _, hrest⟩
    · rintro ⟨⟨b, hab⟩, bs, hrest⟩
      exact ⟨b :: bs, .cons hab hrest⟩

/-- Two related lists have a third one between them if any two related elements have one. -/
theorem exists_forall₂_between {γ : Type} {R : α → β → Prop} {S : α → γ → Prop}
    {T : γ → β → Prop} {as : List α} {bs : List β} (h : List.Forall₂ R as bs)
    (hR : ∀ a b, R a b → ∃ c, S a c ∧ T c b) :
    ∃ cs, List.Forall₂ S as cs ∧ List.Forall₂ T cs bs := by
  induction h with
  | nil => exact ⟨[], .nil, .nil⟩
  | cons hab _ ih =>
    obtain ⟨c, hac, hcb⟩ := hR _ _ hab
    obtain ⟨cs, has, hbs⟩ := ih
    exact ⟨c :: cs, .cons hac has, .cons hcb hbs⟩

theorem forall₂_congr_of_mem {S T : α → β → Prop} {as : List α} {bs : List β}
    (h : ∀ a ∈ as, ∀ b, S a b ↔ T a b) : List.Forall₂ S as bs ↔ List.Forall₂ T as bs := by
  induction as generalizing bs with
  | nil => rw [List.forall₂_nil_left_iff, List.forall₂_nil_left_iff]
  | cons a as ih =>
    obtain ⟨ha, has⟩ := List.forall_mem_cons.1 h
    simp only [List.forall₂_cons_left_iff, ha, ih has]

theorem mapM_cons_of_ok {f : α → Except ε β} {a : α} {b : β} (as : List α) (h : f a = .ok b) :
    (a :: as).mapM f = (as.mapM f).map (b :: ·) := by
  rw [List.mapM_cons, h]
  cases as.mapM f <;> rfl

theorem mapM_cons_of_error {f : α → Except ε β} {a : α} {e : ε} (as : List α)
    (h : f a = .error e) : (a :: as).mapM f = .error e := by
  rw [List.mapM_cons, h]
  rfl

/-- The first step that fails decides on the error. -/
theorem mapM_eq_error_iff {f : α → Except ε β} {as : List α} {e : ε} :
    as.mapM f = .error e ↔ ∃ before a behind, as = before ++ a :: behind ∧
      (∀ b ∈ before, ∃ c, f b = .ok c) ∧ f a = .error e := by
  constructor
  · intro h
    induction as with
    | nil => cases h
    | cons a as ih =>
      cases ha : f a with
      | error e' =>
        rw [mapM_cons_of_error as ha] at h
        cases h
        exact ⟨[], a, as, rfl, by simp, ha⟩
      | ok c =>
        rw [mapM_cons_of_ok as ha, map_eq_error_iff] at h
        obtain ⟨before, a', behind, rfl, hbefore, ha'⟩ := ih h
        exact ⟨a :: before, a', behind, rfl, List.forall_mem_cons.2 ⟨⟨c, ha⟩, hbefore⟩, ha'⟩
  · rintro ⟨before, a, behind, rfl, hbefore, ha⟩
    induction before with
    | nil => exact mapM_cons_of_error behind ha
    | cons b before ih =>
      obtain ⟨⟨c, hc⟩, hbefore⟩ := List.forall_mem_cons.1 hbefore
      rw [List.cons_append, mapM_cons_of_ok _ hc, ih hbefore]
      rfl

/-- Two steps give the same if they agree as far as the first of them gets. -/
theorem mapM_congr_of_ok {f g : α → Except ε β} {as : List α}
    (h : ∀ before a behind, as = before ++ a :: behind → (∀ b ∈ before, ∃ c, f b = .ok c) →
      g a = f a) : as.mapM g = as.mapM f := by
  induction as with
  | nil => rfl
  | cons a as ih =>
    have hhead : g a = f a := h [] a as rfl (by simp)
    cases ha : f a with
    | error e => rw [mapM_cons_of_error as ha, mapM_cons_of_error as (hhead.trans ha)]
    | ok c =>
      have htail : as.mapM g = as.mapM f := by
        refine ih fun before a' behind has hbefore => ?_
        refine h (a :: before) a' behind (by rw [has]; rfl) ?_
        exact List.forall_mem_cons.2 ⟨⟨c, ha⟩, hbefore⟩
      rw [mapM_cons_of_ok as ha, mapM_cons_of_ok as (hhead.trans ha), htail]

theorem exists_of_mapM_eq_error {f : α → Except ε β} {as : List α} {e : ε}
    (h : as.mapM f = .error e) : ∃ a ∈ as, f a = .error e := by
  obtain ⟨before, a, behind, rfl, -, ha⟩ := mapM_eq_error_iff.1 h
  exact ⟨a, by simp, ha⟩

/-- A step that fails exactly when `p` holds, and then in one of the ways `F`. -/
def FailsIff (F : ε → Prop) (p : Prop) (x : Except ε α) : Prop :=
  (p ∧ ∃ e, F e ∧ x = .error e) ∨ (¬ p ∧ ∃ a, x = .ok a)

theorem failsIff_ok (hp : ¬ p) (a : α) : FailsIff F p (.ok a) := .inr ⟨hp, a, rfl⟩

theorem failsIff_error {e : ε} (hp : p) (he : F e) : FailsIff F p (.error e : Except ε α) :=
  .inl ⟨hp, e, he, rfl⟩

namespace FailsIff

theorem ok_iff (h : FailsIff F p x) : (∃ a, x = .ok a) ↔ ¬ p := by
  rcases h with ⟨hp, e, -, rfl⟩ | ⟨hp, a, rfl⟩
  · simp [hp]
  · simp [hp]

theorem of_error {e : ε} (h : FailsIff F p x) (he : x = .error e) : F e := by
  rcases h with ⟨-, e', hF, rfl⟩ | ⟨-, a, rfl⟩
  · cases he
    exact hF
  · cases he

theorem congr (h : FailsIff F p x) (hpq : p ↔ q) : FailsIff F q x := by
  rwa [FailsIff, ← hpq]

theorem map (h : FailsIff F p x) (f : α → β) : FailsIff F p (x.map f) := by
  rcases h with ⟨hp, e, he, rfl⟩ | ⟨hp, a, rfl⟩
  · exact failsIff_error hp he
  · exact failsIff_ok hp (f a)

theorem bind {f : α → Except ε β} (h : FailsIff F p x)
    (hf : ∀ a, x = .ok a → FailsIff F q (f a)) : FailsIff F (p ∨ q) (x >>= f) := by
  rcases h with ⟨hp, e, he, rfl⟩ | ⟨hp, a, rfl⟩
  · exact failsIff_error (.inl hp) he
  · exact (hf a rfl).congr (by simp [hp])

theorem mapM {P : α → Prop} {f : α → Except ε β} {xs : List α}
    (h : ∀ a ∈ xs, FailsIff F (P a) (f a)) : FailsIff F (∃ a ∈ xs, P a) (xs.mapM f) := by
  induction xs with
  | nil => exact failsIff_ok (by simp) []
  | cons a xs ih =>
    obtain ⟨ha, hxs⟩ := List.forall_mem_cons.1 h
    rw [List.mapM_cons]
    have hrest : ∀ b, FailsIff F (∃ a ∈ xs, P a) (do return b :: (← xs.mapM f)) :=
      fun b => ((ih hxs).bind fun bs _ => failsIff_ok not_false (b :: bs)).congr (by simp)
    exact (ha.bind fun b _ => hrest b).congr (by simp)

end FailsIff

variable {Q : α → Prop} {R : β → Prop}

/-- A step that succeeds exactly when `p` holds, and then with one of the results `Q`. -/
def SucceedsIff (Q : α → Prop) (p : Prop) (x : Except ε α) : Prop :=
  (p ∧ ∃ a, Q a ∧ x = .ok a) ∨ (¬ p ∧ ∃ e, x = .error e)

theorem succeedsIff_ok {a : α} (hp : p) (ha : Q a) : SucceedsIff Q p (.ok a : Except ε α) :=
  .inl ⟨hp, a, ha, rfl⟩

theorem succeedsIff_error (hp : ¬ p) (e : ε) : SucceedsIff Q p (.error e) := .inr ⟨hp, e, rfl⟩

namespace SucceedsIff

theorem ok_iff (h : SucceedsIff Q p x) : (∃ a, x = .ok a) ↔ p := by
  rcases h with ⟨hp, a, -, rfl⟩ | ⟨hp, e, rfl⟩
  · simp [hp]
  · simp [hp]

theorem of_ok {a : α} (h : SucceedsIff Q p x) (ha : x = .ok a) : Q a := by
  rcases h with ⟨-, b, hb, rfl⟩ | ⟨-, e, rfl⟩
  · cases ha
    exact hb
  · cases ha

theorem congr (h : SucceedsIff Q p x) (hpq : p ↔ q) : SucceedsIff Q q x := by
  rwa [SucceedsIff, ← hpq]

theorem map (h : SucceedsIff Q p x) (f : α → β) (hf : ∀ a, Q a → R (f a)) :
    SucceedsIff R p (x.map f) := by
  rcases h with ⟨hp, a, ha, rfl⟩ | ⟨hp, e, rfl⟩
  · exact succeedsIff_ok hp (hf a ha)
  · exact succeedsIff_error hp e

theorem bind {f : α → Except ε β} (h : SucceedsIff Q p x)
    (hf : ∀ a, Q a → SucceedsIff R q (f a)) : SucceedsIff R (p ∧ q) (x >>= f) := by
  rcases h with ⟨hp, a, ha, rfl⟩ | ⟨hp, e, rfl⟩
  · exact (hf a ha).congr (by simp [hp])
  · exact succeedsIff_error (by simp [hp]) e

theorem mapM {P : α → Prop} {f : α → Except ε β} {as : List α}
    (h : ∀ a ∈ as, SucceedsIff R (P a) (f a)) :
    SucceedsIff (fun bs => ∀ b ∈ bs, R b) (∀ a ∈ as, P a) (as.mapM f) := by
  induction as with
  | nil => exact succeedsIff_ok (by simp) (by simp)
  | cons a as ih =>
    obtain ⟨ha, has⟩ := List.forall_mem_cons.1 h
    rw [List.mapM_cons]
    have hrest : ∀ b, R b → SucceedsIff (fun bs => ∀ b ∈ bs, R b) (∀ a ∈ as, P a)
        (do return b :: (← as.mapM f)) := by
      intro b hb
      refine ((ih has).bind (q := True) fun bs hbs => ?_).congr (by simp)
      exact succeedsIff_ok trivial (List.forall_mem_cons.2 ⟨hb, hbs⟩)
    exact (ha.bind hrest).congr List.forall_mem_cons.symm

end SucceedsIff

end WarehouseAdapter
