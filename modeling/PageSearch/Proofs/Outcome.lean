import Mathlib.Data.List.Forall2
import PageSearch.Fault

/-!
# Outcomes of several steps

An operation that is made of steps has a result exactly if each step has one, and a fault of it is the fault of
one of its steps (`FailsOnly`). If it is known of each step when it has a result and which one (`Yields`), then so it
is of the operation.
-/

namespace PageSearch.Outcome

variable {α β ε : Type} {x : Outcome α}

theorem bind_eq_ok {x : Except ε α} {f : α → Except ε β} {b : β} :
    (x >>= f) = .ok b ↔ ∃ a, x = .ok a ∧ f a = .ok b := by
  cases x <;> simp [Bind.bind, Except.bind]

theorem map_eq_ok {f : α → β} {b : β} : x.map f = .ok b ↔ ∃ a, x = .ok a ∧ f a = b := by
  cases x <;> simp [Except.map]

theorem pure_eq_ok {a b : α} : (pure a : Except ε α) = .ok b ↔ a = b := by
  simp [pure, Except.pure]

/-- If each item has a result, so has the list. -/
theorem mapM_eq_ok_map {f : α → Outcome β} {g : α → β} {items : List α}
    (h : ∀ a ∈ items, f a = .ok (g a)) : items.mapM f = .ok (items.map g) := by
  induction items with
  | nil => rfl
  | cons a items ih =>
    obtain ⟨ha, hitems⟩ := List.forall_mem_cons.1 h
    rw [List.mapM_cons, ha, ih hitems]
    rfl

/-- **A list of items has results** exactly if each item has its own. -/
theorem mapM_eq_ok_iff {f : α → Outcome β} {items : List α} {results : List β} :
    items.mapM f = .ok results ↔ List.Forall₂ (fun a b => f a = .ok b) items results := by
  induction items generalizing results with
  | nil => rw [List.mapM_nil, pure_eq_ok, List.forall₂_nil_left_iff, eq_comm]
  | cons a items ih =>
    simp only [List.mapM_cons, bind_eq_ok, pure_eq_ok, ih, List.forall₂_cons_left_iff]
    constructor
    · rintro ⟨b, hb, rest, hrest, rfl⟩
      exact ⟨b, rest, hb, hrest, rfl⟩
    · rintro ⟨b, rest, hb, hrest, rfl⟩
      exact ⟨b, hb, rest, hrest, rfl⟩

/-- If what is made of each item depends on the result of a first step, the list depends on the first results. -/
theorem mapM_eq_ok_zipWith {γ : Type} {f : α → Outcome β} {items : List α} {firsts : List β}
    (h : List.Forall₂ (fun a b => f a = .ok b) items firsts) (g : α → β → γ) :
    (items.mapM fun a => do return g a (← f a)) = .ok (List.zipWith g items firsts) := by
  induction h with
  | nil => rfl
  | cons hab _ ih =>
    rw [List.mapM_cons, hab, ih]
    rfl

/-- If the results of all items are changed, so are those of the list. -/
theorem mapM_map_result {γ : Type} (f : α → Outcome β) (g : β → γ) (items : List α) :
    (items.mapM fun a => (f a).map g) = (items.mapM f).map (List.map g) := by
  induction items with
  | nil => rfl
  | cons a items ih =>
    rw [List.mapM_cons, List.mapM_cons, ih]
    cases f a with
    | error fault => rfl
    | ok b =>
      cases items.mapM f with
      | error fault => rfl
      | ok results => rfl

/-- A result of a list comes from one of its items. -/
theorem exists_of_mem_of_mapM {f : α → Outcome β} {items : List α} {results : List β}
    (h : items.mapM f = .ok results) {b : β} (hb : b ∈ results) : ∃ a ∈ items, f a = .ok b := by
  rw [mapM_eq_ok_iff] at h
  induction h with
  | nil => cases hb
  | @cons a b' items results hab _ ih =>
    rcases List.mem_cons.1 hb with rfl | hb
    · exact ⟨a, List.mem_cons_self, hab⟩
    · obtain ⟨a', ha', hb'⟩ := ih hb
      exact ⟨a', List.mem_cons_of_mem a ha', hb'⟩

/-- If each item has a result, so has the list. -/
theorem exists_mapM_of_exists {f : α → Outcome β} {items : List α} (h : ∀ a ∈ items, ∃ b, f a = .ok b) :
    ∃ results, items.mapM f = .ok results := by
  induction items with
  | nil => exact ⟨[], rfl⟩
  | cons a items ih =>
    obtain ⟨⟨b, hb⟩, hitems⟩ := List.forall_mem_cons.1 h
    obtain ⟨results, hresults⟩ := ih hitems
    refine ⟨b :: results, ?_⟩
    rw [List.mapM_cons, hb, hresults]
    rfl

/-! ### Faults -/

/-- All faults that an operation can have are of one sort. -/
def FailsOnly (p : Fault → Prop) (x : Outcome α) : Prop := ∀ fault, x = .error fault → p fault

variable {p : Fault → Prop}

theorem failsOnly_ok (a : α) : FailsOnly p (.ok a : Outcome α) := fun _ h => nomatch h

theorem failsOnly_error {fault : Fault} (h : p fault) : FailsOnly p (.error fault : Outcome α) := by
  intro fault' hfault
  obtain rfl := Except.error.inj hfault
  exact h

theorem FailsOnly.mono {p' : Fault → Prop} (h : FailsOnly p x) (hp : ∀ fault, p fault → p' fault) :
    FailsOnly p' x := fun fault hfault => hp fault (h fault hfault)

/-- A fault of two steps is one of the first or one of the second. -/
theorem FailsOnly.bind {f : α → Outcome β} (hx : FailsOnly p x) (hf : ∀ a, x = .ok a → FailsOnly p (f a)) :
    FailsOnly p (x >>= f) := by
  cases x with
  | error fault => exact failsOnly_error (hx fault rfl)
  | ok a => exact hf a rfl

theorem FailsOnly.map (hx : FailsOnly p x) (f : α → β) : FailsOnly p (x.map f) := by
  cases x with
  | error fault => exact failsOnly_error (hx fault rfl)
  | ok a => exact failsOnly_ok (f a)

/-- A fault of a list is one of its items. -/
theorem FailsOnly.mapM {f : α → Outcome β} {items : List α} (h : ∀ a ∈ items, FailsOnly p (f a)) :
    FailsOnly p (items.mapM f) := by
  induction items with
  | nil => exact failsOnly_ok []
  | cons a items ih =>
    obtain ⟨ha, hitems⟩ := List.forall_mem_cons.1 h
    rw [List.mapM_cons]
    exact ha.bind fun b _ => (ih hitems).bind fun bs _ => failsOnly_ok (b :: bs)

/-! ### The only result -/

/-- An operation has a result exactly under a condition, and then this one. -/
def Yields (x : Outcome α) (p : Prop) (a : α) : Prop := ∀ b, x = .ok b ↔ p ∧ b = a

variable {p q : Prop} {a : α} {b : β}

theorem yields_ok (hp : p) (a : α) : Yields (.ok a) p a := by
  intro b
  rw [Except.ok.injEq, and_iff_right hp, eq_comm]

theorem yields_error (hp : ¬p) (fault : Fault) (a : α) : Yields (.error fault) p a := by
  intro b
  constructor
  · intro h
    cases h
  · rintro ⟨hp', -⟩
    exact absurd hp' hp

theorem Yields.congr (h : Yields x p a) (hpq : p ↔ q) : Yields x q a := by
  intro b
  rw [h b, hpq]

theorem Yields.exists_iff (h : Yields x p a) : (∃ b, x = .ok b) ↔ p := by
  constructor
  · rintro ⟨b, hb⟩
    exact ((h b).1 hb).1
  · intro hp
    exact ⟨a, (h a).2 ⟨hp, rfl⟩⟩

/-- **Two steps** have a result under the conditions of both. -/
theorem Yields.bind {f : α → Outcome β} (hx : Yields x p a) (hf : Yields (f a) q b) : Yields (x >>= f) (p ∧ q) b := by
  intro c
  rw [bind_eq_ok]
  constructor
  · rintro ⟨a', ha', hc⟩
    obtain ⟨hp, rfl⟩ := (hx a').1 ha'
    obtain ⟨hq, hcb⟩ := (hf c).1 hc
    exact ⟨⟨hp, hq⟩, hcb⟩
  · rintro ⟨⟨hp, hq⟩, hcb⟩
    exact ⟨a, (hx a).2 ⟨hp, rfl⟩, (hf c).2 ⟨hq, hcb⟩⟩

theorem Yields.bind_pure (h : Yields x p a) (f : α → β) : Yields (x >>= fun a => pure (f a)) p (f a) :=
  (h.bind (f := fun a => pure (f a)) (yields_ok trivial (f a))).congr (and_iff_left trivial)

/-- An operation that has a result fails only where its condition does not hold. -/
theorem Yields.failsOnly {r : Fault → Prop} (h : Yields x p a) (hx : FailsOnly r x) :
    FailsOnly (fun fault => r fault ∧ ¬p) x := by
  intro fault hfault
  refine ⟨hx fault hfault, fun hp => ?_⟩
  have hresult := (h a).2 ⟨hp, rfl⟩
  rw [hfault] at hresult
  cases hresult

/-- **A list has results** under the conditions of all its items. -/
theorem exists_yields_mapM {f : α → Outcome β} {cond : α → Prop} {R : α → β → Prop} {items : List α}
    (h : ∀ a ∈ items, ∃ b, Yields (f a) (cond a) b ∧ R a b) :
    ∃ results, Yields (items.mapM f) (∀ a ∈ items, cond a) results ∧ List.Forall₂ R items results := by
  induction items with
  | nil => exact ⟨[], yields_ok (by simp) [], .nil⟩
  | cons a items ih =>
    obtain ⟨ha, hitems⟩ := List.forall_mem_cons.1 h
    obtain ⟨b, hb, hR⟩ := ha
    obtain ⟨results, hresults, hRs⟩ := ih hitems
    refine ⟨b :: results, ?_, .cons hR hRs⟩
    rw [List.mapM_cons]
    exact (hb.bind (hresults.bind_pure (b :: ·))).congr List.forall_mem_cons.symm

/-- If the result of each item is known, so are those of the list. -/
theorem yields_mapM {f : α → Outcome β} {cond : α → Prop} {g : α → β} (h : ∀ a, Yields (f a) (cond a) (g a))
    (items : List α) : Yields (items.mapM f) (∀ a ∈ items, cond a) (items.map g) := by
  obtain ⟨results, hresults, hmap⟩ : ∃ results, Yields (items.mapM f) (∀ a ∈ items, cond a) results ∧
      List.Forall₂ (fun a b => g a = b) items results := exists_yields_mapM fun a _ => ⟨g a, h a, rfl⟩
  obtain rfl : items.map g = results := List.forall₂_eq_eq_eq ▸ List.forall₂_map_left_iff.2 hmap
  exact hresults

end PageSearch.Outcome
