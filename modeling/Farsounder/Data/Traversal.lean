import Mathlib.Data.List.Forall2

namespace Farsounder.Data.Traversal

universe u

/-! Computations that return a value or fail, and loops over lists of them. -/

variable {ε : Type u} {α β : Type}

@[simp] theorem ok_bind (value : α) (rest : α → Except ε β) :
    (Except.ok value >>= rest) = rest value := rfl

@[simp] theorem error_bind (failure : ε) (rest : α → Except ε β) :
    (Except.error failure >>= rest) = .error failure := rfl

@[simp] theorem pure_eq (value : α) :
    (pure value : Except ε α) = .ok value := rfl

@[simp] theorem throw_eq (failure : ε) :
    (throw failure : Except ε α) = .error failure := rfl

@[simp] theorem map_ok (function : α → β) (value : α) :
    (Except.ok value : Except ε α).map function = .ok (function value) := rfl

theorem bind_eq_ok {first : Except ε α} {rest : α → Except ε β} {result : β} :
    (first >>= rest) = .ok result ↔
    ∃ value, first = .ok value ∧ rest value = .ok result := by
  cases first with
  | error failure =>
      exact iff_of_false nofun (fun ⟨_, returned, _⟩ => nomatch returned)
  | ok value =>
      constructor
      · intro returned
        exact ⟨value, rfl, returned⟩
      · rintro ⟨_, same, returned⟩
        obtain rfl := Except.ok.inj same
        exact returned

theorem pure_eq_ok {value result : α} :
    (pure value : Except ε α) = .ok result ↔ value = result := by
  rw [pure_eq, Except.ok.injEq]

/-- A loop returns exactly if it returns for each element. -/
theorem mapM_eq_ok {body : α → Except ε β} {elements : List α}
    {results : List β} :
    elements.mapM body = .ok results ↔
      List.Forall₂ (fun element result => body element = .ok result) elements
        results := by
  induction elements generalizing results with
  | nil =>
      rw [List.mapM_nil, pure_eq_ok]
      constructor
      · rintro rfl
        exact .nil
      · intro matched
        cases matched
        rfl
  | cons element rest induction =>
      rw [List.mapM_cons, bind_eq_ok]
      constructor
      · rintro ⟨result, returned, continued⟩
        obtain ⟨others, looped, combined⟩ := bind_eq_ok.mp continued
        obtain rfl := pure_eq_ok.mp combined
        exact .cons returned (induction.mp looped)
      · intro matched
        cases matched with
        | @cons _ result _ others returned looped =>
            exact ⟨result, returned,
              bind_eq_ok.mpr ⟨others, induction.mpr looped, rfl⟩⟩

theorem mapM_returns_iff {body : α → Except ε β} {elements : List α} :
    (∃ results, elements.mapM body = .ok results) ↔
      ∀ element ∈ elements, ∃ result, body element = .ok result := by
  induction elements with
  | nil => exact iff_of_true ⟨[], rfl⟩ nofun
  | cons element rest induction =>
      rw [List.forall_mem_cons, ← induction]
      constructor
      · rintro ⟨results, returned⟩
        cases mapM_eq_ok.mp returned with
        | cons first looped => exact ⟨⟨_, first⟩, _, mapM_eq_ok.mpr looped⟩
      · rintro ⟨⟨result, returned⟩, results, looped⟩
        exact ⟨result :: results,
          mapM_eq_ok.mpr (.cons returned (mapM_eq_ok.mp looped))⟩

/-! What a computation can fail with. -/

/-- Whenever the computation fails, it is in one of these ways. -/
def FailsOnly (ways : ε → Prop) (computation : Except ε α) : Prop :=
  ∀ failure, computation = .error failure → ways failure

namespace FailsOnly

variable {ways : ε → Prop}

theorem pure (value : α) : FailsOnly ways (Pure.pure value : Except ε α) :=
  nofun

theorem mono {others : ε → Prop} {computation : Except ε α}
    (only : FailsOnly ways computation)
    (weaker : ∀ failure, ways failure → others failure) :
    FailsOnly others computation :=
  fun failure failed => weaker failure (only failure failed)

theorem bind {first : Except ε α} {rest : α → Except ε β}
    (once : FailsOnly ways first)
    (onwards : ∀ value, first = .ok value → FailsOnly ways (rest value)) :
    FailsOnly ways (first >>= rest) := by
  cases first with
  | error cause =>
      rintro failure failed
      obtain rfl := Except.error.inj failed
      exact once cause rfl
  | ok value => exact onwards value rfl

theorem mapM {body : α → Except ε β} {elements : List α}
    (each : ∀ element ∈ elements, FailsOnly ways (body element)) :
    FailsOnly ways (elements.mapM body) := by
  induction elements with
  | nil => exact .pure []
  | cons element rest induction =>
      rw [List.forall_mem_cons] at each
      rw [List.mapM_cons]
      exact .bind each.1 fun _ _ => .bind (induction each.2) fun _ _ => .pure _

end FailsOnly

/-! Loops over elements of which some were changed. -/

section Changes

variable {changed : α → α → Prop} {before after : List α}

theorem exists_changed
    (changes : List.Forall₂ (fun old new => new = old ∨
      changed old new) before after) (differ : after ≠ before) : ∃ old new,
      new ∈ after ∧ changed old new := by
  induction changes with
  | nil => exact absurd rfl differ
  | @cons old new before after change _ induction =>
      cases change with
      | inr change => exact ⟨old, new, List.mem_cons_self, change⟩
      | inl same =>
          have rest : after ≠ before :=
            fun equal => differ (by rw [same, equal])
          obtain ⟨old, new, listed, change⟩ := induction rest
          exact ⟨old, new, List.mem_cons_of_mem _ listed, change⟩

/-- If the loop returned before, and on a changed element fails where it
returned, it now fails with the failure of such an element. -/
theorem mapM_eq_error {body : α → Except ε β} {failure : ε} {results : List β}
    (changes : List.Forall₂ (fun old new => new = old ∨
      changed old new) before after) (fails : ∀ {old new result},
        changed old new → body old = .ok result →
      body new = .error failure)
    (differ : after ≠ before) (returned : before.mapM body = .ok results) :
    after.mapM body = .error failure := by
  induction changes generalizing results with
  | nil => exact absurd rfl differ
  | @cons old new before after change _ induction =>
      rw [List.mapM_cons]
      cases mapM_eq_ok.mp returned with
      | cons first looped =>
          cases change with
          | inr change => rw [fails change first, error_bind]
          | inl same =>
              have rest : after ≠ before :=
                fun equal => differ (by rw [same, equal])
              rw [same, first, ok_bind, induction rest (mapM_eq_ok.mpr looped),
                error_bind]

end Changes

/-! A check that stops at the first complaint about its elements, in whatever
order it meets them. -/

theorem exists_perm_head_filterMap {complaint : α → Option β}
    {elements : List α} {first : β} :
    (∃ reordered : List α, reordered.Perm elements ∧
      (reordered.filterMap complaint).head? = some first) ↔
        first ∈ elements.filterMap complaint := by
  constructor
  · rintro ⟨reordered, same, found⟩
    exact (same.filterMap complaint).mem_iff.mp (List.mem_of_head? found)
  · intro member
    obtain ⟨element, listed, complained⟩ := List.mem_filterMap.mp member
    obtain ⟨earlier, later, rfl⟩ := List.append_of_mem listed
    refine ⟨element :: (earlier ++ later), List.perm_middle.symm, ?_⟩
    rw [List.filterMap_cons_some complained]
    rfl

end Farsounder.Data.Traversal
