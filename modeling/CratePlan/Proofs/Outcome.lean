import Mathlib.Data.List.Forall2
import Mathlib.Data.List.Nodup

/-!
# Steps that may fail

A plan is made by steps in a row, and the first error ends the work. The lemmas here
say of a row when it succeeds, and where its error is from, so that no proof opens the
definition of `Except.bind`.

## Main statements

* `bind_eq_ok_iff`, `bind_eq_error_iff`: two steps in a row.
* `mapM_eq_ok_iff`, `exists_of_mapM_eq_error`: one step for every member of a list.
* `exists_of_foldlM_eq_error`: steps that pass on a state.
* `exists_mapM_eq_ok_iff`: the same, when only success is asked for.
* `exists_right_of_forall₂`, `exists_left_of_forall₂`: what belongs to a member of a row.
* `nodup_map_iff_of_forall₂`: when what is made of a row has no part twice.
* `findSome?_eq_some_iff_of_agree`, `findSome?_eq_of_perm`: the first of several answers that
  are the same.
-/

namespace CratePlan.Outcome

variable {α β ε δ : Type}

/-- A row of two steps succeeds when the first does and then the second. -/
theorem bind_eq_ok_iff {first : Except ε α} {next : α → Except ε β} {result : β} :
    first >>= next = .ok result ↔ ∃ value, first = .ok value ∧ next value = .ok result := by
  cases first <;> simp [bind, Except.bind]

/-- The error of a row is that of the first step, or that of the second after the first
has succeeded. -/
theorem bind_eq_error_iff {first : Except ε α} {next : α → Except ε β} {error : ε} :
    first >>= next = .error error ↔
      first = .error error ∨ ∃ value, first = .ok value ∧ next value = .error error := by
  cases first <;> simp [bind, Except.bind]

theorem map_eq_ok_iff {first : Except ε α} {f : α → β} {result : β} :
    first.map f = .ok result ↔ ∃ value, first = .ok value ∧ f value = result := by
  cases first <;> simp [Except.map]

theorem map_eq_error_iff {first : Except ε α} {f : α → β} {error : ε} :
    first.map f = .error error ↔ first = .error error := by
  cases first <;> simp [Except.map]

/-- A state beside an outcome that succeeds. -/
theorem exists_of_map_snd_eq_ok {pair : δ × Except ε α} {f : α → β} {result : β}
    (h : pair.2.map f = .ok result) :
    ∃ state value, pair = (state, .ok value) ∧ f value = result := by
  obtain ⟨value, hValue, hResult⟩ := map_eq_ok_iff.1 h
  exact ⟨pair.1, value, Prod.ext rfl hValue, hResult⟩

theorem mapError_eq_ok_iff {first : Except ε α} {f : ε → δ} {value : α} :
    first.mapError f = .ok value ↔ first = .ok value := by
  cases first <;> simp [Except.mapError]

theorem mapError_eq_error_iff {first : Except ε α} {f : ε → δ} {error : δ} :
    first.mapError f = .error error ↔ ∃ fault, first = .error fault ∧ f fault = error := by
  cases first <;> simp [Except.mapError]

theorem toOption_eq_some_iff {first : Except ε α} {value : α} :
    first.toOption = some value ↔ first = .ok value := by
  cases first <;> simp [Except.toOption]

/-- A step for every member succeeds when it does for each. -/
theorem mapM_eq_ok_iff {f : α → Except ε β} {xs : List α} :
    ∀ {ys : List β}, xs.mapM f = .ok ys ↔ List.Forall₂ (fun x y => f x = .ok y) xs ys := by
  induction xs with
  | nil =>
      intro ys
      cases ys <;> simp [pure, Except.pure]
  | cons x xs ih =>
      intro ys
      rw [List.mapM_cons, bind_eq_ok_iff]
      simp only [bind_eq_ok_iff, ih, List.forall₂_cons_left_iff, pure, Except.pure,
        Except.ok.injEq]
      constructor
      · rintro ⟨y, hHead, rest, hRest, rfl⟩
        exact ⟨y, rest, hHead, hRest, rfl⟩
      · rintro ⟨y, rest, hHead, hRest, rfl⟩
        exact ⟨y, hHead, rest, hRest, rfl⟩

/-- The error of a step for every member is that of the step for one of them. -/
theorem exists_of_mapM_eq_error {f : α → Except ε β} {xs : List α} {error : ε}
    (h : xs.mapM f = .error error) : ∃ x ∈ xs, f x = .error error := by
  induction xs with
  | nil => cases h
  | cons x xs ih =>
      rw [List.mapM_cons, bind_eq_error_iff] at h
      rcases h with hHead | ⟨y, -, hTail⟩
      · exact ⟨x, by simp, hHead⟩
      · rw [bind_eq_error_iff] at hTail
        rcases hTail with hRest | ⟨rest, -, hPure⟩
        · obtain ⟨other, hOther, hError⟩ := ih hRest
          exact ⟨other, by simp [hOther], hError⟩
        · cases hPure

/-- The error of steps that pass on a state is that of one of them. -/
theorem exists_of_foldlM_eq_error {f : β → α → Except ε β} {xs : List α} {error : ε} :
    ∀ {start : β}, xs.foldlM f start = .error error →
      ∃ state, ∃ x ∈ xs, f state x = .error error := by
  induction xs with
  | nil =>
      intro start h
      cases h
  | cons x xs ih =>
      intro start h
      rw [List.foldlM_cons, bind_eq_error_iff] at h
      rcases h with hHead | ⟨state, -, hTail⟩
      · exact ⟨start, x, by simp, hHead⟩
      · obtain ⟨later, other, hOther, hError⟩ := ih hTail
        exact ⟨later, other, by simp [hOther], hError⟩

/-! ## Members of two rows that belong together -/

theorem exists_right_of_forall₂ {R : α → β → Prop} {xs : List α} {ys : List β}
    (h : List.Forall₂ R xs ys) {x : α} (hx : x ∈ xs) : ∃ y, (x, y) ∈ xs.zip ys ∧ R x y := by
  rw [← List.map_fst_zip (Nat.le_of_eq h.length_eq), List.mem_map] at hx
  obtain ⟨⟨x, y⟩, hPair, rfl⟩ := hx
  exact ⟨y, hPair, List.forall₂_zip h hPair⟩

theorem exists_left_of_forall₂ {R : α → β → Prop} {xs : List α} {ys : List β}
    (h : List.Forall₂ R xs ys) {y : β} (hy : y ∈ ys) : ∃ x, (x, y) ∈ xs.zip ys ∧ R x y := by
  rw [← List.map_snd_zip (Nat.le_of_eq h.length_eq.symm), List.mem_map] at hy
  obtain ⟨⟨x, y⟩, hPair, rfl⟩ := hy
  exact ⟨x, hPair, List.forall₂_zip h hPair⟩

/-- A row that has one more member at its end. -/
theorem forall₂_concat_iff {R : α → β → Prop} {xs : List α} {x : α} :
    ∀ {ys : List β}, List.Forall₂ R (xs ++ [x]) ys ↔
      ∃ before y, List.Forall₂ R xs before ∧ R x y ∧ ys = before ++ [y] := by
  induction xs with
  | nil =>
      intro ys
      simp [List.forall₂_cons_left_iff]
  | cons first rest ih =>
      intro ys
      simp only [List.cons_append, List.forall₂_cons_left_iff, ih]
      constructor
      · rintro ⟨y, -, hFirst, ⟨before, last, hRest, hLast, rfl⟩, rfl⟩
        exact ⟨y :: before, last, ⟨y, before, hFirst, hRest, rfl⟩, hLast, rfl⟩
      · rintro ⟨-, last, ⟨y, before, hFirst, hRest, rfl⟩, hLast, rfl⟩
        exact ⟨y, before ++ [last], hFirst, ⟨before, last, hRest, hLast, rfl⟩, rfl⟩

/-- Each member has something that belongs to it when a whole row does. -/
theorem exists_forall₂_iff {R : α → β → Prop} {xs : List α} :
    (∃ ys, List.Forall₂ R xs ys) ↔ ∀ x ∈ xs, ∃ y, R x y := by
  constructor
  · rintro ⟨ys, h⟩ x hx
    obtain ⟨y, -, hxy⟩ := exists_right_of_forall₂ h hx
    exact ⟨y, hxy⟩
  · intro h
    induction xs with
    | nil => exact ⟨[], .nil⟩
    | cons x xs ih =>
        obtain ⟨hHead, hTail⟩ := List.forall_mem_cons.1 h
        obtain ⟨y, hxy⟩ := hHead
        obtain ⟨ys, hRest⟩ := ih hTail
        exact ⟨y :: ys, .cons hxy hRest⟩

/-- A step for every member succeeds if it can for each. -/
theorem exists_mapM_eq_ok_iff {f : α → Except ε β} {xs : List α} :
    (∃ ys, xs.mapM f = .ok ys) ↔ ∀ x ∈ xs, ∃ y, f x = .ok y := by
  simp only [mapM_eq_ok_iff, exists_forall₂_iff]

/-- What is made of distinct members is distinct in one of its parts when that part tells
the members apart. -/
theorem nodup_map_iff_of_forall₂ {f : α → Except ε β} {part : β → δ} {xs : List α} {ys : List β}
    (h : List.Forall₂ (fun x y => f x = .ok y) xs ys) (hxs : xs.Nodup) :
    (ys.map part).Nodup ↔ ∀ x ∈ xs, ∀ other ∈ xs, ∀ y otherY, f x = .ok y →
      f other = .ok otherY → part y = part otherY → x = other := by
  have hParts : xs.map (fun x => (f x).map part) = (ys.map part).map Except.ok := by
    rw [List.map_map, ← List.forall₂_eq_eq_eq, List.forall₂_map_left_iff, List.forall₂_map_right_iff]
    exact h.imp fun x y hxy => by rw [hxy, Except.map, Function.comp_apply]
  have hOk : Function.Injective (Except.ok : δ → Except ε δ) := fun _ _ => Except.ok.inj
  rw [← List.nodup_map_iff hOk, ← hParts, List.nodup_map_iff_inj_on hxs]
  constructor
  · intro hApart x hx other hOther y otherY hxy hOtherY hPart
    exact hApart x hx other hOther (by rw [hxy, hOtherY, Except.map, Except.map, hPart])
  · intro hApart x hx other hOther hPart
    obtain ⟨y, -, hxy⟩ := exists_right_of_forall₂ h hx
    obtain ⟨otherY, -, hOtherY⟩ := exists_right_of_forall₂ h hOther
    rw [hxy, hOtherY, Except.map, Except.map, Except.ok.injEq] at hPart
    exact hApart x hx other hOther y otherY hxy hOtherY hPart

/-! ## The first of several answers -/

/-- All members that have an answer have the same one. -/
def Agree (f : α → Option β) (xs : List α) : Prop :=
  ∀ first ∈ xs, ∀ second ∈ xs, ∀ y other, f first = some y → f second = some other → y = other

/-- If all answers are the same, the first is any of them. -/
theorem findSome?_eq_some_iff_of_agree {f : α → Option β} {xs : List α} (h : Agree f xs) {y : β} :
    xs.findSome? f = some y ↔ ∃ x ∈ xs, f x = some y := by
  constructor
  · intro hFirst
    exact List.exists_of_findSome?_eq_some hFirst
  · intro hSome
    obtain ⟨x, hx, hAnswer⟩ := hSome
    cases hFirst : xs.findSome? f with
    | none =>
        have hNone := List.findSome?_eq_none_iff.1 hFirst x hx
        rw [hAnswer] at hNone
        cases hNone
    | some first =>
        obtain ⟨member, hMember, hOwn⟩ := List.exists_of_findSome?_eq_some hFirst
        rw [h member hMember x hx first y hOwn hAnswer]

/-- Members whose answers are the same may be asked in any order. -/
theorem findSome?_eq_of_perm {f : α → Option β} {xs others : List α} (hPerm : xs.Perm others)
    (h : Agree f xs) : others.findSome? f = xs.findSome? f := by
  have hOthers : Agree f others := by
    intro first hFirst second hSecond
    exact h first (hPerm.mem_iff.2 hFirst) second (hPerm.mem_iff.2 hSecond)
  refine Option.ext fun y => ?_
  rw [findSome?_eq_some_iff_of_agree h, findSome?_eq_some_iff_of_agree hOthers]
  simp only [hPerm.mem_iff]

end CratePlan.Outcome
