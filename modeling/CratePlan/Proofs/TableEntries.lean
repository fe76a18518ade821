import CratePlan.Table
import Mathlib.Data.List.Nodup

/-!
# The entries of a table in any order

A look-up does not see the order in which the keys of a table stand. So tables that answer alike
have the same entries, and what writes do to the entries can be read off from what look-ups see
after them. A write to a key, and its removal, leave all other entries as they are.

## Main statements

* `perm_entries_iff`: tables have the same entries when they answer alike.
* `perm_values_insert`, `perm_values_erase`: the values of a table after a write.
-/

namespace CratePlan.Table

variable {κ α : Type} [DecidableEq κ] {table other : Table κ α}

omit [DecidableEq κ] in
theorem nodup_entries (table : Table κ α) : table.entries.Nodup :=
  List.Nodup.of_map Prod.fst table.distinct

/-- Two tables have the same entries when every look-up finds the same. -/
theorem perm_entries_iff :
    table.entries.Perm other.entries ↔ ∀ key, table.find? key = other.find? key := by
  constructor
  · intro h key
    refine Option.ext fun value => ?_
    rw [find?_eq_some_iff, find?_eq_some_iff, h.mem_iff]
  · intro h
    refine (List.perm_ext_iff_of_nodup table.nodup_entries other.nodup_entries).2 fun entry => ?_
    obtain ⟨key, value⟩ := entry
    rw [← find?_eq_some_iff, ← find?_eq_some_iff, h key]

/-- A key that is known stands beside its value, and a removal leaves the other entries. -/
theorem perm_entries_of_find? {key : κ} {value : α} (h : table.find? key = some value) :
    table.entries.Perm ((key, value) :: (table.erase key).entries) := by
  have hGone : (key, value) ∉ (table.erase key).entries := by
    rw [← find?_eq_some_iff, find?_erase]
    simp
  have hDistinct := List.nodup_cons.2 ⟨hGone, (table.erase key).nodup_entries⟩
  refine (List.perm_ext_iff_of_nodup table.nodup_entries hDistinct).2 fun entry => ?_
  obtain ⟨known, held⟩ := entry
  rw [List.mem_cons, ← find?_eq_some_iff, ← find?_eq_some_iff, find?_erase, Prod.mk.injEq]
  by_cases hKey : known = key
  · subst hKey
    simp [h, eq_comm]
  · simp [hKey]

/-- The values of a table are the one that a key has and those that its removal leaves. -/
theorem perm_values_erase (key : κ) (table : Table κ α) :
    table.values.Perm ((table.find? key).toList ++ (table.erase key).values) := by
  cases hFind : table.find? key with
  | some value => exact (perm_entries_of_find? hFind).map Prod.snd
  | none =>
      have hSame : table.entries.Perm (table.erase key).entries := by
        rw [perm_entries_iff]
        intro known
        rw [find?_erase]
        split
        case isTrue hKey => rw [hKey, hFind]
        case isFalse => rfl
      exact hSame.map Prod.snd

/-- After an insertion the key has the new value, and what it had is lost. -/
theorem perm_values_insert (key : κ) (value : α) (table : Table κ α) :
    (table.insert key value).values.Perm (value :: (table.erase key).values) := by
  have hFind : (table.insert key value).find? key = some value := by
    rw [find?_insert, if_pos rfl]
  have hOthers : ((table.insert key value).erase key).entries.Perm (table.erase key).entries := by
    rw [perm_entries_iff]
    intro known
    rw [find?_erase, find?_erase, find?_insert]
    split <;> rfl
  exact ((perm_entries_of_find? hFind).map Prod.snd).trans ((hOthers.map Prod.snd).cons value)

end CratePlan.Table
