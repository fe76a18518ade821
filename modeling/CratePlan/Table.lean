/-!
# Tables that remember the order of their keys

The schemas and paths of a document, the renames of the settings, the modules of
a crate and the submodules of a module are all tables of one kind: each key
occurs once, and the keys stand in the order in which they first came.

That no key occurs twice is a field of the type, so every operation here proves
it once. There are two ways to write. `insert` gives a key its newest value and
leaves it at its place; `insertNew` keeps the value that a key already has. Both
put an unknown key at the end, and `erase` closes the gap that a key leaves.

## Main statements

* `find?_insert`, `find?_insertNew`, `find?_erase`: what a look-up sees after a write.
* `find?_eq_some_iff`: a look-up finds the entries of a table, and nothing else.
* `insert_of_find?`, `insertNew_of_find?`: when a write changes nothing.
* `keys_insert`, `keys_insertNew`, `keys_erase`: the order of the keys after a write.
-/

namespace CratePlan

/-- Pairs of a key and a value, in the order in which the keys first came. -/
structure Table (κ : Type) (α : Type) where
  entries : List (κ × α)
  /-- No key occurs twice. -/
  distinct : (entries.map Prod.fst).Nodup
deriving Repr

namespace Table

variable {κ α β : Type}

instance [DecidableEq κ] [DecidableEq α] : DecidableEq (Table κ α) := fun s t =>
  decidable_of_iff (s.entries = t.entries)
    ⟨fun h => by cases s; cases t; cases h; rfl, fun h => by rw [h]⟩

/-- Tables with the same entries are equal. -/
theorem ext_entries {s t : Table κ α} (h : s.entries = t.entries) : s = t := by
  cases s
  cases t
  cases h
  rfl

/-- The table without entries. -/
def empty : Table κ α := ⟨[], by simp⟩

instance : Inhabited (Table κ α) := ⟨empty⟩

/-- The keys, in order. -/
def keys (table : Table κ α) : List κ := table.entries.map Prod.fst

/-- The values, in the order of their keys. -/
def values (table : Table κ α) : List α := table.entries.map Prod.snd

/-- The number of entries. -/
def size (table : Table κ α) : Nat := table.entries.length

/-- There are no entries. -/
def isEmpty (table : Table κ α) : Bool := table.entries.isEmpty

/-- The same keys with other values. -/
def mapValues (f : κ → α → β) (table : Table κ α) : Table κ β :=
  ⟨table.entries.map fun entry => (entry.1, f entry.1 entry.2), by
    simpa [Function.comp_def] using table.distinct⟩

@[simp] theorem keys_empty : (empty : Table κ α).keys = [] := rfl

@[simp] theorem keys_mapValues (f : κ → α → β) (table : Table κ α) :
    (table.mapValues f).keys = table.keys := by
  simp [keys, mapValues, Function.comp_def]

variable [DecidableEq κ]

/-- The value of a key. -/
def find? (key : κ) (table : Table κ α) : Option α :=
  table.entries.lookup key

/-- The key occurs. -/
def contains (key : κ) (table : Table κ α) : Bool :=
  decide (key ∈ table.keys)

/-- Give an entry of a list another value where it has the key. -/
def replaceAt (key : κ) (value : α) (entry : κ × α) : κ × α :=
  if entry.1 = key then (key, value) else entry

private theorem map_fst_replaceAt (key : κ) (value : α) (entries : List (κ × α)) :
    (entries.map (replaceAt key value)).map Prod.fst = entries.map Prod.fst := by
  rw [List.map_map]
  refine List.map_congr_left fun entry _ => ?_
  simp only [Function.comp_apply, replaceAt]
  split <;> simp_all

omit [DecidableEq κ] in
private theorem nodup_concat {xs : List κ} {x : κ} (hDistinct : xs.Nodup) (hNew : x ∉ xs) :
    (xs ++ [x]).Nodup := by
  rw [List.nodup_append]
  refine ⟨hDistinct, by simp, ?_⟩
  intro a ha b hb hEq
  simp only [List.mem_singleton] at hb
  exact hNew (hb ▸ hEq ▸ ha)

/-- Give a key a value: a known key keeps its place and loses its old value, an
unknown one goes to the end. -/
def insert (key : κ) (value : α) (table : Table κ α) : Table κ α :=
  if h : key ∈ table.keys then
    ⟨table.entries.map (replaceAt key value), by
      rw [map_fst_replaceAt]
      exact table.distinct⟩
  else
    ⟨table.entries ++ [(key, value)], by
      simpa using nodup_concat table.distinct h⟩

/-- Give an unknown key a value at the end; a known key keeps the value it has. -/
def insertNew (key : κ) (value : α) (table : Table κ α) : Table κ α :=
  if key ∈ table.keys then table else table.insert key value

/-- Take a key out, and close the gap. -/
def erase (key : κ) (table : Table κ α) : Table κ α :=
  ⟨table.entries.filter (fun entry => entry.1 ≠ key), by
    exact (List.filter_sublist.map Prod.fst).nodup table.distinct⟩

/-- Insert the pairs of a list one after the other. -/
def ofList (pairs : List (κ × α)) : Table κ α :=
  pairs.foldl (fun table pair => table.insert pair.1 pair.2) empty

/-! ## What a look-up sees -/

private theorem lookup_cons_if (key : κ) (entry : κ × α) (rest : List (κ × α)) :
    List.lookup key (entry :: rest) = if key = entry.1 then some entry.2 else rest.lookup key := by
  have hStep : List.lookup key (entry :: rest) =
      match key == entry.1 with
      | true => some entry.2
      | false => rest.lookup key := rfl
  rw [hStep]
  by_cases h : key = entry.1
  · simp [h]
  · have hb : (key == entry.1) = false := beq_eq_false_iff_ne.mpr h
    simp [h, hb]

private theorem lookup_eq_none {key : κ} {entries : List (κ × α)}
    (h : key ∉ entries.map Prod.fst) : entries.lookup key = none := by
  induction entries with
  | nil => rfl
  | cons entry rest ih =>
      simp only [List.map_cons, List.mem_cons, not_or] at h
      rw [lookup_cons_if, if_neg h.1, ih h.2]

private theorem map_replaceAt_of_not_mem {key : κ} {value : α} {entries : List (κ × α)}
    (h : key ∉ entries.map Prod.fst) : entries.map (replaceAt key value) = entries := by
  induction entries with
  | nil => rfl
  | cons entry rest ih =>
      simp only [List.map_cons, List.mem_cons, not_or] at h
      rw [List.map_cons, ih h.2, replaceAt, if_neg fun hEq => h.1 hEq.symm]

private theorem lookup_map_replaceAt {key other : κ} {value : α} {entries : List (κ × α)}
    (h : key ∈ entries.map Prod.fst) :
    (entries.map (replaceAt key value)).lookup other =
      if other = key then some value else entries.lookup other := by
  induction entries with
  | nil => simp at h
  | cons entry rest ih =>
      rw [List.map_cons, lookup_cons_if, lookup_cons_if, replaceAt]
      by_cases hk : entry.1 = key
      · by_cases hr : key ∈ rest.map Prod.fst
        · rw [ih hr, hk]
          by_cases ho : other = key <;> simp [ho]
        · rw [map_replaceAt_of_not_mem hr, hk]
          by_cases ho : other = key <;> simp [ho]
      · have hr : key ∈ rest.map Prod.fst := by
          simp only [List.map_cons, List.mem_cons] at h
          exact h.resolve_left fun hEq => hk hEq.symm
        rw [ih hr, if_neg hk]
        by_cases ho : other = entry.1
        · simp [ho, hk]
        · simp [ho]

@[simp] theorem find?_empty (key : κ) : (empty : Table κ α).find? key = none := rfl

/-- After an insertion the key has the new value and every other key its old one. -/
theorem find?_insert (key other : κ) (value : α) (table : Table κ α) :
    (table.insert key value).find? other =
      if other = key then some value else table.find? other := by
  unfold insert find?
  split
  case isTrue h => exact lookup_map_replaceAt h
  case isFalse h =>
    rw [List.lookup_append]
    by_cases ho : other = key
    · subst ho
      simp [lookup_eq_none h]
    · simp [ho, lookup_cons_if]

/-- A key is found exactly when it occurs. -/
theorem find?_eq_none_iff {key : κ} {table : Table κ α} :
    table.find? key = none ↔ key ∉ table.keys := by
  refine ⟨fun h hMem => ?_, lookup_eq_none⟩
  rw [find?, List.lookup_eq_none_iff] at h
  obtain ⟨entry, hEntry, rfl⟩ := List.mem_map.1 hMem
  simpa using h entry hEntry

private theorem lookup_eq_some {key : κ} {value : α} {entries : List (κ × α)}
    (hDistinct : (entries.map Prod.fst).Nodup) :
    entries.lookup key = some value ↔ (key, value) ∈ entries := by
  induction entries with
  | nil => simp
  | cons entry rest ih =>
      obtain ⟨first, held⟩ := entry
      rw [List.map_cons, List.nodup_cons] at hDistinct
      obtain ⟨hFirst, hRest⟩ := hDistinct
      rw [lookup_cons_if, List.mem_cons, Prod.mk.injEq]
      by_cases hKey : key = first
      · subst hKey
        have hNotBelow : (key, value) ∉ rest := fun hMem => hFirst (List.mem_map.2 ⟨_, hMem, rfl⟩)
        simp [hNotBelow, eq_comm]
      · simp [hKey, ih hRest]

/-- A key is found with the value that it stands beside. -/
theorem find?_eq_some_iff {key : κ} {value : α} {table : Table κ α} :
    table.find? key = some value ↔ (key, value) ∈ table.entries :=
  lookup_eq_some table.distinct

private theorem find?_foldl_insert {key : κ} {value : α} {pairs : List (κ × α)} :
    ∀ {table : Table κ α},
      (pairs.foldl (fun table pair => table.insert pair.1 pair.2) table).find? key = some value →
        table.find? key = some value ∨ (key, value) ∈ pairs := by
  induction pairs with
  | nil => exact fun h => .inl h
  | cons first rest ih =>
      intro table h
      rcases ih h with hStart | hRest
      · rw [find?_insert] at hStart
        split at hStart
        case isTrue hKey =>
            rw [Option.some.injEq] at hStart
            rw [hKey, ← hStart]
            exact .inr (List.mem_cons_self ..)
        case isFalse => exact .inl hStart
      · exact .inr (List.mem_cons_of_mem _ hRest)

/-- What is found in a table made of pairs is one of them. -/
theorem mem_of_find?_ofList {key : κ} {value : α} {pairs : List (κ × α)}
    (h : (ofList pairs).find? key = some value) : (key, value) ∈ pairs := by
  rcases find?_foldl_insert h with hEmpty | hMem
  · cases hEmpty
  · exact hMem

/-- After writing to unknown keys only, a known key has its old value. -/
theorem find?_insertNew (key other : κ) (value : α) (table : Table κ α) :
    (table.insertNew key value).find? other =
      if other = key then some ((table.find? key).getD value) else table.find? other := by
  unfold insertNew
  split
  case isTrue h =>
    by_cases ho : other = key
    · subst ho
      cases hFind : table.find? other with
      | none => exact absurd h (find?_eq_none_iff.1 hFind)
      | some old => simp
    · simp [ho]
  case isFalse h =>
    rw [find?_insert]
    simp [find?_eq_none_iff.2 h]

/-- A key that is given the value it has leaves the table as it is. -/
theorem insert_of_find? {key : κ} {value : α} {table : Table κ α}
    (h : table.find? key = some value) : table.insert key value = table := by
  have hMem := find?_eq_some_iff.1 h
  have hKey : key ∈ table.keys := List.mem_map.2 ⟨_, hMem, rfl⟩
  have hSame : ∀ entry ∈ table.entries, replaceAt key value entry = entry := by
    intro entry hEntry
    unfold replaceAt
    split
    case isTrue hOwn =>
        have hFind : table.find? key = some entry.2 := find?_eq_some_iff.2 (hOwn ▸ hEntry)
        rw [h, Option.some.injEq] at hFind
        rw [hFind, ← hOwn]
    case isFalse => rfl
  refine ext_entries ?_
  rw [insert, dif_pos hKey]
  exact (List.map_congr_left hSame).trans (List.map_id table.entries)

/-- A known key leaves the table as it is when only unknown keys are written. -/
theorem insertNew_of_find? {key : κ} {value old : α} {table : Table κ α}
    (h : table.find? key = some old) : table.insertNew key value = table :=
  if_pos (List.mem_map.2 ⟨_, find?_eq_some_iff.1 h, rfl⟩)

private theorem lookup_filter_ne (key other : κ) (entries : List (κ × α)) :
    (entries.filter fun entry => entry.1 ≠ key).lookup other =
      if other = key then none else entries.lookup other := by
  induction entries with
  | nil => simp
  | cons entry rest ih =>
      rw [List.filter_cons, lookup_cons_if]
      by_cases hk : entry.1 = key
      · rw [if_neg (by simp [hk]), ih, hk]
        by_cases ho : other = key <;> simp [ho]
      · rw [if_pos (by simp [hk]), lookup_cons_if, ih]
        by_cases ho : other = entry.1
        · simp [ho, hk]
        · simp [ho]

/-- After a removal the key is unknown and every other key has its old value. -/
theorem find?_erase (key other : κ) (table : Table κ α) :
    (table.erase key).find? other = if other = key then none else table.find? other := by
  unfold erase find?
  exact lookup_filter_ne key other table.entries

/-! ## The order of the keys -/

/-- An insertion puts an unknown key at the end and leaves the rest in order. -/
theorem keys_insert (key : κ) (value : α) (table : Table κ α) :
    (table.insert key value).keys =
      if key ∈ table.keys then table.keys else table.keys ++ [key] := by
  unfold insert
  split
  case isTrue h =>
    have hKeys := map_fst_replaceAt key value table.entries
    simpa [keys] using hKeys
  case isFalse h => simp [keys]

@[simp] theorem keys_insertNew (key : κ) (value : α) (table : Table κ α) :
    (table.insertNew key value).keys =
      if key ∈ table.keys then table.keys else table.keys ++ [key] := by
  unfold insertNew
  split
  case isTrue => rfl
  case isFalse h => rw [keys_insert, if_neg h]

@[simp] theorem keys_erase (key : κ) (table : Table κ α) :
    (table.erase key).keys = table.keys.filter (· ≠ key) := by
  simp [erase, keys, List.filter_map, Function.comp_def]

end Table

end CratePlan
