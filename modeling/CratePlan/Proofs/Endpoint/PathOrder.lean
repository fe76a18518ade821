import CratePlan.Proofs.Endpoint.Growth
import Mathlib.Data.String.Basic

/-!
# The order of paths

The paths of a document are sorted before a graph is made of them. No path is there twice,
so there is only one order in which they can come out, whatever the order in which the document
lists them.

Sorted, a path comes behind all that it begins with. But a path may have a slash at its end,
and its endpoint has none. So an endpoint may come behind another one whose path begins with
its own: `/a/` comes before `/a/b`, but not before `/a.b`, since the full stop is less than
the slash.

## Main statements

* `EndpointGraph.sortPaths_eq_of_perm`: paths come out in one order.
* `Endpoint.exists_lt_of_sortedBefore`, `Endpoint.lt_of_not_sortedBefore`: which of two
  endpoints comes first when the path of one begins with that of the other.
-/

namespace CratePlan

namespace EndpointGraph

/-! ## Sorted paths -/

theorem perm_sortPaths (paths : Table String Json) : (sortPaths paths).Perm paths.entries :=
  List.mergeSort_perm ..

/-- Sorted, the paths of a document go up. -/
theorem sortedLT_sortPaths (paths : Table String Json) :
    ((sortPaths paths).map Prod.fst).Pairwise (· < ·) := by
  have hSorted : (sortPaths paths).Pairwise fun a b => a.1 ≤ b.1 := by
    refine (List.pairwise_mergeSort ?_ ?_ paths.entries).imp of_decide_eq_true
    · intro a b c hFirst hSecond
      exact decide_eq_true (le_trans (of_decide_eq_true hFirst) (of_decide_eq_true hSecond))
    · intro a b
      simpa using le_total a.1 b.1
  have hDistinct : ((sortPaths paths).map Prod.fst).Pairwise (· ≠ ·) :=
    ((perm_sortPaths paths).map Prod.fst).nodup_iff.2 paths.distinct
  exact (List.pairwise_map.2 hSorted).imp₂ (fun _ _ hLe hNe => lt_of_le_of_ne hLe hNe) hDistinct

/-- Tables of the same paths are sorted to the same list. -/
theorem sortPaths_eq_of_perm {paths others : Table String Json}
    (h : paths.entries.Perm others.entries) : sortPaths paths = sortPaths others := by
  have hSorted : ∀ paths : Table String Json,
      (sortPaths paths).Pairwise fun a b => a.1 < b.1 :=
    fun paths => List.pairwise_map.1 (sortedLT_sortPaths paths)
  have hPerm := (perm_sortPaths paths).trans (h.trans (perm_sortPaths others).symm)
  refine hPerm.eq_of_pairwise ?_ (hSorted paths) (hSorted others)
  exact fun a b _ _ hLt hGt => absurd hGt (lt_asymm hLt)

end EndpointGraph

namespace Endpoint

/-! ## Beginnings of a path -/

/-- A path with nothing, or with a slash, at its end. -/
theorem eq_or_append_slash {key path : String} (h : trimSlash key = path) :
    key = path ∨ key.toList = path.toList ++ ['/'] := by
  subst h
  unfold trimSlash
  split
  case h_1 hLast =>
    split
    case isTrue => exact .inl rfl
    case isFalse =>
      rw [String.toList_ofList]
      exact .inr (List.dropLast_append_getLast? '/' hLast).symm
  case h_2 => exact .inl rfl

/-- The endpoint of `start` comes before that of `path`, which begins with `start`: it is
listed without a slash, or what stands behind it in `path` is not less than a slash. -/
def SortedBefore (keys : List String) (start path : String) : Prop :=
  (start ∈ keys ∧ trimSlash start = start) ∨
    path.toList[start.toList.length]?.all (fun c => '/' ≤ c) = true

instance (keys : List String) (start path : String) : Decidable (SortedBefore keys start path) :=
  inferInstanceAs (Decidable (_ ∨ _))

variable {keys : List String} {start path key other : String}

/-- What stands behind `start` in a path, whether it has a slash at its end or not. -/
theorem exists_key_eq (hExtends : extendsPath start path = true) (hKey : trimSlash key = path) :
    ∃ c rest, path.toList[start.toList.length]? = some c ∧
      key.toList = start.toList ++ c :: rest := by
  obtain ⟨⟨more, hMore⟩, hLength⟩ := extendsPath_iff.1 hExtends
  rw [← hMore, List.length_append] at hLength
  obtain ⟨c, rest, rfl⟩ := List.exists_cons_of_length_pos (l := more) (by omega)
  have hNext : path.toList[start.toList.length]? = some c := by simp [← hMore]
  rcases eq_or_append_slash hKey with rfl | hSlash
  · exact ⟨c, rest, hNext, hMore.symm⟩
  · exact ⟨c, rest ++ ['/'], hNext, by rw [hSlash, ← hMore]; simp⟩

/-- As it stands, a path is less than all that begin with it. -/
theorem lt_of_extendsPath (hExtends : extendsPath start path = true)
    (hKey : trimSlash key = path) : start < key := by
  obtain ⟨c, rest, -, hText⟩ := exists_key_eq hExtends hKey
  have hLess : start.toList ++ [] < start.toList ++ c :: rest :=
    List.append_left_lt (List.nil_lt_cons c rest)
  rwa [List.append_nil, ← hText, ← String.lt_iff_toList_lt] at hLess

/-- With a slash at its end, it is less than those that do not go on with something less. -/
theorem lt_of_extendsPath_of_slash (hExtends : extendsPath start path = true)
    (hKey : trimSlash key = path) (hStart : trimSlash other = start)
    (hSlash : other.toList = start.toList ++ ['/'])
    (hNext : path.toList[start.toList.length]?.all (fun c => '/' ≤ c) = true) : other < key := by
  obtain ⟨c, rest, hc, hText⟩ := exists_key_eq hExtends hKey
  rw [hc, Option.all_some, decide_eq_true_eq] at hNext
  rw [String.lt_iff_toList_lt, hSlash, hText]
  refine List.append_left_lt (List.cons_lt_cons_iff.2 ?_)
  rcases lt_or_eq_of_le hNext with hLess | rfl
  · exact .inl hLess
  · refine .inr ⟨rfl, ?_⟩
    cases rest with
    | nil =>
        -- Both would be one path, of endpoints that are not the same.
        have hEqual : other = key := String.toList_inj.1 (by rw [hSlash, hText])
        have hLess := length_lt_of_extendsPath hExtends
        rw [← hStart, ← hKey, hEqual] at hLess
        exact absurd hLess (Nat.lt_irrefl _)
    | cons d rest => exact List.nil_lt_cons d rest

/-- An endpoint that comes before another one is listed before it. -/
theorem exists_lt_of_sortedBefore (hBefore : SortedBefore keys start path)
    (hExtends : extendsPath start path = true) (hStart : ∃ other ∈ keys, trimSlash other = start) :
    ∃ other ∈ keys, trimSlash other = start ∧ ∀ key, trimSlash key = path → other < key := by
  obtain ⟨other, hOther, hTrim⟩ := hStart
  rcases hBefore with ⟨hListed, hSame⟩ | hNext
  · exact ⟨start, hListed, hSame, fun key => lt_of_extendsPath hExtends⟩
  · refine ⟨other, hOther, hTrim, fun key hKey => ?_⟩
    rcases eq_or_append_slash hTrim with rfl | hSlash
    · exact lt_of_extendsPath hExtends hKey
    · exact lt_of_extendsPath_of_slash hExtends hKey hTrim hSlash hNext

/-- An endpoint that does not come before another one is listed behind it. -/
theorem lt_of_not_sortedBefore (hBefore : ¬SortedBefore keys start path)
    (hExtends : extendsPath start path = true) (hOther : other ∈ keys)
    (hStart : trimSlash other = start) (hKey : trimSlash key = path) : key < other := by
  rw [SortedBefore, not_or] at hBefore
  obtain ⟨hListed, hNext⟩ := hBefore
  obtain ⟨c, rest, hc, hText⟩ := exists_key_eq hExtends hKey
  have hLess : c < '/' := by
    rw [hc] at hNext
    simpa using hNext
  rcases eq_or_append_slash hStart with rfl | hSlash
  · exact absurd ⟨hOther, hStart⟩ hListed
  · rw [String.lt_iff_toList_lt, hText, hSlash]
    exact List.append_left_lt (List.cons_lt_cons_iff.2 (.inl hLess))

example : SortedBefore ["/a/", "/a/b"] "/a" "/a/b" := by decide

example : ¬SortedBefore ["/a/", "/a.b"] "/a" "/a.b" := by decide

end Endpoint

end CratePlan
