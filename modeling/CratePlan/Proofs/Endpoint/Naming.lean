import CratePlan.Proofs.Endpoint.Growth

/-!
# Endpoints and their names

An endpoint is added under the name of the last segment of its path. This name does not
depend on what the graph holds already, and a path that is known has been named before.
So it is decided path by path whether a graph can be built. Each endpoint of the graph is
still called as its last segment is, whoever asks for the name again.

## Main statements

* `Named.exists_add_iff`: which paths can be added.
* `exists_build_iff`: when a graph can be built.
* `build_eq_ok`, `build_eq_error`: the names and the paths of its endpoints, or why there is
  no graph.
-/

namespace CratePlan

open Outcome

/-- The last segment of a path that may have a slash at its end. -/
def Endpoint.ownSegment (path : String) : String :=
  Text.lastSegment (Endpoint.trimSlash path)

theorem SegmentNames.endpointName_eq_ok_iff {names : SegmentNames} {path name : String} :
    names.endpointName path = .ok name ↔ names.name? (Text.lastSegment path) = some name := by
  unfold endpointName
  cases names.name? (Text.lastSegment path) <;> simp

namespace EndpointGraph

variable {graph next : EndpointGraph} {names : SegmentNames} {path : String} {payload : Json}
  {node : Nat}

/-- Every endpoint has the name of the last segment of its path. -/
def Named (graph : EndpointGraph) (names : SegmentNames) : Prop :=
  ∀ endpoint ∈ graph.endpoints, names.name? endpoint.summary = some endpoint.name

/-! ## Additions -/

theorem named_empty : empty.Named names := by
  simp [Named, empty]

/-- An addition keeps the endpoints that are there, and the new one has the name of its
segment. -/
theorem Named.add (hNamed : graph.Named names)
    (hAdd : graph.add names path payload = .ok (next, node)) : next.Named names := by
  rcases add_eq_ok hAdd with ⟨-, rfl⟩ | ⟨name, hName, -, -, rfl⟩
  · exact hNamed
  · intro endpoint hEndpoint
    rw [endpoints_addNew] at hEndpoint
    rcases List.mem_append.1 hEndpoint with hOld | hNew
    · exact hNamed endpoint hOld
    · rw [List.mem_singleton.1 hNew]
      exact SegmentNames.endpointName_eq_ok_iff.1 hName

/-- An addition adds its path, if it is not there. -/
theorem mem_paths_add (hIndexed : graph.Indexed)
    (hAdd : graph.add names path payload = .ok (next, node)) {other : String} :
    other ∈ next.paths ↔ other ∈ graph.paths ∨ other = Endpoint.trimSlash path := by
  rcases add_eq_ok hAdd with ⟨hKnown, rfl⟩ | ⟨name, -, -, -, rfl⟩
  · have hThere := hIndexed.trimSlash_mem_paths hKnown
    constructor
    · exact .inl
    · rintro (hOld | rfl)
      · exact hOld
      · exact hThere
  · simp [paths]

/-- A path can be added when its last segment has a name, whatever is there already. -/
theorem Named.exists_add_iff (hNamed : graph.Named names) (hIndexed : graph.Indexed) :
    (∃ result, graph.add names path payload = .ok result) ↔
      ∃ name, names.name? (Endpoint.ownSegment path) = some name := by
  unfold EndpointGraph.add
  split
  case h_1 found hFound =>
      obtain ⟨endpoint, hEndpoint, hPath⟩ := List.mem_map.1 (hIndexed.trimSlash_mem_paths hFound)
      have hName := hNamed endpoint hEndpoint
      rw [Endpoint.summary, hPath] at hName
      exact iff_of_true ⟨_, rfl⟩ ⟨_, hName⟩
  case h_2 =>
      simp only [bind_eq_ok_iff, SegmentNames.endpointName_eq_ok_iff]
      constructor
      · rintro ⟨result, name, hName, -⟩
        exact ⟨name, hName⟩
      · rintro ⟨name, hName⟩
        exact ⟨_, name, hName, rfl⟩

/-- A path is refused only because its last segment has no name. -/
theorem add_eq_error {error : PlanError} (h : graph.add names path payload = .error error) :
    names.name? (Endpoint.ownSegment path) = none ∧
      error = .unnamedSegment (Endpoint.ownSegment path) (Endpoint.trimSlash path) := by
  unfold EndpointGraph.add at h
  split at h
  case h_1 => cases h
  case h_2 =>
      rcases bind_eq_error_iff.1 h with hName | ⟨name, -, hPure⟩
      · unfold SegmentNames.endpointName at hName
        split at hName
        case h_1 => cases hName
        case h_2 hNone =>
            cases hName
            exact ⟨hNone, rfl⟩
      · cases hPure

/-! ## Building a graph -/

theorem Named.exists_foldlM_iff (entries : List (String × Json)) :
    ∀ {graph : EndpointGraph}, graph.Named names → graph.Indexed →
      ((∃ next, entries.foldlM (fun graph entry =>
          (graph.add names entry.1 entry.2).map Prod.fst) graph = .ok next) ↔
        ∀ entry ∈ entries, ∃ name, names.name? (Endpoint.ownSegment entry.1) = some name) := by
  induction entries with
  | nil =>
      intro graph _ _
      exact iff_of_true ⟨graph, rfl⟩ (by simp)
  | cons entry rest ih =>
      intro graph hNamed hIndexed
      have hFirst : (∃ result, graph.add names entry.1 entry.2 = .ok result) ↔
          ∃ name, names.name? (Endpoint.ownSegment entry.1) = some name :=
        hNamed.exists_add_iff hIndexed
      simp only [foldlM_add_cons_eq_ok_iff, List.forall_mem_cons, ← hFirst]
      constructor
      · rintro ⟨next, added, node, hAdd, hRest⟩
        exact ⟨⟨_, hAdd⟩, (ih (hNamed.add hAdd) (hIndexed.add hAdd)).1 ⟨next, hRest⟩⟩
      · rintro ⟨⟨⟨added, node⟩, hAdd⟩, hRest⟩
        obtain ⟨next, hNext⟩ := (ih (hNamed.add hAdd) (hIndexed.add hAdd)).2 hRest
        exact ⟨next, added, node, hAdd, hNext⟩

theorem mem_sortPaths {paths : Table String Json} {entry : String × Json} :
    entry ∈ sortPaths paths ↔ entry ∈ paths.entries :=
  List.mem_mergeSort

/-- A graph can be built of paths when the last segment of each has a name. -/
theorem exists_build_iff {paths : Table String Json} :
    (∃ graph, build names paths = .ok graph) ↔
      ∀ path ∈ paths.keys, ∃ name, names.name? (Endpoint.ownSegment path) = some name := by
  rw [build, named_empty.exists_foldlM_iff _ indexed_empty]
  simp [mem_sortPaths, Table.keys]

/-- The endpoints of a graph that has been built have the paths that it was built of, and
the names of their last segments. -/
theorem build_eq_ok {paths : Table String Json} (h : build names paths = .ok graph) :
    graph.Named names ∧
      ∀ path, path ∈ graph.paths ↔ ∃ key ∈ paths.keys, path = Endpoint.trimSlash key := by
  have hBuilt : graph.Named names ∧ graph.Indexed ∧ ∀ path, path ∈ graph.paths ↔
      ∃ entry ∈ sortPaths paths, path = Endpoint.trimSlash entry.1 := by
    refine build_induction
      (motive := fun done graph => graph.Named names ∧ graph.Indexed ∧ ∀ path,
        path ∈ graph.paths ↔ ∃ entry ∈ done, path = Endpoint.trimSlash entry.1)
      ⟨named_empty, indexed_empty, by simp [EndpointGraph.paths, empty]⟩ ?_ h
    rintro done entry rest graph next node - ⟨hNamed, hIndexed, hPaths⟩ hAdd
    refine ⟨hNamed.add hAdd, hIndexed.add hAdd, fun path => ?_⟩
    rw [mem_paths_add hIndexed hAdd, hPaths]
    simp [or_and_right, exists_or]
  obtain ⟨hNamed, -, hPaths⟩ := hBuilt
  refine ⟨hNamed, fun path => ?_⟩
  rw [hPaths]
  simp [mem_sortPaths, Table.keys]

/-- Each endpoint has the segment of a path. -/
theorem exists_key_of_mem_endpoints {paths : Table String Json} (h : build names paths = .ok graph)
    {endpoint : Endpoint} (hEndpoint : endpoint ∈ graph.endpoints) :
    ∃ key ∈ paths.keys, Endpoint.ownSegment key = endpoint.summary := by
  obtain ⟨key, hKey, hPath⟩ :=
    ((build_eq_ok h).2 _).1 (List.mem_map.2 ⟨endpoint, hEndpoint, rfl⟩)
  refine ⟨key, hKey, ?_⟩
  rw [Endpoint.summary, hPath]
  rfl

/-- What holds of the last segments of all endpoints holds of those of all paths. -/
theorem forall_summary_iff {paths : Table String Json} (h : build names paths = .ok graph)
    {p : String → Prop} : (∀ endpoint ∈ graph.endpoints, p endpoint.summary) ↔
      ∀ key ∈ paths.keys, p (Endpoint.ownSegment key) := by
  have hPaths := (build_eq_ok h).2
  constructor
  · intro hAll key hKey
    obtain ⟨endpoint, hEndpoint, hPath⟩ := List.mem_map.1 ((hPaths _).2 ⟨key, hKey, rfl⟩)
    have hHolds := hAll endpoint hEndpoint
    rwa [Endpoint.summary, hPath] at hHolds
  · intro hAll endpoint hEndpoint
    obtain ⟨key, hKey, hOwn⟩ := exists_key_of_mem_endpoints h hEndpoint
    rw [← hOwn]
    exact hAll key hKey

/-- Building a graph fails only at a path whose last segment has no name. -/
theorem build_eq_error {paths : Table String Json} {error : PlanError}
    (h : build names paths = .error error) :
    ∃ path ∈ paths.keys, names.name? (Endpoint.ownSegment path) = none ∧
      error = .unnamedSegment (Endpoint.ownSegment path) (Endpoint.trimSlash path) := by
  obtain ⟨graph, entry, hEntry, hAdd⟩ := exists_of_foldlM_eq_error h
  have hKey : entry.1 ∈ paths.keys := List.mem_map.2 ⟨entry, mem_sortPaths.1 hEntry, rfl⟩
  exact ⟨entry.1, hKey, add_eq_error (map_eq_error_iff.1 hAdd)⟩

end EndpointGraph

end CratePlan
