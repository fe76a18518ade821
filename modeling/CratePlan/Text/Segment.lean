/-!
# The last segment of a path

References and endpoint paths are both written with slashes, and what names them
is the text behind the last slash; a text without a slash is its own last segment.
-/

namespace CratePlan.Text

/-- The text behind the last occurrence of `mark`, or the whole text without one. -/
def afterLast (mark : Char) (text : List Char) : List Char :=
  (text.reverse.takeWhile (· != mark)).reverse

/-- The text before the last occurrence of `mark` and the text behind it, if there
is one. -/
def splitAtLast? (mark : Char) (text : List Char) : Option (List Char × List Char) :=
  match text.reverse.dropWhile (· != mark) with
  | [] => none
  | _ :: before => some (before.reverse, afterLast mark text)

/-- The last segment of a path. -/
def lastSegment (path : String) : String :=
  String.ofList (afterLast '/' path.toList)

/-- What stands behind the last mark has no mark in it. -/
theorem mark_not_mem_afterLast (mark : Char) (text : List Char) : mark ∉ afterLast mark text := by
  intro h
  have hMem : mark ∈ text.reverse.takeWhile (· != mark) := by simpa [afterLast] using h
  have hAll := List.all_takeWhile (p := (· != mark)) (l := text.reverse)
  have := List.all_eq_true.1 hAll mark hMem
  simp at this

/-- The two parts of a split, with the mark between them, are the text. -/
theorem append_of_splitAtLast? {mark : Char} {text before after : List Char}
    (h : splitAtLast? mark text = some (before, after)) : text = before ++ mark :: after := by
  unfold splitAtLast? at h
  split at h
  case h_1 => simp at h
  case h_2 c rest hDrop =>
    simp only [Option.some.injEq, Prod.mk.injEq] at h
    obtain ⟨rfl, rfl⟩ := h
    have hHead : c = mark := by
      have := List.head?_dropWhile_not (p := (· != mark)) (l := text.reverse)
      simpa [hDrop] using this
    have hParts := List.takeWhile_append_dropWhile (p := (· != mark)) (l := text.reverse)
    rw [hDrop, hHead] at hParts
    have := congrArg List.reverse hParts
    simpa [afterLast] using this.symm

private theorem bne_of_not_mem {mark : Char} {text : List Char} (h : mark ∉ text) :
    ∀ c ∈ text.reverse, (c != mark) = true := by
  intro c hc
  simpa using ne_of_mem_of_not_mem (List.mem_reverse.1 hc) h

/-- A text without the mark is all behind it. -/
theorem afterLast_of_not_mem {mark : Char} {text : List Char} (h : mark ∉ text) :
    afterLast mark text = text := by
  rw [afterLast, ← List.append_nil text.reverse, List.takeWhile_append_of_pos (bne_of_not_mem h)]
  simp

/-- What stands before a mark does not matter to what stands behind the last one. -/
theorem afterLast_append (mark : Char) (before after : List Char) :
    afterLast mark (before ++ mark :: after) = afterLast mark after := by
  have hReverse : (before ++ mark :: after).reverse = after.reverse ++ mark :: before.reverse := by
    simp
  rw [afterLast, afterLast, hReverse, List.takeWhile_append]
  split
  case isTrue hAll =>
    have hSelf : after.reverse.takeWhile (· != mark) = after.reverse :=
      (List.takeWhile_prefix _).eq_of_length hAll
    rw [hSelf]
    simp
  case isFalse => rfl

/-- A text is split at a mark with no other behind it. -/
theorem splitAtLast?_append {mark : Char} {after : List Char} (h : mark ∉ after)
    (before : List Char) : splitAtLast? mark (before ++ mark :: after) = some (before, after) := by
  have hReverse : (before ++ mark :: after).reverse = after.reverse ++ mark :: before.reverse := by
    simp
  rw [splitAtLast?, afterLast, hReverse, List.dropWhile_append_of_pos (bne_of_not_mem h),
    List.takeWhile_append_of_pos (bne_of_not_mem h)]
  simp

end CratePlan.Text
