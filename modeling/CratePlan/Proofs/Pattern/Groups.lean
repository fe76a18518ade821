import CratePlan.Proofs.Pattern.Found

/-!
# What groups capture

The named groups of a pattern hold parts of the text. Where a group has no other one inside it,
what it holds is the text that its body reads, and groups that stand side by side do not disturb
each other. So for such a pattern it can be said, by its tree alone, which texts it takes from
the front of what lies behind a spot, what the groups hold of them, and what it leaves. `Takes`
says this in one relation, and the relation of a sequence is put together from those of its
parts.

A pattern that is held to the start of a text takes the text from there, and one that is held to
the end only takes what the text ends in. If that can be done in one way only, then preferences
among ways play no part, and the groups hold what the one way gives them.

## Main statements

* `takes_group`, `Takes.seq`: the relation of a group and of a sequence.
* `Takes.exists_of_search`: what a search finds is held by groups, in some way to take the text.
* `TakesParts.finds_start`, `TakesParts.finds_end`: in which texts a search finds something.
* `Finds.capture?_of_spells`: what a group holds is captured, if there is one way.
* `Finds.capture?_eq`: what is captured of texts that are read into parts in one way.
* `Finds.capture?_eq_some_iff`: what the only group captures.
-/

namespace CratePlan

namespace Pattern

/-! ## Patterns that read -/

/-- The pattern reads certain texts, and does nothing else. -/
def ReadsAll (pattern : Pattern) (texts : List Char → Prop) : Prop :=
  ∀ first last : Spot, pattern.Spans first last ↔ ∃ text, texts text ∧ first.Reads text last

theorem ReadsAll.congr {pattern : Pattern} {texts others : List Char → Prop}
    (h : pattern.ReadsAll texts) (hSame : ∀ text, texts text ↔ others text) :
    pattern.ReadsAll others := by
  intro first last
  simp only [h first last, hSame]

theorem readsAll_literal (text : List Char) : ReadsAll (.literal text) (· = text) := by
  intro first last
  simp [Spans]

theorem readsAll_one (set : CharSet) :
    ReadsAll (.one set) fun text => ∃ c, set.holds c = true ∧ text = [c] := by
  intro first last
  constructor
  · rintro ⟨c, hChar, hReads⟩
    exact ⟨[c], ⟨c, hChar, rfl⟩, hReads⟩
  · rintro ⟨text, ⟨c, hChar, rfl⟩, hReads⟩
    exact ⟨c, hChar, hReads⟩

theorem ReadsAll.seq {left right : Pattern} {texts others : List Char → Prop}
    (hLeft : left.ReadsAll texts) (hRight : right.ReadsAll others) :
    ReadsAll (.seq left right) fun text =>
      ∃ front back, texts front ∧ others back ∧ text = front ++ back := by
  intro first last
  constructor
  · rintro ⟨middle, hFirst, hLast⟩
    obtain ⟨front, hFront, hReads⟩ := (hLeft first middle).1 hFirst
    obtain ⟨back, hBack, hMore⟩ := (hRight middle last).1 hLast
    exact ⟨front ++ back, ⟨front, back, hFront, hBack, rfl⟩, hReads.append hMore⟩
  · rintro ⟨text, ⟨front, back, hFront, hBack, rfl⟩, hReads⟩
    obtain ⟨middle, hFirst, hLast⟩ := hReads.split front
    exact ⟨middle, (hLeft first middle).2 ⟨front, hFront, hFirst⟩,
      (hRight middle last).2 ⟨back, hBack, hLast⟩⟩

/-- Characters of a set, at least so many of them. -/
theorem readsAll_repeated (least : Nat) (greedy : Bool) (set : CharSet) :
    ReadsAll (.repeated least none greedy (.one set)) fun text =>
      least ≤ text.length ∧ text.all set.holds = true := by
  intro first last
  constructor
  · rintro ⟨n, hLeast, -, hRounds⟩
    obtain ⟨text, rfl, hText, hReads⟩ := reads_of_rounds_one hRounds
    exact ⟨text, ⟨hLeast, hText⟩, hReads⟩
  · rintro ⟨text, ⟨hLeast, hText⟩, hReads⟩
    exact ⟨text.length, hLeast, by simp, rounds_one_of_reads hText hReads⟩

/-! ## Patterns with groups -/

/-- The pattern takes a text from the front of another one and leaves a third. Its groups hold
parts of what is taken, the last of them standing first, and others keep what they had. -/
structure Takes (pattern : Pattern)
    (taking : List Char → List (String × List Char) → List Char → Prop) : Prop where
  sound : ∀ {first last : Spot}, pattern.Spans first last →
    ∃ groups, taking first.after groups last.after ∧
      ∀ name, last.held.text? name first.text =
        (groups.lookup name).or (first.held.text? name first.text)
  complete : ∀ (first : Spot) {groups : List (String × List Char)} {rest : List Char},
    taking first.after groups rest → ∃ last, pattern.Spans first last ∧ last.after = rest

theorem Takes.congr {pattern : Pattern}
    {taking other : List Char → List (String × List Char) → List Char → Prop}
    (h : pattern.Takes taking)
    (hSame : ∀ after groups rest, taking after groups rest ↔ other after groups rest) :
    pattern.Takes other where
  sound hSpans := by
    obtain ⟨groups, hTaking, hGroups⟩ := h.sound hSpans
    exact ⟨groups, (hSame _ _ _).1 hTaking, hGroups⟩
  complete first _ _ hTaking := h.complete first ((hSame _ _ _).2 hTaking)

/-- The spot behind a text that is read. -/
theorem exists_reads (first : Spot) {text rest : List Char} (h : first.after = text ++ rest) :
    ∃ last, first.Reads text last ∧ last.after = rest :=
  ⟨⟨text.reverse ++ first.before, rest, first.held⟩, ⟨h, rfl, rfl⟩, rfl⟩

theorem ReadsAll.takes {pattern : Pattern} {texts : List Char → Prop} (h : pattern.ReadsAll texts) :
    Takes pattern fun after groups rest =>
      ∃ text, texts text ∧ after = text ++ rest ∧ groups = [] where
  sound {first last} hSpans := by
    obtain ⟨text, hText, hReads⟩ := (h first last).1 hSpans
    exact ⟨[], ⟨text, hText, hReads.after, rfl⟩, fun name => by simp [hReads.held]⟩
  complete first {groups rest} := by
    rintro ⟨text, hText, hAfter, -⟩
    obtain ⟨last, hReads, hLast⟩ := exists_reads first hAfter
    exact ⟨last, (h first last).2 ⟨text, hText, hReads⟩, hLast⟩

/-- A group holds what its body reads. -/
theorem takes_group {body : Pattern} {texts : List Char → Prop} (h : body.ReadsAll texts)
    (number : Nat) (name : String) :
    Takes (.group number (some name) body) fun after groups rest =>
      ∃ text, texts text ∧ after = text ++ rest ∧ groups = [(name, text)] where
  sound {first last} := by
    rintro ⟨inner, hBody, rfl⟩
    obtain ⟨text, hText, hReads⟩ := (h _ inner).1 hBody
    refine ⟨[(name, text)], ⟨text, hText, hReads.after, rfl⟩, fun other => ?_⟩
    by_cases hName : other = name
    · subst hName
      rw [Spot.text?_closeAt hReads]
      simp
    · have hLookup : ([(name, text)] : List (String × List Char)).lookup other = none := by
        simp [List.lookup_cons, beq_false_of_ne hName]
      rw [hLookup, Option.none_or]
      exact Spot.text?_closeAt_of_ne hReads hName
  complete first {groups rest} := by
    rintro ⟨text, hText, hAfter, -⟩
    obtain ⟨inner, hReads, hInner⟩ := exists_reads (first.openAt name) hAfter
    exact ⟨inner.closeAt name, ⟨inner, (h _ inner).2 ⟨text, hText, hReads⟩, rfl⟩, hInner⟩

theorem Takes.seq {left right : Pattern}
    {taking others : List Char → List (String × List Char) → List Char → Prop}
    (hLeft : left.Takes taking) (hRight : right.Takes others) :
    Takes (.seq left right) fun after groups rest => ∃ middle before behind,
      taking after before middle ∧ others middle behind rest ∧ groups = behind ++ before where
  sound {first last} := by
    rintro ⟨middle, hFirst, hLast⟩
    obtain ⟨before, hBefore, hHeld⟩ := hLeft.sound hFirst
    obtain ⟨behind, hBehind, hMore⟩ := hRight.sound hLast
    refine ⟨behind ++ before, ⟨middle.after, before, behind, hBefore, hBehind, rfl⟩, fun name => ?_⟩
    rw [← hFirst.text_eq, hMore name, hFirst.text_eq, hHeld name, List.lookup_append,
      Option.or_assoc]
  complete first {groups rest} := by
    rintro ⟨after, before, behind, hBefore, hBehind, -⟩
    obtain ⟨middle, hFirst, rfl⟩ := hLeft.complete first hBefore
    obtain ⟨last, hLast, hRest⟩ := hRight.complete middle hBehind
    exact ⟨last, ⟨middle, hFirst, hLast⟩, hRest⟩

/-- The end of the text. -/
theorem takes_textEnd :
    Takes (.boundary .textEnd) fun after groups rest => after = [] ∧ groups = [] ∧ rest = [] where
  sound {first last} := by
    rintro ⟨hEnd, rfl⟩
    have hAfter : first.after = [] := List.head?_eq_none_iff.1 (Option.isNone_iff_eq_none.1 hEnd)
    exact ⟨[], ⟨hAfter, rfl, hAfter⟩, fun name => by simp⟩
  complete first {groups rest} := by
    rintro ⟨hAfter, -, rfl⟩
    exact ⟨first, ⟨by simp [Boundary.holds, hAfter], rfl⟩, hAfter⟩

/-- What a search finds for a pattern anywhere in a text. -/
theorem Takes.exists_of_search {pattern : Pattern}
    {taking : List Char → List (String × List Char) → List Char → Prop} (h : pattern.Takes taking)
    {text : List Char} {held : Held}
    (hSearch : (Machine.ofPattern pattern).search text = some held) :
    ∃ before after groups rest, text = before ++ after ∧ taking after groups rest ∧
      ∀ name, held.text? name text = groups.lookup name := by
  obtain ⟨first, last, hText, hHeld, hSpans, rfl⟩ := exists_spans_of_search hSearch
  obtain ⟨groups, hTaking, hGroups⟩ := h.sound hSpans
  refine ⟨first.before.reverse, first.after, groups, last.after, hText.symm, hTaking, ?_⟩
  intro name
  rw [← hText, hGroups name, hHeld]
  exact Option.or_none

/-- What a search finds for a pattern at the start of a text. -/
theorem Takes.exists_of_search_start {pattern : Pattern}
    {taking : List Char → List (String × List Char) → List Char → Prop} (h : pattern.Takes taking)
    {text : List Char} {held : Held}
    (hSearch : (Machine.ofPattern (.seq (.boundary .textStart) pattern)).search text = some held) :
    ∃ groups rest, taking text groups rest ∧ ∀ name, held.text? name text = groups.lookup name := by
  obtain ⟨first, last, hText, hHeld, ⟨_, ⟨hStart, rfl⟩, hSpans⟩, rfl⟩ :=
    exists_spans_of_search hSearch
  have hBefore : first.before = [] :=
    List.head?_eq_none_iff.1 (Option.isNone_iff_eq_none.1 hStart)
  have hAfter : first.after = text := by
    rw [← hText, Spot.text, hBefore, List.reverse_nil, List.nil_append]
  obtain ⟨groups, hTaking, hGroups⟩ := h.sound hSpans
  refine ⟨groups, last.after, hAfter ▸ hTaking, fun name => ?_⟩
  rw [← hText, hGroups name, hHeld]
  exact Option.or_none

/-! ## Texts that are put together from parts

The parts of a text are what the groups hold of it, and which text they spell is a relation of
its own. A pattern for such texts takes them as a whole. -/

section

variable {Parts : Type} {spells : Parts → String → Prop}
  {groups : Parts → List (String × List Char)} {pattern : Pattern} {name captured : String}

/-- The pattern takes the texts that parts spell, and its groups hold the parts. -/
def TakesParts (pattern : Pattern) (spells : Parts → String → Prop)
    (groups : Parts → List (String × List Char)) : Prop :=
  pattern.Takes fun after held rest =>
    ∃ parts, spells parts (String.ofList after) ∧ held = groups parts ∧ rest = []

/-- A search for the pattern finds something in the texts that parts spell, and in no others,
and what its groups hold are parts of the text. -/
structure Finds (pattern : Pattern) (spells : Parts → String → Prop)
    (groups : Parts → List (String × List Char)) : Prop where
  sound : ∀ {name : String} {held : Held},
    (Machine.ofPattern pattern).search name.toList = some held →
      ∃ parts, spells parts name ∧ ∀ group, held.text? group name.toList = (groups parts).lookup group
  complete : ∀ {parts : Parts} {name : String}, spells parts name →
    ∃ held, (Machine.ofPattern pattern).search name.toList = some held

/-- At the start of a text a search finds whole texts. -/
theorem TakesParts.finds_start (h : pattern.TakesParts spells groups) :
    Finds (.seq (.boundary .textStart) pattern) spells groups where
  sound {name held} hSearch := by
    obtain ⟨_, _, ⟨parts, hParts, rfl, -⟩, hGroups⟩ := Takes.exists_of_search_start h hSearch
    rw [String.ofList_toList] at hParts
    exact ⟨parts, hParts, hGroups⟩
  complete {parts name} hParts := by
    rw [← String.ofList_toList (s := name)] at hParts
    obtain ⟨last, hSpans, -⟩ :=
      Takes.complete h ⟨[], name.toList, .nothing⟩ ⟨parts, hParts, rfl, rfl⟩
    have hStarts : Spans (.seq (.boundary .textStart) pattern) ⟨[], name.toList, .nothing⟩ last :=
      ⟨_, ⟨rfl, rfl⟩, hSpans⟩
    exact exists_search_iff.2 ⟨_, last, rfl, rfl, hStarts⟩

/-- Anywhere in a text a search finds what the text ends in. -/
theorem TakesParts.finds_end (h : pattern.TakesParts spells groups) :
    Finds pattern (fun parts name => ∃ front back, name = front ++ back ∧ spells parts back)
      groups where
  sound {name held} hSearch := by
    obtain ⟨before, after, _, _, hText, ⟨parts, hParts, rfl, -⟩, hGroups⟩ :=
      Takes.exists_of_search h hSearch
    refine ⟨parts, ⟨String.ofList before, String.ofList after, ?_, hParts⟩, hGroups⟩
    rw [← String.toList_inj, hText]
    simp
  complete {parts name} := by
    rintro ⟨front, back, rfl, hParts⟩
    rw [← String.ofList_toList (s := back)] at hParts
    obtain ⟨last, hSpans, -⟩ :=
      Takes.complete h ⟨front.toList.reverse, back.toList, .nothing⟩ ⟨parts, hParts, rfl, rfl⟩
    have hText : Spot.text ⟨front.toList.reverse, back.toList, .nothing⟩ =
        (front ++ back).toList := by simp [Spot.text]
    exact exists_search_iff.2 ⟨_, last, hText, rfl, hSpans⟩

theorem Finds.congr {other : Parts → String → Prop} (h : pattern.Finds spells groups)
    (hSame : ∀ parts name, spells parts name ↔ other parts name) : pattern.Finds other groups where
  sound hSearch := by
    obtain ⟨parts, hParts, hGroups⟩ := h.sound hSearch
    exact ⟨parts, (hSame parts _).1 hParts, hGroups⟩
  complete hParts := h.complete ((hSame _ _).2 hParts)

/-- What is captured is held by the group of some parts. -/
theorem Finds.exists_spells_of_capture? (h : pattern.Finds spells groups) {group : String}
    (hCapture : pattern.capture? group name = some captured) :
    ∃ parts, spells parts name ∧ (groups parts).lookup group = some captured.toList := by
  obtain ⟨held, hSearch, hCaptured⟩ := Option.bind_eq_some_iff.1 hCapture
  obtain ⟨chars, hChars, rfl⟩ := Option.map_eq_some_iff.1 hCaptured
  obtain ⟨parts, hParts, hGroups⟩ := h.sound hSearch
  exact ⟨parts, hParts, by rw [← hGroups group, hChars, String.toList_ofList]⟩

/-- What the group of the parts holds is captured, if a text has parts in one way only. -/
theorem Finds.capture?_of_spells (h : pattern.Finds spells groups) {parts : Parts}
    (hParts : spells parts name) (hOne : ∀ other, spells other name → other = parts)
    (group : String) (hGroup : (groups parts).lookup group = some captured.toList) :
    pattern.capture? group name = some captured := by
  obtain ⟨held, hSearch⟩ := h.complete hParts
  -- Whatever way the search has taken, the parts are these.
  obtain ⟨other, hOther, hGroups⟩ := h.sound hSearch
  obtain rfl : other = parts := hOne other hOther
  refine Option.bind_eq_some_iff.2 ⟨held, hSearch, ?_⟩
  rw [hGroups group, hGroup, Option.map_some, String.ofList_toList]

/-- If texts are read into parts in one way, each group holds what it is to hold of the parts. -/
theorem Finds.capture?_eq (h : pattern.Finds spells groups) {read : Option Parts}
    (hRead : ∀ parts, read = some parts ↔ spells parts name) (group : String) :
    pattern.capture? group name =
      read.bind fun parts => ((groups parts).lookup group).map String.ofList := by
  cases hParts : read with
  | some parts =>
      obtain ⟨held, hSearch⟩ := h.complete ((hRead parts).1 hParts)
      obtain ⟨other, hOther, hGroups⟩ := h.sound hSearch
      obtain rfl : other = parts := Option.some.inj (((hRead other).2 hOther).symm.trans hParts)
      rw [capture?, hSearch, Option.bind_some, Option.bind_some, hGroups group]
  | none =>
      rw [Option.bind_none, Option.eq_none_iff_forall_ne_some]
      intro captured hCapture
      obtain ⟨parts, hSpells, -⟩ := h.exists_spells_of_capture? hCapture
      rw [(hRead parts).2 hSpells] at hParts
      cases hParts

end

/-! ## One group

Where there is one group and it holds a text, the text is the only part. -/

section

variable {spells : String → String → Prop} {pattern body : Pattern} {texts : String → Prop}
  {group name part : String}

/-- The one part of a text is captured. -/
theorem Finds.capture?_eq_some_iff (h : pattern.Finds spells fun part => [(group, part.toList)])
    (hOne : ∀ part other, spells part name → spells other name → part = other) :
    pattern.capture? group name = some part ↔ spells part name := by
  constructor
  · intro hCapture
    obtain ⟨other, hOther, hPart⟩ := h.exists_spells_of_capture? hCapture
    obtain rfl : other = part := by simpa [String.toList_inj] using hPart
    exact hOther
  · intro hPart
    have hOnly : ∀ other, spells other name → other = part :=
      fun other hOther => hOne other part hOther hPart
    exact h.capture?_of_spells hPart hOnly group (by simp)

/-- A group and the end of the text. -/
theorem takesParts_group (hBody : body.ReadsAll fun text => texts (String.ofList text))
    (group : String) :
    TakesParts (.seq (.group 1 (some group) body) (.boundary .textEnd))
      (fun part name => name = part ∧ texts part) fun part => [(group, part.toList)] := by
  refine ((takes_group hBody 1 group).seq takes_textEnd).congr fun after held rest => ?_
  constructor
  · rintro ⟨_, _, _, ⟨part, hPart, rfl, rfl⟩, ⟨rfl, rfl, rfl⟩, rfl⟩
    exact ⟨String.ofList part, ⟨by simp, hPart⟩, by simp, rfl⟩
  · rintro ⟨part, ⟨rfl, hPart⟩, rfl, rfl⟩
    exact ⟨_, _, _, ⟨after, hPart, (List.append_nil _).symm, rfl⟩, ⟨rfl, rfl, rfl⟩, by simp⟩

/-- A group, a text behind it, and the end of the text. -/
theorem takesParts_group_before (hBody : body.ReadsAll fun text => texts (String.ofList text))
    (group stop : String) :
    TakesParts (.seq (.group 1 (some group) body) (.seq (.literal stop.toList)
      (.boundary .textEnd)))
      (fun part name => name = part ++ stop ∧ texts part)
      fun part => [(group, part.toList)] := by
  refine ((takes_group hBody 1 group).seq ((readsAll_literal stop.toList).takes.seq
    takes_textEnd)).congr fun after held rest => ?_
  constructor
  · rintro ⟨_, _, _, ⟨part, hPart, rfl, rfl⟩, ⟨_, _, _, ⟨_, rfl, rfl, rfl⟩, ⟨rfl, rfl, rfl⟩, rfl⟩,
      rfl⟩
    refine ⟨String.ofList part, ⟨?_, hPart⟩, by simp, rfl⟩
    rw [← String.toList_inj]
    simp
  · rintro ⟨part, ⟨hText, hPart⟩, rfl, rfl⟩
    rw [← String.ofList_toList (s := part)] at hPart
    refine ⟨_, _, _, ⟨part.toList, hPart, ?_, rfl⟩, ⟨_, _, _,
      ⟨_, rfl, (List.append_nil _).symm, rfl⟩, ⟨rfl, rfl, rfl⟩, rfl⟩, rfl⟩
    rw [← String.toList_append, ← hText, String.toList_ofList]

/-- A text in front of what a pattern takes. -/
theorem TakesParts.behind {Parts : Type} {spells : Parts → String → Prop}
    {groups : Parts → List (String × List Char)} (h : pattern.TakesParts spells groups)
    (start : String) :
    TakesParts (.seq (.literal start.toList) pattern)
      (fun parts name => ∃ back, name = start ++ back ∧ spells parts back) groups := by
  refine ((readsAll_literal start.toList).takes.seq h).congr fun after held rest => ?_
  constructor
  · rintro ⟨back, _, _, ⟨_, rfl, rfl, rfl⟩, ⟨parts, hParts, rfl, rfl⟩, rfl⟩
    refine ⟨parts, ⟨String.ofList back, ?_, hParts⟩, by simp, rfl⟩
    rw [← String.toList_inj]
    simp
  · rintro ⟨parts, ⟨back, hText, hParts⟩, rfl, rfl⟩
    rw [← String.ofList_toList (s := back)] at hParts
    refine ⟨back.toList, _, _, ⟨_, rfl, ?_, rfl⟩, ⟨parts, hParts, rfl, rfl⟩, by simp⟩
    rw [← String.toList_append, ← hText, String.toList_ofList]

end

end Pattern

end CratePlan
