import TextTemplate.ParseError
import TextTemplate.Proofs.Path

/-!
# Words that spell paths

A word spells a path if every part between its slashes is one of the steps that dots spell, or
consists of pieces between dots. A piece has at least one character, and begins with the mark of the
data variables only if it is one of them. Any other word is at fault for the leftmost piece that
breaks this rule. Steps that are written one behind the other are read back from the word.

## Main definitions

- `Text.Joins` — parts that make up a text with separators between them
- `FirstOut` — the first member of a list that lacks a property
- `Path.IsPiece`, `Path.IsPart`, `Path.IsWord` — the words that spell paths, from their pieces up
- `Path.FirstBad` — the leftmost bad piece of a word

## Main statements

- `Path.readAt_eq_ok_iff_isWord`, `Path.readAt_eq_error_iff_firstBad` — which words spell paths, and
  what is wrong with the others
- `Path.reading_follows_spelling` — both together, with the words that are read back
-/

namespace TextTemplate

-- ════════════════════════════════════════════════════════════════════════
-- Parts and first faults
-- ════════════════════════════════════════════════════════════════════════

namespace Text

/-- Parts without separators that make up a text with one separator between any two of them. -/
structure Joins (separator : Char) (parts : List (List Char)) (cs : List Char) : Prop where
  ne_nil : parts ≠ []
  apart : ∀ part ∈ parts, separator ∉ part
  joined : [separator].intercalate parts = cs

theorem splitOn_eq (separator : Char) (cs : List Char) :
    splitOn separator cs = cs.splitOn separator := by
  induction cs with
  | nil => rfl
  | cons c cs ih =>
    obtain ⟨part, parts, hparts⟩ := List.exists_cons_of_ne_nil (splitOn_ne_nil separator cs)
    rw [List.splitOn, List.splitOnP_cons_eq_if_modifyHead, ← List.splitOn, ← ih, hparts]
    by_cases hc : c = separator
    · simp [splitOn, hc, hparts]
    · simp [splitOn, hc, hparts]

/-- No part of a text has a separator in it. -/
theorem not_mem_of_mem_splitOn {separator : Char} {cs part : List Char}
    (h : part ∈ splitOn separator cs) : separator ∉ part := by
  induction cs generalizing part with
  | nil =>
    obtain rfl : part = [] := by simpa [splitOn] using h
    exact List.not_mem_nil
  | cons c cs ih =>
    obtain ⟨first, parts, hparts⟩ := List.exists_cons_of_ne_nil (splitOn_ne_nil separator cs)
    rw [hparts] at ih
    by_cases hc : c = separator
    · obtain rfl | hmem : part = [] ∨ part ∈ first :: parts := by
        simpa [splitOn, hc, hparts] using h
      · exact List.not_mem_nil
      · exact ih hmem
    · obtain rfl | hmem : part = c :: first ∨ part ∈ parts := by
        simpa [splitOn, hc, hparts] using h
      · exact List.not_mem_cons_of_ne_of_not_mem (Ne.symm hc) (ih List.mem_cons_self)
      · exact ih (List.mem_cons_of_mem _ hmem)

/-- A text has its parts in one way only. -/
theorem joins_iff {separator : Char} {parts : List (List Char)} {cs : List Char} :
    Joins separator parts cs ↔ splitOn separator cs = parts := by
  constructor
  · rintro ⟨hne, hapart, rfl⟩
    rw [splitOn_eq]
    exact List.splitOn_intercalate separator hapart hne
  · rintro rfl
    refine ⟨splitOn_ne_nil separator cs, fun part => not_mem_of_mem_splitOn, ?_⟩
    rw [splitOn_eq]
    exact List.intercalate_splitOn separator

end Text

/-- The first member of a list that lacks a property. -/
def FirstOut {α : Type} (P : α → Prop) (xs : List α) (x : α) : Prop :=
  ∃ before after, xs = before ++ x :: after ∧ (∀ y ∈ before, P y) ∧ ¬ P x

theorem FirstOut.bad {α : Type} {P : α → Prop} {xs : List α} {x : α} (h : FirstOut P xs x) :
    ¬ P x := by
  obtain ⟨_, _, _, _, hx⟩ := h
  exact hx

theorem forall_mem_or_exists_firstOut {α : Type} (P : α → Prop) (xs : List α) :
    (∀ x ∈ xs, P x) ∨ ∃ x, FirstOut P xs x := by
  induction xs with
  | nil => exact .inl (by simp)
  | cons x xs ih =>
    by_cases hx : P x
    · obtain hall | ⟨y, before, after, rfl, hbefore, hy⟩ := ih
      · exact .inl (List.forall_mem_cons.2 ⟨hx, hall⟩)
      · exact .inr ⟨y, x :: before, after, rfl, List.forall_mem_cons.2 ⟨hx, hbefore⟩, hy⟩
    · exact .inr ⟨x, [], xs, rfl, by simp, hx⟩

namespace Path

open Text

/-- The names of data variables. -/
def variableNames : List String :=
  ["root", "key", "index", "first", "last"]

/-- What may stand between dots: anything but nothing, and behind the mark of data variables only
the name of one. -/
def IsPiece (piece : List Char) : Prop :=
  piece ≠ [] ∧ ∀ name, piece = '@' :: name → String.ofList name ∈ variableNames

/-- What may stand between slashes: the step up, the step that stays, or pieces between dots. -/
def IsPart (part : List Char) : Prop :=
  part = ['.', '.'] ∨ part = ['.'] ∨
    ∃ pieces, Joins '.' pieces part ∧ ∀ piece ∈ pieces, IsPiece piece

/-- The words that spell paths. -/
def IsWord (word : List Char) : Prop :=
  ∃ parts, Joins '/' parts word ∧ ∀ part ∈ parts, IsPart part

/-- The leftmost bad piece of a word: the first one in the first part that is bad. -/
def FirstBad (word piece : List Char) : Prop :=
  ∃ parts part pieces, Joins '/' parts word ∧ FirstOut IsPart parts part ∧ Joins '.' pieces part ∧
    FirstOut IsPiece pieces piece

/-- What is wrong with a bad piece. -/
def pieceFault : List Char → PathError
  | '@' :: name => .unknownVariable (String.ofList name)
  | _ => .malformed

-- ════════════════════════════════════════════════════════════════════════
-- Pieces
-- ════════════════════════════════════════════════════════════════════════

theorem ofVariable_cases (name : String) :
    (name ∈ variableNames ∧ ∃ s, Segment.ofVariable name = .ok s) ∨
      (name ∉ variableNames ∧ Segment.ofVariable name = .error (.unknownVariable name)) := by
  by_cases hname : name ∈ variableNames
  · refine .inl ⟨hname, ?_⟩
    simp only [variableNames, List.mem_cons, List.not_mem_nil, or_false] at hname
    obtain rfl | rfl | rfl | rfl | rfl := hname
    all_goals exact ⟨_, rfl⟩
  · refine .inr ⟨hname, ?_⟩
    simp only [variableNames, List.mem_cons, List.not_mem_nil, or_false, not_or] at hname
    simp [Segment.ofVariable, hname]

/-- A bad piece is empty, or the mark of data variables and no name of one. -/
theorem not_isPiece_iff {piece : List Char} :
    ¬ IsPiece piece ↔
      piece = [] ∨ ∃ name, piece = '@' :: name ∧ String.ofList name ∉ variableNames := by
  constructor
  · intro h
    by_cases hne : piece = []
    · exact .inl hne
    · refine .inr ?_
      apply Classical.byContradiction
      intro hnone
      refine h ⟨hne, fun name heq => ?_⟩
      exact Classical.byContradiction fun hname => hnone ⟨name, heq, hname⟩
  · rintro (rfl | ⟨name, rfl, hname⟩) ⟨hne, hvariable⟩
    · exact hne rfl
    · exact hname (hvariable name rfl)

theorem exists_ofPiece {piece : List Char} (h : IsPiece piece) (isFirst : Bool) :
    ∃ s, Segment.ofPiece isFirst piece = .ok s := by
  obtain ⟨hne, hvariable⟩ := h
  obtain ⟨c, cs, rfl⟩ := List.exists_cons_of_ne_nil hne
  by_cases hc : c = '@'
  · subst hc
    obtain ⟨-, hs⟩ | ⟨hunknown, -⟩ := ofVariable_cases (String.ofList cs)
    · exact hs
    · exact absurd (hvariable cs rfl) hunknown
  · unfold Segment.ofPiece
    split
    · next heq => cases heq
    · next heq => exact absurd (List.cons.inj heq).1 hc
    · split
      · exact ⟨_, rfl⟩
      · exact ⟨_, rfl⟩

theorem ofPiece_of_bad {piece : List Char} (h : ¬ IsPiece piece) (isFirst : Bool) :
    Segment.ofPiece isFirst piece = .error (pieceFault piece) := by
  obtain rfl | ⟨name, rfl, hname⟩ := not_isPiece_iff.1 h
  · rfl
  · obtain ⟨hknown, -⟩ | ⟨-, herror⟩ := ofVariable_cases (String.ofList name)
    · exact absurd hknown hname
    · exact herror

theorem exists_readPieces {pieces : List (List Char)} (h : ∀ piece ∈ pieces, IsPiece piece)
    (isFirst : Bool) : ∃ segments, readPieces isFirst pieces = .ok segments := by
  induction pieces generalizing isFirst with
  | nil => exact ⟨[], rfl⟩
  | cons piece pieces ih =>
    obtain ⟨hpiece, hpieces⟩ := List.forall_mem_cons.1 h
    obtain ⟨s, hs⟩ := exists_ofPiece hpiece isFirst
    obtain ⟨segments, hsegments⟩ := ih hpieces false
    exact ⟨s :: segments, by simp only [readPieces, hs, hsegments, Except.map]⟩

/-- Pieces are at fault for the first bad one, whatever stands behind it. -/
theorem readPieces_of_firstOut {pieces : List (List Char)} {piece : List Char}
    (h : FirstOut IsPiece pieces piece) (isFirst : Bool) :
    readPieces isFirst pieces = .error (pieceFault piece) := by
  obtain ⟨before, after, rfl, hbefore, hpiece⟩ := h
  induction before generalizing isFirst with
  | nil => simp only [List.nil_append, readPieces, ofPiece_of_bad hpiece]
  | cons first before ih =>
    obtain ⟨hfirst, hmore⟩ := List.forall_mem_cons.1 hbefore
    obtain ⟨s, hs⟩ := exists_ofPiece hfirst isFirst
    simp only [List.cons_append, readPieces, hs, ih false hmore, Except.map]

-- ════════════════════════════════════════════════════════════════════════
-- Parts
-- ════════════════════════════════════════════════════════════════════════

theorem exists_readPart {part : List Char} (h : IsPart part) (isFirst : Bool) :
    ∃ segments, readPart isFirst part = .ok segments := by
  obtain rfl | rfl | ⟨pieces, hjoins, hpieces⟩ := h
  · exact ⟨_, rfl⟩
  · exact ⟨_, rfl⟩
  · by_cases hup : part = ['.', '.']
    · exact ⟨_, if_pos hup⟩
    by_cases hstay : part = ['.']
    · exact ⟨_, by rw [readPart, if_neg hup, if_pos hstay]⟩
    rw [readPart, if_neg hup, if_neg hstay, joins_iff.1 hjoins]
    exact exists_readPieces hpieces isFirst

/-- A bad part is none of the steps that dots spell, and has a first bad piece. -/
theorem exists_piece_of_bad {part : List Char} (h : ¬ IsPart part) :
    ∃ pieces piece, Joins '.' pieces part ∧ FirstOut IsPiece pieces piece := by
  obtain ⟨-, hnone⟩ := not_or.1 h
  obtain ⟨-, hnone⟩ := not_or.1 hnone
  have hjoins : Joins '.' (splitOn '.' part) part := joins_iff.2 rfl
  obtain hall | ⟨piece, hfirst⟩ := forall_mem_or_exists_firstOut IsPiece (splitOn '.' part)
  · exact absurd ⟨_, hjoins, hall⟩ hnone
  · exact ⟨_, piece, hjoins, hfirst⟩

theorem readPart_of_bad {part : List Char} {pieces : List (List Char)} {piece : List Char}
    (h : ¬ IsPart part) (hjoins : Joins '.' pieces part) (hfirst : FirstOut IsPiece pieces piece)
    (isFirst : Bool) : readPart isFirst part = .error (pieceFault piece) := by
  have hup : part ≠ ['.', '.'] := fun heq => h (.inl heq)
  have hstay : part ≠ ['.'] := fun heq => h (.inr (.inl heq))
  rw [readPart, if_neg hup, if_neg hstay, joins_iff.1 hjoins]
  exact readPieces_of_firstOut hfirst isFirst

theorem exists_readParts {parts : List (List Char)} (h : ∀ part ∈ parts, IsPart part)
    (isFirst : Bool) : ∃ segments, readParts isFirst parts = .ok segments := by
  induction parts generalizing isFirst with
  | nil => exact ⟨[], rfl⟩
  | cons part parts ih =>
    obtain ⟨hpart, hparts⟩ := List.forall_mem_cons.1 h
    obtain ⟨segments, hsegments⟩ := exists_readPart hpart isFirst
    obtain ⟨more, hmore⟩ := ih hparts false
    exact ⟨segments ++ more, by simp only [readParts, hsegments, hmore, Except.map]⟩

/-- Parts are at fault for the first bad one, whatever stands behind it. -/
theorem readParts_of_firstOut {parts pieces : List (List Char)} {part piece : List Char}
    (h : FirstOut IsPart parts part) (hjoins : Joins '.' pieces part)
    (hfirst : FirstOut IsPiece pieces piece) (isFirst : Bool) :
    readParts isFirst parts = .error (pieceFault piece) := by
  obtain ⟨before, after, rfl, hbefore, hpart⟩ := h
  induction before generalizing isFirst with
  | nil => simp only [List.nil_append, readParts, readPart_of_bad hpart hjoins hfirst]
  | cons first before ih =>
    obtain ⟨hgood, hmore⟩ := List.forall_mem_cons.1 hbefore
    obtain ⟨segments, hsegments⟩ := exists_readPart hgood isFirst
    simp only [List.cons_append, readParts, hsegments, ih false hmore, Except.map]

-- ════════════════════════════════════════════════════════════════════════
-- Words
-- ════════════════════════════════════════════════════════════════════════

theorem FirstBad.bad {word piece : List Char} (h : FirstBad word piece) : ¬ IsPiece piece := by
  obtain ⟨_, _, _, _, _, _, hpiece⟩ := h
  exact FirstOut.bad hpiece

theorem exists_read_of_isWord {word : String} (h : IsWord word.toList) :
    ∃ path, Path.read word = .ok path := by
  obtain ⟨parts, hjoins, hparts⟩ := h
  obtain ⟨segments, hsegments⟩ := exists_readParts hparts true
  exact ⟨⟨segments⟩, by rw [Path.read, joins_iff.1 hjoins, hsegments]; rfl⟩

theorem read_of_firstBad {word : String} {piece : List Char} (h : FirstBad word.toList piece) :
    Path.read word = .error (pieceFault piece) := by
  obtain ⟨parts, part, pieces, hjoins, hpart, hjoins', hpiece⟩ := h
  rw [Path.read, joins_iff.1 hjoins, readParts_of_firstOut hpart hjoins' hpiece]
  rfl

theorem isWord_or_exists_firstBad (word : List Char) :
    IsWord word ∨ ∃ piece, FirstBad word piece := by
  have hjoins : Joins '/' (splitOn '/' word) word := joins_iff.2 rfl
  obtain hall | ⟨part, hpart⟩ := forall_mem_or_exists_firstOut IsPart (splitOn '/' word)
  · exact .inl ⟨_, hjoins, hall⟩
  · obtain ⟨pieces, piece, hjoins', hpiece⟩ := exists_piece_of_bad hpart.bad
    exact .inr ⟨piece, _, part, pieces, hjoins, hpart, hjoins', hpiece⟩

/-- A word spells a path just if it is made up of good pieces. -/
theorem readAt_eq_ok_iff_isWord (word : String) (position : Position) :
    (∃ path, Path.readAt word position = .ok path) ↔ IsWord word.toList := by
  constructor
  · rintro ⟨path, hpath⟩
    obtain hword | ⟨piece, hpiece⟩ := isWord_or_exists_firstBad word.toList
    · exact hword
    · rw [Path.readAt, read_of_firstBad hpiece] at hpath
      cases hpath
  · intro h
    obtain ⟨path, hpath⟩ := exists_read_of_isWord h
    exact ⟨path, by rw [Path.readAt, hpath]⟩

/-- A word that spells no path is at fault for its leftmost bad piece: for the name behind the mark
of data variables, or as a whole. -/
theorem readAt_eq_error_iff_firstBad (word : String) (position : Position) (e : ParseError) :
    Path.readAt word position = .error e ↔
      (FirstBad word.toList [] ∧ e = .unexpected (.word word) position .path) ∨
        ∃ name, FirstBad word.toList ('@' :: name) ∧
          e = .unknownDataVariable (String.ofList name) position := by
  constructor
  · intro h
    obtain hword | ⟨piece, hpiece⟩ := isWord_or_exists_firstBad word.toList
    · obtain ⟨path, hpath⟩ := exists_read_of_isWord hword
      rw [Path.readAt, hpath] at h
      cases h
    · rw [Path.readAt, read_of_firstBad hpiece] at h
      obtain rfl | ⟨name, rfl, -⟩ := not_isPiece_iff.1 hpiece.bad
      · cases h
        exact .inl ⟨hpiece, rfl⟩
      · cases h
        exact .inr ⟨name, hpiece, rfl⟩
  · rintro (⟨hpiece, rfl⟩ | ⟨name, hpiece, rfl⟩)
    · rw [Path.readAt, read_of_firstBad hpiece]
      rfl
    · rw [Path.readAt, read_of_firstBad hpiece]
      rfl

/-- The words that spell paths are those made up of good pieces; any other word is at fault for its
leftmost bad piece; and steps are read back from every word that spells them, with a slash between
any two of them, or a dot between two that are neither up nor stay. -/
theorem reading_follows_spelling (word : String) (position : Position) :
    ((∃ path, Path.readAt word position = .ok path) ↔ IsWord word.toList) ∧
    (∀ e, Path.readAt word position = .error e ↔
      (FirstBad word.toList [] ∧ e = .unexpected (.word word) position .path) ∨
        ∃ name, FirstBad word.toList ('@' :: name) ∧
          e = .unknownDataVariable (String.ofList name) position) ∧
    ∀ segments, (∀ s ∈ segments, s.IsSpellable) → segments.head? ≠ some (.name "this") →
      Spells segments word.toList → Path.readAt word position = .ok ⟨segments⟩ := by
  refine ⟨readAt_eq_ok_iff_isWord word position, readAt_eq_error_iff_firstBad word position, ?_⟩
  intro segments hspellable hhead hspells
  rw [Path.readAt, read_of_spells (p := ⟨segments⟩) hspells hspellable hhead]

/-- Steps up, to the data, to a member with the name of the current value, and to one with a blank
and a mark in its name. -/
def winding : List Segment :=
  [.parent, .root, .name "this", .current, .name "x @y"]

/-- The winding steps are read back from one of their spellings, and a word with three bad pieces is
at fault for the first. -/
theorem reading_follows_spelling_winding :
    ((∀ s ∈ winding, s.IsSpellable) ∧ winding.head? ≠ some (.name "this") ∧
      Spells winding "../@root.this/./x @y".toList ∧
      Path.readAt "../@root.this/./x @y" .start = .ok ⟨winding⟩) ∧
    Path.readAt "a/@nope.b//@c" .start = .error (.unknownDataVariable "nope" .start) ∧
      FirstBad "a/@nope.b//@c".toList ['@', 'n', 'o', 'p', 'e'] := by
  have hspellable : ∀ s ∈ winding, s.IsSpellable := by
    intro s hs
    simp only [winding, List.mem_cons, List.not_mem_nil, or_false] at hs
    obtain rfl | rfl | rfl | rfl | rfl := hs
    all_goals simp [Segment.IsSpellable]
  have hspells : Spells winding "../@root.this/./x @y".toList :=
    .slash (.dot rfl rfl (.slash (.slash (.single _))))
  have hhead : winding.head? ≠ some (.name "this") := by decide
  have hread := (reading_follows_spelling "../@root.this/./x @y" .start).2.2 _ hspellable hhead
    hspells
  have herror :
      Path.readAt "a/@nope.b//@c" .start = .error (.unknownDataVariable "nope" .start) := by
    with_unfolding_all rfl
  refine ⟨⟨hspellable, hhead, hspells, hread⟩, herror, ?_⟩
  obtain ⟨-, hnone⟩ | ⟨name, hbad, heq⟩ := ((reading_follows_spelling _ _).2.1 _).1 herror
  · cases hnone
  · have hname : "nope" = String.ofList name := (ParseError.unknownDataVariable.inj heq).1
    rw [← String.toList_ofList (l := name), ← hname] at hbad
    exact hbad

end Path

end TextTemplate
