import Mathlib.Data.List.TakeWhile
import TextTemplate.Proofs.Path
import TextTemplate.Proofs.Scope

/-!
# Steps in front of a path

A word that spells a path still spells one with a step up or a step that stays in front of it, and
the path is then followed from the scope around, or from the same scope. Only the name of the
current value does not bear this: it counts as such at the very start of a word, and behind any step
it is a member like others.

## Main definitions

- `Path.firstPiece` — the text of a word before its first dot or slash
- `Path.currentName` — the name of the current value
-/

namespace TextTemplate

namespace Text

/-- The first part of a text is what stands before the first separator. -/
theorem exists_splitOn_eq_cons (separator : Char) (cs : List Char) :
    ∃ parts, splitOn separator cs = cs.takeWhile (· != separator) :: parts := by
  induction cs with
  | nil => exact ⟨[], rfl⟩
  | cons c cs ih =>
    obtain ⟨parts, hparts⟩ := ih
    by_cases hc : c = separator
    · exact ⟨splitOn separator cs, by simp [splitOn, hc]⟩
    · exact ⟨parts, by simp [splitOn, hc, hparts]⟩

end Text

open Text

namespace Path

/-- The text of a word before its first dot or slash. -/
def firstPiece (word : List Char) : List Char :=
  word.takeWhile fun c => c != '.' && c != '/'

/-- The name of the current value. -/
def currentName : List Char := ['t', 'h', 'i', 's']

/-- The first piece is the first one between dots in the first part between slashes. -/
theorem firstPiece_eq (word : List Char) :
    firstPiece word = (word.takeWhile (· != '/')).takeWhile (· != '.') := by
  rw [firstPiece, List.takeWhile_takeWhile]
  congr 1
  funext c
  by_cases hdot : c = '.' <;> by_cases hslash : c = '/' <;> simp [hdot, hslash]

-- ════════════════════════════════════════════════════════════════════════
-- Reading behind a step
-- ════════════════════════════════════════════════════════════════════════

/-- Only the name of the current value is read otherwise behind a step. -/
theorem ofPiece_behind {piece : List Char} (h : piece ≠ currentName) :
    Segment.ofPiece false piece = Segment.ofPiece true piece := by
  have hname : String.ofList piece ≠ "this" := by
    intro hthis
    exact h (by rw [← String.toList_ofList (l := piece), hthis]; rfl)
  unfold Segment.ofPiece
  split <;> simp [hname]

/-- A word that does not begin with the name of the current value is read alike behind a step. -/
theorem readParts_behind {word : List Char} (h : firstPiece word ≠ currentName) :
    readParts false (splitOn '/' word) = readParts true (splitOn '/' word) := by
  obtain ⟨parts, hparts⟩ := exists_splitOn_eq_cons '/' word
  obtain ⟨pieces, hpieces⟩ := exists_splitOn_eq_cons '.' (word.takeWhile (· != '/'))
  rw [← firstPiece_eq] at hpieces
  have hpart : readPart false (word.takeWhile (· != '/')) =
      readPart true (word.takeWhile (· != '/')) := by
    simp only [readPart, hpieces, readPieces, ofPiece_behind h]
  rw [hparts]
  simp only [readParts, hpart]

/-- The name of the current value at the start of a word is a step that stays, and behind a step it
is a member. What stands behind it is read alike. -/
theorem readParts_currentName {word : List Char} (h : firstPiece word = currentName) :
    ∃ rest : Except PathError (List Segment),
      readParts true (splitOn '/' word) = rest.map (.current :: ·) ∧
      readParts false (splitOn '/' word) = rest.map (.name "this" :: ·) := by
  obtain ⟨parts, hparts⟩ := exists_splitOn_eq_cons '/' word
  obtain ⟨pieces, hpieces⟩ := exists_splitOn_eq_cons '.' (word.takeWhile (· != '/'))
  rw [← firstPiece_eq, h] at hpieces
  have hhead : (word.takeWhile (· != '/')).head? ≠ some '.' := by
    rw [firstPiece_eq] at h
    cases hpart : word.takeWhile (· != '/') with
    | nil => simp
    | cons c cs =>
      rintro ⟨⟩
      simp [hpart, currentName] at h
  have hread : ∀ isFirst, readPart isFirst (word.takeWhile (· != '/')) =
      (readPieces false pieces).map ((if isFirst then .current else .name "this") :: ·) := by
    intro isFirst
    rw [readPart_eq_readPieces hhead, hpieces]
    cases isFirst <;> rfl
  rw [hparts]
  cases hmore : readPieces false pieces with
  | error e => exact ⟨.error e, by simp [readParts, hread, hmore, Except.map]⟩
  | ok more =>
    refine ⟨(readParts false parts).map (more ++ ·), ?_⟩
    simp only [readParts, hread, hmore, Except.map]
    cases readParts false parts <;> exact ⟨rfl, rfl⟩

/-- A word in front of which dots and a slash stand begins with the step that they spell. -/
theorem read_behind (dots : List Char) {step : Segment} (hslash : '/' ∉ dots)
    (hdots : readPart true dots = .ok [step]) (word : String) :
    Path.read (String.ofList (dots ++ ['/']) ++ word) =
      (readParts false (splitOn '/' word.toList)).map fun segments => ⟨step :: segments⟩ := by
  have hsplit : splitOn '/' (String.ofList (dots ++ ['/']) ++ word).toList =
      dots :: splitOn '/' word.toList := by
    rw [String.toList_append, String.toList_ofList, List.append_assoc]
    exact splitOn_append_cons _ hslash
  rw [Path.read, hsplit]
  simp only [readParts, hdots]
  cases readParts false (splitOn '/' word.toList) <;> rfl

theorem read_up (word : String) :
    Path.read ("../" ++ word) =
      (readParts false (splitOn '/' word.toList)).map fun segments => ⟨.parent :: segments⟩ :=
  read_behind ['.', '.'] (by decide) rfl word

theorem read_stay (word : String) :
    Path.read ("./" ++ word) =
      (readParts false (splitOn '/' word.toList)).map fun segments => ⟨.current :: segments⟩ :=
  read_behind ['.'] (by decide) rfl word

end Path

namespace Scope

/-- A path with a step up in front is followed from the scope around. -/
theorem resolve_up (s : Scope) (segments : List Segment) :
    s.resolve ⟨.parent :: segments⟩ = s.parent?.bind fun around => around.resolve ⟨segments⟩ := by
  cases hparent : s.parent? with
  | none => simp only [resolve, follow, hparent, Option.bind_none]
  | some around => simp only [resolve, follow, hparent, Option.bind_some]

end Scope

-- ════════════════════════════════════════════════════════════════════════
-- Paths with a step in front
-- ════════════════════════════════════════════════════════════════════════

namespace Path

/-- A step up in front of a word leads to the scope around, and a step that stays to the scope
itself, where the word stands for what it stands for; but the name of the current value stands for
a member there. -/
theorem prefixed_word_resolves (s : Scope) (word : String) (p : Path)
    (h : Path.read word = .ok p) :
    (firstPiece word.toList ≠ currentName →
      (∃ q, Path.read ("../" ++ word) = .ok q ∧
        s.resolve q = s.parent?.bind fun around => around.resolve p) ∧
      ∃ q, Path.read ("./" ++ word) = .ok q ∧ s.resolve q = s.resolve p) ∧
    (firstPiece word.toList = currentName →
      ∃ rest, p.segments = .current :: rest ∧
        (∃ q, Path.read ("../" ++ word) = .ok q ∧
          s.resolve q = s.parent?.bind fun around => around.resolve ⟨.name "this" :: rest⟩) ∧
        ∃ q, Path.read ("./" ++ word) = .ok q ∧
          s.resolve q = s.resolve ⟨.name "this" :: rest⟩) := by
  obtain ⟨segments, hsegments, rfl⟩ := map_eq_ok_iff.1 h
  refine ⟨fun hother => ?_, fun hthis => ?_⟩
  · have hbehind := (readParts_behind hother).trans hsegments
    refine ⟨⟨⟨.parent :: segments⟩, ?_, s.resolve_up segments⟩, ⟨.current :: segments⟩, ?_, rfl⟩
    · rw [read_up, hbehind]
      rfl
    · rw [read_stay, hbehind]
      rfl
  · obtain ⟨rest?, hfirst, hbehind⟩ := readParts_currentName hthis
    rw [hfirst] at hsegments
    obtain ⟨rest, rfl, rfl⟩ := map_eq_ok_iff.1 hsegments
    refine ⟨rest, rfl, ⟨⟨.parent :: .name "this" :: rest⟩, ?_, s.resolve_up _⟩,
      ⟨.current :: .name "this" :: rest⟩, ?_, rfl⟩
    · rw [read_up, hbehind]
      rfl
    · rw [read_stay, hbehind]
      rfl

/-- The item of a sequence, in a scope that visits it. -/
def visitedItem : Scope :=
  .item (.root (.sequence [.keyed [("name", .text "row")]])) (.keyed [("name", .text "row")]) 0 1

theorem prefixed_word_resolves_item :
    Path.read "this.name" = .ok ⟨[.current, .name "name"]⟩ ∧
      Path.read "name" = .ok ⟨[.name "name"]⟩ ∧
      (∃ q, Path.read "./name" = .ok q ∧
        visitedItem.resolve q = visitedItem.resolve ⟨[.name "name"]⟩) ∧
      ∃ q, Path.read "../this.name" = .ok q ∧
        visitedItem.resolve q = visitedItem.parent?.bind fun around =>
          around.resolve ⟨[.name "this", .name "name"]⟩ := by
  have hname : Path.read "name" = .ok ⟨[.name "name"]⟩ := by decide
  have hthis : Path.read "this.name" = .ok ⟨[.current, .name "name"]⟩ := by decide
  have hstays := ((prefixed_word_resolves visitedItem "name" _ hname).1 (by decide)).2
  obtain ⟨rest, hrest, hup, -⟩ :=
    (prefixed_word_resolves visitedItem "this.name" _ hthis).2 (by decide)
  cases hrest
  exact ⟨hthis, hname, hstays, hup⟩

/-- A step up in front of the name of the current value does not lead to the value around. -/
theorem step_before_currentName :
    ¬ ∀ (s : Scope) (word : String) (p : Path), Path.read word = .ok p →
      (∃ q, Path.read ("../" ++ word) = .ok q ∧
        s.resolve q = s.parent?.bind fun around => around.resolve p) ∧
      ∃ q, Path.read ("./" ++ word) = .ok q ∧ s.resolve q = s.resolve p := by
  intro h
  obtain ⟨⟨q, hq, hresolve⟩, -⟩ := h visitedItem "this" ⟨[.current]⟩ (by decide)
  have hread : Path.read ("../" ++ "this") = .ok ⟨[.parent, .name "this"]⟩ := by decide
  rw [hread] at hq
  cases hq
  have hmissing : visitedItem.resolve ⟨[.parent, .name "this"]⟩ = none := rfl
  rw [hmissing] at hresolve
  cases hresolve

end Path

end TextTemplate
