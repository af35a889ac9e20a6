import TextTemplate.Token.Scan

/-!
# Scans take slices

Whatever is scanned is a non-empty slice from the start of the text, and what is left is the rest of
it. So nothing is lost between tokens, and every token makes the text shorter.

## Main definitions

- `Scan.Covers` — a scan takes a non-empty slice from the start of a text
-/

namespace TextTemplate

open Text

/-- A scan takes a non-empty slice from the start of a text. -/
def Scan.Covers (scan : Scan) (cs : List Char) : Prop :=
  scan.slice ++ scan.rest = cs ∧ scan.slice ≠ []

theorem Scan.Covers.length_lt {scan : Scan} {cs : List Char} (h : scan.Covers cs) :
    scan.rest.length < cs.length := by
  obtain ⟨rfl, hne⟩ := h
  have := List.length_pos_iff.2 hne
  simp only [List.length_append]
  omega

/-- A token outside a tag starts the text. -/
theorem covers_of_scanText? {cs : List Char} {scan : Scan} (h : scanText? cs = some scan) :
    scan.Covers cs := by
  unfold scanText? at h
  split at h
  · simp at h
  · cases h
    simp [Scan.Covers]
  · cases h
    simp [Scan.Covers, openMarker]
  · next hnil _ hopen =>
    simp only [Option.some.injEq] at h
    subst h
    cases hcut : cutAt openMarker cs with
    | none => simp_all [Scan.Covers]
    | some found =>
      obtain ⟨before, found⟩ := found
      refine ⟨by simpa [hcut] using append_of_cutAt hcut, ?_⟩
      simp only [Option.getD_some, ne_eq]
      rintro rfl
      have happend := append_of_cutAt hcut
      have hmarker := isPrefixOf_of_cutAt hcut
      simp only [List.nil_append] at happend
      subst happend
      obtain ⟨rest, hrest⟩ := List.isPrefixOf_iff_prefix.1 hmarker
      exact hopen rest (by simpa [openMarker] using hrest.symm)

theorem covers_scanWord (c : Char) (cs : List Char) : (scanWord c cs).Covers (c :: cs) := by
  simp [Scan.Covers, scanWord, List.takeWhile_append_dropWhile]

theorem append_of_scanQuoted? {quote : Char} {cs value slice rest : List Char}
    (h : scanQuoted? quote cs = some (value, slice, rest)) : slice ++ rest = cs := by
  fun_induction scanQuoted? quote cs generalizing value slice with
  | case1 => simp at h
  | case2 => cases h; rfl
  | case3 => simp at h
  | case4 e cs _ ih =>
    obtain ⟨⟨v, s, r⟩, hq, heq⟩ := Option.map_eq_some_iff.1 h
    cases heq
    simp [ih hq]
  | case5 c cs _ _ ih =>
    obtain ⟨⟨v, s, r⟩, hq, heq⟩ := Option.map_eq_some_iff.1 h
    cases heq
    simp [ih hq]

theorem covers_of_scanComment? {cs : List Char} {scan : Scan} (h : scanComment? cs = some scan) :
    scan.Covers ('!' :: cs) := by
  unfold scanComment? at h
  split at h
  · next cs =>
    obtain ⟨⟨body, found⟩, hcut, rfl⟩ := Option.map_eq_some_iff.1 h
    obtain ⟨rest, hrest⟩ := List.isPrefixOf_iff_prefix.1 (isPrefixOf_of_cutAt hcut)
    have happend := append_of_cutAt hcut
    subst hrest
    simp [Scan.Covers, longCommentEnd, ← happend]
  · obtain ⟨⟨body, found⟩, hcut, rfl⟩ := Option.map_eq_some_iff.1 h
    simp [Scan.Covers, append_of_cutAt hcut]

theorem covers_of_scanPartial? {cs : List Char} {scan : Scan} (h : scanPartial? cs = some scan) :
    scan.Covers ('>' :: cs) := by
  simp only [scanPartial?] at h
  split at h
  · simp at h
  · cases h
    simp [Scan.Covers, List.takeWhile_append_dropWhile]

/-- A fraction is a point with digits, where it is not empty. -/
theorem append_fractionDigits {cs : List Char} (h : fractionDigits cs ≠ []) :
    '.' :: fractionDigits cs ++ cs.drop ((fractionDigits cs).length + 1) = cs := by
  unfold fractionDigits at *
  split at *
  · next cs =>
    have happend := List.takeWhile_append_dropWhile (p := Char.isDigit) (l := cs)
    have hdrop := congrArg (List.drop (cs.takeWhile Char.isDigit).length) happend
    rw [List.drop_left] at hdrop
    simpa [hdrop] using happend
  · simp at h

theorem covers_of_scanNumber? {cs : List Char} {scan : Scan} (h : scanNumber? cs = some scan) :
    scan.Covers cs := by
  unfold scanNumber? at h
  split at h
  next sign unsigned hsign =>
  have hcs : sign ++ unsigned = cs := by
    split at hsign <;> cases hsign <;> rfl
  subst hcs
  simp only at h
  split at h
  · simp at h
  · next hwhole =>
    have happend := List.takeWhile_append_dropWhile (p := Char.isDigit) (l := unsigned)
    split at h
    · obtain ⟨n, _, rfl⟩ := Option.map_eq_some_iff.1 h
      refine ⟨by simp [happend], ?_⟩
      simp_all
    · next hfraction =>
      obtain ⟨x, _, rfl⟩ := Option.map_eq_some_iff.1 h
      have hpoint := append_fractionDigits (by simpa using hfraction)
      refine ⟨?_, by simp⟩
      simp only [List.append_assoc, List.cons_append] at hpoint ⊢
      rw [hpoint, happend]

/-- A token inside a tag starts the text. -/
theorem covers_of_scanTag {opened position : Position} {cs : List Char} {scan : Scan}
    (h : scanTag opened position cs = .ok scan) : scan.Covers cs := by
  cases scansTag_of_scanTag h with
  | endTriple rest => simp [Scan.Covers]
  | endDouble _ => simp [Scan.Covers, closeMarker]
  | word cs _ => exact covers_scanWord _ cs
  | quoted _ hscan => simp [Scan.Covers, append_of_scanQuoted? hscan]
  | comment hscan => exact covers_of_scanComment? hscan
  | partialRef hscan => exact covers_of_scanPartial? hscan
  | number _ _ hscan => exact covers_of_scanNumber? hscan

end TextTemplate
