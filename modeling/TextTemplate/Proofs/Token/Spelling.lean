import TextTemplate.Token.Lexer

/-!
# How tokens are spelled

Every scan names a token and the slice of text it takes. The two belong together: the slice of a
text, a word, a marker, a comment or the name of a partial is that text with its marks, and nothing
else.

## Main definitions

- `Token.IsInner` — the tokens that stand inside tags
- `Token.SpelledAs` — the slices that a token can take
-/

namespace TextTemplate

open Text

/-- The tokens that stand inside tags, between the markers. -/
def Token.IsInner : Token → Prop
  | word _ | literal _ | comment _ | partialRef _ => True
  | text _ | startTag _ | endTag _ => False

/-- The slices that a token can take. A literal may be spelled in many ways; all other tokens show
their text. -/
def Token.SpelledAs : Token → List Char → Prop
  | text s, slice => slice = s.toList
  | startTag true, slice => slice = ['\x7b', '\x7b']
  | startTag false, slice => slice = ['\x7b', '\x7b', '\x7b']
  | endTag true, slice => slice = ['\x7d', '\x7d']
  | endTag false, slice => slice = ['\x7d', '\x7d', '\x7d']
  | word w, slice => slice = w.toList
  | literal _, _ => True
  | comment s, slice =>
    slice = '!' :: s.toList ∨ slice = '!' :: '-' :: '-' :: s.toList ++ ['-', '-']
  | partialRef name, slice =>
    ∃ blanks : List Char, (∀ c ∈ blanks, isBlank c = true) ∧ slice = '>' :: blanks ++ name.toList

/-- A token outside a tag is a text or opens a tag, and takes its own spelling. -/
theorem token_of_scanText? {cs : List Char} {scan : Scan} (h : scanText? cs = some scan) :
    ((∃ s, scan.token = .text s) ∨ ∃ escaped, scan.token = .startTag escaped) ∧
      scan.token.SpelledAs scan.slice := by
  unfold scanText? at h
  split at h
  · simp at h
  · cases h
    exact ⟨.inr ⟨false, rfl⟩, rfl⟩
  · cases h
    exact ⟨.inr ⟨true, rfl⟩, rfl⟩
  · simp only [Option.some.injEq] at h
    subst h
    exact ⟨.inl ⟨_, rfl⟩, String.toList_ofList.symm⟩

theorem token_scanWord (c : Char) (cs : List Char) :
    (scanWord c cs).token.IsInner ∧ (scanWord c cs).token.SpelledAs (scanWord c cs).slice := by
  simp only [scanWord, wordToken]
  split
  · exact ⟨trivial, trivial⟩
  split
  · exact ⟨trivial, trivial⟩
  split
  · exact ⟨trivial, trivial⟩
  · exact ⟨trivial, String.toList_ofList.symm⟩

/-- A comment is spelled by its mark and its text, in the long form between dashes. -/
theorem token_of_scanComment? {cs : List Char} {scan : Scan} (h : scanComment? cs = some scan) :
    scan.token.IsInner ∧ scan.token.SpelledAs scan.slice := by
  unfold scanComment? at h
  split at h
  · obtain ⟨⟨body, found⟩, _, rfl⟩ := Option.map_eq_some_iff.1 h
    exact ⟨trivial, .inr (by simp)⟩
  · obtain ⟨⟨body, found⟩, _, rfl⟩ := Option.map_eq_some_iff.1 h
    exact ⟨trivial, .inl (by simp)⟩

theorem token_of_scanPartial? {cs : List Char} {scan : Scan} (h : scanPartial? cs = some scan) :
    scan.token.IsInner ∧ scan.token.SpelledAs scan.slice := by
  simp only [scanPartial?] at h
  split at h
  · simp at h
  · cases h
    refine ⟨trivial, cs.takeWhile isBlank, ?_, by simp⟩
    exact List.all_eq_true.1 List.all_takeWhile

theorem token_of_scanNumber? {cs : List Char} {scan : Scan} (h : scanNumber? cs = some scan) :
    ∃ n, scan.token = .literal (.number n) := by
  unfold scanNumber? at h
  split at h
  next sign unsigned _ =>
  simp only at h
  split at h
  · simp at h
  split at h
  · obtain ⟨n, _, rfl⟩ := Option.map_eq_some_iff.1 h
    exact ⟨n, rfl⟩
  · obtain ⟨x, _, rfl⟩ := Option.map_eq_some_iff.1 h
    exact ⟨.float x, rfl⟩

/-- A token inside a tag closes it or is one that stands in tags, and takes its own spelling. -/
theorem token_of_scanTag {opened position : Position} {cs : List Char} {scan : Scan}
    (h : scanTag opened position cs = .ok scan) :
    ((∃ escaped, scan.token = .endTag escaped) ∨ scan.token.IsInner) ∧
      scan.token.SpelledAs scan.slice := by
  cases scansTag_of_scanTag h with
  | endTriple rest => exact ⟨.inl ⟨false, rfl⟩, rfl⟩
  | endDouble _ => exact ⟨.inl ⟨true, rfl⟩, rfl⟩
  | word cs _ => exact (token_scanWord _ cs).imp_left .inr
  | quoted _ _ => exact ⟨.inr trivial, trivial⟩
  | comment hscan => exact (token_of_scanComment? hscan).imp_left .inr
  | partialRef hscan => exact (token_of_scanPartial? hscan).imp_left .inr
  | number _ _ hscan =>
    obtain ⟨n, htoken⟩ := token_of_scanNumber? hscan
    rw [htoken]
    exact ⟨.inr trivial, trivial⟩

end TextTemplate
