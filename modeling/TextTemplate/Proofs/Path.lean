import TextTemplate.Path
import TextTemplate.Proofs.Token.Run

/-!
# Spellings of paths

A path is spelled step by step, with slashes between the steps, or with dots between steps that lead
to members and data variables. Whatever stands between them, the steps are read back.

## Main definitions

- `Segment.spelling` — the text of a step
- `Segment.IsSpellable` — steps whose text is read back
- `Path.Spells` — the texts that spell a row of steps
-/

namespace TextTemplate

namespace Text

theorem splitOn_of_not_mem {separator : Char} {cs : List Char} (h : separator ∉ cs) :
    splitOn separator cs = [cs] := by
  induction cs with
  | nil => rfl
  | cons c cs ih =>
    have hc := List.ne_of_not_mem_cons h
    have hcs := List.not_mem_of_not_mem_cons h
    rw [splitOn, if_neg (Ne.symm hc), ih hcs]

theorem splitOn_append {separator : Char} {cs ds part : List Char} {parts : List (List Char)}
    (h : separator ∉ cs) (hsplit : splitOn separator ds = part :: parts) :
    splitOn separator (cs ++ ds) = (cs ++ part) :: parts := by
  induction cs with
  | nil => exact hsplit
  | cons c cs ih =>
    have hc := List.ne_of_not_mem_cons h
    have hcs := List.not_mem_of_not_mem_cons h
    rw [List.cons_append, splitOn, if_neg (Ne.symm hc), ih hcs]
    rfl

theorem splitOn_append_cons {separator : Char} {cs : List Char} (ds : List Char)
    (h : separator ∉ cs) :
    splitOn separator (cs ++ separator :: ds) = cs :: splitOn separator ds := by
  have hsplit : splitOn separator (separator :: ds) = [] :: splitOn separator ds := by
    rw [splitOn, if_pos rfl]
  rw [splitOn_append h hsplit, List.append_nil]

theorem length_splitOn (separator : Char) (cs : List Char) :
    (splitOn separator cs).length = cs.count separator + 1 := by
  induction cs with
  | nil => rfl
  | cons c cs ih =>
    by_cases hc : c = separator
    · simp [splitOn, hc, ih]
    · obtain ⟨part, parts, hparts⟩ := List.exists_cons_of_ne_nil (splitOn_ne_nil separator cs)
      rw [hparts] at ih
      simpa [splitOn, hc, hparts] using ih

end Text

open Text

namespace Segment

/-- The text of a step. -/
def spelling : Segment → List Char
  | name s => s.toList
  | current => ['.']
  | parent => ['.', '.']
  | root => ['@', 'r', 'o', 'o', 't']
  | key => ['@', 'k', 'e', 'y']
  | index => ['@', 'i', 'n', 'd', 'e', 'x']
  | first => ['@', 'f', 'i', 'r', 's', 't']
  | last => ['@', 'l', 'a', 's', 't']

/-- Whether dots may stand around a step. -/
def isMember : Segment → Bool
  | current | parent => false
  | _ => true

/-- Steps whose text is read back: a name may not look like anything else. -/
def IsSpellable : Segment → Prop
  | name s => s.toList ≠ [] ∧ '/' ∉ s.toList ∧ '.' ∉ s.toList ∧ s.toList.head? ≠ some '@'
  | _ => True

variable {s : Segment}

theorem slash_not_mem_spelling (h : s.IsSpellable) : '/' ∉ s.spelling := by
  cases s with
  | name s => exact h.2.1
  | _ => decide

theorem dot_not_mem_spelling (h : s.IsSpellable) (hmember : s.isMember = true) :
    '.' ∉ s.spelling := by
  cases s with
  | name s => exact h.2.2.1
  | current | parent => cases hmember
  | _ => decide

theorem spelling_ne_nil (h : s.IsSpellable) : s.spelling ≠ [] := by
  cases s with
  | name s => exact h.1
  | _ => exact List.cons_ne_nil _ _

theorem ofPiece_spelling (h : s.IsSpellable) (hmember : s.isMember = true) {isFirst : Bool}
    (hfirst : isFirst = true → s ≠ .name "this") : ofPiece isFirst s.spelling = .ok s := by
  cases s with
  | name s =>
    obtain ⟨hne, -, -, hat⟩ := h
    unfold ofPiece
    split
    · next hnil => exact absurd hnil hne
    · next rest hcons =>
      have hcons' : s.toList = '@' :: rest := hcons
      exact absurd (by rw [hcons']; rfl) hat
    · have hthis : (isFirst && String.ofList (Segment.name s).spelling = "this") = false := by
        simp only [spelling, String.ofList_toList, Bool.and_eq_false_imp, decide_eq_false_iff_not]
        intro htrue heq
        exact hfirst htrue (by rw [heq])
      rw [hthis]
      simp [spelling]
  | current | parent => cases hmember
  | _ => rfl

end Segment

namespace Path

/-- A text that begins with neither a dot nor a slash. -/
theorem head_of_isMember {s : Segment} (h : s.IsSpellable) (hmember : s.isMember = true) :
    ∃ c cs, s.spelling = c :: cs ∧ c ≠ '.' ∧ c ≠ '/' := by
  obtain ⟨c, cs, hcons⟩ := List.exists_cons_of_ne_nil (Segment.spelling_ne_nil h)
  have hdot := Segment.dot_not_mem_spelling h hmember
  have hslash := Segment.slash_not_mem_spelling h
  rw [hcons] at hdot hslash
  exact ⟨c, cs, hcons, Ne.symm (List.ne_of_not_mem_cons hdot),
    Ne.symm (List.ne_of_not_mem_cons hslash)⟩

/-- A part that does not begin with a dot is read piece by piece. -/
theorem readPart_eq_readPieces {isFirst : Bool} {part : List Char} (h : part.head? ≠ some '.') :
    readPart isFirst part = readPieces isFirst (splitOn '.' part) := by
  rw [readPart, if_neg, if_neg]
  all_goals
    rintro rfl
    exact h rfl

theorem readPart_of_head {isFirst : Bool} {c : Char} {cs : List Char} (h : c ≠ '.') :
    readPart isFirst (c :: cs) = readPieces isFirst (splitOn '.' (c :: cs)) :=
  readPart_eq_readPieces (by simpa using h)

theorem readPart_spelling {s : Segment} (h : s.IsSpellable) {isFirst : Bool}
    (hfirst : isFirst = true → s ≠ .name "this") : readPart isFirst s.spelling = .ok [s] := by
  by_cases hmember : s.isMember = true
  · obtain ⟨c, cs, hcons, hdot, -⟩ := head_of_isMember h hmember
    rw [hcons, readPart_of_head hdot, ← hcons,
      splitOn_of_not_mem (Segment.dot_not_mem_spelling h hmember)]
    simp [readPieces, Segment.ofPiece_spelling h hmember hfirst, Except.map]
  · cases s with
    | current | parent => rfl
    | _ => exact absurd rfl hmember

/-- A step before a dot is read before the rest of its part. -/
theorem readPart_dot {s : Segment} (h : s.IsSpellable) (hmember : s.isMember = true)
    {isFirst : Bool} (hfirst : isFirst = true → s ≠ .name "this") {c : Char} {cs : List Char}
    (hc : c ≠ '.') :
    readPart isFirst (s.spelling ++ '.' :: c :: cs) =
      (readPart false (c :: cs)).map (s :: ·) := by
  obtain ⟨d, ds, hcons, hdot, -⟩ := head_of_isMember h hmember
  rw [hcons, List.cons_append, readPart_of_head hdot, ← List.cons_append, ← hcons,
    splitOn_append_cons _ (Segment.dot_not_mem_spelling h hmember), readPart_of_head hc,
    readPieces, Segment.ofPiece_spelling h hmember hfirst]

/-- The texts that spell a row of steps. -/
inductive Spells : List Segment → List Char → Prop
  | single (s : Segment) : Spells [s] s.spelling
  | slash {s t : Segment} {segments : List Segment} {cs : List Char} :
      Spells (t :: segments) cs → Spells (s :: t :: segments) (s.spelling ++ '/' :: cs)
  | dot {s t : Segment} {segments : List Segment} {cs : List Char} :
      s.isMember = true → t.isMember = true → Spells (t :: segments) cs →
      Spells (s :: t :: segments) (s.spelling ++ '.' :: cs)

theorem Spells.exists_append {s : Segment} {segments : List Segment} {cs : List Char}
    (h : Spells (s :: segments) cs) : ∃ ds, cs = s.spelling ++ ds := by
  cases h with
  | single => exact ⟨[], (List.append_nil _).symm⟩
  | slash => exact ⟨_, rfl⟩
  | dot => exact ⟨_, rfl⟩

/-- A spelling is read back, where the current value is not named first. -/
theorem readParts_of_spells {segments : List Segment} {cs : List Char} (h : Spells segments cs)
    (hspellable : ∀ s ∈ segments, s.IsSpellable) {isFirst : Bool}
    (hfirst : isFirst = true → segments.head? ≠ some (.name "this")) :
    readParts isFirst (splitOn '/' cs) = .ok segments := by
  induction h generalizing isFirst with
  | single s =>
    have hs := hspellable s List.mem_cons_self
    have hread := readPart_spelling hs (fun htrue heq => hfirst htrue (by rw [heq]; rfl))
    rw [splitOn_of_not_mem (Segment.slash_not_mem_spelling hs)]
    simp [readParts, hread, Except.map]
  | @slash s t segments cs _ ih =>
    have hs := hspellable s List.mem_cons_self
    have hread := readPart_spelling hs (fun htrue heq => hfirst htrue (by rw [heq]; rfl))
    have hmore : readParts false (splitOn '/' cs) = .ok (t :: segments) :=
      ih (fun x hx => hspellable x (List.mem_cons_of_mem _ hx)) (by simp)
    rw [splitOn_append_cons _ (Segment.slash_not_mem_spelling hs)]
    simp [readParts, hread, hmore, Except.map]
  | @dot s t segments cs hs' ht' hspells ih =>
    have hs := hspellable s List.mem_cons_self
    have ht := hspellable t (List.mem_cons_of_mem _ List.mem_cons_self)
    have hmore : readParts false (splitOn '/' cs) = .ok (t :: segments) :=
      ih (fun x hx => hspellable x (List.mem_cons_of_mem _ hx)) (by simp)
    -- The dot and the text behind it up to the next slash belong to the part of the step.
    obtain ⟨c, ds, hcons, hdot, hslash⟩ := head_of_isMember ht ht'
    obtain ⟨es, rfl⟩ := hspells.exists_append
    rw [hcons, List.cons_append] at hmore ⊢
    obtain ⟨part, parts, hparts⟩ := List.exists_cons_of_ne_nil (splitOn_ne_nil '/' (ds ++ es))
    have hsplit : splitOn '/' (c :: (ds ++ es)) = (c :: part) :: parts := by
      rw [splitOn, if_neg hslash, hparts]
    have hsplit' : splitOn '/' ('.' :: c :: (ds ++ es)) = ('.' :: c :: part) :: parts := by
      rw [splitOn, if_neg (by decide), hsplit]
    rw [splitOn_append (Segment.slash_not_mem_spelling hs) hsplit', readParts,
      readPart_dot hs hs' (fun htrue heq => hfirst htrue (by rw [heq]; rfl)) hdot]
    rw [hsplit, readParts] at hmore
    cases hpart : readPart false (c :: part) with
    | error e => simp [hpart] at hmore
    | ok found =>
      rw [hpart] at hmore
      obtain ⟨others, hothers, heq⟩ := map_eq_ok_iff.1 hmore
      simp [hothers, heq, Except.map]

/-- A path is read back from its spellings. -/
theorem read_of_spells {p : Path} {word : String} (h : Spells p.segments word.toList)
    (hspellable : ∀ s ∈ p.segments, s.IsSpellable)
    (hfirst : p.segments.head? ≠ some (.name "this")) : Path.read word = .ok p := by
  rw [Path.read, readParts_of_spells h hspellable fun _ => hfirst]
  rfl

-- ════════════════════════════════════════════════════════════════════════
-- Plain names
-- ════════════════════════════════════════════════════════════════════════

/-- There is one step for each piece between dots. -/
theorem length_of_readPieces {isFirst : Bool} {pieces : List (List Char)}
    {segments : List Segment} (h : readPieces isFirst pieces = .ok segments) :
    segments.length = pieces.length := by
  induction pieces generalizing isFirst segments with
  | nil =>
    cases h
    rfl
  | cons piece pieces ih =>
    rw [readPieces] at h
    split at h
    · cases h
    · obtain ⟨more, hmore, rfl⟩ := map_eq_ok_iff.1 h
      simp [ih hmore]

/-- A part between slashes stands for at least one step. -/
theorem length_pos_of_readPart {isFirst : Bool} {part : List Char} {segments : List Segment}
    (h : readPart isFirst part = .ok segments) : 0 < segments.length := by
  unfold readPart at h
  split at h
  · cases h
    exact Nat.one_pos
  · split at h
    · cases h
      exact Nat.one_pos
    · rw [length_of_readPieces h, length_splitOn]
      exact Nat.succ_pos _

theorem length_le_of_readParts {isFirst : Bool} {parts : List (List Char)}
    {segments : List Segment} (h : readParts isFirst parts = .ok segments) :
    parts.length ≤ segments.length := by
  induction parts generalizing isFirst segments with
  | nil => exact Nat.zero_le _
  | cons part parts ih =>
    rw [readParts] at h
    split at h
    · cases h
    · next first hfirst =>
      obtain ⟨more, hmore, rfl⟩ := map_eq_ok_iff.1 h
      have hone := length_pos_of_readPart hfirst
      have hrest := ih hmore
      simp only [List.length_cons, List.length_append]
      omega

/-- A piece that stands for a member names it. -/
theorem eq_ofList_of_ofPiece {isFirst : Bool} {piece : List Char} {name : String}
    (h : Segment.ofPiece isFirst piece = .ok (.name name)) : name = String.ofList piece := by
  unfold Segment.ofPiece at h
  split at h
  · cases h
  · unfold Segment.ofVariable at h
    repeat' split at h
    all_goals cases h
  · split at h
    · cases h
    · cases h
      rfl

/-- A word without dots and slashes is read as one piece. -/
theorem read_of_not_mem {word : String} (hdot : '.' ∉ word.toList) (hslash : '/' ∉ word.toList) :
    Path.read word = (Segment.ofPiece true word.toList).map fun segment => ⟨[segment]⟩ := by
  have hhead : word.toList.head? ≠ some '.' := fun h => hdot (List.mem_of_head? h)
  rw [Path.read, splitOn_of_not_mem hslash, readParts, readPart_eq_readPieces hhead,
    splitOn_of_not_mem hdot, readPieces]
  cases Segment.ofPiece true word.toList <;> rfl

/-- A word that spells one member has neither a dot nor a slash. -/
theorem not_mem_of_read_name {word name : String} (h : Path.read word = .ok ⟨[.name name]⟩) :
    '.' ∉ word.toList ∧ '/' ∉ word.toList := by
  obtain ⟨segments, hread, hsegments⟩ := map_eq_ok_iff.1 h
  cases hsegments
  have hslash : '/' ∉ word.toList := by
    have hparts := length_le_of_readParts hread
    rw [length_splitOn] at hparts
    exact List.count_eq_zero.1 (by simpa using hparts)
  rw [splitOn_of_not_mem hslash, readParts] at hread
  split at hread
  · cases hread
  · next first hfirst =>
    have hfirst' : first = [.name name] := by simpa [readParts, Except.map] using hread
    subst hfirst'
    unfold readPart at hfirst
    split at hfirst
    · cases hfirst
    · split at hfirst
      · cases hfirst
      · have hpieces := length_of_readPieces hfirst
        rw [length_splitOn] at hpieces
        exact ⟨List.count_eq_zero.1 (by simpa using hpieces.symm), hslash⟩

theorem eq_of_name? {p : Path} {name : String} (h : p.name? = some name) : p = ⟨[.name name]⟩ := by
  unfold name? at h
  split at h
  · cases h
    rfl
  · cases h

/-- The name of a path of members is its word, if that has neither a dot nor a slash. -/
theorem name?_of_read {word : String} {p : Path} {names : List String}
    (h : Path.read word = .ok p) (hnames : p.segments = names.map .name) :
    p.name? = if '.' ∈ word.toList ∨ '/' ∈ word.toList then none else some word := by
  split
  · next hmark =>
    cases hname : p.name? with
    | none => rfl
    | some name =>
      obtain rfl := eq_of_name? hname
      obtain ⟨hdot, hslash⟩ := not_mem_of_read_name h
      exact (hmark.elim hdot hslash).elim
  · next hmark =>
    rw [not_or] at hmark
    rw [read_of_not_mem hmark.1 hmark.2] at h
    obtain ⟨segment, hsegment, rfl⟩ := map_eq_ok_iff.1 h
    obtain _ | ⟨name, _ | ⟨_, _⟩⟩ := names
    · cases hnames
    · cases hnames
      rw [name?, eq_ofList_of_ofPiece hsegment, String.ofList_toList]
    · cases hnames

/-- The name of a path is the word that spells it. -/
theorem eq_of_read_of_name? {word name : String} {p : Path} (h : Path.read word = .ok p)
    (hname : p.name? = some name) : name = word := by
  obtain rfl := eq_of_name? hname
  have hword : (⟨[.name name]⟩ : Path).name? =
      if '.' ∈ word.toList ∨ '/' ∈ word.toList then none else some word :=
    name?_of_read h (List.map_singleton).symm
  split at hword
  · cases hword
  · exact Option.some.inj hword

end Path

end TextTemplate
