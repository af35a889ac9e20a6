import Mathlib.Data.List.TakeWhile
import TextTemplate.Proofs.Text.Characters
import TextTemplate.Proofs.Token.Run

/-!
# Texts behind a token

A call of a lexer sees little of what stands behind the token that it reads: whether a word or a
number goes on, whether one more brace comes behind a marker, and the marker in front of which a text
or a comment ends. The text behind a token can be exchanged for another one that is the same as far
as this goes, and the token is read alike.

## Main definitions

- `Scan.before`, `Lexer.before` — a scan and a lexer in front of another text
- `PartsOutsideWords` — texts that are the same up to a character that stands in no word
- `Token.ReadAlike` — a token that is read alike in front of two texts

## Main statements

- `scanText?_before`, `scanTag_before` — the same token is scanned in front of such a text
-/

namespace TextTemplate

open Text

/-- The scan in front of another text. -/
def Scan.before (scan : Scan) (rest : List Char) : Scan :=
  { scan with rest }

-- ════════════════════════════════════════════════════════════════════════
-- Markers and quotes
-- ════════════════════════════════════════════════════════════════════════

theorem Text.cutAt_of_marked {marker cs : List Char} (h : marker <+: cs) :
    cutAt marker cs = some ([], cs) := by
  cases cs with
  | nil => simp [cutAt, List.prefix_nil.1 h]
  | cons c cs => simp only [cutAt, List.isPrefixOf_iff_prefix.2 h, if_true]

/-- The first marker of a text stays the first one, whatever comes behind it. -/
theorem Text.cutAt_before {marker cs before found found' : List Char}
    (h : cutAt marker cs = some (before, found)) (hfound : marker <+: found') :
    cutAt marker (before ++ found') = some (before, found') := by
  induction cs generalizing before with
  | nil =>
    simp only [cutAt] at h
    split at h
    · cases h
      exact cutAt_of_marked hfound
    · cases h
  | cons c cs ih =>
    simp only [cutAt] at h
    split at h
    · cases h
      exact cutAt_of_marked hfound
    · next hprefix =>
      obtain ⟨⟨b, f⟩, hcut, heq⟩ := Option.map_eq_some_iff.1 h
      cases heq
      -- A marker here would end inside the one that is found, and so stand in the first text too.
      have hmarker : ¬ marker.isPrefixOf (c :: (b ++ found')) = true := by
        rw [List.isPrefixOf_iff_prefix] at hprefix ⊢
        intro hhere
        obtain ⟨more, rfl⟩ := hfound
        obtain ⟨more', rfl⟩ := List.isPrefixOf_iff_prefix.1 (isPrefixOf_of_cutAt hcut)
        have hwithin : marker <+: c :: (b ++ marker) :=
          List.prefix_of_prefix_length_le hhere ⟨more, by simp⟩ (by simp; omega)
        rw [← append_of_cutAt hcut] at hprefix
        exact hprefix (hwithin.trans ⟨more', by simp⟩)
      simp only [List.cons_append, cutAt, if_neg hmarker, ih hcut, Option.map_some]

/-- A quoted text is read up to its closing quote, whatever comes behind that. -/
theorem scanQuoted?_before {quote : Char} {cs value slice rest : List Char}
    (h : scanQuoted? quote cs = some (value, slice, rest)) (rest' : List Char) :
    scanQuoted? quote (slice ++ rest') = some (value, slice, rest') := by
  fun_induction scanQuoted? quote cs generalizing value slice with
  | case1 => cases h
  | case2 =>
    cases h
    rw [List.cons_append, scanQuoted?.eq_def]
    exact if_pos rfl
  | case3 => cases h
  | case4 e cs hne ih =>
    obtain ⟨⟨v, s, r⟩, hq, heq⟩ := Option.map_eq_some_iff.1 h
    cases heq
    simp [scanQuoted?.eq_def quote ('\\' :: _), hne, ih hq]
  | case5 c cs hne hbackslash ih =>
    obtain ⟨⟨v, s, r⟩, hq, heq⟩ := Option.map_eq_some_iff.1 h
    cases heq
    simp [scanQuoted?.eq_def quote (c :: _), hne, hbackslash, ih hq]

-- ════════════════════════════════════════════════════════════════════════
-- Words and numbers
-- ════════════════════════════════════════════════════════════════════════

/-- Texts that are the same up to a character of the second one that stands in no word. -/
def PartsOutsideWords (rest rest' : List Char) : Prop :=
  ∃ shared behind stop more, rest = shared ++ behind ∧ rest' = shared ++ stop :: more ∧
    isWordChar stop = false

theorem isWordChar_of_isDigit {c : Char} (h : c.isDigit = true) : isWordChar c = true := by
  simp [isWordChar, isNumeric_of_isDigit h]

theorem isBlank_of_isWordChar {c : Char} (h : isWordChar c = true) : isBlank c = false := by
  rw [← Bool.not_eq_true]
  intro hblank
  simp only [isWordChar, isAlphabetic_of_isBlank hblank, isNumeric_of_isBlank hblank,
    Bool.false_or, Bool.or_eq_true, decide_eq_true_eq] at h
  have hnone : ['_', '-', '.', '/', '@'].all (fun d => !isBlank d) = true := by decide
  have hfalse := List.all_eq_true.1 hnone c (by simpa [or_assoc] using h)
  rw [hblank] at hfalse
  cases hfalse

/-- Where characters that words can hold end in the first text, they end in the second one. -/
theorem PartsOutsideWords.head_not {p : Char → Bool} (hp : ∀ c, p c = true → isWordChar c = true)
    {cs rest' : List Char} (h : PartsOutsideWords (cs.dropWhile p) rest') :
    ∀ c ∈ rest'.head?, p c = false := by
  obtain ⟨shared, behind, stop, more, hrest, rfl, hstop⟩ := h
  intro c hc
  cases shared with
  | nil =>
    obtain rfl : stop = c := by simpa using hc
    rw [← Bool.not_eq_true]
    intro htrue
    rw [hp stop htrue] at hstop
    cases hstop
  | cons d ds =>
    obtain rfl : d = c := by simpa using hc
    have hdrop := List.head?_dropWhile_not p cs
    rw [hrest] at hdrop
    simpa using hdrop

/-- The characters taken from a text are taken again in front of a text where they end. -/
theorem takeWhile_before {p : Char → Bool} (cs : List Char) {rest' : List Char}
    (h : ∀ c ∈ rest'.head?, p c = false) :
    (cs.takeWhile p ++ rest').takeWhile p = cs.takeWhile p ∧
      (cs.takeWhile p ++ rest').dropWhile p = rest' := by
  have htaken : ∀ c ∈ cs.takeWhile p, p c = true := fun c hc => List.mem_takeWhile_imp hc
  rw [List.takeWhile_append_of_pos htaken, List.dropWhile_append_of_pos htaken]
  cases rest' with
  | nil => simp
  | cons c rest' => simp [h c rfl]

/-- A number is an optional minus sign with digits behind it. -/
theorem exists_sign_of_scanNumber? {cs : List Char} {scan : Scan} (h : scanNumber? cs = some scan) :
    ∃ sign unsigned, cs = sign ++ unsigned ∧ (sign = [] ∨ sign = ['-']) ∧
      unsigned.takeWhile Char.isDigit ≠ [] := by
  unfold scanNumber? at h
  split at h
  next sign unsigned hsign =>
  simp only at h
  split at h
  · cases h
  next hwhole =>
  refine ⟨sign, unsigned, ?_, ?_, by simpa using hwhole⟩
  all_goals
    split at hsign <;> cases hsign
    · simp
    · simp

/-- What a sign and digits are scanned as. -/
theorem scanNumber?_signed {sign unsigned : List Char} (hsign : sign = [] ∨ sign = ['-'])
    (hwhole : unsigned.takeWhile Char.isDigit ≠ []) :
    scanNumber? (sign ++ unsigned) =
      let whole := unsigned.takeWhile Char.isDigit
      let rest := unsigned.dropWhile Char.isDigit
      let fraction := fractionDigits rest
      if fraction.isEmpty then
        (wholeNumber? (!sign.isEmpty) whole).map fun n =>
          ⟨.literal (.number n), sign ++ whole, rest⟩
      else
        (Binary64.ofDecimal? (!sign.isEmpty) (decimalValue (whole ++ fraction))
            fraction.length).map fun x =>
          ⟨.literal (.number (.float x)), sign ++ whole ++ '.' :: fraction,
            rest.drop (fraction.length + 1)⟩ := by
  have hempty : (unsigned.takeWhile Char.isDigit).isEmpty = false := by simpa using hwhole
  obtain rfl | rfl := hsign
  · have hminus : ∀ more, unsigned ≠ '-' :: more := by
      rintro more rfl
      exact hwhole rfl
    unfold scanNumber?
    split
    next sign' unsigned' hsplit =>
    split at hsplit
    · next heq => exact absurd heq (hminus _)
    · cases hsplit
      simp only [List.nil_append, hempty, Bool.false_eq_true, if_false]
  · simp only [scanNumber?, List.singleton_append, hempty, Bool.false_eq_true, if_false]

/-- No fraction begins behind digits where none did. -/
theorem fractionDigits_before {rest rest' : List Char} (h : PartsOutsideWords rest rest')
    (hnone : fractionDigits rest = []) : fractionDigits rest' = [] := by
  obtain ⟨shared, behind, stop, more, rfl, rfl, hstop⟩ := h
  have hdigit : stop.isDigit = false := by
    rw [← Bool.not_eq_true]
    intro hdigit
    rw [isWordChar_of_isDigit hdigit] at hstop
    cases hstop
  match shared with
  | [] =>
    have hpoint : stop ≠ '.' := by
      rintro rfl
      exact absurd hstop (by decide)
    simp [fractionDigits, hpoint]
  | [c] =>
    by_cases hc : c = '.'
    · subst hc
      simp [fractionDigits, hdigit]
    · simp [fractionDigits, hc]
  | c :: d :: shared =>
    by_cases hc : c = '.'
    · subst hc
      simp only [List.cons_append, fractionDigits, List.takeWhile_cons] at hnone ⊢
      split at hnone
      · cases hnone
      · next hd => rw [if_neg hd]
    · simp [fractionDigits, hc]

/-- A fraction is read up to the same place. -/
theorem fractionDigits_append {cs rest' : List Char} (hne : fractionDigits cs ≠ [])
    (h : PartsOutsideWords (cs.drop ((fractionDigits cs).length + 1)) rest') :
    fractionDigits ('.' :: (fractionDigits cs ++ rest')) = fractionDigits cs := by
  unfold fractionDigits at hne h ⊢
  split at hne
  · next ds =>
    have happend := List.takeWhile_append_dropWhile (p := Char.isDigit) (l := ds)
    have hdrop := congrArg (List.drop (ds.takeWhile Char.isDigit).length) happend
    rw [List.drop_left] at hdrop
    simp only [List.drop_succ_cons, ← hdrop] at h
    exact (takeWhile_before ds (h.head_not fun _ => isWordChar_of_isDigit)).1
  · exact absurd rfl hne

theorem scanNumber?_before {cs : List Char} {scan : Scan} (h : scanNumber? cs = some scan)
    {rest' : List Char} (hrest : PartsOutsideWords scan.rest rest') :
    scanNumber? (scan.slice ++ rest') = some (scan.before rest') := by
  obtain ⟨sign, unsigned, rfl, hsign, hwhole⟩ := exists_sign_of_scanNumber? h
  rw [scanNumber?_signed hsign hwhole] at h
  simp only at h
  split at h
  · next hnone =>
    obtain ⟨n, hn, rfl⟩ := Option.map_eq_some_iff.1 h
    obtain ⟨htake, hdrop⟩ :=
      takeWhile_before unsigned (hrest.head_not fun _ => isWordChar_of_isDigit)
    have hnone' := fractionDigits_before hrest (by simpa using hnone)
    rw [List.append_assoc, scanNumber?_signed hsign (by rwa [htake])]
    simp only [htake, hdrop, hnone', hn]
    rfl
  · next hsome =>
    obtain ⟨x, hx, rfl⟩ := Option.map_eq_some_iff.1 h
    have hfraction := fractionDigits_append (by simpa using hsome) hrest
    have hpoint : ∀ more, ∀ c ∈ ('.' :: more).head?, c.isDigit = false := by
      intro more c hc
      obtain rfl : '.' = c := by simpa using hc
      rfl
    obtain ⟨htake, hdrop⟩ := takeWhile_before unsigned
      (hpoint (fractionDigits (unsigned.dropWhile Char.isDigit) ++ rest'))
    rw [List.append_assoc, List.append_assoc, List.cons_append,
      scanNumber?_signed hsign (by rwa [htake])]
    simp only [htake, hdrop, hfraction, hsome, hx]
    simp [Scan.before]

theorem scanPartial?_before {cs : List Char} {scan : Scan} (h : scanPartial? cs = some scan)
    {rest' : List Char} (hrest : PartsOutsideWords scan.rest rest') :
    scanPartial? (scan.slice.tail ++ rest') = some (scan.before rest') := by
  simp only [scanPartial?] at h
  split at h
  · cases h
  next hname =>
  cases h
  obtain ⟨htake, hdrop⟩ := takeWhile_before (cs.dropWhile isBlank) (hrest.head_not fun _ => id)
  -- The name begins behind the blanks.
  have hhead : ∀ c ∈ ((cs.dropWhile isBlank).takeWhile isWordChar ++ rest').head?,
      isBlank c = false := by
    have hdropped := List.head?_dropWhile_not isBlank cs
    cases hbehind : cs.dropWhile isBlank with
    | nil => simp [hbehind] at hname
    | cons d ds =>
      rw [hbehind] at hname hdropped
      by_cases hd : isWordChar d = true
      · simpa [hd] using hdropped
      · simp [hd] at hname
  obtain ⟨hblanks, hbehind⟩ := takeWhile_before cs hhead
  simp only [scanPartial?, List.cons_append, List.tail_cons, List.append_assoc, hblanks, hbehind,
    htake, hdrop, hname]
  rfl

/-- A comment ends where the marker of its tag stands. -/
theorem marked_of_scanComment? {cs : List Char} {scan : Scan} (h : scanComment? cs = some scan) :
    closeMarker <+: scan.rest := by
  unfold scanComment? at h
  split at h
  · obtain ⟨⟨body, found⟩, hcut, rfl⟩ := Option.map_eq_some_iff.1 h
    obtain ⟨rest, hrest⟩ := List.isPrefixOf_iff_prefix.1 (isPrefixOf_of_cutAt hcut)
    exact ⟨rest, by rw [← hrest]; rfl⟩
  · obtain ⟨⟨body, found⟩, hcut, rfl⟩ := Option.map_eq_some_iff.1 h
    exact List.isPrefixOf_iff_prefix.1 (isPrefixOf_of_cutAt hcut)

theorem scanComment?_before {cs : List Char} {scan : Scan} (h : scanComment? cs = some scan)
    {rest' : List Char} (hrest : closeMarker <+: rest') :
    scanComment? (scan.slice.tail ++ rest') = some (scan.before rest') := by
  unfold scanComment? at h
  split at h
  · obtain ⟨⟨body, found⟩, hcut, rfl⟩ := Option.map_eq_some_iff.1 h
    have hmarker : longCommentEnd <+: '-' :: '-' :: rest' :=
      (List.prefix_append_right_inj ['-', '-']).2 hrest
    have hcut' := cutAt_before hcut hmarker
    simp [scanComment?, hcut', Scan.before]
  · next hlong =>
    obtain ⟨⟨body, found⟩, hcut, rfl⟩ := Option.map_eq_some_iff.1 h
    have hcut' := cutAt_before hcut hrest
    -- A marker has no dashes, so those of a long comment would be in the body.
    have hdashes : ∀ ds, body ++ rest' ≠ '-' :: '-' :: ds := by
      intro ds heq
      obtain ⟨more, rfl⟩ := hrest
      rw [← append_of_cutAt hcut] at hlong
      match body, heq with
      | [], heq => cases heq
      | [c], heq => simp [closeMarker] at heq
      | c :: d :: body, heq =>
        simp only [List.cons_append, List.cons.injEq] at heq
        obtain ⟨rfl, rfl, -⟩ := heq
        exact hlong _ rfl
    rw [List.tail_cons]
    unfold scanComment?
    split
    · next heq => exact absurd heq (hdashes _)
    · rw [hcut']
      rfl

theorem exists_token_of_scanComment? {cs : List Char} {scan : Scan}
    (h : scanComment? cs = some scan) : ∃ s, scan.token = .comment s := by
  unfold scanComment? at h
  split at h
  all_goals
    obtain ⟨_, -, rfl⟩ := Option.map_eq_some_iff.1 h
    exact ⟨_, rfl⟩

theorem Scan.Covers.slice_eq {scan : Scan} {c : Char} {cs : List Char} (h : scan.Covers (c :: cs)) :
    scan.slice = c :: scan.slice.tail := by
  obtain ⟨happend, hne⟩ := h
  obtain ⟨d, ds, hslice⟩ := List.exists_cons_of_ne_nil hne
  rw [hslice] at happend ⊢
  rw [(List.cons.inj happend).1, List.tail_cons]

/-- A comment is read alike with more text behind. -/
theorem scanComment?_append {cs : List Char} {scan : Scan} (h : scanComment? cs = some scan)
    (more : List Char) :
    scanComment? (cs ++ more) = some (scan.before (scan.rest ++ more)) := by
  have hcovers := covers_of_scanComment? h
  have hcs : scan.slice.tail ++ scan.rest = cs := by
    have happend := hcovers.1
    rw [hcovers.slice_eq] at happend
    exact (List.cons.inj happend).2
  have hbefore := scanComment?_before h
    ((marked_of_scanComment? h).trans (List.prefix_append scan.rest more))
  rwa [← List.append_assoc, hcs] at hbefore

-- ════════════════════════════════════════════════════════════════════════
-- Tokens
-- ════════════════════════════════════════════════════════════════════════

/-- A text ends at the next tag or at the end of the source, and a comment at the end of its tag. -/
def Token.EndsAtMarker (rest : List Char) : Token → Prop
  | text _ => rest = [] ∨ openMarker <+: rest
  | comment _ => closeMarker <+: rest
  | _ => True

/-- A token that is read alike in front of two texts: a text that does not end the source, and a
comment, have their marker in front of them also in the second one; no third brace comes behind a
marker in the second one only; and no other token goes on there. -/
def Token.ReadAlike (rest rest' : List Char) : Token → Prop
  | text _ => rest ≠ [] ∧ openMarker <+: rest'
  | startTag _ => rest'.head? = some '\x7b' → rest.head? = some '\x7b'
  | endTag _ => rest'.head? = some '\x7d' → rest.head? = some '\x7d'
  | comment _ => closeMarker <+: rest'
  | word _ | literal _ | partialRef _ => PartsOutsideWords rest rest'

/-- Where no marker stands, the text up to the next one is scanned. -/
theorem scanText?_of_unmarked {cs : List Char} (hne : cs ≠ []) (hmarker : ¬ openMarker <+: cs) :
    scanText? cs =
      let parts := (cutAt openMarker cs).getD (cs, [])
      some ⟨.text (String.ofList parts.1), parts.1, parts.2⟩ := by
  unfold scanText?
  split
  · exact absurd rfl hne
  · next rest => exact absurd ⟨'\x7b' :: rest, rfl⟩ hmarker
  · next rest _ => exact absurd ⟨rest, rfl⟩ hmarker
  · rfl

theorem scanText?_opening {cs : List Char} (h : cs.head? ≠ some '\x7b') :
    scanText? ('\x7b' :: '\x7b' :: cs) = some ⟨.startTag true, openMarker, cs⟩ := by
  cases cs with
  | nil => rfl
  | cons c cs =>
    have hc : c ≠ '\x7b' := by simpa using h
    simp [scanText?, hc]

/-- Where a marker stands, it is scanned. -/
theorem scanText?_of_marked {cs : List Char} (h : openMarker <+: cs) :
    ∃ escaped slice rest, scanText? cs = some ⟨.startTag escaped, slice, rest⟩ := by
  obtain ⟨ds, rfl⟩ := h
  by_cases hthird : ds.head? = some '\x7b'
  · obtain ⟨rest, rfl⟩ := List.head?_eq_some_iff.1 hthird
    exact ⟨_, _, _, rfl⟩
  · exact ⟨_, _, _, scanText?_opening hthird⟩

theorem endsAtMarker_of_scanText? {cs : List Char} {scan : Scan} (h : scanText? cs = some scan) :
    scan.token.EndsAtMarker scan.rest := by
  by_cases hmarker : openMarker <+: cs
  · obtain ⟨escaped, slice, rest, hscan⟩ := scanText?_of_marked hmarker
    obtain rfl := Option.some.inj (h.symm.trans hscan)
    trivial
  · have hne : cs ≠ [] := by
      rintro rfl
      cases h
    rw [scanText?_of_unmarked hne hmarker] at h
    cases h
    cases hcut : cutAt openMarker cs with
    | none => exact .inl rfl
    | some parts => exact .inr (List.isPrefixOf_iff_prefix.1 (isPrefixOf_of_cutAt hcut))

/-- The token at the start of a text is also the one in front of another text behind it. -/
theorem scanText?_before {cs : List Char} {scan : Scan} (h : scanText? cs = some scan)
    {rest' : List Char} (hrest : scan.token.ReadAlike scan.rest rest') :
    scanText? (scan.slice ++ rest') = some (scan.before rest') := by
  by_cases hmarker : openMarker <+: cs
  · obtain ⟨ds, rfl⟩ := hmarker
    by_cases hthird : ds.head? = some '\x7b'
    · obtain ⟨rest, rfl⟩ := List.head?_eq_some_iff.1 hthird
      cases h
      rfl
    · have hscan := scanText?_opening hthird
      obtain rfl := Option.some.inj (h.symm.trans hscan)
      exact scanText?_opening fun hthird' => hthird (hrest hthird')
  · have hne : cs ≠ [] := by
      rintro rfl
      cases h
    have hslice := (covers_of_scanText? h).2
    rw [scanText?_of_unmarked hne hmarker] at h
    cases hcut : cutAt openMarker cs with
    | none =>
      rw [hcut] at h
      cases h
      exact absurd rfl hrest.1
    | some parts =>
      obtain ⟨before, found⟩ := parts
      rw [hcut] at h
      cases h
      have hcut' := cutAt_before hcut hrest.2
      have hmarker' : ¬ openMarker <+: before ++ rest' := by
        intro hprefix
        rw [cutAt_of_marked hprefix] at hcut'
        cases hcut'
        exact hslice rfl
      have hne' : before ++ rest' ≠ [] := by
        rw [ne_eq, List.append_eq_nil_iff]
        exact fun hnil => hslice hnil.1
      rw [Option.getD_some, scanText?_of_unmarked hne' hmarker', hcut']
      rfl

theorem Token.ReadAlike.parts {token : Token} {rest rest' : List Char}
    (h : token.ReadAlike rest rest') (hinner : token.IsInner) (hcomment : ∀ s, token ≠ .comment s) :
    PartsOutsideWords rest rest' := by
  cases token with
  | text | startTag | endTag => exact hinner.elim
  | comment s => exact absurd rfl (hcomment s)
  | word | literal | partialRef => exact h

theorem Token.endsAtMarker_of_ne {token : Token} (hinner : token.IsInner)
    (hcomment : ∀ s, token ≠ .comment s) (rest : List Char) : token.EndsAtMarker rest := by
  cases token with
  | text | startTag | endTag => exact hinner.elim
  | comment s => exact absurd rfl (hcomment s)
  | word | literal | partialRef => trivial

theorem scanWord_ne_comment (c : Char) (cs : List Char) (s : String) :
    (scanWord c cs).token ≠ .comment s := by
  simp only [scanWord, wordToken]
  split
  · simp
  split
  · simp
  split <;> simp

theorem scanPartial?_ne_comment {cs : List Char} {scan : Scan} (h : scanPartial? cs = some scan)
    (s : String) : scan.token ≠ .comment s := by
  simp only [scanPartial?] at h
  split at h
  · cases h
  · cases h
    simp

theorem endsAtMarker_of_scanTag {opened position : Position} {cs : List Char} {scan : Scan}
    (h : scanTag opened position cs = .ok scan) : scan.token.EndsAtMarker scan.rest := by
  cases scansTag_of_scanTag h with
  | endTriple | endDouble | quoted => trivial
  | @word c cs _ =>
    exact Token.endsAtMarker_of_ne (token_scanWord c cs).1 (scanWord_ne_comment c cs) _
  | comment hscan =>
    obtain ⟨s, htoken⟩ := exists_token_of_scanComment? hscan
    rw [htoken]
    exact marked_of_scanComment? hscan
  | partialRef hscan =>
    exact Token.endsAtMarker_of_ne (token_of_scanPartial? hscan).1 (scanPartial?_ne_comment hscan) _
  | number _ _ hscan =>
    obtain ⟨n, htoken⟩ := token_of_scanNumber? hscan
    rw [htoken]
    trivial

/-- A token inside a tag is also the one in front of another text behind it. -/
theorem scanTag_before {opened position : Position} {cs : List Char} {scan : Scan}
    (h : scanTag opened position cs = .ok scan) {rest' : List Char}
    (hrest : scan.token.ReadAlike scan.rest rest') :
    scanTag opened position (scan.slice ++ rest') = .ok (scan.before rest') := by
  apply scanTag_of_scansTag
  have hcovers := covers_of_scanTag h
  cases scansTag_of_scanTag h with
  | endTriple => exact .endTriple rest'
  | endDouble hthird => exact .endDouble fun hthird' => hthird (hrest hthird')
  | @word c cs hstart =>
    have hparts := hrest.parts (token_scanWord c cs).1 (scanWord_ne_comment c cs)
    obtain ⟨htake, hdrop⟩ := takeWhile_before cs (hparts.head_not fun _ => id)
    have hword : (scanWord c cs).before rest' = scanWord c (cs.takeWhile isWordChar ++ rest') := by
      simp only [scanWord, htake, hdrop, Scan.before]
    rw [hword]
    exact .word _ hstart
  | quoted hquote hscan => exact .quoted hquote (scanQuoted?_before hscan rest')
  | comment hscan =>
    obtain ⟨s, htoken⟩ := exists_token_of_scanComment? hscan
    rw [htoken] at hrest
    rw [hcovers.slice_eq]
    exact .comment (scanComment?_before hscan hrest)
  | partialRef hscan =>
    have hparts := hrest.parts (token_of_scanPartial? hscan).1 (scanPartial?_ne_comment hscan)
    rw [hcovers.slice_eq]
    exact .partialRef (scanPartial?_before hscan hparts)
  | number hstart hother hscan =>
    obtain ⟨n, htoken⟩ := token_of_scanNumber? hscan
    rw [htoken] at hrest
    have hbefore := scanNumber?_before hscan hrest
    rw [hcovers.slice_eq] at hbefore ⊢
    exact .number hstart hother hbefore

theorem Lexer.endsAtMarker_of_next {l l' : Lexer} {lexeme : Lexeme}
    (h : l.next = (.ok (some lexeme), l')) : lexeme.token.EndsAtMarker l'.rest := by
  obtain ⟨-, scan, hscan, htake⟩ | ⟨opened, scan, -, hscan, htake⟩ := next_eq_some h
  · cases htake
    exact endsAtMarker_of_scanText? hscan
  · cases htake
    exact endsAtMarker_of_scanTag hscan

/-- The lexer in front of another text. -/
def Lexer.before (l : Lexer) (rest : List Char) : Lexer :=
  { l with rest }

/-- A call gives the same lexeme where the text behind its token is another one. -/
theorem Lexer.next_before {l l' : Lexer} {lexeme : Lexeme} (h : l.next = (.ok (some lexeme), l')) :
    ∃ passed, l.rest = passed ++ l'.rest ∧
      ∀ rest', lexeme.token.ReadAlike l'.rest rest' →
        (l.before (passed ++ rest')).next = (.ok (some lexeme), l'.before rest') := by
  obtain ⟨hmode, scan, hscan, htake⟩ | ⟨opened, scan, hmode, hscan, htake⟩ := next_eq_some h
  · cases htake
    refine ⟨scan.slice, (covers_of_scanText? hscan).1.symm, fun rest' hrest => ?_⟩
    exact next_of_scanText? (l := l.before (scan.slice ++ rest')) hmode
      (scanText?_before hscan hrest)
  · cases htake
    have hcovers := covers_of_scanTag hscan
    refine ⟨l.rest.takeWhile isBlank ++ scan.slice, ?_, fun rest' hrest => ?_⟩
    · rw [List.append_assoc]
      simp only [behind, hcovers.1, skipBlanks]
      exact List.takeWhile_append_dropWhile.symm
    · -- The token begins behind the same blanks.
      have hhead : ∀ c ∈ (scan.slice ++ rest').head?, isBlank c = false := by
        have hdropped := List.head?_dropWhile_not isBlank l.rest
        obtain ⟨d, ds, hslice⟩ := List.exists_cons_of_ne_nil hcovers.2
        rw [show l.rest.dropWhile isBlank = scan.slice ++ scan.rest from hcovers.1.symm,
          hslice] at hdropped
        simpa [hslice] using hdropped
      obtain ⟨hblanks, hbehind⟩ := takeWhile_before l.rest hhead
      have hskip : (l.before (l.rest.takeWhile isBlank ++ (scan.slice ++ rest'))).skipBlanks =
          l.skipBlanks.before (scan.slice ++ rest') := by
        simp only [skipBlanks, before, hblanks, hbehind]
      have hnext := next_of_scanTag
        (l := l.before (l.rest.takeWhile isBlank ++ (scan.slice ++ rest'))) hmode
        (by rw [hskip]; exact scanTag_before hscan hrest)
      rw [hskip] at hnext
      rw [List.append_assoc]
      exact hnext

end TextTemplate
