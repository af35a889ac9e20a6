import TextTemplate.Proofs.Number.Whole
import TextTemplate.Proofs.Print.Basic
import TextTemplate.Proofs.Token.Exchange
import TextTemplate.Proofs.Token.Quoted

/-!
# Reading printed tags

Every piece of a printed tag is read as one token, whatever comes behind it: a blank and the next
piece, or the end of the tag.

## Main definitions

- `Ends` — what comes behind a piece of a tag
- `Token.WrittenAs` — texts that are read as a token before whatever comes behind them
-/

namespace TextTemplate

open Text

/-- What comes behind a piece of a tag: a blank or a closing brace. -/
def Ends (rest : List Char) : Prop :=
  ∃ c cs, rest = c :: cs ∧ (c = ' ' ∨ c = '\x7d')

/-- Texts that are read as a token before whatever comes behind them in a tag, and can stand behind
blanks and the start of a tag. -/
structure Token.WrittenAs (token : Token) (text : List Char) : Prop where
  isInner : token.IsInner
  head : ∃ c cs, text = c :: cs ∧ isBlank c = false ∧ c ≠ '\x7b'
  scan : ∀ opened position rest, Ends rest →
    scanTag opened position (text ++ rest) = .ok ⟨token, text, rest⟩

/-- A property of characters that ends before blanks and braces takes a text that has it whole. -/
theorem takeWhile_append_of_ends {p : Char → Bool} {cs rest : List Char}
    (hblank : p ' ' = false) (hbrace : p '\x7d' = false) (hcs : cs.all p = true)
    (hrest : Ends rest) :
    (cs ++ rest).takeWhile p = cs ∧ (cs ++ rest).dropWhile p = rest := by
  rw [List.all_eq_true] at hcs
  obtain ⟨d, ds, rfl, hd⟩ := hrest
  have hfalse : p d = false := by
    obtain rfl | rfl := hd
    · exact hblank
    · exact hbrace
  constructor
  · rw [List.takeWhile_append_of_pos hcs, List.takeWhile_cons_of_neg (by simp [hfalse]),
      List.append_nil]
  · rw [List.dropWhile_append_of_pos hcs, List.dropWhile_cons_of_neg (by simp [hfalse])]

theorem isBlank_of_isWordStart {c : Char} (h : isWordStart c = true) : isBlank c = false := by
  rw [← Bool.not_eq_true]
  intro hblank
  simp only [isWordStart, isBlockMark, isAlphabetic_of_isBlank hblank, Bool.or_false,
    Bool.or_eq_true, decide_eq_true_eq] at h
  have hnone : ['#', '^', '/', '_', '@', '.'].all (fun d => !isBlank d) = true := by decide
  have hfalse := List.all_eq_true.1 hnone c (by simpa [or_assoc] using h)
  rw [hblank] at hfalse
  cases hfalse

theorem ne_of_isWordStart {c : Char} (h : isWordStart c = true) : c ≠ '\x7b' := by
  rintro rfl
  exact absurd h (by decide)

theorem isInner_wordToken (word : String) : (wordToken word).IsInner := by
  unfold wordToken
  split
  · trivial
  split
  · trivial
  split <;> trivial

theorem writtenAs_wordToken (c : Char) (cs : List Char) (hc : isWordStart c = true)
    (hcs : cs.all isWordChar = true) :
    (wordToken (String.ofList (c :: cs))).WrittenAs (c :: cs) := by
  refine ⟨isInner_wordToken _, ?_, ?_⟩
  · exact ⟨c, cs, rfl, isBlank_of_isWordStart hc, ne_of_isWordStart hc⟩
  · intro opened position rest hrest
    obtain ⟨htake, hdrop⟩ :=
      takeWhile_append_of_ends (p := isWordChar) (by decide) (by decide) hcs hrest
    rw [List.cons_append, scanTag_of_scansTag (.word (cs ++ rest) hc), scanWord, htake, hdrop]

theorem writtenAs_word {word : String} {c : Char} {cs : List Char} (hword : word.toList = c :: cs)
    (hc : isWordStart c = true) (hcs : cs.all isWordChar = true)
    (hliteral : word ∉ ["true", "false", "null"]) : (Token.word word).WrittenAs word.toList := by
  have htoken : wordToken (String.ofList (c :: cs)) = .word word := by
    rw [← hword, String.ofList_toList]
    simp only [List.mem_cons, List.not_mem_nil, or_false, not_or] at hliteral
    obtain ⟨htrue, hfalse, hnull⟩ := hliteral
    rw [wordToken, if_neg htrue, if_neg hfalse, if_neg hnull]
  have hwritten := writtenAs_wordToken c cs hc hcs
  rwa [htoken, ← hword] at hwritten

/-- A word behind the mark of a block is read as a word. -/
theorem writtenAs_mark {mark name : String} {c : Char} (hmark : mark.toList = [c])
    (hc : isBlockMark c = true) (hname : name.toList.all isWordChar = true) :
    (Token.word (mark ++ name)).WrittenAs (c :: name.toList) := by
  have hword : (mark ++ name).toList = c :: name.toList := by
    rw [String.toList_append, hmark, List.singleton_append]
  have hstart : isWordStart c = true := by simp [isWordStart, hc]
  rw [← hword]
  refine writtenAs_word hword hstart hname ?_
  have hnone : ∀ w ∈ ["true", "false", "null"], w.toList.head?.any isBlockMark = false := by
    decide
  intro hmem
  have hfalse := hnone _ hmem
  rw [hword, List.head?_cons, Option.any_some, hc] at hfalse
  cases hfalse

-- ════════════════════════════════════════════════════════════════════════
-- Literals
-- ════════════════════════════════════════════════════════════════════════

/-- A character inside double quotes is written in one of the ways that it can be. -/
theorem quotedAs_quotedChar (style : Style) (c : Char) {s body : List Char}
    (h : QuotedAs '"' s body) : QuotedAs '"' (c :: s) (style.quotedChar c ++ body) := by
  unfold Style.quotedChar
  split
  · next hc => exact .escaped (by simpa using hc) h
  next hc =>
  simp only [Bool.or_eq_true, decide_eq_true_eq, not_or] at hc
  split
  · next hnewline =>
    obtain rfl : c = '\n' := by simpa using (Bool.and_eq_true_iff.1 hnewline).2
    exact .newline h
  split
  · next htab =>
    obtain rfl : c = '\t' := by simpa using (Bool.and_eq_true_iff.1 htab).2
    exact .tab h
  · exact .plain hc.1 hc.2 h

/-- A quoted text is read up to the quote behind it. -/
theorem scanQuoted?_quoted (style : Style) (cs rest : List Char) :
    scanQuoted? '"' (cs.flatMap style.quotedChar ++ '"' :: rest) =
      some (cs, cs.flatMap style.quotedChar ++ ['"'], rest) := by
  refine scanQuoted?_of_quotedAs (.inl rfl) ?_ rest
  induction cs with
  | nil => exact .nil
  | cons c cs ih => exact quotedAs_quotedChar style c ih

theorem writtenAs_text (style : Style) (s : String) :
    (Token.literal (.text s)).WrittenAs (style.literal (.text s)) := by
  refine ⟨trivial, ⟨'"', _, rfl, by decide, by decide⟩, ?_⟩
  intro opened position rest _
  have hscan := scanTag_of_scansTag
    (.quoted (.inl rfl) (scanQuoted?_quoted style s.toList rest)) opened position
  simpa [Style.literal] using hscan

theorem fractionDigits_of_ends {rest : List Char} (h : Ends rest) : fractionDigits rest = [] := by
  obtain ⟨c, cs, rfl, rfl | rfl⟩ := h <;> rfl

theorem scanNumber?_digits {digits rest : List Char} (hne : digits ≠ [])
    (hdigits : digits.all Char.isDigit = true) (hrest : Ends rest) :
    scanNumber? (digits ++ rest) =
      (wholeNumber? false digits).map fun n => ⟨.literal (.number n), digits, rest⟩ := by
  obtain ⟨htake, hdrop⟩ :=
    takeWhile_append_of_ends (p := Char.isDigit) (by decide) (by decide) hdigits hrest
  have hsigned := scanNumber?_signed (.inl rfl) (htake.symm ▸ hne)
  simpa [htake, hdrop, fractionDigits_of_ends hrest] using hsigned

theorem scanNumber?_minus {digits rest : List Char} (hne : digits ≠ [])
    (hdigits : digits.all Char.isDigit = true) (hrest : Ends rest) :
    scanNumber? ('-' :: (digits ++ rest)) =
      (wholeNumber? true digits).map fun n => ⟨.literal (.number n), '-' :: digits, rest⟩ := by
  obtain ⟨htake, hdrop⟩ :=
    takeWhile_append_of_ends (p := Char.isDigit) (by decide) (by decide) hdigits hrest
  have hsigned := scanNumber?_signed (.inr rfl) (htake.symm ▸ hne)
  simpa [htake, hdrop, fractionDigits_of_ends hrest] using hsigned

theorem scanTag_of_number {c : Char} (hc : c.isDigit = true ∨ c = '-') {cs : List Char}
    {scan : Scan} (h : scanNumber? (c :: cs) = some scan) (opened position : Position) :
    scanTag opened position (c :: cs) = .ok scan := by
  have hother : c ∉ ['\x7d', '#', '^', '/', '_', '@', '.', '"', '\'', '!', '>'] :=
    notMem_of_isDigit_or_minus hc (by decide)
  have halphabetic : isAlphabetic c = false := by
    obtain hdigit | rfl := hc
    · exact isAlphabetic_of_isDigit hdigit
    · decide
  simp only [List.mem_cons, not_or] at hother
  obtain ⟨hbrace, hhash, hhat, hslash, hline, hat, hdot, hquote, hquote', hbang, hangle, -⟩ :=
    hother
  have hstart : isWordStart c = false := by
    simp [isWordStart, isBlockMark, halphabetic, hhash, hhat, hslash, hline, hat, hdot]
  exact scanTag_of_scansTag (.number hstart (by simp [*]) h) opened position

/-- The number that the text of a whole number spells in a tag. -/
theorem wholeNumber?_toDigits (i : Int) :
    wholeNumber? (decide (i < 0)) (Nat.toDigits 10 i.natAbs) =
      if Number.isSigned64 i then some (.integer i)
      else (Binary64.ofNat? (decide (i < 0)) i.natAbs).map .float := by
  have hvalue : (if decide (i < 0) = true then -(i.natAbs : Int) else i.natAbs) = i := by
    simp only [decide_eq_true_eq]
    omega
  simp only [wholeNumber?, decimalValue_toDigits, hvalue]

/-- The text of a whole number is read as the number that its sign and digits spell. -/
theorem writtenAs_number {i : Int} {n : Number}
    (h : wholeNumber? (decide (i < 0)) (Nat.toDigits 10 i.natAbs) = some n) :
    (Token.literal (.number n)).WrittenAs (Number.integerText i).toList := by
  obtain ⟨c, cs, hcons, hc, hdigits⟩ := toDigits_spec i.natAbs
  have hne : Nat.toDigits 10 i.natAbs ≠ [] := by
    rw [hcons]
    exact List.cons_ne_nil _ _
  rw [Number.toList_integerText]
  by_cases hneg : i < 0
  · rw [decide_eq_true hneg] at h
    rw [if_pos hneg]
    refine ⟨trivial, ⟨'-', _, rfl, by decide, by decide⟩, ?_⟩
    intro opened position rest hrest
    have hscan := scanNumber?_minus hne hdigits hrest
    rw [h] at hscan
    exact scanTag_of_number (.inr rfl) hscan opened position
  · rw [decide_eq_false hneg] at h
    rw [if_neg hneg, List.nil_append]
    refine ⟨trivial, ⟨c, cs, hcons, isBlank_of_isDigit hc, ?_⟩, ?_⟩
    · rintro rfl
      exact absurd hc (by decide)
    · intro opened position rest hrest
      have hscan := scanNumber?_digits hne hdigits hrest
      rw [h] at hscan
      rw [hcons] at hscan ⊢
      exact scanTag_of_number (.inl hc) hscan opened position

theorem writtenAs_integer {i : Int} (h : Number.isSigned64 i = true) :
    (Token.literal (.number (.integer i))).WrittenAs (Number.integerText i).toList :=
  writtenAs_number (by rw [wholeNumber?_toDigits, if_pos h])

theorem writtenAs_literal (style : Style) {value : Value} (h : value.Printable) :
    (Token.literal value).WrittenAs (style.literal value) := by
  cases value with
  | null =>
    exact writtenAs_wordToken 'n' ['u', 'l', 'l'] (by decide) (by decide)
  | boolean b =>
    cases b with
    | true => exact writtenAs_wordToken 't' ['r', 'u', 'e'] (by decide) (by decide)
    | false =>
      exact writtenAs_wordToken 'f' ['a', 'l', 's', 'e'] (by decide) (by decide)
  | number n =>
    cases n with
    | integer n => exact writtenAs_integer h
    | float x => exact h.elim
  | text s => exact writtenAs_text style s
  | sequence items => exact h.elim
  | keyed members => exact h.elim

-- ════════════════════════════════════════════════════════════════════════
-- Paths and arguments
-- ════════════════════════════════════════════════════════════════════════

/-- A printed path spells its steps. -/
theorem spells_path (style : Style) {segments : List Segment} (h : segments ≠ []) :
    Path.Spells segments (style.path segments) := by
  induction segments with
  | nil => exact absurd rfl h
  | cons s segments ih =>
    cases segments with
    | nil => exact .single s
    | cons t segments =>
      have hmore := ih (List.cons_ne_nil _ _)
      rw [Style.path, Style.joint]
      split
      · next hdot =>
        simp only [Bool.and_eq_true] at hdot
        exact .dot hdot.1.2 hdot.2 hmore
      · exact .slash hmore

theorem isSpellable_of_isName {s : String} (h : IsName s) : (Segment.name s).IsSpellable := by
  obtain ⟨hstart, hchars⟩ := h
  rw [List.all_eq_true] at hchars
  refine ⟨?_, ?_, ?_, ?_⟩
  · intro hnil
    rw [hnil] at hstart
    cases hstart
  · intro hmem
    exact absurd (hchars '/' hmem) (by decide)
  · intro hmem
    exact absurd (hchars '.' hmem) (by decide)
  · intro hhead
    exact absurd (hchars '@' (List.mem_of_mem_head? hhead)) (by decide)

theorem isWordChar_of_isNameChar {c : Char} (h : isNameChar c = true) : isWordChar c = true := by
  simp only [isNameChar, Bool.or_eq_true] at h
  obtain ((h | h) | h) | h := h <;> simp [isWordChar, h]

/-- A name in a path can begin a word, and has no mark of a block. -/
theorem isWordStart_of_isNameStart {c : Char} (h : isNameStart c = true) :
    isWordStart c = true ∧ isBlockMark c = false := by
  constructor
  · simp only [isNameStart, Bool.or_eq_true] at h
    obtain h | h := h <;> simp [isWordStart, h]
  · simp only [isBlockMark, Bool.or_eq_false_iff, decide_eq_false_iff_not]
    refine ⟨⟨?_, ?_⟩, ?_⟩
    all_goals
      rintro rfl
      exact absurd h (by decide)

theorem spelling_isWord {s : Segment} (h : s.Printable) :
    s.spelling.all isWordChar = true ∧
      ∃ c cs, s.spelling = c :: cs ∧ isWordStart c = true ∧ isBlockMark c = false := by
  cases s with
  | name s =>
    obtain ⟨hstart, hchars⟩ := h
    obtain ⟨c, hc, hstart⟩ := (Option.any_eq_true ..).1 hstart
    obtain ⟨cs, hcons⟩ := List.head?_eq_some_iff.1 hc
    constructor
    · rw [List.all_eq_true] at hchars ⊢
      exact fun d hd => isWordChar_of_isNameChar (hchars d hd)
    · exact ⟨c, cs, hcons, isWordStart_of_isNameStart hstart⟩
  | current => exact ⟨by decide, '.', [], rfl, by decide, by decide⟩
  | parent => exact ⟨by decide, '.', ['.'], rfl, by decide, by decide⟩
  | _ => exact ⟨by decide, '@', _, rfl, by decide, by decide⟩

theorem path_isWord (style : Style) {segments : List Segment} (hne : segments ≠ [])
    (h : ∀ s ∈ segments, s.Printable) :
    (style.path segments).all isWordChar = true ∧
      ∃ c cs, style.path segments = c :: cs ∧ isWordStart c = true ∧ isBlockMark c = false := by
  induction segments with
  | nil => exact absurd rfl hne
  | cons s segments ih =>
    have hs := spelling_isWord (h s List.mem_cons_self)
    cases segments with
    | nil => exact hs
    | cons t segments =>
      obtain ⟨hchars, c, cs, hcons, hstart⟩ := hs
      obtain ⟨hmore, -⟩ := ih (List.cons_ne_nil _ _) fun x hx => h x (List.mem_cons_of_mem _ hx)
      constructor
      · have hjoint : isWordChar (style.joint s t) = true := by
          rw [Style.joint]
          split <;> decide
        rw [Style.path, List.all_append, List.all_cons, hchars, hjoint, hmore]
        rfl
      · refine ⟨c, cs ++ style.joint s t :: style.path (t :: segments), ?_, hstart⟩
        rw [Style.path, hcons, List.cons_append]

theorem read_path (style : Style) {p : Path} (h : p.Printable) :
    Path.read (String.ofList (style.path p.segments)) = .ok p := by
  refine Path.read_of_spells ?_ ?_ h.head_ne
  · rw [String.toList_ofList]
    exact spells_path style h.ne_nil
  · intro s hs
    cases s with
    | name s => exact isSpellable_of_isName (h.segments _ hs)
    | _ => trivial

/-- A printed path is no other word than the one that spells it. -/
theorem path_ne_word (style : Style) {p : Path} (h : p.Printable) {word : String}
    (hread : Path.read word = .ok ⟨[.name word]⟩) (hne : p.segments ≠ [.name word]) :
    String.ofList (style.path p.segments) ≠ word := by
  intro heq
  have hp := read_path style h
  rw [heq, hread] at hp
  cases hp
  exact hne rfl

theorem isPlain_ofList {c : Char} {cs : List Char} (h : isBlockMark c = false) :
    Grammar.IsPlain (String.ofList (c :: cs)) := by
  intro d hd
  rw [String.toList_ofList] at hd
  cases hd
  simpa [isBlockMark, and_assoc] using h

/-- The name of a helper is read as one plain word. -/
theorem writtenAs_callName {name : String} (h : IsCallName name) :
    (Token.word name).WrittenAs name.toList ∧ Grammar.IsPlain name := by
  obtain ⟨hhead, hchars, hname⟩ := h
  obtain ⟨c, hc, hstart⟩ := (Option.any_eq_true ..).1 hhead
  obtain ⟨cs, hcons⟩ := List.head?_eq_some_iff.1 hc
  rw [hcons, List.tail_cons] at hchars
  simp only [Bool.and_eq_true, Bool.not_eq_true'] at hstart
  obtain ⟨hstart, hmark⟩ := hstart
  simp only [List.mem_cons, not_or] at hname
  refine ⟨writtenAs_word hcons hstart hchars (by simpa using hname.2), ?_⟩
  rw [← String.ofList_toList (s := name), hcons]
  exact isPlain_ofList hmark

/-- A printed path is read as one plain word. -/
theorem writtenAs_path (style : Style) {p : Path} (h : p.Printable) :
    (Token.word (String.ofList (style.path p.segments))).WrittenAs (style.path p.segments) ∧
      Grammar.IsPlain (String.ofList (style.path p.segments)) := by
  obtain ⟨hchars, c, cs, hcons, hstart, hmark⟩ := path_isWord style h.ne_nil h.segments
  have hliteral : String.ofList (style.path p.segments) ∉ ["true", "false", "null"] := by
    intro hmem
    have hread : ∀ word ∈ ["true", "false", "null"],
        Path.read word = .ok ⟨[.name word]⟩ := by decide
    exact path_ne_word style h (hread _ hmem) (h.not_literal _ hmem) rfl
  constructor
  · have hword : (String.ofList (style.path p.segments)).toList = c :: cs := by
      rw [String.toList_ofList, hcons]
    rw [hcons, List.all_cons, Bool.and_eq_true] at hchars
    have hwritten := writtenAs_word hword hstart hchars.2 hliteral
    rwa [String.toList_ofList] at hwritten
  · rw [hcons]
    exact isPlain_ofList hmark

/-- A printed argument is read as one token, which spells the argument. -/
theorem exists_writtenAs_param (style : Style) {param : Param} (h : param.Printable) :
    ∃ token, Grammar.Parameter token param ∧ token.WrittenAs (style.param param) := by
  cases param with
  | path p =>
    obtain ⟨hwritten, hplain⟩ := writtenAs_path style h
    exact ⟨_, .path hplain (read_path style h), hwritten⟩
  | literal value => exact ⟨_, .literal value, writtenAs_literal style h⟩

theorem exists_writtenAs_params (style : Style) {params : List Param}
    (h : ∀ param ∈ params, param.Printable) :
    ∃ tokens, List.Forall₂ Grammar.Parameter tokens params ∧
      List.Forall₂ Token.WrittenAs tokens (params.map style.param) := by
  induction params with
  | nil => exact ⟨[], .nil, .nil⟩
  | cons param params ih =>
    obtain ⟨token, hparam, hwritten⟩ :=
      exists_writtenAs_param style (h param List.mem_cons_self)
    obtain ⟨tokens, hparams, hmore⟩ := ih fun x hx => h x (List.mem_cons_of_mem _ hx)
    exact ⟨token :: tokens, .cons hparam hparams, .cons hwritten hmore⟩

/-- The name of a partial is read behind its mark, with or without blanks before it. -/
theorem writtenAs_partialRef {name : String} (h : IsWordName name) {blanks : List Char}
    (hblanks : blanks.all isBlank = true) :
    (Token.partialRef name).WrittenAs ('>' :: (blanks ++ name.toList)) := by
  obtain ⟨hne, hchars⟩ := h
  obtain ⟨c, cs, hcons⟩ : ∃ c cs, name.toList = c :: cs :=
    List.exists_cons_of_ne_nil (by simpa using hne)
  have hc : isBlank c = false :=
    isBlank_of_isWordChar (List.all_eq_true.1 hchars c (by rw [hcons]; exact List.mem_cons_self))
  refine ⟨trivial, ⟨'>', _, rfl, by decide, by decide⟩, ?_⟩
  intro opened position rest hrest
  obtain ⟨htake, hdrop⟩ :=
    takeWhile_append_of_ends (p := isWordChar) (by decide) (by decide) hchars hrest
  rw [List.all_eq_true] at hblanks
  have htake' : (blanks ++ (name.toList ++ rest)).takeWhile isBlank = blanks := by
    rw [List.takeWhile_append_of_pos hblanks, hcons, List.cons_append,
      List.takeWhile_cons_of_neg (by simp [hc]), List.append_nil]
  have hdrop' : (blanks ++ (name.toList ++ rest)).dropWhile isBlank = name.toList ++ rest := by
    rw [List.dropWhile_append_of_pos hblanks, hcons, List.cons_append,
      List.dropWhile_cons_of_neg (by simp [hc])]
  have hscan : scanPartial? (blanks ++ (name.toList ++ rest)) =
      some ⟨.partialRef name, '>' :: (blanks ++ name.toList), rest⟩ := by
    simp [scanPartial?, htake', hdrop', htake, hdrop, hne]
  rw [List.cons_append, List.append_assoc]
  exact scanTag_of_scansTag (.partialRef hscan) opened position

end TextTemplate
