import TextTemplate.Proofs.Token.Run

/-!
# Quoted texts

Between quotes every text can be written: a backslash takes away what a quote of that kind or
another backslash would mean there. The quote that ends a quoted text is the first one that stands
behind an even number of backslashes, and where there is none the text does not end.

## Main definitions

- `QuotedAs` — the ways to write a text between quotes
- `backslashesAtEnd` — the backslashes in front of a place
- `AllEscaped` — a text whose quotes all stand behind backslashes that take away their meaning

## Main statements

- `quoted_texts_are_carried` — written texts are read back, and what does not end is an error
-/

namespace TextTemplate

open Text

/-- The ways to write a text between two quotes: a quote of that kind and a backslash stand behind a
backslash, a newline and a tab may be letters behind a backslash, and any other character is
itself. -/
inductive QuotedAs (quote : Char) : List Char → List Char → Prop
  | nil : QuotedAs quote [] []
  | plain {c : Char} {s body : List Char} :
      c ≠ quote → c ≠ '\\' → QuotedAs quote s body → QuotedAs quote (c :: s) (c :: body)
  | escaped {c : Char} {s body : List Char} :
      c = quote ∨ c = '\\' → QuotedAs quote s body → QuotedAs quote (c :: s) ('\\' :: c :: body)
  | newline {s body : List Char} :
      QuotedAs quote s body → QuotedAs quote ('\n' :: s) ('\\' :: 'n' :: body)
  | tab {s body : List Char} :
      QuotedAs quote s body → QuotedAs quote ('\t' :: s) ('\\' :: 't' :: body)

/-- The number of backslashes that a text ends with. -/
def backslashesAtEnd (cs : List Char) : Nat :=
  (cs.reverse.takeWhile (· = '\\')).length

/-- Every quote of a text stands behind an odd number of backslashes. -/
def AllEscaped (quote : Char) (cs : List Char) : Prop :=
  ∀ front back, cs = front ++ quote :: back → backslashesAtEnd front % 2 = 1

/-- Every text can be written between quotes. -/
theorem exists_quotedAs (quote : Char) (s : List Char) : ∃ body, QuotedAs quote s body := by
  induction s with
  | nil => exact ⟨[], .nil⟩
  | cons c s ih =>
    obtain ⟨body, hbody⟩ := ih
    by_cases hc : c = quote ∨ c = '\\'
    · exact ⟨_, .escaped hc hbody⟩
    · rw [not_or] at hc
      exact ⟨_, .plain hc.1 hc.2 hbody⟩

-- ════════════════════════════════════════════════════════════════════════
-- Reading what is written
-- ════════════════════════════════════════════════════════════════════════

theorem scanQuoted?_self (quote : Char) (cs : List Char) :
    scanQuoted? quote (quote :: cs) = some ([], [quote], cs) := by
  rw [scanQuoted?.eq_def]
  exact if_pos rfl

section

variable {quote : Char} (hquote : quote = '"' ∨ quote = '\'')

include hquote

theorem backslash_ne_quote : '\\' ≠ quote := by
  obtain rfl | rfl := hquote <;> decide

theorem scanQuoted?_backslash (e : Char) (cs : List Char) :
    scanQuoted? quote ('\\' :: e :: cs) =
      (scanQuoted? quote cs).map fun (value, slice, rest) =>
        (unescape e :: value, '\\' :: e :: slice, rest) := by
  rw [scanQuoted?.eq_def]
  simp only [if_neg (backslash_ne_quote hquote), if_true]

omit hquote in
theorem scanQuoted?_of_ne {c : Char} (hc : c ≠ quote) (hbackslash : c ≠ '\\') (cs : List Char) :
    scanQuoted? quote (c :: cs) =
      (scanQuoted? quote cs).map fun (value, slice, rest) => (c :: value, c :: slice, rest) := by
  rw [scanQuoted?.eq_def]
  simp only [if_neg hc, if_neg hbackslash]

/-- A text is read up to the quote behind it, however it is written. -/
theorem scanQuoted?_of_quotedAs {s body : List Char} (h : QuotedAs quote s body)
    (rest : List Char) :
    scanQuoted? quote (body ++ quote :: rest) = some (s, body ++ [quote], rest) := by
  induction h with
  | nil => exact scanQuoted?_self quote rest
  | plain hc hbackslash _ ih =>
    rw [List.cons_append, scanQuoted?_of_ne hc hbackslash, ih]
    rfl
  | @escaped c s body hc _ ih =>
    have hself : unescape c = c := by
      obtain rfl | rfl := hc
      · obtain rfl | rfl := hquote <;> decide
      · decide
    rw [List.cons_append, List.cons_append, scanQuoted?_backslash hquote, ih, hself]
    rfl
  | newline _ ih | tab _ ih =>
    rw [List.cons_append, List.cons_append, scanQuoted?_backslash hquote, ih]
    rfl

end

-- ════════════════════════════════════════════════════════════════════════
-- Texts that do not end
-- ════════════════════════════════════════════════════════════════════════

/-- Whether the number of backslashes before a place is odd does not depend on a text in front that
ends with an even number of them. -/
theorem backslashesAtEnd_append_mod {front : List Char} (h : backslashesAtEnd front % 2 = 0)
    (cs : List Char) : backslashesAtEnd (front ++ cs) % 2 = backslashesAtEnd cs % 2 := by
  unfold backslashesAtEnd at *
  rw [List.reverse_append, List.takeWhile_append]
  split
  · next hall =>
    rw [List.length_append, hall]
    omega
  · rfl

section

variable {quote : Char}

theorem allEscaped_of_notMem {cs : List Char} (h : quote ∉ cs) : AllEscaped quote cs := by
  rintro front back rfl
  exact absurd (List.mem_append_right front List.mem_cons_self) h

/-- A quote at the start stands behind no backslash. -/
theorem not_allEscaped_quote (cs : List Char) : ¬ AllEscaped quote (quote :: cs) := by
  intro h
  have hodd := h [] cs rfl
  cases hodd

/-- Quotes behind a text are escaped as they are without it if it ends with an even number of
backslashes and has escaped quotes only. -/
theorem allEscaped_append_iff (front cs : List Char) (heven : backslashesAtEnd front % 2 = 0)
    (hfront : AllEscaped quote front) :
    AllEscaped quote (front ++ cs) ↔ AllEscaped quote cs := by
  constructor
  · rintro h before back rfl
    rw [← backslashesAtEnd_append_mod heven before]
    exact h (front ++ before) back (List.append_assoc ..).symm
  · intro h before back heq
    obtain ⟨middle, rfl, hcs⟩ | ⟨middle, hbefore, hback⟩ := List.append_eq_append_iff.1 heq
    · rw [backslashesAtEnd_append_mod heven]
      exact h middle back hcs
    · cases middle with
      | nil =>
        obtain rfl : quote :: back = cs := by simpa using hback
        exact absurd h (not_allEscaped_quote back)
      | cons d middle =>
        obtain ⟨rfl, -⟩ := List.cons.inj hback
        exact hfront before middle hbefore

theorem allEscaped_cons_iff {c : Char} (hc : c ≠ quote) (hbackslash : c ≠ '\\') (cs : List Char) :
    AllEscaped quote (c :: cs) ↔ AllEscaped quote cs :=
  allEscaped_append_iff [c] cs (by simp [backslashesAtEnd, hbackslash])
    (allEscaped_of_notMem (by simpa using hc.symm))

/-- A character behind a backslash is escaped, whether it is a quote, a backslash or another. -/
theorem allEscaped_backslash_iff (hne : '\\' ≠ quote) (e : Char) (cs : List Char) :
    AllEscaped quote ('\\' :: e :: cs) ↔ AllEscaped quote cs := by
  refine allEscaped_append_iff ['\\', e] cs ?_ ?_
  · by_cases he : e = '\\' <;> simp [backslashesAtEnd, he]
  · intro before back heq
    obtain ⟨rfl, hcons⟩ | ⟨before, rfl, hcons⟩ := List.cons_eq_append_iff.1 heq
    · exact absurd (List.cons.inj hcons).1.symm hne
    obtain ⟨rfl, -⟩ | ⟨_, rfl, hcons⟩ := List.cons_eq_append_iff.1 hcons
    · rfl
    · simp at hcons

/-- A quoted text does not end where each of its quotes is escaped. -/
theorem scanQuoted?_eq_none_iff (hquote : quote = '"' ∨ quote = '\'') (cs : List Char) :
    scanQuoted? quote cs = none ↔ AllEscaped quote cs := by
  have hne := backslash_ne_quote hquote
  fun_induction scanQuoted? quote cs with
  | case1 => exact iff_of_true rfl (allEscaped_of_notMem List.not_mem_nil)
  | case2 cs => simp [not_allEscaped_quote]
  | case3 => exact iff_of_true rfl (allEscaped_of_notMem (by simpa using hne.symm))
  | case4 e cs _ ih =>
    exact Option.map_eq_none_iff.trans (ih.trans (allEscaped_backslash_iff hne e cs).symm)
  | case5 c cs hc hbackslash ih =>
    exact Option.map_eq_none_iff.trans (ih.trans (allEscaped_cons_iff hc hbackslash cs).symm)

end

/-- What a call does at a quote inside a tag. -/
theorem Lexer.next_of_quote {quote : Char} (hquote : quote = '"' ∨ quote = '\'')
    (opened position : Position) (cs : List Char) :
    Lexer.next ⟨quote :: cs, position, .tag opened⟩ =
      match scanQuoted? quote cs with
      | some (value, slice, rest) =>
        (.ok (some ⟨.literal (.text (String.ofList value)), position⟩),
          ⟨rest, position.advance (quote :: slice), .tag opened⟩)
      | none => (.error (.unterminatedString position), ⟨quote :: cs, position, .tag opened⟩) := by
  have hchars : isBlank quote = false ∧ quote ≠ '\x7d' ∧ isWordStart quote = false := by
    obtain rfl | rfl := hquote <;> decide
  obtain ⟨hblank, hbrace, hword⟩ := hchars
  have hskip : skipBlanks ⟨quote :: cs, position, .tag opened⟩ =
      ⟨quote :: cs, position, .tag opened⟩ := skipBlanks_of_head rfl hblank
  simp only [next, hskip, scanTag, if_neg hbrace, hword, Bool.false_eq_true, if_false,
    Bool.or_eq_true, decide_eq_true_eq, if_pos hquote]
  cases scanQuoted? quote cs <;> rfl

/-- Every text can be written between quotes of either kind, and however it is written it is read as
that text, with the lexer right behind the closing quote, whatever comes there. A quote behind which
every other one is escaped, and no other, begins a text that does not end: the lexer stays at it. -/
theorem quoted_texts_are_carried (opened position : Position) (quote : Char)
    (hquote : quote = '"' ∨ quote = '\'') :
    (∀ s : String, (∃ body, QuotedAs quote s.toList body) ∧
      ∀ body following, QuotedAs quote s.toList body →
        Lexer.next ⟨quote :: (body ++ quote :: following), position, .tag opened⟩ =
          (.ok (some ⟨.literal (.text s), position⟩),
            ⟨following, position.advance (quote :: (body ++ [quote])), .tag opened⟩)) ∧
    ∀ behind,
      Lexer.next ⟨quote :: behind, position, .tag opened⟩ =
          (.error (.unterminatedString position), ⟨quote :: behind, position, .tag opened⟩) ↔
        ∀ front back, behind = front ++ quote :: back → backslashesAtEnd front % 2 = 1 := by
  refine ⟨fun s => ⟨exists_quotedAs quote s.toList, fun body following hbody => ?_⟩,
    fun behind => ?_⟩
  · rw [Lexer.next_of_quote hquote, scanQuoted?_of_quotedAs hquote hbody]
    simp only [String.ofList_toList]
  · rw [Lexer.next_of_quote hquote]
    refine Iff.trans ?_ (scanQuoted?_eq_none_iff hquote behind)
    cases scanQuoted? quote behind <;> simp

/-- A backslash and a quote are written behind backslashes; with one backslash too few the quote
behind it closes nothing. -/
theorem quoted_texts_are_carried_folder :
    QuotedAs '\'' "C:\\it's".toList "C:\\\\it\\'s".toList ∧
    Lexer.next ⟨'\'' :: ("C:\\\\it\\'s".toList ++ '\'' :: " \x7d\x7d".toList), .start, .tag .start⟩ =
      (.ok (some ⟨.literal (.text "C:\\it's"), .start⟩),
        ⟨" \x7d\x7d".toList, ⟨11, 1, 12⟩, .tag .start⟩) ∧
    (∀ front back, "C:\\' \x7d\x7d".toList = front ++ '\'' :: back →
      backslashesAtEnd front % 2 = 1) ∧
    Lexer.next ⟨'\'' :: "C:\\' \x7d\x7d".toList, .start, .tag .start⟩ =
      (.error (.unterminatedString .start),
        ⟨'\'' :: "C:\\' \x7d\x7d".toList, .start, .tag .start⟩) := by
  obtain ⟨hread, hopen⟩ := quoted_texts_are_carried .start .start '\'' (.inr rfl)
  have hbody : QuotedAs '\'' "C:\\it's".toList "C:\\\\it\\'s".toList :=
    .plain (by decide) (by decide) <| .plain (by decide) (by decide) <| .escaped (.inr rfl) <|
      .plain (by decide) (by decide) <| .plain (by decide) (by decide) <| .escaped (.inl rfl) <|
      .plain (by decide) (by decide) .nil
  have hescaped : AllEscaped '\'' "C:\\' \x7d\x7d".toList := by
    refine (allEscaped_cons_iff (by decide) (by decide) _).2 ?_
    refine (allEscaped_cons_iff (by decide) (by decide) _).2 ?_
    refine (allEscaped_backslash_iff (by decide) '\'' _).2 ?_
    exact allEscaped_of_notMem (by decide)
  exact ⟨hbody, (hread "C:\\it's").2 _ " \x7d\x7d".toList hbody, hescaped, (hopen _).2 hescaped⟩

end TextTemplate
