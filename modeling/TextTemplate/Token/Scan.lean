import TextTemplate.Text.Alphabetic
import TextTemplate.Text.Blank
import TextTemplate.Text.Numeric
import TextTemplate.Text.CharLiteral
import TextTemplate.Text.Digits
import TextTemplate.Text.Split
import TextTemplate.Token.Basic

/-!
# The token at the start of a text

Outside a tag a token is a marker or the text up to one. Inside a tag its first character decides
what it is: a marker, a word, a quoted or numeric literal, a comment or the name of a partial.

## Main definitions

- `LexError` — why no token can be read
- `Scan` — a token, the slice of text it takes, and the text behind it
- `scanText?` — the token at the start of a text outside a tag
- `scanTag` — the token at the start of a text inside a tag
- `ScansTag` — the same as a relation with a case for each kind of token
-/

namespace TextTemplate

open Text

/-- Why no token can be read. -/
inductive LexError
  | unterminated (opened : Position)
  | unparseable (position : Position) (found : Char)
  | unterminatedString (position : Position)
  | unexpectedClose (position : Position)
  deriving DecidableEq, Repr

namespace LexError

/-- The place an error points at. -/
def position : LexError → Position
  | unterminated p | unparseable p _ | unterminatedString p | unexpectedClose p => p

/-- The message of an error. -/
def message : LexError → String
  | unterminated p => "unterminated expression opened at " ++ p.text
  | unparseable p found =>
    "unparseable token in expression at " ++ p.text ++ ": " ++ quoteChar found
  | unterminatedString p => "unterminated string literal at " ++ p.text
  | unexpectedClose p => "unexpected `\x7d` at " ++ p.text

end LexError

/-- A token read at the start of a text: the slice it takes and the text behind it. -/
structure Scan where
  token : Token
  slice : List Char
  rest : List Char

/-- The characters of a word. -/
def isWordChar (c : Char) : Bool :=
  isAlphabetic c || isNumeric c || c = '_' || c = '-' || c = '.' || c = '/' || c = '@'

/-- The marks of a block word: opening, negated, closing. -/
def isBlockMark (c : Char) : Bool :=
  c = '#' || c = '^' || c = '/'

/-- The characters a word can start with. -/
def isWordStart (c : Char) : Bool :=
  isBlockMark c || isAlphabetic c || c = '_' || c = '@' || c = '.'

/-- The markers of a tag and of a comment that may contain markers. -/
def openMarker : List Char := ['\x7b', '\x7b']

@[inherit_doc openMarker]
def closeMarker : List Char := ['\x7d', '\x7d']

@[inherit_doc openMarker]
def longCommentEnd : List Char := ['-', '-', '\x7d', '\x7d']

/-- The token at the start of a text outside a tag: a marker, or the text up to the next one. -/
def scanText? : List Char → Option Scan
  | [] => none
  | '\x7b' :: '\x7b' :: '\x7b' :: rest =>
    some ⟨.startTag false, ['\x7b', '\x7b', '\x7b'], rest⟩
  | '\x7b' :: '\x7b' :: rest => some ⟨.startTag true, openMarker, rest⟩
  | cs =>
    let (before, found) := (cutAt openMarker cs).getD (cs, [])
    some ⟨.text (String.ofList before), before, found⟩

/-- The token that a word spells: three words are literals. -/
def wordToken (word : String) : Token :=
  if word = "true" then .literal (.boolean true)
  else if word = "false" then .literal (.boolean false)
  else if word = "null" then .literal .null
  else .word word

/-- The longest word with a given first character. -/
def scanWord (first : Char) (cs : List Char) : Scan :=
  let slice := first :: cs.takeWhile isWordChar
  ⟨wordToken (String.ofList slice), slice, cs.dropWhile isWordChar⟩

/-- The character that a backslash and a letter stand for: any other letter is itself. -/
def unescape (c : Char) : Char :=
  if c = 'n' then '\n' else if c = 't' then '\t' else c

/-- The text up to the closing quote, the slice that spells it with its closing quote, and the text
behind it. -/
def scanQuoted? (quote : Char) : List Char → Option (List Char × List Char × List Char)
  | [] => none
  | c :: cs =>
    if c = quote then some ([], [c], cs)
    else if c = '\\' then
      match cs with
      | [] => none
      | e :: cs =>
        (scanQuoted? quote cs).map fun (value, slice, rest) =>
          (unescape e :: value, c :: e :: slice, rest)
    else
      (scanQuoted? quote cs).map fun (value, slice, rest) => (c :: value, c :: slice, rest)

/-- The whole number that digits spell if it has 64 bits with a sign, the nearest double if not. -/
def wholeNumber? (negative : Bool) (digits : List Char) : Option Number :=
  let magnitude := decimalValue digits
  let n : Int := if negative then -magnitude else magnitude
  if Number.isSigned64 n then some (.integer n)
  else (Binary64.ofNat? negative magnitude).map .float

/-- The fraction at the start of a text: a point with digits behind it. -/
def fractionDigits : List Char → List Char
  | '.' :: cs => cs.takeWhile Char.isDigit
  | _ => []

/-- A number: digits behind an optional minus sign, with a fraction if digits follow a point. -/
def scanNumber? (cs : List Char) : Option Scan :=
  let (sign, unsigned) := match cs with
    | '-' :: rest => (['-'], rest)
    | _ => ([], cs)
  let whole := unsigned.takeWhile Char.isDigit
  let rest := unsigned.dropWhile Char.isDigit
  let fraction := fractionDigits rest
  let negative := !sign.isEmpty
  if whole.isEmpty then none
  else if fraction.isEmpty then
    (wholeNumber? negative whole).map fun n => ⟨.literal (.number n), sign ++ whole, rest⟩
  else
    (Binary64.ofDecimal? negative (decimalValue (whole ++ fraction)) fraction.length).map fun x =>
      ⟨.literal (.number (.float x)), sign ++ whole ++ '.' :: fraction,
        rest.drop (fraction.length + 1)⟩

/-- A comment behind its mark. One that begins with two dashes ends at two dashes and a marker, any
other at a marker; the marker is not part of it. -/
def scanComment? : List Char → Option Scan
  | '-' :: '-' :: cs =>
    (cutAt longCommentEnd cs).map fun (body, found) =>
      ⟨.comment (String.ofList body), '!' :: '-' :: '-' :: body ++ ['-', '-'], found.drop 2⟩
  | cs =>
    (cutAt closeMarker cs).map fun (body, found) =>
      ⟨.comment (String.ofList body), '!' :: body, found⟩

/-- The name of a partial behind its mark and blanks. -/
def scanPartial? (cs : List Char) : Option Scan :=
  let blanks := cs.takeWhile isBlank
  let rest := cs.dropWhile isBlank
  let name := rest.takeWhile isWordChar
  if name.isEmpty then none
  else some ⟨.partialRef (String.ofList name), '>' :: blanks ++ name, rest.dropWhile isWordChar⟩

/-- The token at the start of a text inside a tag, at a position, of a tag opened at another. -/
def scanTag (opened position : Position) : List Char → Except LexError Scan
  | [] => .error (.unterminated opened)
  | c :: cs =>
    if c = '\x7d' then
      match cs with
      | '\x7d' :: '\x7d' :: rest => .ok ⟨.endTag false, ['\x7d', '\x7d', '\x7d'], rest⟩
      | '\x7d' :: rest => .ok ⟨.endTag true, closeMarker, rest⟩
      | _ => .error (.unexpectedClose position)
    else if isWordStart c then .ok (scanWord c cs)
    else if c = '"' || c = '\'' then
      match scanQuoted? c cs with
      | some (value, slice, rest) =>
        .ok ⟨.literal (.text (String.ofList value)), c :: slice, rest⟩
      | none => .error (.unterminatedString position)
    else if c = '!' then
      match scanComment? cs with
      | some scan => .ok scan
      | none => .error (.unterminated opened)
    else
      match (if c = '>' then scanPartial? cs else scanNumber? (c :: cs)) with
      | some scan => .ok scan
      | none => .error (.unparseable position c)

/-- The ways to scan the start of a text inside a tag. -/
inductive ScansTag : List Char → Scan → Prop
  | endTriple (rest : List Char) :
      ScansTag ('\x7d' :: '\x7d' :: '\x7d' :: rest)
        ⟨.endTag false, ['\x7d', '\x7d', '\x7d'], rest⟩
  | endDouble {rest : List Char} :
      rest.head? ≠ some '\x7d' →
      ScansTag ('\x7d' :: '\x7d' :: rest) ⟨.endTag true, closeMarker, rest⟩
  | word {c : Char} (cs : List Char) :
      isWordStart c = true → ScansTag (c :: cs) (scanWord c cs)
  | quoted {c : Char} {cs value slice rest : List Char} :
      c = '"' ∨ c = '\'' → scanQuoted? c cs = some (value, slice, rest) →
      ScansTag (c :: cs) ⟨.literal (.text (String.ofList value)), c :: slice, rest⟩
  | comment {cs : List Char} {scan : Scan} :
      scanComment? cs = some scan → ScansTag ('!' :: cs) scan
  | partialRef {cs : List Char} {scan : Scan} :
      scanPartial? cs = some scan → ScansTag ('>' :: cs) scan
  | number {c : Char} {cs : List Char} {scan : Scan} :
      isWordStart c = false → c ∉ ['\x7d', '"', '\'', '!', '>'] →
      scanNumber? (c :: cs) = some scan → ScansTag (c :: cs) scan

theorem scanTag_of_scansTag {cs : List Char} {scan : Scan} (h : ScansTag cs scan)
    (opened position : Position) : scanTag opened position cs = .ok scan := by
  cases h with
  | endTriple rest => rfl
  | @endDouble rest hrest =>
    cases rest with
    | nil => rfl
    | cons c rest =>
      have hc : c ≠ '\x7d' := by simpa using hrest
      simp [scanTag, hc]
  | @word c cs hstart =>
    have hbrace : c ≠ '\x7d' := by
      rintro rfl
      exact absurd hstart (by decide)
    simp only [scanTag, if_neg hbrace, if_pos hstart]
  | quoted hquote hscan =>
    have hbrace : ∀ d, d = '"' ∨ d = '\'' → d ≠ '\x7d' ∧ isWordStart d = false := by
      rintro d (rfl | rfl) <;> decide
    obtain ⟨hbrace, hstart⟩ := hbrace _ hquote
    simp [scanTag, hbrace, hstart, hquote, hscan]
  | comment hscan =>
    have hstart : isWordStart '!' = false := by decide
    simp [scanTag, hstart, hscan]
  | partialRef hscan =>
    have hstart : isWordStart '>' = false := by decide
    simp [scanTag, hstart, hscan]
  | number hstart hother hscan =>
    simp only [List.mem_cons, List.not_mem_nil, or_false, not_or] at hother
    obtain ⟨hbrace, hquote, hquote', hbang, hangle⟩ := hother
    simp [scanTag, hbrace, hstart, hquote, hquote', hbang, hangle, hscan]

theorem scansTag_of_scanTag {opened position : Position} {cs : List Char} {scan : Scan}
    (h : scanTag opened position cs = .ok scan) : ScansTag cs scan := by
  cases cs with
  | nil => cases h
  | cons c cs =>
    unfold scanTag at h
    simp only at h
    split at h
    · next hbrace =>
      subst hbrace
      split at h
      · cases h
        exact .endTriple _
      · next rest hthird =>
        cases h
        apply ScansTag.endDouble
        cases rest with
        | nil => simp
        | cons d rest =>
          intro heq
          cases heq
          exact hthird rest rfl
      · cases h
    next hbrace =>
    split at h
    · next hstart =>
      cases h
      exact .word cs hstart
    next hstart =>
    split at h
    · next hquote =>
      split at h
      · next hscan =>
        cases h
        exact .quoted (by simpa using hquote) hscan
      · cases h
    next hquote =>
    split at h
    · next hbang =>
      subst hbang
      split at h
      · next hscan =>
        cases h
        exact .comment hscan
      · cases h
    next hbang =>
    split at h
    · next hscan =>
      cases h
      split at hscan
      · next hangle =>
        subst hangle
        exact .partialRef hscan
      · next hangle =>
        refine .number (by simpa using hstart) ?_ hscan
        simp only [Bool.or_eq_true, decide_eq_true_eq, not_or] at hquote
        simp only [List.mem_cons, List.not_mem_nil, or_false, not_or]
        exact ⟨hbrace, hquote.1, hquote.2, hbang, hangle⟩
    · cases h

end TextTemplate
