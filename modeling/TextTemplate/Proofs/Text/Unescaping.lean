import TextTemplate.Output
import TextTemplate.Proofs.Text.HtmlEscape

/-!
# Reading escaped texts

An escaped text still says what was escaped: entities are read back from left to right, each as the
character that it stands for. A text is escaped piece by piece, so the items of a sequence can be
escaped before or after they are joined.

## Main definitions

- `unescapeHtml` — a text with its entities read back
- `escapeIfNeeded` — escaping that leaves texts alone in which nothing is to be escaped

## Main statements

- `escaping_is_faithful` — escaped texts are safe, read back, and made piece by piece
-/

namespace TextTemplate

namespace Text

/-- A text with its entities read back, from left to right; an ampersand that begins none stays. -/
def unescapeHtml : List Char → List Char
  | '&' :: 'a' :: 'm' :: 'p' :: ';' :: cs => '&' :: unescapeHtml cs
  | '&' :: 'l' :: 't' :: ';' :: cs => '<' :: unescapeHtml cs
  | '&' :: 'g' :: 't' :: ';' :: cs => '>' :: unescapeHtml cs
  | '&' :: 'q' :: 'u' :: 'o' :: 't' :: ';' :: cs => '"' :: unescapeHtml cs
  | '&' :: '#' :: 'x' :: '2' :: '7' :: ';' :: cs => '\'' :: unescapeHtml cs
  | c :: cs => c :: unescapeHtml cs
  | [] => []

/-- The characters that are written as entities. -/
def special : List Char :=
  ['&', '<', '>', '"', '\'']

/-- Escapes a text if it has a character that is written as an entity. -/
def escapeIfNeeded (text : String) : String :=
  if text.toList.any (· ∈ special) then escapeHtml text else text

theorem unescapeHtml_of_ne {c : Char} (h : c ≠ '&') (cs : List Char) :
    unescapeHtml (c :: cs) = c :: unescapeHtml cs := by
  rw [unescapeHtml] <;> simp [h]

/-- A character is written as itself unless it is special. -/
theorem escapeChar_of_notMem {c : Char} (h : c ∉ special) : escapeChar c = [c] := by
  simp only [special, List.mem_cons, List.not_mem_nil, or_false, not_or] at h
  obtain ⟨hamp, hlt, hgt, hquot, hapos⟩ := h
  simp only [escapeChar, entity?, if_neg hamp, if_neg hlt, if_neg hgt, if_neg hquot, if_neg hapos]

/-- An escaped character is read back, whatever follows. -/
theorem unescapeHtml_escapeChar (c : Char) (cs : List Char) :
    unescapeHtml (escapeChar c ++ cs) = c :: unescapeHtml cs := by
  by_cases hspecial : c ∈ special
  · simp only [special, List.mem_cons, List.not_mem_nil, or_false] at hspecial
    obtain rfl | rfl | rfl | rfl | rfl := hspecial <;> rfl
  · rw [escapeChar_of_notMem hspecial, List.singleton_append]
    apply unescapeHtml_of_ne
    rintro rfl
    exact hspecial List.mem_cons_self

theorem unescapeHtml_escapeHtml (s : String) : unescapeHtml (escapeHtml s).toList = s.toList := by
  rw [escapeHtml, String.toList_ofList]
  induction s.toList with
  | nil => rfl
  | cons c cs ih => rw [List.flatMap_cons, unescapeHtml_escapeChar, ih]

theorem escapeHtml_injective : Function.Injective escapeHtml := by
  intro s t h
  have hread := congrArg (fun text => unescapeHtml text.toList) h
  simp only [unescapeHtml_escapeHtml] at hread
  exact String.toList_inj.1 hread

/-- Where nothing is special, escaping changes nothing. -/
theorem escapeHtml_of_plain {s : String} (h : ∀ c ∈ s.toList, c ∉ special) : escapeHtml s = s := by
  have hchars : ∀ cs : List Char, (∀ c ∈ cs, c ∉ special) → cs.flatMap escapeChar = cs := by
    intro cs hcs
    induction cs with
    | nil => rfl
    | cons c cs ih =>
      obtain ⟨hc, hcs⟩ := List.forall_mem_cons.1 hcs
      rw [List.flatMap_cons, escapeChar_of_notMem hc, ih hcs, List.singleton_append]
  rw [escapeHtml, hchars _ h, String.ofList_toList]

theorem escapeIfNeeded_eq (s : String) : escapeIfNeeded s = escapeHtml s := by
  unfold escapeIfNeeded
  split
  · rfl
  · next h =>
    refine (escapeHtml_of_plain fun c hc hspecial => h ?_).symm
    exact List.any_eq_true.2 ⟨c, hc, decide_eq_true hspecial⟩

/-- Joined texts can be escaped one by one where their separator stays as it is. -/
theorem escapeHtml_intercalate {sep : String} (hsep : escapeHtml sep = sep) (parts : List String) :
    escapeHtml (sep.intercalate parts) = sep.intercalate (parts.map escapeHtml) := by
  induction parts with
  | nil => rfl
  | cons part parts ih =>
    cases parts with
    | nil => simp
    | cons next parts =>
      simp only [List.map_cons, String.intercalate_cons_cons, escapeHtml_append, hsep] at ih ⊢
      rw [ih]

end Text

open Text

theorem Value.displayItems_eq_map (items : List Value) :
    displayItems items = items.map display := by
  induction items with
  | nil => rfl
  | cons item items ih => rw [displayItems, ih, List.map_cons]

/-- An escaped text has no markup, and all its ampersands start entities. Its entities, read from
left to right, say what was escaped, so texts that differ are escaped differently. Two texts are
escaped one behind the other, and a text in which nothing is special stays as it is. What a sequence
interpolates as is escaped item by item. -/
theorem escaping_is_faithful (s t : String) (items : List Value) :
    (∀ c ∈ (escapeHtml s).toList, c ∉ ['<', '>', '"', '\'']) ∧
    (∀ front rest, (escapeHtml s).toList = front ++ '&' :: rest →
      ∃ entity ∈ ["&amp;", "&lt;", "&gt;", "&quot;", "&#x27;"],
        entity.toList <+: '&' :: rest) ∧
    String.ofList (unescapeHtml (escapeHtml s).toList) = s ∧
    (escapeHtml s = escapeHtml t ↔ s = t) ∧
    escapeHtml (s ++ t) = escapeHtml s ++ escapeHtml t ∧
    escapeIfNeeded s = escapeHtml s ∧
    escapeHtml (Value.sequence items).display =
      ",".intercalate (items.map fun item => escapeHtml item.display) := by
  refine ⟨fun c hc => ?_, startEntities_escapeHtml s, ?_, escapeHtml_injective.eq_iff,
    escapeHtml_append s t, escapeIfNeeded_eq s, ?_⟩
  · have hmarkup := isMarkup_of_mem_escapeHtml hc
    simpa [isMarkup, and_assoc] using hmarkup
  · rw [unescapeHtml_escapeHtml, String.ofList_toList]
  · have hcomma : escapeHtml "," = "," := rfl
    rw [Value.display, Value.displayItems_eq_map, escapeHtml_intercalate hcomma, List.map_map]
    rfl

/-- An entity in a text is escaped once more, so it is told from the character it stands for. -/
theorem escaping_is_faithful_entity :
    (escapeHtml "&lt;<").toList = [] ++ '&' :: "amp;lt;&lt;".toList ∧
    (∃ entity ∈ ["&amp;", "&lt;", "&gt;", "&quot;", "&#x27;"],
      entity.toList <+: '&' :: "amp;lt;&lt;".toList) ∧
    String.ofList (unescapeHtml (escapeHtml "&lt;<").toList) = "&lt;<" ∧
    (escapeHtml "&lt;<" = escapeHtml "<&lt;" ↔ "&lt;<" = "<&lt;") ∧
    escapeHtml (Value.sequence [.text "&lt;<", .sequence [.boolean true, .text "'"]]).display =
      ",".intercalate ["&amp;lt;&lt;", "true,&#x27;"] := by
  obtain ⟨-, hentity, hread, hinjective, -, -, hitems⟩ := escaping_is_faithful "&lt;<" "<&lt;"
    [.text "&lt;<", .sequence [.boolean true, .text "'"]]
  have htext : (escapeHtml "&lt;<").toList = [] ++ '&' :: "amp;lt;&lt;".toList := by decide
  refine ⟨htext, hentity _ _ htext, hread, hinjective, hitems.trans ?_⟩
  decide

end TextTemplate
