import TextTemplate.Text.HtmlEscape

/-!
# Escaped text

An escaped text has no character that could end a text or an attribute, and its ampersands are the
first characters of entities. Both are told of one character at a time.

## Main definitions

- `isMarkup` — the characters that begin or end tags and attributes
- `entities` — the entities that escaping writes
- `StartEntities` — a text whose ampersands all start entities
-/

namespace TextTemplate.Text

/-- The characters that begin or end tags and quoted attributes. -/
def isMarkup (c : Char) : Bool :=
  c == '<' || c == '>' || c == '"' || c == '\''

/-- The entities that escaping writes. -/
def entities : List String :=
  ["&amp;", "&lt;", "&gt;", "&quot;", "&#x27;"]

/-- Every ampersand of a text is the first character of an entity. -/
def StartEntities (cs : List Char) : Prop :=
  ∀ front rest, cs = front ++ '&' :: rest → ∃ entity ∈ entities, entity.toList <+: '&' :: rest

/-- A character is escaped as an entity, or stays as it is and is neither markup nor ampersand. -/
theorem escapeChar_cases (c : Char) :
    (∃ entity ∈ entities, escapeChar c = entity.toList) ∨
      (escapeChar c = [c] ∧ isMarkup c = false ∧ c ≠ '&') := by
  unfold escapeChar entity?
  by_cases hamp : c = '&'
  · exact .inl ⟨"&amp;", by simp [entities], by simp [hamp]⟩
  by_cases hlt : c = '<'
  · exact .inl ⟨"&lt;", by simp [entities], by simp [hlt]⟩
  by_cases hgt : c = '>'
  · exact .inl ⟨"&gt;", by simp [entities], by simp [hgt]⟩
  by_cases hquot : c = '"'
  · exact .inl ⟨"&quot;", by simp [entities], by simp [hquot]⟩
  by_cases hapos : c = '\''
  · exact .inl ⟨"&#x27;", by simp [entities], by simp [hapos]⟩
  refine .inr ⟨?_, ?_, hamp⟩
  · simp only [if_neg hamp, if_neg hlt, if_neg hgt, if_neg hquot, if_neg hapos]
  · simp [isMarkup, hlt, hgt, hquot, hapos]

theorem isMarkup_of_mem_entity {entity : String} (h : entity ∈ entities) :
    ∀ c ∈ entity.toList, isMarkup c = false := by
  simp only [entities, List.mem_cons, List.not_mem_nil, or_false] at h
  obtain rfl | rfl | rfl | rfl | rfl := h <;> simp [isMarkup]

/-- An entity starts with an ampersand, and has no other one. -/
theorem exists_of_mem_entities {entity : String} (h : entity ∈ entities) :
    ∃ tail, entity.toList = '&' :: tail ∧ '&' ∉ tail := by
  simp only [entities, List.mem_cons, List.not_mem_nil, or_false] at h
  obtain rfl | rfl | rfl | rfl | rfl := h <;> exact ⟨_, rfl, by decide⟩

/-- No character of an escaped text is markup. -/
theorem isMarkup_of_mem_escapeHtml {s : String} {c : Char} (h : c ∈ (escapeHtml s).toList) :
    isMarkup c = false := by
  rw [escapeHtml, String.toList_ofList] at h
  obtain ⟨d, -, hc⟩ := List.mem_flatMap.1 h
  obtain ⟨entity, hentity, heq⟩ | ⟨heq, hmarkup, -⟩ := escapeChar_cases d
  · rw [heq] at hc
    exact isMarkup_of_mem_entity hentity c hc
  · rw [heq, List.mem_singleton] at hc
    rwa [hc]

namespace StartEntities

theorem nil : StartEntities [] := by
  intro front rest h
  simp at h

theorem append {cs ds : List Char} (hcs : StartEntities cs) (hds : StartEntities ds) :
    StartEntities (cs ++ ds) := by
  intro front rest h
  obtain ⟨middle, rfl, hrest⟩ | ⟨middle, hcs', hrest⟩ := List.append_eq_append_iff.1 h
  · exact hds middle rest hrest
  · cases middle with
    | nil => exact hds [] rest (by simpa using hrest.symm)
    | cons c middle =>
      obtain ⟨rfl, rfl⟩ := List.cons.inj hrest
      obtain ⟨entity, hentity, hprefix⟩ := hcs front middle hcs'
      exact ⟨entity, hentity, hprefix.trans (List.prefix_append ('&' :: middle) ds)⟩

theorem escapeChar (c : Char) : StartEntities (escapeChar c) := by
  obtain ⟨entity, hentity, heq⟩ | ⟨heq, -, hne⟩ := escapeChar_cases c
  · obtain ⟨tail, htail, hnot⟩ := exists_of_mem_entities hentity
    intro front rest h
    rw [heq] at h
    cases front with
    | nil => exact ⟨entity, hentity, by rw [h]; exact List.prefix_rfl⟩
    | cons d front =>
      rw [htail] at h
      obtain ⟨-, rfl⟩ := List.cons.inj h
      exact absurd (by simp) hnot
  · intro front rest h
    rw [heq] at h
    have hmem : '&' ∈ [c] := by rw [h]; simp
    exact absurd (List.mem_singleton.1 hmem).symm hne

end StartEntities

/-- Every ampersand of an escaped text starts an entity. -/
theorem startEntities_escapeHtml (s : String) : StartEntities (escapeHtml s).toList := by
  rw [escapeHtml, String.toList_ofList]
  induction s.toList with
  | nil => exact .nil
  | cons c cs ih =>
    rw [List.flatMap_cons]
    exact (StartEntities.escapeChar c).append ih

end TextTemplate.Text
