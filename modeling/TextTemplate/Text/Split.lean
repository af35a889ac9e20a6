/-!
# Cutting texts

Texts are cut at a marker or at a separating character.

## Main definitions

- `cutAt` — the text before the first occurrence of a marker, and the text from there on
- `cutAtLast` — the same at the last occurrence
- `splitOn` — the parts between occurrences of a separator
-/

namespace TextTemplate.Text

/-- The text before the first occurrence of `marker`, and the text that begins with it, if there is
one. -/
def cutAt (marker : List Char) : List Char → Option (List Char × List Char)
  | [] => if marker.isEmpty then some ([], []) else none
  | c :: cs =>
    if marker.isPrefixOf (c :: cs) then some ([], c :: cs)
    else (cutAt marker cs).map fun (before, found) => (c :: before, found)

/-- The text before the last occurrence of `marker`, and the text that begins with it, if there is
one. -/
def cutAtLast (marker : List Char) : List Char → Option (List Char × List Char)
  | [] => if marker.isEmpty then some ([], []) else none
  | c :: cs =>
    match cutAtLast marker cs with
    | some (before, found) => some (c :: before, found)
    | none => if marker.isPrefixOf (c :: cs) then some ([], c :: cs) else none

/-- The parts of a text between the occurrences of `separator`: always one more than there are
separators. -/
def splitOn (separator : Char) : List Char → List (List Char)
  | [] => [[]]
  | c :: cs =>
    if c = separator then [] :: splitOn separator cs
    else match splitOn separator cs with
      | [] => [[c]]
      | part :: parts => (c :: part) :: parts

theorem splitOn_ne_nil (separator : Char) (cs : List Char) : splitOn separator cs ≠ [] := by
  cases cs with
  | nil => simp [splitOn]
  | cons c cs =>
    unfold splitOn
    split
    · simp
    · split <;> simp

/-- What `cutAt` separates is the whole text. -/
theorem append_of_cutAt {marker cs before found : List Char}
    (h : cutAt marker cs = some (before, found)) : before ++ found = cs := by
  induction cs generalizing before with
  | nil =>
    simp only [cutAt] at h
    split at h
    · simp_all
    · simp at h
  | cons c cs ih =>
    simp only [cutAt] at h
    split at h
    · simp_all
    · obtain ⟨⟨b, f⟩, hcut, heq⟩ := Option.map_eq_some_iff.1 h
      cases heq
      simp [ih hcut]

/-- What `cutAt` finds begins with the marker. -/
theorem isPrefixOf_of_cutAt {marker cs before found : List Char}
    (h : cutAt marker cs = some (before, found)) : marker.isPrefixOf found = true := by
  induction cs generalizing before with
  | nil =>
    simp only [cutAt] at h
    split at h
    · simp_all
    · simp at h
  | cons c cs ih =>
    simp only [cutAt] at h
    split at h
    · simp_all
    · obtain ⟨⟨b, f⟩, hcut, heq⟩ := Option.map_eq_some_iff.1 h
      cases heq
      exact ih hcut

theorem append_of_cutAtLast {marker cs before found : List Char}
    (h : cutAtLast marker cs = some (before, found)) : before ++ found = cs := by
  induction cs generalizing before with
  | nil =>
    simp only [cutAtLast] at h
    split at h
    · simp_all
    · simp at h
  | cons c cs ih =>
    simp only [cutAtLast] at h
    split at h
    · next b f hcut =>
      cases h
      simp [ih hcut]
    · split at h
      · simp_all
      · simp at h

end TextTemplate.Text
