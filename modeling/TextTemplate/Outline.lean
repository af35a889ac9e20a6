import TextTemplate.Item

/-!
# Open blocks

Items are put together from left to right. An outline holds the blocks that are still open, and for
each of them what has been read around and inside it.

## Main definitions

- `Frame`, `Outline` — an open block, and all that has been read so far
- `Outline.add` — the outline with one more item
- `Outline.Adds` — the same as a relation with a case for each item
- `Outline.finish` — the nodes of a template that ends here
-/

namespace TextTemplate

/-- An open block: the nodes before it, last first, and its main branch once the other has begun. -/
structure Frame where
  kind : BlockKind
  name : String
  opened : Position
  before : List Node
  consequent? : Option (List Node)

/-- The open blocks, innermost first, and the nodes of the branch being read, last first. -/
structure Outline where
  frames : List Frame
  nodes : List Node

/-- The block that a frame and the nodes of its last branch, last first, make up. -/
def Frame.close (frame : Frame) (nodes : List Node) : Node :=
  match frame.consequent? with
  | none => .block frame.kind frame.name nodes.reverse none
  | some consequent => .block frame.kind frame.name consequent (some nodes.reverse)

namespace Outline

/-- Before the first item. -/
def empty : Outline := ⟨[], []⟩

/-- The outline with one more item, where at most `limit` blocks may be open. -/
def add (limit : Nat) (outline : Outline) : Item → Except ParseError Outline
  | .node n => .ok { outline with nodes := n :: outline.nodes }
  | .comment => .ok outline
  | .opener kind name position =>
    if limit ≤ outline.frames.length then .error (.nestingTooDeep name position limit)
    else .ok ⟨⟨kind, name, position, outline.nodes, none⟩ :: outline.frames, []⟩
  | .otherwise position =>
    match outline.frames with
    | [] => .error (.strayElse position)
    | frame :: frames =>
      match frame.consequent? with
      | some _ => .error (.duplicateElse position)
      | none => .ok ⟨{ frame with consequent? := some outline.nodes.reverse } :: frames, []⟩
  | .closer name position =>
    match outline.frames with
    | [] => .error (.strayClose name position)
    | frame :: frames =>
      if frame.name = name then .ok ⟨frames, frame.close outline.nodes :: frame.before⟩
      else .error (.mismatchedBlock frame.name name frame.opened position)

/-- The ways to take an item into an outline, where at most `limit` blocks may be open. -/
inductive Adds (limit : Nat) : Outline → Item → Outline → Prop
  | node (frames : List Frame) (nodes : List Node) (n : Node) :
      Adds limit ⟨frames, nodes⟩ (.node n) ⟨frames, n :: nodes⟩
  | comment (outline : Outline) : Adds limit outline .comment outline
  | opener {frames : List Frame} (nodes : List Node) (kind : BlockKind) (name : String)
      (position : Position) :
      frames.length < limit →
      Adds limit ⟨frames, nodes⟩ (.opener kind name position)
        ⟨⟨kind, name, position, nodes, none⟩ :: frames, []⟩
  | otherwise {frame : Frame} (frames : List Frame) (nodes : List Node) (position : Position) :
      frame.consequent? = none →
      Adds limit ⟨frame :: frames, nodes⟩ (.otherwise position)
        ⟨{ frame with consequent? := some nodes.reverse } :: frames, []⟩
  | closer (frame : Frame) (frames : List Frame) (nodes : List Node) (position : Position) :
      Adds limit ⟨frame :: frames, nodes⟩ (.closer frame.name position)
        ⟨frames, frame.close nodes :: frame.before⟩

theorem adds_of_add {limit : Nat} {outline outline' : Outline} {item : Item}
    (h : outline.add limit item = .ok outline') : Adds limit outline item outline' := by
  obtain ⟨frames, nodes⟩ := outline
  cases item with
  | node n => cases h; exact .node frames nodes n
  | comment => cases h; exact .comment _
  | opener kind name position =>
    simp only [add] at h
    split at h
    · simp at h
    · next hlimit =>
      cases h
      exact .opener nodes kind name position (Nat.lt_of_not_le hlimit)
  | otherwise position =>
    cases frames with
    | nil => simp [add] at h
    | cons frame frames =>
      simp only [add] at h
      split at h
      · simp at h
      · next hnone =>
        cases h
        exact .otherwise frames nodes position hnone
  | closer name position =>
    cases frames with
    | nil => simp [add] at h
    | cons frame frames =>
      simp only [add] at h
      split at h
      · next hname =>
        cases h
        subst hname
        exact .closer frame frames nodes position
      · simp at h

theorem add_of_adds {limit : Nat} {outline outline' : Outline} {item : Item}
    (h : Adds limit outline item outline') : outline.add limit item = .ok outline' := by
  cases h with
  | node => rfl
  | comment => rfl
  | opener nodes kind name position hlimit =>
    simp only [add]
    rw [if_neg (Nat.not_le_of_lt hlimit)]
  | otherwise frames nodes position hnone => simp only [add, hnone]
  | closer frame frames nodes position => simp only [add, if_true]

/-- The nodes of a template that ends here, where no block may be open. -/
def finish (outline : Outline) : Except ParseError (List Node) :=
  match outline.frames with
  | [] => .ok outline.nodes.reverse
  | frame :: _ => .error (.unclosedBlock frame.name frame.opened)

end Outline

end TextTemplate
