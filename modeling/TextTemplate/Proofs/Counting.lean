import TextTemplate.Proofs.Descent

/-!
# A parser that counts open blocks

Recursive descent can keep the number of open blocks in the parser itself: the count goes up when
the branches of a block are entered and down when they are left, also where a fault ends them. So
every call that returns leaves the count as it found it, however it ended, and a parser that counts
reads as one that is told how many blocks are open.

## Main definitions

- `Counting.Counted` — a result, the lexer behind what was read for it, and the count there
- `Counting.nodes`, `Counting.body`, `Counting.branches` — the nodes of a branch, and a block behind
  its opener
- `CountingParser`, `CountingParser.parse` — a parser with a count, and the nodes up to the end of
  the source

## Main statements

- `CountingParser.parse_eq` — a parser that has no blocks open reads as it does without a count, and
  has none open behind what it reads
-/

namespace TextTemplate

namespace Counting

open Descent (before close)

/-- A result, the lexer behind what was read for it, and the number of blocks that count as open
there. -/
structure Counted (α : Type) (l : Lexer) extends Descent.Outcome α l where
  depth : Nat

mutual

/-- The nodes ahead and what ends them. -/
def nodes (limit depth : Nat) (l : Lexer) : Counted (List Node × Stop) l :=
  match h : l.nextItem with
  | (.error e, l') => ⟨⟨.error e, l', by simpa [h] using l.length_rest_of_nextItem_le⟩, depth⟩
  | (.ok none, l') =>
    ⟨⟨.ok ([], .source), l', by simpa [h] using l.length_rest_of_nextItem_le⟩, depth⟩
  | (.ok (some item), l') =>
    have hlt : l'.rest.length < l.rest.length := Lexer.length_rest_of_nextItem h
    match item with
    | .node n =>
      let more := nodes limit depth l'
      ⟨(more.bind (before n)).from (Nat.le_of_lt hlt), more.depth⟩
    | .comment =>
      let more := nodes limit depth l'
      ⟨more.from (Nat.le_of_lt hlt), more.depth⟩
    | .otherwise position => ⟨⟨.ok ([], .otherwise position), l', Nat.le_of_lt hlt⟩, depth⟩
    | .closer name position => ⟨⟨.ok ([], .closer name position), l', Nat.le_of_lt hlt⟩, depth⟩
    | .opener kind name position =>
      match body limit depth kind name position l' with
      | ⟨⟨.error e, l'', hle⟩, depth⟩ =>
        ⟨⟨.error e, l'', Nat.le_trans hle (Nat.le_of_lt hlt)⟩, depth⟩
      | ⟨⟨.ok n, l'', hle⟩, depth⟩ =>
        let more := nodes limit depth l''
        ⟨(more.bind (before n)).from (Nat.le_trans hle (Nat.le_of_lt hlt)), more.depth⟩
termination_by 3 * l.rest.length
decreasing_by
  all_goals omega

/-- The block whose opener has been read, unless as many are open as the limit allows. It counts as
open while its branches are read. -/
def body (limit depth : Nat) (kind : BlockKind) (name : String) (opened : Position) (l : Lexer) :
    Counted Node l :=
  if limit ≤ depth then ⟨⟨.error (.nestingTooDeep name opened limit), l, Nat.le_refl _⟩, depth⟩
  else
    let block := branches limit (depth + 1) kind name opened l
    ⟨block.toOutcome, block.depth - 1⟩
termination_by 3 * l.rest.length + 2

/-- The block whose branches lie ahead. -/
def branches (limit depth : Nat) (kind : BlockKind) (name : String) (opened : Position)
    (l : Lexer) : Counted Node l :=
  match nodes limit depth l with
  | ⟨⟨.error e, l', hle⟩, depth⟩ => ⟨⟨.error e, l', hle⟩, depth⟩
  | ⟨⟨.ok (consequent, .otherwise _), l', hle⟩, depth⟩ =>
    let other := nodes limit depth l'
    ⟨(other.bind fun (alternate, stop) =>
      close kind name opened consequent (some alternate) stop).from hle, other.depth⟩
  | ⟨⟨.ok (consequent, stop), l', hle⟩, depth⟩ =>
    ⟨⟨close kind name opened consequent none stop, l', hle⟩, depth⟩
termination_by 3 * l.rest.length + 1
decreasing_by
  all_goals omega

end

/-- What the nodes of a source come to, by what ends them: nothing but the end of the source may. -/
def finish : List Node × Stop → Except ParseError (List Node)
  | (nodes, .source) => .ok nodes
  | (_, .otherwise position) => .error (.strayElse position)
  | (_, .closer name position) => .error (.strayClose name position)

end Counting

/-- A parser, and the number of blocks that count as open. -/
structure CountingParser extends Parser where
  depth : Nat

namespace CountingParser

/-- A parser at the start of a source, with no block open. -/
def ofSource (source : String) (limit : Nat) : CountingParser :=
  ⟨.ofSource source limit, 0⟩

/-- The nodes up to the end of the source, and the parser behind what was read. -/
def parse (p : CountingParser) : Except ParseError (List Node) × CountingParser :=
  let counted := Counting.nodes p.limit p.depth p.lexer
  let outcome := counted.bind Counting.finish
  (outcome.result, ⟨{ p.toParser with lexer := outcome.lexer }, counted.depth⟩)

end CountingParser

-- ════════════════════════════════════════════════════════════════════════
-- The count is left as it was found
-- ════════════════════════════════════════════════════════════════════════

namespace Counting

open Descent (before)

variable {limit depth : Nat} {l l' : Lexer}

theorem nodes_of_error {e : ParseError} (h : l.nextItem = (.error e, l'))
    (hle : l'.rest.length ≤ l.rest.length) : nodes limit depth l = ⟨⟨.error e, l', hle⟩, depth⟩ := by
  rw [nodes]
  split
  all_goals
    next hitem =>
    rw [h] at hitem
    cases hitem <;> rfl

theorem nodes_of_none (h : l.nextItem = (.ok none, l')) (hle : l'.rest.length ≤ l.rest.length) :
    nodes limit depth l = ⟨⟨.ok ([], .source), l', hle⟩, depth⟩ := by
  rw [nodes]
  split
  all_goals
    next hitem =>
    rw [h] at hitem
    cases hitem <;> rfl

theorem nodes_of_item {item : Item} (h : l.nextItem = (.ok (some item), l'))
    (hle : l'.rest.length ≤ l.rest.length) :
    nodes limit depth l =
      match item with
      | .node n => ⟨((nodes limit depth l').bind (before n)).from hle, (nodes limit depth l').depth⟩
      | .comment => ⟨(nodes limit depth l').from hle, (nodes limit depth l').depth⟩
      | .otherwise position => ⟨⟨.ok ([], .otherwise position), l', hle⟩, depth⟩
      | .closer name position => ⟨⟨.ok ([], .closer name position), l', hle⟩, depth⟩
      | .opener kind name position =>
        match body limit depth kind name position l' with
        | ⟨⟨.error e, l'', hle'⟩, depth⟩ => ⟨⟨.error e, l'', Nat.le_trans hle' hle⟩, depth⟩
        | ⟨⟨.ok n, l'', hle'⟩, depth⟩ =>
          ⟨((nodes limit depth l'').bind (before n)).from (Nat.le_trans hle' hle),
            (nodes limit depth l'').depth⟩ := by
  rw [nodes]
  split
  all_goals
    next hitem =>
    rw [h] at hitem
    cases hitem <;> cases item <;> rfl

/-- From a lexer on, the nodes are read as by descent that does not count, and the count is left as
it was found. -/
def Keeps (limit : Nat) (l : Lexer) : Prop :=
  ∀ depth, nodes limit depth l = ⟨Descent.nodes limit depth l, depth⟩

/-- A block that is entered is left again, whatever its branches come to. -/
theorem body_eq (hkeeps : ∀ l' : Lexer, l'.rest.length ≤ l.rest.length → Keeps limit l')
    (depth : Nat) (kind : BlockKind) (name : String) (opened : Position) :
    body limit depth kind name opened l =
      ⟨Descent.block limit depth kind name opened l, depth⟩ := by
  rw [body, Descent.block]
  split
  · rfl
  rw [branches, hkeeps l (Nat.le_refl _)]
  generalize Descent.nodes limit (depth + 1) l = main
  obtain ⟨result, l₁, hle⟩ := main
  obtain e | ⟨consequent, stop⟩ := result
  · rfl
  · cases stop with
    | source => rfl
    | closer closed position => rfl
    | otherwise position => simp only [hkeeps l₁ hle (depth + 1), Nat.add_sub_cancel]

/-- Every call leaves the count as it found it. -/
theorem keeps (limit : Nat) (l : Lexer) : Keeps limit l := by
  induction hn : l.rest.length using Nat.strongRecOn generalizing l with
  | ind n ih =>
    intro depth
    obtain ⟨⟨outcome, l'⟩, hitem⟩ : ∃ read, l.nextItem = read := ⟨_, rfl⟩
    have hle : l'.rest.length ≤ l.rest.length := by
      have := l.length_rest_of_nextItem_le
      rwa [hitem] at this
    obtain e | _ | item := outcome
    · rw [nodes_of_error hitem hle, Descent.nodes_of_error hitem hle]
    · rw [nodes_of_none hitem hle, Descent.nodes_of_none hitem hle]
    · have hlt : l'.rest.length < n := hn ▸ Lexer.length_rest_of_nextItem hitem
      rw [nodes_of_item hitem hle, Descent.nodes_of_item hitem hle]
      cases item with
      | node m => simp only [ih _ hlt l' rfl depth]
      | comment => simp only [ih _ hlt l' rfl depth]
      | otherwise position => rfl
      | closer name position => rfl
      | opener kind name position =>
        simp only
        rw [body_eq (fun l'' hl'' => ih _ (Nat.lt_of_le_of_lt hl'' hlt) l'' rfl)]
        generalize Descent.block limit depth kind name position l' = inside
        obtain ⟨result, l'', hle'⟩ := inside
        obtain e | m := result
        · rfl
        · simp only [ih _ (Nat.lt_of_le_of_lt hle' hlt) l'' rfl depth]

end Counting

/-- A parser that has no blocks open reads as it does without a count, and has none open behind what
it reads, whether that is a template or not. -/
theorem CountingParser.parse_eq (p : Parser) :
    (⟨p, 0⟩ : CountingParser).parse = (p.parse.1, ⟨p.parse.2, 0⟩) := by
  have hkeeps := Counting.keeps p.limit p.lexer 0
  rw [Parser.parse_eq_descend, parse, Parser.descend, hkeeps]
  rfl

end TextTemplate
