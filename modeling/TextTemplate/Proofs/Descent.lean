import TextTemplate.Parser
import TextTemplate.Proofs.Token.Run

/-!
# Reading templates by recursive descent

Blocks can be read by recursion as well: the nodes of a branch are read up to the tag that ends it,
and whoever asked for them decides whether that tag may stand there. The open blocks are then the
calls that have not returned. The result is the same, for every place and limit.

## Main definitions

- `Stop` — what ends a row of nodes
- `Descent.Outcome` — a result, and the lexer behind what was read for it
- `Descent.nodes`, `Descent.block` — the nodes of a branch, and a block behind its opener
- `Parser.descend` — the nodes up to the end of the source

## Design notes

An outcome says that its lexer has not gone back, so a block can go on behind its main branch.
-/

namespace TextTemplate

/-- What ends a row of nodes: the end of the source, or a tag that ends the branch they are in. -/
inductive Stop
  | source
  | otherwise (position : Position)
  | closer (name : String) (position : Position)

namespace Lexer

/-- Reading a token never goes back. -/
theorem length_rest_of_next_le (l : Lexer) : l.next.2.rest.length ≤ l.rest.length := by
  cases hnext : l.next with
  | mk outcome l' =>
    match outcome with
    | .error e =>
      obtain ⟨_, _, _, rfl⟩ := next_eq_error hnext
      exact (List.dropWhile_sublist _).length_le
    | .ok none =>
      obtain ⟨_, _, rfl⟩ := next_eq_none hnext
      exact Nat.le_refl _
    | .ok (some lexeme) => exact Nat.le_of_lt (length_rest_of_next hnext)

theorem length_rest_of_tagLexemes_le (escaped : Bool) (opened : Position) (l : Lexer) :
    (l.tagLexemes escaped opened).2.rest.length ≤ l.rest.length := by
  fun_induction tagLexemes escaped opened l with
  | case7 l lexeme l₁ hnext result l₂ hmore _ _ _ ih =>
    rw [hmore] at ih
    exact Nat.le_trans ih (Nat.le_of_lt (length_rest_of_next hnext))
  | _ l =>
    have hle := length_rest_of_next_le l
    simp_all

theorem length_rest_of_nextItem_le (l : Lexer) : l.nextItem.2.rest.length ≤ l.rest.length := by
  have hle := length_rest_of_next_le l
  unfold nextItem
  split
  · simp_all
  · simp_all
  · next lexeme l₁ hnext =>
    rw [hnext] at hle
    split
    · exact hle
    · next escaped _ =>
      have htag := length_rest_of_tagLexemes_le escaped lexeme.position l₁
      split
      all_goals
        next h =>
        rw [h] at htag
        exact Nat.le_trans htag hle
    · exact hle

end Lexer

namespace Descent

/-- A result, and the lexer behind what was read for it. -/
structure Outcome (α : Type) (l : Lexer) where
  result : Except ParseError α
  lexer : Lexer
  le : lexer.rest.length ≤ l.rest.length

/-- The same result, read for from a place further back. -/
def Outcome.from {α : Type} {l l' : Lexer} (o : Outcome α l')
    (h : l'.rest.length ≤ l.rest.length) : Outcome α l :=
  ⟨o.result, o.lexer, Nat.le_trans o.le h⟩

/-- A result made from another one. -/
def Outcome.bind {α β : Type} {l : Lexer} (o : Outcome α l) (f : α → Except ParseError β) :
    Outcome β l :=
  ⟨o.result.bind f, o.lexer, o.le⟩

/-- A node in front of a row of them. -/
def before (node : Node) : List Node × Stop → Except ParseError (List Node × Stop)
  | (nodes, stop) => .ok (node :: nodes, stop)

/-- The block whose last branch ends at a stop, which has to be its own closer. -/
def close (kind : BlockKind) (name : String) (opened : Position) (consequent : List Node)
    (alternate? : Option (List Node)) : Stop → Except ParseError Node
  | .source => .error (.unclosedBlock name opened)
  | .otherwise again => .error (.duplicateElse again)
  | .closer closed position =>
    if name = closed then .ok (.block kind name consequent alternate?)
    else .error (.mismatchedBlock name closed opened position)

mutual

/-- The nodes ahead and what ends them, inside a number of open blocks. -/
def nodes (limit depth : Nat) (l : Lexer) : Outcome (List Node × Stop) l :=
  match h : l.nextItem with
  | (.error e, l') => ⟨.error e, l', by simpa [h] using l.length_rest_of_nextItem_le⟩
  | (.ok none, l') => ⟨.ok ([], .source), l', by simpa [h] using l.length_rest_of_nextItem_le⟩
  | (.ok (some item), l') =>
    have hlt : l'.rest.length < l.rest.length := Lexer.length_rest_of_nextItem h
    match item with
    | .node n => ((nodes limit depth l').bind (before n)).from (Nat.le_of_lt hlt)
    | .comment => (nodes limit depth l').from (Nat.le_of_lt hlt)
    | .otherwise position => ⟨.ok ([], .otherwise position), l', Nat.le_of_lt hlt⟩
    | .closer name position => ⟨.ok ([], .closer name position), l', Nat.le_of_lt hlt⟩
    | .opener kind name position =>
      match block limit depth kind name position l' with
      | ⟨.error e, l'', hle⟩ => ⟨.error e, l'', Nat.le_trans hle (Nat.le_of_lt hlt)⟩
      | ⟨.ok n, l'', hle⟩ =>
        ((nodes limit depth l'').bind (before n)).from (Nat.le_trans hle (Nat.le_of_lt hlt))
termination_by 2 * l.rest.length
decreasing_by
  all_goals omega

/-- The block whose opener has been read, inside a number of open blocks. -/
def block (limit depth : Nat) (kind : BlockKind) (name : String) (opened : Position) (l : Lexer) :
    Outcome Node l :=
  if limit ≤ depth then ⟨.error (.nestingTooDeep name opened limit), l, Nat.le_refl _⟩
  else
    match nodes limit (depth + 1) l with
    | ⟨.error e, l', hle⟩ => ⟨.error e, l', hle⟩
    | ⟨.ok (consequent, .otherwise _), l', hle⟩ =>
      ((nodes limit (depth + 1) l').bind fun (alternate, stop) =>
        close kind name opened consequent (some alternate) stop).from hle
    | ⟨.ok (consequent, stop), l', hle⟩ => ⟨close kind name opened consequent none stop, l', hle⟩
termination_by 2 * l.rest.length + 1
decreasing_by
  all_goals omega

end

end Descent

/-- The nodes up to the end of the source by recursive descent, and the parser behind what was
read. -/
def Parser.descend (p : Parser) : Except ParseError (List Node) × Parser :=
  let outcome := (Descent.nodes p.limit 0 p.lexer).bind fun
    | (nodes, .source) => .ok nodes
    | (_, .otherwise position) => .error (.strayElse position)
    | (_, .closer name position) => .error (.strayClose name position)
  (outcome.result, { p with lexer := outcome.lexer })

namespace Descent

variable {limit depth : Nat} {l l' : Lexer}

theorem nodes_of_error {e : ParseError} (h : l.nextItem = (.error e, l'))
    (hle : l'.rest.length ≤ l.rest.length) : nodes limit depth l = ⟨.error e, l', hle⟩ := by
  rw [nodes]
  split
  all_goals
    next hitem =>
    rw [h] at hitem
    cases hitem <;> rfl

theorem nodes_of_none (h : l.nextItem = (.ok none, l')) (hle : l'.rest.length ≤ l.rest.length) :
    nodes limit depth l = ⟨.ok ([], .source), l', hle⟩ := by
  rw [nodes]
  split
  all_goals
    next hitem =>
    rw [h] at hitem
    cases hitem <;> rfl

theorem nodes_of_item {item : Item} (h : l.nextItem = (.ok (some item), l'))
    (hle : l'.rest.length ≤ l.rest.length) :
    nodes limit depth l =
      match item with
      | .node n => ((nodes limit depth l').bind (before n)).from hle
      | .comment => (nodes limit depth l').from hle
      | .otherwise position => ⟨.ok ([], .otherwise position), l', hle⟩
      | .closer name position => ⟨.ok ([], .closer name position), l', hle⟩
      | .opener kind name position =>
        match block limit depth kind name position l' with
        | ⟨.error e, l'', hle'⟩ => ⟨.error e, l'', Nat.le_trans hle' hle⟩
        | ⟨.ok n, l'', hle'⟩ =>
          ((nodes limit depth l'').bind (before n)).from (Nat.le_trans hle' hle) := by
  rw [nodes]
  split
  all_goals
    next hitem =>
    rw [h] at hitem
    cases hitem <;> cases item <;> rfl

-- ════════════════════════════════════════════════════════════════════════
-- The open blocks as calls
-- ════════════════════════════════════════════════════════════════════════

/-- What assembling gives from a step on. -/
def proceed (limit : Nat) (l : Lexer) :
    Except ParseError Outline → Except ParseError (List Node) × Lexer
  | .error e => (.error e, l)
  | .ok outline => Parser.assemble limit outline l

/-- What assembling gives behind a stop. -/
def resume (limit : Nat) (l : Lexer) (outline : Outline) :
    Stop → Except ParseError (List Node) × Lexer
  | .source => (outline.finish, l)
  | .otherwise position => proceed limit l (outline.add limit (.otherwise position))
  | .closer name position => proceed limit l (outline.add limit (.closer name position))

/-- What assembling gives once nodes and their stop have been added to an outline. -/
def Outcome.onto (limit : Nat) (frames : List Frame) (nodes : List Node)
    (o : Outcome (List Node × Stop) l) : Except ParseError (List Node) × Lexer :=
  match o.result with
  | .error e => (.error e, o.lexer)
  | .ok (more, stop) => resume limit o.lexer ⟨frames, more.reverse ++ nodes⟩ stop

@[simp]
theorem onto_from (o : Outcome (List Node × Stop) l') (h : l'.rest.length ≤ l.rest.length)
    (frames : List Frame) (nodes : List Node) :
    (o.from h).onto limit frames nodes = o.onto limit frames nodes := rfl

/-- A node in front is one that has been added already. -/
theorem onto_before (o : Outcome (List Node × Stop) l) (n : Node) (frames : List Frame)
    (nodes : List Node) :
    (o.bind (before n)).onto limit frames nodes = o.onto limit frames (n :: nodes) := by
  obtain ⟨result, lexer, hle⟩ := o
  cases result with
  | error e => rfl
  | ok found =>
    obtain ⟨more, stop⟩ := found
    simp [Outcome.onto, Outcome.bind, Except.bind, before]

/-- What assembling gives once a block has been read. -/
def follow (limit : Nat) (l : Lexer) (frames : List Frame) (before : List Node) :
    Except ParseError Node → Except ParseError (List Node) × Lexer
  | .error e => (.error e, l)
  | .ok n => Parser.assemble limit ⟨frames, n :: before⟩ l

/-- Assembling from a lexer on is reading the nodes ahead and adding them. -/
def Agrees (limit : Nat) (l : Lexer) : Prop :=
  ∀ frames before, Parser.assemble limit ⟨frames, before⟩ l =
    (nodes limit frames.length l).onto limit frames before

/-- Behind the last branch of a block, assembling closes it as the call that reads it does. -/
theorem resume_eq_follow (frame : Frame) (frames : List Frame) (nodes : List Node) (stop : Stop)
    (hstop : frame.consequent? = none → ∀ position, stop ≠ .otherwise position) :
    resume limit l ⟨frame :: frames, nodes⟩ stop =
      follow limit l frames frame.before
        (close frame.kind frame.name frame.opened (frame.consequent?.getD nodes.reverse)
          (frame.consequent?.map fun _ => nodes.reverse) stop) := by
  cases stop with
  | source => rfl
  | otherwise position =>
    cases hconsequent : frame.consequent? with
    | none => exact absurd rfl (hstop hconsequent position)
    | some consequent => simp only [resume, Outline.add, hconsequent, proceed, close, follow]
  | closer name position =>
    simp only [resume, Outline.add, close]
    by_cases hname : frame.name = name
    · rw [if_pos hname, if_pos hname]
      cases hconsequent : frame.consequent? with
      | none => simp [proceed, follow, Frame.close, hconsequent]
      | some consequent => simp [proceed, follow, Frame.close, hconsequent]
    · rw [if_neg hname, if_neg hname]
      rfl

/-- The items of a block are assembled to what the call that reads it gives. -/
theorem assemble_eq_follow (hagrees : ∀ l' : Lexer, l'.rest.length ≤ l.rest.length → Agrees limit l')
    (kind : BlockKind) (name : String) (opened : Position) (frames : List Frame)
    (before : List Node) (hlimit : ¬ limit ≤ frames.length) :
    Parser.assemble limit ⟨⟨kind, name, opened, before, none⟩ :: frames, []⟩ l =
      follow limit (block limit frames.length kind name opened l).lexer frames before
        (block limit frames.length kind name opened l).result := by
  have hmain := hagrees l (Nat.le_refl _) (⟨kind, name, opened, before, none⟩ :: frames) []
  rw [block, if_neg hlimit, hmain, List.length_cons]
  generalize nodes limit (frames.length + 1) l = main
  obtain ⟨result, l₁, hle⟩ := main
  obtain e | ⟨consequent, stop⟩ := result
  · rfl
  · cases stop with
    | source => rfl
    | closer closed position =>
      simp only [Outcome.onto]
      rw [resume_eq_follow _ _ _ _ (by simp)]
      simp
    | otherwise position =>
      -- The other branch is read by a second call, which the frame remembers the first one for.
      have hother := hagrees l₁ hle (⟨kind, name, opened, before, some consequent⟩ :: frames) []
      rw [List.length_cons] at hother
      simp only [Outcome.onto, resume, Outline.add, proceed, List.append_nil, List.reverse_reverse]
      rw [hother]
      generalize nodes limit (frames.length + 1) l₁ = other
      obtain ⟨result', l₂, hle'⟩ := other
      obtain e | ⟨alternate, stop⟩ := result'
      · rfl
      · simp only [Outcome.onto]
        rw [resume_eq_follow _ _ _ _ (by simp)]
        simp [Outcome.from, Outcome.bind, Except.bind]

/-- Assembling agrees with recursive descent everywhere. -/
theorem agrees (limit : Nat) (l : Lexer) : Agrees limit l := by
  -- On the length of what is left, since a block is read by calls that may start anywhere in it.
  induction hn : l.rest.length using Nat.strongRecOn generalizing l with
  | ind n ih =>
    intro frames nodes
    rw [Parser.assemble_eq]
    obtain ⟨⟨outcome, l'⟩, hitem⟩ : ∃ read, l.nextItem = read := ⟨_, rfl⟩
    rw [hitem]
    have hle : l'.rest.length ≤ l.rest.length := by
      have := l.length_rest_of_nextItem_le
      rwa [hitem] at this
    obtain e | _ | item := outcome
    · rw [nodes_of_error hitem hle]
      rfl
    · rw [nodes_of_none hitem hle]
      rfl
    · have hlt : l'.rest.length < n := hn ▸ Lexer.length_rest_of_nextItem hitem
      rw [nodes_of_item hitem hle]
      cases item with
      | node m =>
        simp only [Outline.add]
        rw [onto_from, onto_before]
        exact ih _ hlt l' rfl frames (m :: nodes)
      | comment =>
        simp only [Outline.add]
        rw [onto_from]
        exact ih _ hlt l' rfl frames nodes
      | otherwise position => rfl
      | closer name position => rfl
      | opener kind name position =>
        simp only [Outline.add]
        by_cases hlimit : limit ≤ frames.length
        · rw [if_pos hlimit, block, if_pos hlimit]
          rfl
        · rw [if_neg hlimit]
          simp only
          rw [assemble_eq_follow (fun l'' hl'' => ih _ (Nat.lt_of_le_of_lt hl'' hlt) l'' rfl)
            kind name position frames nodes hlimit]
          generalize block limit frames.length kind name position l' = inside
          obtain ⟨result, l'', hle'⟩ := inside
          obtain e | m := result
          · rfl
          · simp only [follow]
            rw [onto_from, onto_before]
            exact ih _ (Nat.lt_of_le_of_lt hle' hlt) l'' rfl frames (m :: nodes)

end Descent

/-- Recursive descent reads every template as a parser with a stack of open blocks does, from
wherever it stands. -/
theorem Parser.parse_eq_descend (p : Parser) : p.parse = p.descend := by
  have hagrees := Descent.agrees p.limit p.lexer [] []
  simp only [parse, descend, Outline.empty]
  rw [hagrees, List.length_nil]
  generalize Descent.nodes p.limit 0 p.lexer = o
  obtain ⟨result, l', hle⟩ := o
  obtain e | ⟨nodes, stop⟩ := result
  · rfl
  · cases stop with
    | source =>
      simp [Descent.Outcome.onto, Descent.resume, Outline.finish, Descent.Outcome.bind, Except.bind]
    | otherwise position => rfl
    | closer name position => rfl

end TextTemplate
