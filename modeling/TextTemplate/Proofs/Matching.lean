import Mathlib.Data.List.Forall2
import Mathlib.Data.Option.Basic
import TextTemplate.Outline

/-!
# Matching at related positions

What a tag says, and how it is taken into an outline, depends on tokens alone: tags with the same
tokens at other positions give the same items and the same errors, at these positions. So do
outlines whose nodes are related in a way that survives when nodes are added and blocks are closed.

## Main definitions

- `Agree` — results that are both good or both errors, and related
- `LexError.Matches`, `ParseError.Matches` — the same errors at related positions
- `Lexeme.Matches`, `Item.Matches` — the same lexemes and items at related positions
- `Grows` — a relation on nodes that survives when nodes are added
- `Outline.Matches` — outlines of related nodes, with the same blocks open
-/

namespace TextTemplate

/-- Results that are both good or both errors, and related. -/
inductive Agree {ε ε' α α' : Type} (E : ε → ε' → Prop) (V : α → α' → Prop) :
    Except ε α → Except ε' α' → Prop
  | error {e : ε} {e' : ε'} (h : E e e') : Agree E V (.error e) (.error e')
  | ok {a : α} {a' : α'} (h : V a a') : Agree E V (.ok a) (.ok a')

theorem Agree.map {ε ε' α α' β β' : Type} {E : ε → ε' → Prop} {V : α → α' → Prop}
    {W : β → β' → Prop} {x : Except ε α} {x' : Except ε' α'} {f : α → β} {f' : α' → β'}
    (h : Agree E V x x') (hf : ∀ a a', V a a' → W (f a) (f' a')) :
    Agree E W (x.map f) (x'.map f') := by
  cases h with
  | error h => exact .error h
  | ok h => exact .ok (hf _ _ h)

-- ════════════════════════════════════════════════════════════════════════
-- Errors, lexemes, items
-- ════════════════════════════════════════════════════════════════════════

section

variable (R : Position → Position → Prop)

/-- The same error at related positions. -/
inductive LexError.Matches : LexError → LexError → Prop
  | unterminated {p p' : Position} (h : R p p') : Matches (.unterminated p) (.unterminated p')
  | unparseable {p p' : Position} (h : R p p') (found : Char) :
      Matches (.unparseable p found) (.unparseable p' found)
  | unterminatedString {p p' : Position} (h : R p p') :
      Matches (.unterminatedString p) (.unterminatedString p')
  | unexpectedClose {p p' : Position} (h : R p p') :
      Matches (.unexpectedClose p) (.unexpectedClose p')

/-- The same error at related positions. -/
inductive ParseError.Matches : ParseError → ParseError → Prop
  | lex {e e' : LexError} (h : e.Matches R e') : Matches (.lex e) (.lex e')
  | unexpected {p p' : Position} (h : R p p') (found : Token) (expected : Expectation) :
      Matches (.unexpected found p expected) (.unexpected found p' expected)
  | mismatchedBlock {o o' p p' : Position} (hopened : R o o') (h : R p p') (name closed : String) :
      Matches (.mismatchedBlock name closed o p) (.mismatchedBlock name closed o' p')
  | unclosedBlock {p p' : Position} (h : R p p') (name : String) :
      Matches (.unclosedBlock name p) (.unclosedBlock name p')
  | strayClose {p p' : Position} (h : R p p') (name : String) :
      Matches (.strayClose name p) (.strayClose name p')
  | strayElse {p p' : Position} (h : R p p') : Matches (.strayElse p) (.strayElse p')
  | duplicateElse {p p' : Position} (h : R p p') : Matches (.duplicateElse p) (.duplicateElse p')
  | arity {p p' : Position} (h : R p p') (name : String) (expected found : Nat) :
      Matches (.arity name p expected found) (.arity name p' expected found)
  | mismatchedDelimiters {p p' : Position} (h : R p p') :
      Matches (.mismatchedDelimiters p) (.mismatchedDelimiters p')
  | emptyExpression {p p' : Position} (h : R p p') :
      Matches (.emptyExpression p) (.emptyExpression p')
  | unknownDataVariable {p p' : Position} (h : R p p') (name : String) :
      Matches (.unknownDataVariable name p) (.unknownDataVariable name p')
  | nestingTooDeep {p p' : Position} (h : R p p') (name : String) (limit : Nat) :
      Matches (.nestingTooDeep name p limit) (.nestingTooDeep name p' limit)

/-- The same lexeme at related positions. -/
inductive Lexeme.Matches : Lexeme → Lexeme → Prop
  | mk {p p' : Position} (h : R p p') (token : Token) : Matches ⟨token, p⟩ ⟨token, p'⟩

/-- The same item at related positions. -/
inductive Item.Matches : Item → Item → Prop
  | node (n : Node) : Matches (.node n) (.node n)
  | comment : Matches .comment .comment
  | opener {p p' : Position} (h : R p p') (kind : BlockKind) (name : String) :
      Matches (.opener kind name p) (.opener kind name p')
  | otherwise {p p' : Position} (h : R p p') : Matches (.otherwise p) (.otherwise p')
  | closer {p p' : Position} (h : R p p') (name : String) :
      Matches (.closer name p) (.closer name p')

end

section

variable {R : Position → Position → Prop} {p p' : Position}

theorem Lexeme.Matches.unexpected {x x' : Lexeme} (h : x.Matches R x') (expected : Expectation) :
    (x.unexpected expected).Matches R (x'.unexpected expected) := by
  cases h with
  | mk h token => exact .unexpected h token expected

theorem Path.agree_readAt (h : R p p') (word : String) :
    Agree (ParseError.Matches R) Eq (Path.readAt word p) (Path.readAt word p') := by
  unfold Path.readAt
  cases Path.read word with
  | ok path => exact .ok rfl
  | error e =>
    cases e with
    | malformed => exact .error (.unexpected h _ _)
    | unknownVariable name => exact .error (.unknownDataVariable h name)

theorem Param.agree_ofLexeme {x x' : Lexeme} (h : x.Matches R x') :
    Agree (ParseError.Matches R) Eq (Param.ofLexeme x) (Param.ofLexeme x') := by
  have hunexpected := h.unexpected .argument
  cases h with
  | mk hposition token =>
    cases token with
    | literal value => exact .ok rfl
    | word word =>
      simp only [Param.ofLexeme]
      split
      · exact .error hunexpected
      · exact (Path.agree_readAt hposition word).map fun _ _ => congrArg _
    | _ => exact .error hunexpected

theorem Param.agree_ofLexemes {xs xs' : List Lexeme}
    (h : List.Forall₂ (Lexeme.Matches R) xs xs') :
    Agree (ParseError.Matches R) Eq (Param.ofLexemes xs) (Param.ofLexemes xs') := by
  induction h with
  | nil => exact .ok rfl
  | cons hx _ ih =>
    have hone := Param.agree_ofLexeme hx
    simp only [Param.ofLexemes]
    generalize Param.ofLexeme _ = first at hone ⊢
    generalize Param.ofLexeme _ = first' at hone ⊢
    cases hone with
    | error he => exact .error he
    | ok heq =>
      subst heq
      exact ih.map fun _ _ => congrArg _

theorem BlockKind.agree_ofName (h : R p p') (name : String) (arguments : List Param) :
    Agree (ParseError.Matches R) Eq (BlockKind.ofName name p arguments)
      (BlockKind.ofName name p' arguments) := by
  simp only [BlockKind.ofName]
  cases BlockKind.builtin? name with
  | some kind =>
    match arguments with
    | [] => exact .error (.arity h name _ _)
    | [argument] => exact .ok rfl
    | _ :: _ :: _ => exact .error (.arity h name _ _)
  | none =>
    simp only
    split
    · exact .error (.unexpected h _ _)
    · cases arguments with
      | nil => exact (Path.agree_readAt h name).map fun _ _ => congrArg _
      | cons => exact .ok rfl

namespace Item

theorem agree_alone {xs xs' : List Lexeme} (h : List.Forall₂ (Lexeme.Matches R) xs xs')
    (expected : Expectation) {item item' : Except ParseError Item}
    (hitem : Agree (ParseError.Matches R) (Item.Matches R) item item') :
    Agree (ParseError.Matches R) (Item.Matches R) (alone xs expected item)
      (alone xs' expected item') := by
  cases h with
  | nil => exact hitem
  | cons hx _ => exact .error (hx.unexpected expected)

theorem agree_ofWord (hp : R p p') {xs xs' : List Lexeme}
    (h : List.Forall₂ (Lexeme.Matches R) xs xs') (escaped : Bool) (word : String) :
    Agree (ParseError.Matches R) (Item.Matches R) (ofWord escaped word p xs)
      (ofWord escaped word p' xs') := by
  have harguments := Param.agree_ofLexemes h
  unfold ofWord
  split
  · exact agree_alone h _ (.ok (.otherwise hp))
  split
  · exact agree_alone h _ (.ok (.closer hp _))
  · next name _ =>
    simp only
    generalize Param.ofLexemes xs = arguments at harguments ⊢
    generalize Param.ofLexemes xs' = arguments' at harguments ⊢
    cases harguments with
    | error he => exact .error he
    | ok heq =>
      subst heq
      refine (BlockKind.agree_ofName hp _ _).map ?_
      rintro kind _ rfl
      exact .opener hp kind _
  · next name _ =>
    refine agree_alone h _ ((Path.agree_readAt hp _).map ?_)
    rintro path _ rfl
    exact .opener hp _ _
  · cases h with
    | nil =>
      refine (Path.agree_readAt hp word).map ?_
      rintro path _ rfl
      exact .node _
    | cons hx hxs =>
      refine harguments.map ?_
      rintro arguments _ rfl
      exact .node _

theorem agree_ofPartial (hp : R p p') {xs xs' : List Lexeme}
    (h : List.Forall₂ (Lexeme.Matches R) xs xs') (name : String) :
    Agree (ParseError.Matches R) (Item.Matches R) (ofPartial name p xs) (ofPartial name p' xs') := by
  cases h with
  | nil => exact .ok (.node _)
  | cons hx hxs =>
    cases hxs with
    | nil =>
      refine (Param.agree_ofLexeme hx).map ?_
      rintro param _ rfl
      exact .node _
    | cons _ hxs =>
      simp only [ofPartial, List.length_cons, hxs.length_eq]
      exact .error (.arity hp _ _ _)

/-- What a tag says depends on its tokens, and where it says so on its positions. -/
theorem agree_ofTag (hp : R p p') {xs xs' : List Lexeme}
    (h : List.Forall₂ (Lexeme.Matches R) xs xs') (escaped : Bool) :
    Agree (ParseError.Matches R) (Item.Matches R) (ofTag escaped p xs) (ofTag escaped p' xs') := by
  cases h with
  | nil => exact .error (.emptyExpression hp)
  | cons hx hxs =>
    have hunexpected := hx.unexpected .tagHead
    cases hx with
    | mk hposition token =>
      cases token with
      | comment => exact agree_alone hxs _ (.ok .comment)
      | partialRef name => exact agree_ofPartial hp hxs name
      | word word => exact agree_ofWord hposition hxs escaped word
      | literal value => exact agree_alone hxs _ (.ok (.node _))
      | _ => exact .error hunexpected

end Item

end

-- ════════════════════════════════════════════════════════════════════════
-- Outlines
-- ════════════════════════════════════════════════════════════════════════

/-- A relation on nodes that survives when a node is added to both, or a block of related
branches. -/
structure Grows (N : List Node → List Node → Prop) : Prop where
  nil : N [] []
  concat : ∀ {ns ns'} (n : Node), N ns ns' → N (ns ++ [n]) (ns' ++ [n])
  block : ∀ {ns ns' body body'} (kind : BlockKind) (name : String), N ns ns' → N body body' →
    N (ns ++ [.block kind name body none]) (ns' ++ [.block kind name body' none])
  blockElse : ∀ {ns ns' body body' other other'} (kind : BlockKind) (name : String), N ns ns' →
    N body body' → N other other' →
    N (ns ++ [.block kind name body (some other)]) (ns' ++ [.block kind name body' (some other')])

theorem grows_eq : Grows Eq where
  nil := rfl
  concat n h := by rw [h]
  block kind name h hbody := by rw [h, hbody]
  blockElse kind name h hbody hother := by rw [h, hbody, hother]

section

variable (R : Position → Position → Prop) (N : List Node → List Node → Prop)

/-- The same block opened at related positions, with related nodes before it and in its first
branch. -/
structure Frame.Matches (f f' : Frame) : Prop where
  kind : f'.kind = f.kind
  name : f'.name = f.name
  opened : R f.opened f'.opened
  before : N f.before.reverse f'.before.reverse
  consequent? : Option.Rel N f.consequent? f'.consequent?

/-- Outlines of related nodes, with the same blocks open. -/
structure Outline.Matches (o o' : Outline) : Prop where
  frames : List.Forall₂ (Frame.Matches R N) o.frames o'.frames
  nodes : N o.nodes.reverse o'.nodes.reverse

end

variable {R : Position → Position → Prop} {N : List Node → List Node → Prop}

theorem Outline.matches_empty (hN : Grows N) : Outline.empty.Matches R N .empty :=
  ⟨.nil, hN.nil⟩

theorem Frame.Matches.close (hN : Grows N) {f f' : Frame} (h : f.Matches R N f')
    {nodes nodes' : List Node} (hnodes : N nodes.reverse nodes'.reverse) :
    N (f.close nodes :: f.before).reverse (f'.close nodes' :: f'.before).reverse := by
  obtain ⟨kind, name, opened, before, consequent?⟩ := f
  obtain ⟨kind', name', opened', before', consequent?'⟩ := f'
  obtain ⟨hkind, hname, -, hbefore, hconsequent⟩ := h
  simp only at hkind hname hbefore hconsequent
  subst hkind hname
  rw [List.reverse_cons, List.reverse_cons]
  cases hconsequent with
  | none => exact hN.block _ _ hbefore hnodes
  | some hbody => exact hN.blockElse _ _ hbefore hbody hnodes

/-- Matching items are taken into matching outlines alike. -/
theorem Outline.Matches.add (hN : Grows N) {o o' : Outline} (h : o.Matches R N o')
    {item item' : Item} (hitem : item.Matches R item') (limit : Nat) :
    Agree (ParseError.Matches R) (Outline.Matches R N) (o.add limit item) (o'.add limit item') := by
  obtain ⟨frames, nodes⟩ := o
  obtain ⟨frames', nodes'⟩ := o'
  obtain ⟨hframes, hnodes⟩ := h
  simp only at hframes hnodes
  cases hitem with
  | node n =>
    refine .ok ⟨hframes, ?_⟩
    simpa using hN.concat n hnodes
  | comment => exact .ok ⟨hframes, hnodes⟩
  | opener hp kind name =>
    simp only [Outline.add, hframes.length_eq]
    split
    · exact .error (.nestingTooDeep hp name limit)
    · exact .ok ⟨.cons ⟨rfl, rfl, hp, hnodes, .none⟩ hframes, hN.nil⟩
  | otherwise hp =>
    cases hframes with
    | nil => exact .error (.strayElse hp)
    | @cons f f' frames frames' hf hframes =>
      obtain ⟨hkind, hname, hopened, hbefore, hconsequent⟩ := hf
      simp only [Outline.add]
      generalize hfirst : f.consequent? = first at hconsequent ⊢
      generalize hfirst' : f'.consequent? = first' at hconsequent ⊢
      cases hconsequent with
      | none => exact .ok ⟨.cons ⟨hkind, hname, hopened, hbefore, .some hnodes⟩ hframes, hN.nil⟩
      | some _ => exact .error (.duplicateElse hp)
  | closer hp name =>
    cases hframes with
    | nil => exact .error (.strayClose hp name)
    | @cons f f' frames frames' hf hframes =>
      simp only [Outline.add, hf.name]
      split
      · exact .ok ⟨hframes, hf.close hN hnodes⟩
      · exact .error (.mismatchedBlock hf.opened hp _ _)

theorem Outline.Matches.finish {o o' : Outline} (h : o.Matches R N o') :
    Agree (ParseError.Matches R) N o.finish o'.finish := by
  obtain ⟨frames, nodes⟩ := o
  obtain ⟨frames', nodes'⟩ := o'
  obtain ⟨hframes, hnodes⟩ := h
  simp only at hframes hnodes
  cases hframes with
  | nil => exact .ok hnodes
  | cons hf _ =>
    simp only [Outline.finish, hf.name]
    exact .error (.unclosedBlock hf.opened _)

end TextTemplate
