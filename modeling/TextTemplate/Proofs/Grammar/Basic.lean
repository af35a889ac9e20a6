import Mathlib.Data.List.Forall2
import TextTemplate.Item
import TextTemplate.Proofs.Token.Run

/-!
# The grammar of templates

Which tokens make up a template, and which tree they stand for, without regard to where in a source
they were read.

## Main definitions

- `Grammar.Parameter` — an argument in a tag
- `Grammar.Leaf` — a tag that stands for a node by itself
- `Grammar.Opener` — a tag that opens a block
- `Grammar.Derives` — the tokens of a template and its nodes
- `Node.nesting`, `Node.nestingOfAll` — how deeply the blocks of a tree are nested
-/

namespace TextTemplate

namespace Grammar

/-- The tokens of a tag, which is closed as it was opened. -/
def tag (escaped : Bool) (inner : List Token) : List Token :=
  .startTag escaped :: (inner ++ [.endTag escaped])

/-- Words that neither open nor close a block. -/
def IsPlain (word : String) : Prop :=
  ∀ c ∈ word.toList.head?, c ≠ '#' ∧ c ≠ '^' ∧ c ≠ '/'

/-- The names of blocks with a meaning of their own. -/
def builtinNames : List String :=
  ["if", "unless", "each", "with"]

/-- An argument is a literal, or a plain word that spells a path. -/
inductive Parameter : Token → Param → Prop
  | literal (value : Value) : Parameter (.literal value) (.literal value)
  | path {word : String} {path : Path} :
      IsPlain word → Path.read word = .ok path → Parameter (.word word) (.path path)

/-- A tag that stands for a node by itself: a partial with at most one argument, a plain word that
is a path by itself and a helper call before arguments, or a literal. -/
inductive Leaf (escaped : Bool) : List Token → Node → Prop
  | partialRef (name : String) : Leaf escaped [.partialRef name] (.partialRef name none)
  | partialWith (name : String) {token : Token} {param : Param} :
      Parameter token param →
      Leaf escaped [.partialRef name, token] (.partialRef name (some param))
  | path {word : String} {path : Path} :
      word ≠ "else" → IsPlain word → Path.read word = .ok path →
      Leaf escaped [.word word] (.path path escaped)
  | call {word : String} {tokens : List Token} {params : List Param} :
      word ≠ "else" → IsPlain word → tokens ≠ [] → List.Forall₂ Parameter tokens params →
      Leaf escaped (.word word :: tokens) (.call word params escaped)
  | literal (value : Value) : Leaf escaped [.literal value] (.literal value escaped)

/-- A tag that opens a block of a kind under a name. Four names have a meaning of their own and take
one argument; under any other name the block is a section without arguments, whose path the name
spells, and a block helper with arguments. A hat negates the path that the name spells. -/
inductive Opener : List Token → BlockKind → String → Prop
  | conditional {token : Token} {param : Param} :
      Parameter token param → Opener [.word "#if", token] (.conditional param) "if"
  | negated {token : Token} {param : Param} :
      Parameter token param → Opener [.word "#unless", token] (.negated param) "unless"
  | each {token : Token} {param : Param} :
      Parameter token param → Opener [.word "#each", token] (.each param) "each"
  | within {token : Token} {param : Param} :
      Parameter token param → Opener [.word "#with", token] (.within param) "with"
  | implicit {name : String} {path : Path} :
      name ≠ "" → name ∉ builtinNames → Path.read name = .ok path →
      Opener [.word ("#" ++ name)] (.implicit path) name
  | helper {name : String} {tokens : List Token} {params : List Param} :
      name ≠ "" → name ∉ builtinNames → tokens ≠ [] → List.Forall₂ Parameter tokens params →
      Opener (.word ("#" ++ name) :: tokens) (.helper params) name
  | inverted {name : String} {path : Path} :
      name ≠ "" → Path.read name = .ok path →
      Opener [.word ("^" ++ name)] (.negated (.path path)) name

/-- The tokens of a template and its nodes. Comments stand for nothing; a block reaches from its
opener to the closer of the same name, with at most one `else` or lone hat directly inside it. -/
inductive Derives : List Token → List Node → Prop
  | nil : Derives [] []
  | text (s : String) {tokens : List Token} {nodes : List Node} :
      Derives tokens nodes → Derives (.text s :: tokens) (.text s :: nodes)
  | comment (escaped : Bool) (s : String) {tokens : List Token} {nodes : List Node} :
      Derives tokens nodes → Derives (tag escaped [.comment s] ++ tokens) nodes
  | leaf {escaped : Bool} {inner tokens : List Token} {node : Node} {nodes : List Node} :
      Leaf escaped inner node → Derives tokens nodes →
      Derives (tag escaped inner ++ tokens) (node :: nodes)
  | block (e₁ e₂ : Bool) {inner body tokens : List Token} {kind : BlockKind} {name : String}
      {consequent nodes : List Node} :
      Opener inner kind name → Derives body consequent → Derives tokens nodes →
      Derives (tag e₁ inner ++ (body ++ (tag e₂ [.word ("/" ++ name)] ++ tokens)))
        (.block kind name consequent none :: nodes)
  | blockElse (e₁ e₂ e₃ : Bool) {inner body body' tokens : List Token} {kind : BlockKind}
      {name otherwise : String} {consequent alternate nodes : List Node} :
      Opener inner kind name → Derives body consequent →
      otherwise = "else" ∨ otherwise = "^" → Derives body' alternate → Derives tokens nodes →
      Derives (tag e₁ inner ++ (body ++ (tag e₂ [.word otherwise] ++
          (body' ++ (tag e₃ [.word ("/" ++ name)] ++ tokens)))))
        (.block kind name consequent (some alternate) :: nodes)

theorem Derives.append {tokens tokens' : List Token} {nodes nodes' : List Node}
    (h : Derives tokens nodes) (h' : Derives tokens' nodes') :
    Derives (tokens ++ tokens') (nodes ++ nodes') := by
  induction h with
  | nil => exact h'
  | text s _ ih => exact .text s ih
  | comment escaped s _ ih =>
    rw [List.append_assoc]
    exact .comment escaped s ih
  | leaf hleaf _ ih =>
    rw [List.append_assoc]
    exact .leaf hleaf ih
  | block e₁ e₂ hopener hbody _ _ ih =>
    simp only [List.append_assoc]
    exact .block e₁ e₂ hopener hbody ih
  | blockElse e₁ e₂ e₃ hopener hbody hotherwise hbody' _ _ _ ih =>
    simp only [List.append_assoc]
    exact .blockElse e₁ e₂ e₃ hopener hbody hotherwise hbody' ih

end Grammar

namespace Node

mutual

/-- How deeply blocks are nested in a node, which counts itself if it is one. -/
def nesting : Node → Nat
  | block _ _ consequent alternate? =>
    max (nestingOfAll consequent) (nestingOfBranch alternate?) + 1
  | _ => 0

@[inherit_doc nesting]
def nestingOfAll : List Node → Nat
  | [] => 0
  | node :: nodes => max node.nesting (nestingOfAll nodes)

@[inherit_doc nesting]
def nestingOfBranch : Option (List Node) → Nat
  | none => 0
  | some nodes => nestingOfAll nodes

end

@[simp]
theorem nestingOfAll_append (nodes nodes' : List Node) :
    nestingOfAll (nodes ++ nodes') = max (nestingOfAll nodes) (nestingOfAll nodes') := by
  induction nodes with
  | nil => simp [nestingOfAll]
  | cons node nodes ih => simp [nestingOfAll, ih, Nat.max_assoc]

@[simp]
theorem nestingOfAll_reverse (nodes : List Node) :
    nestingOfAll nodes.reverse = nestingOfAll nodes := by
  induction nodes with
  | nil => rfl
  | cons node nodes ih =>
    rw [List.reverse_cons, nestingOfAll_append, ih, nestingOfAll, nestingOfAll, nestingOfAll]
    omega

end Node

end TextTemplate
