import TextTemplate.Proofs.Grammar.Basic
import TextTemplate.Proofs.Path

/-!
# Printing templates

A tree is written out as a source. Where a source can be written in more than one way, a style
chooses. Some trees cannot be written: the parser never gives a text that is empty or stands beside
another one, or a path with a name that no word spells.

## Main definitions

- `Style` — what is left open in the way a template is written
- `Style.param`, `Style.node`, `Style.nodes` — the texts of an argument, a node and a template
- `Node.Printable`, `Node.PrintableAll` — the trees that can be written
-/

namespace TextTemplate

open Text

/-- What is left open in the way a template is written. -/
structure Style where
  /-- Dots rather than slashes between the members of a path. -/
  dotted : Bool
  /-- Letters behind backslashes rather than newlines and tabs in a text. -/
  lettered : Bool
  /-- A hat rather than `else` before the other branch of a block. -/
  hat : Bool
  /-- A blank before the name of a partial. -/
  spaced : Bool

namespace Style

variable (style : Style)

/-- What stands between two steps of a path. -/
def joint (s t : Segment) : Char :=
  if style.dotted && s.isMember && t.isMember then '.' else '/'

/-- The text of a path. -/
def path : List Segment → List Char
  | [] => []
  | [s] => s.spelling
  | s :: t :: segments => s.spelling ++ style.joint s t :: path (t :: segments)

/-- A character inside double quotes. -/
def quotedChar (c : Char) : List Char :=
  if c = '"' || c = '\\' then ['\\', c]
  else if style.lettered && c = '\n' then ['\\', 'n']
  else if style.lettered && c = '\t' then ['\\', 't']
  else [c]

/-- The text of a literal. -/
def literal : Value → List Char
  | .text s => '"' :: (s.toList.flatMap style.quotedChar ++ ['"'])
  | value => value.compact.toList

/-- The text of an argument. -/
def param : Param → List Char
  | .path p => style.path p.segments
  | .literal value => style.literal value

/-- The markers around a tag. -/
def opening (escaped : Bool) : List Char :=
  if escaped then openMarker else '\x7b' :: openMarker

@[inherit_doc opening]
def closing (escaped : Bool) : List Char :=
  if escaped then closeMarker else '\x7d' :: closeMarker

/-- The text of a tag: what it begins with, and the texts behind it, each behind a blank. -/
def tag (escaped : Bool) (head : List Char) (more : List (List Char)) : List Char :=
  opening escaped ++ (head ++ (more.flatMap (' ' :: ·) ++ closing escaped))

/-- The tag that opens a block: behind a hat where the block is negated by another name than its
own. -/
def opener (name : String) (kind : BlockKind) : List Char :=
  match kind with
  | .implicit _ => tag true ('#' :: name.toList) []
  | .negated argument =>
    if name = "unless" then tag true ('#' :: name.toList) [style.param argument]
    else tag true ('^' :: name.toList) []
  | kind => tag true ('#' :: name.toList) (kind.arguments.map style.param)

/-- The tag that begins the other branch of a block. -/
def otherwise : List Char :=
  tag true (if style.hat then ['^'] else ['e', 'l', 's', 'e']) []

mutual

/-- The text of a node. -/
def node : Node → List Char
  | .text s => s.toList
  | .path p escaped => tag escaped (style.path p.segments) []
  | .literal value escaped => tag escaped (style.literal value) []
  | .call name arguments escaped => tag escaped name.toList (arguments.map style.param)
  | .block kind name consequent alternate? =>
    style.opener name kind ++
      (nodes consequent ++ (branch alternate? ++ tag true ('/' :: name.toList) []))
  | .partialRef name context? =>
    tag true ('>' :: ((if style.spaced then [' '] else []) ++ name.toList))
      (context?.toList.map style.param)

/-- The text of a template. -/
def nodes : List Node → List Char
  | [] => []
  | n :: ns => node n ++ nodes ns

/-- The text of the other branch of a block, if there is one. -/
def branch : Option (List Node) → List Char
  | none => []
  | some ns => style.otherwise ++ nodes ns

end

end Style

-- ════════════════════════════════════════════════════════════════════════
-- Trees that can be written
-- ════════════════════════════════════════════════════════════════════════

/-- The characters that a name in a path can start with. -/
def isNameStart (c : Char) : Bool :=
  isAlphabetic c || c = '_'

/-- The characters of names in paths. -/
def isNameChar (c : Char) : Bool :=
  isAlphabetic c || isNumeric c || c = '_' || c = '-'

/-- Names in paths: letters, numbers, underlines and dashes, with a letter or underline first. -/
def IsName (s : String) : Prop :=
  s.toList.head?.any isNameStart = true ∧ s.toList.all isNameChar = true
deriving Decidable

/-- Names of blocks and partials. -/
def IsWordName (s : String) : Prop :=
  s ≠ "" ∧ s.toList.all isWordChar = true
deriving Decidable

/-- Names of helpers: one word that neither opens nor closes a block nor begins a branch. -/
def IsCallName (s : String) : Prop :=
  s.toList.head?.any (fun c => isWordStart c && !isBlockMark c) = true ∧
    s.toList.tail.all isWordChar = true ∧ s ∉ ["else", "true", "false", "null"]
deriving Decidable

/-- Steps that can be written. -/
def Segment.Printable : Segment → Prop
  | name s => IsName s
  | _ => True

instance : (s : Segment) → Decidable s.Printable
  | .name s => inferInstanceAs (Decidable (IsName s))
  | .current | .parent | .root | .key | .index | .first | .last => .isTrue trivial

/-- Paths that are read as paths. -/
structure Path.Printable (p : Path) : Prop where
  ne_nil : p.segments ≠ []
  segments : ∀ s ∈ p.segments, s.Printable
  head_ne : p.segments.head? ≠ some (.name "this")
  not_literal : ∀ word ∈ ["true", "false", "null"], p.segments ≠ [.name word]

instance (p : Path) : Decidable p.Printable :=
  decidable_of_iff
    (p.segments ≠ [] ∧ (∀ s ∈ p.segments, s.Printable) ∧ p.segments.head? ≠ some (.name "this") ∧
      ∀ word ∈ ["true", "false", "null"], p.segments ≠ [.name word])
    ⟨fun ⟨hne, hsegments, hhead, hliteral⟩ => ⟨hne, hsegments, hhead, hliteral⟩,
      fun h => ⟨h.ne_nil, h.segments, h.head_ne, h.not_literal⟩⟩

/-- Literals: null, booleans, texts and whole numbers of 64 bits with a sign. -/
def Value.Printable : Value → Prop
  | null | boolean _ | text _ => True
  | number (.integer n) => Number.isSigned64 n = true
  | _ => False

instance : (value : Value) → Decidable value.Printable
  | .null | .boolean _ | .text _ => .isTrue trivial
  | .number (.integer n) => inferInstanceAs (Decidable (Number.isSigned64 n = true))
  | .number (.float _) | .sequence _ | .keyed _ => .isFalse id

/-- Arguments that can be written. -/
def Param.Printable : Param → Prop
  | path p => p.Printable
  | literal value => value.Printable

instance : (param : Param) → Decidable param.Printable
  | .path p => inferInstanceAs (Decidable p.Printable)
  | .literal value => inferInstanceAs (Decidable value.Printable)

/-- A kind of block agrees with a name: the kinds with names of their own have these, a negated
block may also have the name that spells its argument, and the others have a name that is nobody's
own, a section the one that spells its argument. -/
def BlockKind.Agrees (name : String) : BlockKind → Prop
  | conditional argument => name = "if" ∧ argument.Printable
  | negated (.path p) =>
    name = "unless" ∧ p.Printable ∨ name ≠ "unless" ∧ Path.read name = .ok p
  | negated (.literal value) => name = "unless" ∧ value.Printable
  | each argument => name = "each" ∧ argument.Printable
  | within argument => name = "with" ∧ argument.Printable
  | implicit p => name ∉ Grammar.builtinNames ∧ Path.read name = .ok p
  | helper arguments =>
    name ∉ Grammar.builtinNames ∧ arguments ≠ [] ∧ ∀ argument ∈ arguments, argument.Printable

instance (name : String) : (kind : BlockKind) → Decidable (kind.Agrees name)
  | .conditional argument => inferInstanceAs (Decidable (name = "if" ∧ argument.Printable))
  | .negated (.path p) => inferInstanceAs (Decidable
      (name = "unless" ∧ p.Printable ∨ name ≠ "unless" ∧ Path.read name = .ok p))
  | .negated (.literal value) =>
    inferInstanceAs (Decidable (name = "unless" ∧ value.Printable))
  | .each argument => inferInstanceAs (Decidable (name = "each" ∧ argument.Printable))
  | .within argument => inferInstanceAs (Decidable (name = "with" ∧ argument.Printable))
  | .implicit p =>
    inferInstanceAs (Decidable (name ∉ Grammar.builtinNames ∧ Path.read name = .ok p))
  | .helper arguments => inferInstanceAs (Decidable (name ∉ Grammar.builtinNames ∧
      arguments ≠ [] ∧ ∀ argument ∈ arguments, argument.Printable))

namespace Node

/-- Whether a node is a text. -/
def isText : Node → Bool
  | text _ => true
  | _ => false

mutual

/-- Nodes that can be written. -/
def Printable : Node → Prop
  | text s =>
    s.toList ≠ [] ∧ ¬ openMarker <:+: s.toList ∧ s.toList.head? ≠ some '\x7d' ∧
      s.toList.getLast? ≠ some '\x7b'
  | path p _ => p.Printable ∧ p.segments ≠ [.name "else"]
  | literal value _ => value.Printable
  | call name arguments _ =>
    IsCallName name ∧ arguments ≠ [] ∧ ∀ argument ∈ arguments, argument.Printable
  | block kind name consequent alternate? =>
    IsWordName name ∧ kind.Agrees name ∧ PrintableAll consequent ∧ PrintableBranch alternate?
  | partialRef name context? => IsWordName name ∧ ∀ argument ∈ context?, argument.Printable

/-- Templates that can be written: no two texts stand side by side. -/
def PrintableAll : List Node → Prop
  | [] => True
  | n :: ns =>
    n.Printable ∧ (n.isText = true → ∀ m ∈ ns.head?, m.isText = false) ∧ PrintableAll ns

@[inherit_doc PrintableAll]
def PrintableBranch : Option (List Node) → Prop
  | none => True
  | some ns => PrintableAll ns

end

mutual

/-- Whether a node can be written is decided along its branches. -/
def decidablePrintable : (n : Node) → Decidable n.Printable
  | .text s => inferInstanceAs (Decidable (s.toList ≠ [] ∧ ¬ openMarker <:+: s.toList ∧
      s.toList.head? ≠ some '\x7d' ∧ s.toList.getLast? ≠ some '\x7b'))
  | .path p _ => inferInstanceAs (Decidable (p.Printable ∧ p.segments ≠ [.name "else"]))
  | .literal value _ => inferInstanceAs (Decidable value.Printable)
  | .call name arguments _ => inferInstanceAs (Decidable (IsCallName name ∧ arguments ≠ [] ∧
      ∀ argument ∈ arguments, argument.Printable))
  | .block kind name consequent alternate? =>
    have := decidablePrintableAll consequent
    have := decidablePrintableBranch alternate?
    inferInstanceAs (Decidable (IsWordName name ∧ kind.Agrees name ∧ PrintableAll consequent ∧
      PrintableBranch alternate?))
  | .partialRef name context? =>
    inferInstanceAs (Decidable (IsWordName name ∧ ∀ argument ∈ context?, argument.Printable))

@[inherit_doc decidablePrintable]
def decidablePrintableAll : (ns : List Node) → Decidable (PrintableAll ns)
  | [] => .isTrue trivial
  | n :: ns =>
    have := decidablePrintable n
    have := decidablePrintableAll ns
    inferInstanceAs (Decidable (n.Printable ∧
      (n.isText = true → ∀ m ∈ ns.head?, m.isText = false) ∧ PrintableAll ns))

@[inherit_doc decidablePrintable]
def decidablePrintableBranch : (alternate? : Option (List Node)) →
    Decidable (PrintableBranch alternate?)
  | none => .isTrue trivial
  | some ns => decidablePrintableAll ns

end

instance (ns : List Node) : Decidable (PrintableAll ns) :=
  decidablePrintableAll ns

end Node

end TextTemplate
