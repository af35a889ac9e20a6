import TextTemplate.Path
import TextTemplate.Value.Basic

/-!
# Template trees

What a template says, apart from how it is written.

## Main definitions

- `Param` — an argument: a path or a literal
- `BlockKind` — what a block does with its branches
- `Node` — a part of a template
-/

namespace TextTemplate

/-- An argument of a helper, block or partial. -/
inductive Param
  | path (p : Path)
  | literal (value : Value)

/-- What decides which branch of a block is rendered, how often, and in which scope. -/
inductive BlockKind
  /-- The main branch if the argument is true, the other one if it is not. -/
  | conditional (argument : Param)
  /-- The main branch if the argument is not true, the other one if it is. -/
  | negated (argument : Param)
  /-- The main branch once for every member of the argument. -/
  | each (argument : Param)
  /-- The main branch with the argument as the current value. -/
  | within (argument : Param)
  /-- A block helper if one is registered under the name that the path consists of; otherwise
  `each` on sequences and `within` on other values. -/
  | implicit (path : Path)
  /-- A registered block helper. -/
  | helper (arguments : List Param)

namespace BlockKind

/-- The arguments of a block in order. -/
def arguments : BlockKind → List Param
  | conditional argument | negated argument | each argument | within argument => [argument]
  | implicit path => [.path path]
  | helper arguments => arguments

end BlockKind

/-- A part of a template. -/
inductive Node
  | text (s : String)
  | path (p : Path) (escaped : Bool)
  | literal (value : Value) (escaped : Bool)
  | call (name : String) (arguments : List Param) (escaped : Bool)
  | block (kind : BlockKind) (name : String) (consequent : List Node)
      (alternate? : Option (List Node))
  | partialRef (name : String) (context? : Option Param)

end TextTemplate
