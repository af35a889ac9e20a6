import TextTemplate.Script
import TextTemplate.Value.Compact

/-!
# Stock helpers

A catalogue of small helpers, each showing one thing that a helper can do.

## Main definitions

- `Stock.helper?` — the inline helper of a kind
- `Stock.blockHelper?` — the block helper of a kind
-/

namespace TextTemplate.Stock

/-- An argument by position; what was not given is null. -/
def argument (arguments : List Value) (position : Nat) : Value :=
  arguments[position]?.getD .null

/-- The displayed text of an argument. -/
def shown (arguments : List Value) (position : Nat) : String :=
  (argument arguments position).display

/-- The compact text of all arguments as a sequence. -/
def dumped (arguments : List Value) : String :=
  (Value.sequence arguments).compact

/-- A value that may be absent, as null. -/
def orNull : Option Value → Value
  | some v => v
  | none => .null

/-- A description of a scope: its place, its value, the two values around it, and the root. -/
def describe (scope : Scope) : Value :=
  .keyed [
    ("key", orNull (scope.key?.map .text)),
    ("index", orNull (scope.index?.map .ofNat)),
    ("value", scope.value),
    ("parent", orNull (scope.parent?.map Scope.value)),
    ("above", orNull ((scope.parent?.bind Scope.parent?).map Scope.value)),
    ("root", scope.rootValue)]

/-- Hands back a value that is fixed. -/
def const (value : Value) : Helper := fun _ _ =>
  .reply (.value value)

/-- Hands back the compact text of its arguments. -/
def dump : Helper := fun _ arguments =>
  .reply (.value (.text (dumped arguments)))

/-- Hands back its argument in angle brackets, to be escaped. -/
def wrap : Helper := fun _ arguments =>
  .reply (.value (.text ("<" ++ shown arguments 0 ++ ">")))

/-- Hands back its argument in angle brackets, as it is. -/
def safe : Helper := fun _ arguments =>
  .reply (.safe ("<" ++ shown arguments 0 ++ ">"))

/-- Hands back its first argument. -/
def first : Helper := fun _ arguments =>
  .reply (.value (argument arguments 0))

/-- Hands back nothing. -/
def nothing : Helper := fun _ _ =>
  .reply .nothing

/-- Writes its arguments in the different ways there are, and hands back the fourth. -/
def emit : Helper := fun _ arguments =>
  .put (.safe "[<") <|
  .put (.escaped (shown arguments 0)) <|
  .put (.safe "|") <|
  .put (.value (argument arguments 1) true) <|
  .put (.safe "|") <|
  .put (.value (argument arguments 2) false) <|
  .put (.safe ">]") <|
  .reply (.value (argument arguments 3))

/-- Hands back a description of the current scope. -/
def whereabouts : Helper := fun scope _ =>
  .reply (.safe (describe scope).compact)

/-- Hands back the value that its argument names as a path. -/
def resolve : Helper := fun scope arguments =>
  match Path.readAt (shown arguments 0) .start with
  | .error e => .fail (.helper "resolve" e.message)
  | .ok path =>
    match scope.resolve path with
    | some v => .reply (.value v)
    | none => .reply (.safe "<missing>")

/-- Writes something, and fails with its argument as the message. -/
def failing (arguments : List Value) : Script :=
  .put (.safe "(") <| .fail (.helper "fail" (shown arguments 0))

/-- Registers a helper under its first argument that hands back the second. -/
def define : Helper := fun _ arguments =>
  .defineHelper (shown arguments 0) (const (argument arguments 1)) <| .reply .nothing

/-- Registers a partial under its first argument, read from the second. -/
def definePartial : Helper := fun _ arguments =>
  .compile (shown arguments 1) fun
    | .error e => .fail (.helper "defpartial" e.message)
    | .ok nodes => .definePartial (shown arguments 0) nodes <| .reply .nothing

/-- Hands back its argument rendered as a template of its own against the current value. -/
def expand : Helper := fun scope arguments =>
  .compile (shown arguments 0) fun
    | .error e => .fail (.helper "expand" e.message)
    | .ok nodes => .expand nodes scope.value fun c =>
      match c.fault? with
      | some e => .fail e
      | none => .reply (.safe c.text)

/-- The inline helper of a kind; `text` is what a fixed one hands back. -/
def helper? (kind text : String) : Option Helper :=
  match kind with
  | "const" => some (const (.text text))
  | "dump" => some dump
  | "wrap" => some wrap
  | "safe" => some safe
  | "first" => some first
  | "nothing" => some nothing
  | "emit" => some emit
  | "where" => some whereabouts
  | "resolve" => some resolve
  | "fail" => some fun _ arguments => failing arguments
  | "define" => some define
  | "defpartial" => some definePartial
  | "expand" => some expand
  | _ => none

/-- The number of times that a value asks for: a whole number that is not negative. -/
def count : Value → Nat
  | .number (.integer (.ofNat n)) => n
  | _ => 0

/-- Renders the main branch for a number of further times, with a counter from `next` on. -/
def repeatFrom (scope : Scope) : Nat → Nat → Script
  | 0, _ => .reply .nothing
  | times + 1, next =>
    .putBranch .main (.child scope (.keyed [("n", .ofNat next)])) <|
    repeatFrom scope times (next + 1)

/-- Renders the main branch in each of some scopes. -/
def renderIn : List Scope → Script
  | [] => .reply .nothing
  | scope :: scopes => .putBranch .main scope <| renderIn scopes

/-- Writes a text that is fixed, escaped. -/
def constBlock (text : String) : BlockHelper := fun _ _ _ =>
  .put (.escaped text) <| .reply .nothing

/-- Renders the main branch as often as its argument says, or the other branch for never. -/
def repeated : BlockHelper := fun scope arguments _ =>
  match count (argument arguments 0) with
  | 0 => .putBranch .other scope <| .reply .nothing
  | times => repeatFrom scope times 0

/-- Says whether the block has an other branch. -/
def either : BlockHelper := fun _ _ hasOther =>
  .put (.safe (if hasOther then "two" else "one")) <| .reply .nothing

/-- Writes the main branch, rendered apart with or without escaping and then changed. -/
def changed (escape : Bool) (change : String → String) : BlockHelper := fun scope _ _ =>
  .capture .main scope escape fun c =>
    match c.fault? with
    | some e => .fail e
    | none => .put (.safe (change c.text)) <| .reply .nothing

/-- Writes the main branch in upper-case letters, as far as they are ASCII. -/
def loud : BlockHelper := changed true (String.map Char.toUpper)

/-- Writes the main branch without any escaping. -/
def raw : BlockHelper := changed false id

/-- Writes both branches and the compact text of its arguments. -/
def both : BlockHelper := fun scope arguments _ =>
  .putBranch .main scope <|
  .put (.safe "|") <|
  .putBranch .other scope <|
  .put (.safe "|") <|
  .put (.safe (dumped arguments)) <|
  .reply .nothing

/-- Renders the main branch with its argument as the current value. -/
def rebind : BlockHelper := fun scope arguments _ =>
  .putBranch .main (.child scope (argument arguments 0)) <| .reply .nothing

/-- Renders the main branch for the items of a sequence, last first, or for the members of a keyed
collection. -/
def walk : BlockHelper := fun scope arguments _ =>
  match (argument arguments 0).entries? with
  | some (.sequence items) =>
    renderIn (items.zipIdx.reverse.map fun (v, i) => .item scope v i items.length)
  | some (.keyed members) =>
    renderIn (members.zipIdx.map fun ((k, v), i) => .entry scope v k i members.length)
  | none => .putBranch .other scope <| .reply .nothing

/-- Writes the main branch, and in place of a fault its message. -/
def swallow : BlockHelper := fun scope _ _ =>
  .capture .main scope true fun c =>
    let text := match c.fault? with
      | some e => c.text ++ "!" ++ e.message ++ "!"
      | none => c.text
    .put (.safe text) <| .reply .nothing

/-- The block helper of a kind; `text` is what a fixed one writes. -/
def blockHelper? (kind text : String) : Option BlockHelper :=
  match kind with
  | "const" => some (constBlock text)
  | "repeat" => some repeated
  | "either" => some either
  | "loud" => some loud
  | "raw" => some raw
  | "both" => some both
  | "rebind" => some rebind
  | "walk" => some walk
  | "swallow" => some swallow
  | "fail" => some fun _ arguments _ => failing arguments
  | _ => none

end TextTemplate.Stock
