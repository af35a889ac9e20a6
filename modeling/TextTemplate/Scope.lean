import TextTemplate.Path
import TextTemplate.Value.Basic

/-!
# Scopes

A scope is the current value of a template together with the scopes around it, up to the data that
the template is rendered against. What a path does not find is missing, which is never an error.

## Main definitions

- `Scope` — the chain of current values
- `Scope.resolve` — the value that a path names
-/

namespace TextTemplate

/-- The current value and the scopes around it. A scope that visits a member of a collection knows
its place: the index in a sequence or the key in a keyed collection, and how many members there
are. -/
inductive Scope
  | root (data : Value)
  | child (parent : Scope) (value : Value)
  | item (parent : Scope) (value : Value) (index length : Nat)
  | entry (parent : Scope) (value : Value) (key : String) (position length : Nat)

namespace Scope

/-- The current value. -/
def value : Scope → Value
  | root v | child _ v | item _ v _ _ | entry _ v _ _ _ => v

/-- The scope around this one. -/
def parent? : Scope → Option Scope
  | root _ => none
  | child p _ | item p _ _ _ | entry p _ _ _ _ => some p

/-- The scope of the data that the template is rendered against. -/
def outermost : Scope → Scope
  | root data => root data
  | child p _ | item p _ _ _ | entry p _ _ _ _ => p.outermost

/-- The data that the template is rendered against. -/
def rootValue (s : Scope) : Value :=
  s.outermost.value

/-- The key of the member being visited. -/
def key? : Scope → Option String
  | entry _ _ key _ _ => some key
  | _ => none

/-- The index of the item being visited. -/
def index? : Scope → Option Nat
  | item _ _ index _ => some index
  | _ => none

/-- The position of the member being visited, and the number of members. -/
def step? : Scope → Option (Nat × Nat)
  | item _ _ position length | entry _ _ _ position length => some (position, length)
  | _ => none

/-- Whether the first member is being visited. -/
def isFirst? (s : Scope) : Option Bool :=
  s.step?.map fun (position, _) => position == 0

/-- Whether the last member is being visited. -/
def isLast? (s : Scope) : Option Bool :=
  s.step?.map fun (position, length) => position + 1 == length

/-- The value at the end of a path, from a scope and the value reached there. Steps up the chain
lead to the value of the scope they reach, data variables to its own; only a member needs a value
to be looked up in. -/
def follow (s : Scope) (reached : Option Value) : List Segment → Option Value
  | [] => reached
  | .current :: path => s.follow reached path
  | .root :: path => s.outermost.follow (some s.rootValue) path
  | .parent :: path =>
    match s.parent? with
    | none => none
    | some p => p.follow (some p.value) path
  | .key :: path => s.follow (s.key?.map .text) path
  | .index :: path => s.follow (s.index?.map .ofNat) path
  | .first :: path => s.follow (s.isFirst?.map .boolean) path
  | .last :: path => s.follow (s.isLast?.map .boolean) path
  | .name n :: path =>
    match reached with
    | none => none
    | some v => s.follow (v.lookup n) path

/-- The value that a path names, seen from a scope. -/
def resolve (s : Scope) (path : Path) : Option Value :=
  s.follow (some s.value) path.segments

end Scope

end TextTemplate
