import TextTemplate.Output
import TextTemplate.ParseError
import TextTemplate.Node
import TextTemplate.Scope

/-!
# What helpers do

A helper is called with the current scope and its arguments, and answers with a script: the writes,
the renderings of its block's branches and the registrations that it asks for, one after the other,
and at the end its reply. A script is told the fault of a write or of a branch and may go on in any
way; as a rule it ends with that fault. It does not see what is in the output, but can have a branch
rendered apart, into a text of its own.

## Main definitions

- `Script` — what a helper does
- `Script.put`, `Script.putBranch` — writes that end the script if they fail
- `Helper`, `BlockHelper` — scripts by scope and arguments
- `Registry` — helpers, block helpers and partials by name
-/

namespace TextTemplate

/-- What a helper hands back to be written in place of its call. -/
inductive Reply
  | nothing
  | value (v : Value)
  | safe (s : String)

/-- The branches of a block. -/
inductive Branch
  | main
  | other
  deriving DecidableEq, Repr

/-- What was rendered apart: the text written, and the fault that ended it, if any. -/
structure Captured where
  text : String
  fault? : Option RenderError

/-- What a helper does. -/
inductive Script
  /-- Ends with a reply. -/
  | reply (r : Reply)
  /-- Ends with a fault. -/
  | fail (fault : RenderError)
  /-- Writes a piece to the output, and goes on with the fault if it is refused. -/
  | write (piece : Piece) (next : Option RenderError → Script)
  /-- Renders a branch of the block to the output, in a scope, and goes on with the fault that ended
  it, if any. -/
  | render (branch : Branch) (scope : Scope) (next : Option RenderError → Script)
  /-- Renders a branch of the block apart, escaping or not, in a scope. -/
  | capture (branch : Branch) (scope : Scope) (escape : Bool) (next : Captured → Script)
  /-- Reads a source as a template. -/
  | compile (source : String) (next : Except ParseError (List Node) → Script)
  /-- Renders nodes apart, as a template of their own with its own data. -/
  | expand (nodes : List Node) (data : Value) (next : Captured → Script)
  /-- Registers a helper. -/
  | defineHelper (name : String) (helper : Scope → List Value → Script) (next : Script)
  /-- Registers a block helper. -/
  | defineBlockHelper (name : String) (helper : Scope → List Value → Bool → Script)
    (next : Script)
  /-- Registers a partial. -/
  | definePartial (name : String) (nodes : List Node) (next : Script)

namespace Script

/-- Goes on if there is no fault, and ends with it if there is. -/
def unlessFault (next : Script) : Option RenderError → Script
  | none => next
  | some fault => .fail fault

/-- Writes a piece to the output; a refusal ends the script. -/
def put (piece : Piece) (next : Script) : Script :=
  .write piece next.unlessFault

/-- Renders a branch of the block to the output, in a scope; a fault ends the script. -/
def putBranch (branch : Branch) (scope : Scope) (next : Script) : Script :=
  .render branch scope next.unlessFault

end Script

/-- A helper: its script by the current scope and the arguments. -/
abbrev Helper := Scope → List Value → Script

/-- A block helper: its script by the current scope, the arguments, and whether the block has an
other branch. -/
abbrev BlockHelper := Scope → List Value → Bool → Script

/-- Helpers, block helpers and partials by name, last registered first. The three kinds have name
spaces of their own. -/
structure Registry where
  helpers : List (String × Helper) := []
  blockHelpers : List (String × BlockHelper) := []
  partials : List (String × List Node) := []

namespace Registry

/-- The helper last registered under a name. -/
def helper? (r : Registry) (name : String) : Option Helper :=
  r.helpers.lookup name

/-- The block helper last registered under a name. -/
def blockHelper? (r : Registry) (name : String) : Option BlockHelper :=
  r.blockHelpers.lookup name

/-- The partial last registered under a name. -/
def partial? (r : Registry) (name : String) : Option (List Node) :=
  r.partials.lookup name

/-- Registers a helper in place of any other under its name. -/
def addHelper (r : Registry) (name : String) (helper : Helper) : Registry :=
  { r with helpers := (name, helper) :: r.helpers }

/-- Registers a block helper in place of any other under its name. -/
def addBlockHelper (r : Registry) (name : String) (helper : BlockHelper) : Registry :=
  { r with blockHelpers := (name, helper) :: r.blockHelpers }

/-- Registers a partial in place of any other under its name. -/
def addPartial (r : Registry) (name : String) (nodes : List Node) : Registry :=
  { r with partials := (name, nodes) :: r.partials }

@[simp]
theorem helper?_addHelper_self (r : Registry) (name : String) (helper : Helper) :
    (r.addHelper name helper).helper? name = some helper := by
  simp [addHelper, helper?]

theorem helper?_addHelper_of_ne {name other : String} (r : Registry) (helper : Helper)
    (h : other ≠ name) : (r.addHelper name helper).helper? other = r.helper? other := by
  simp [addHelper, helper?, List.lookup_cons, beq_false_of_ne h]

@[simp]
theorem blockHelper?_addBlockHelper_self (r : Registry) (name : String) (helper : BlockHelper) :
    (r.addBlockHelper name helper).blockHelper? name = some helper := by
  simp [addBlockHelper, blockHelper?]

theorem blockHelper?_addBlockHelper_of_ne {name other : String} (r : Registry)
    (helper : BlockHelper) (h : other ≠ name) :
    (r.addBlockHelper name helper).blockHelper? other = r.blockHelper? other := by
  simp [addBlockHelper, blockHelper?, List.lookup_cons, beq_false_of_ne h]

@[simp]
theorem partial?_addPartial_self (r : Registry) (name : String) (nodes : List Node) :
    (r.addPartial name nodes).partial? name = some nodes := by
  simp [addPartial, partial?]

theorem partial?_addPartial_of_ne {name other : String} (r : Registry) (nodes : List Node)
    (h : other ≠ name) : (r.addPartial name nodes).partial? other = r.partial? other := by
  simp [addPartial, partial?, List.lookup_cons, beq_false_of_ne h]

end Registry

end TextTemplate
