import TextTemplate.Text.Split

/-!
# Paths

A path names a value seen from a scope: steps up the chain of scopes, data variables, and members.

## Main definitions

- `Segment`, `Path` — a path and its steps
- `Path.name?` — the name of a path that is nothing but a plain name
- `Path.read` — the path that a word spells
-/

namespace TextTemplate

open Text

/-- One step of a path. -/
inductive Segment
  | name (s : String)
  | current
  | parent
  | root
  | key
  | index
  | first
  | last
  deriving DecidableEq, Repr

/-- A path: the steps to a value. -/
structure Path where
  segments : List Segment
  deriving DecidableEq, Repr

/-- Why a word spells no path. -/
inductive PathError
  | malformed
  | unknownVariable (name : String)
  deriving DecidableEq, Repr

/-- The step that a data variable stands for. -/
def Segment.ofVariable (name : String) : Except PathError Segment :=
  if name = "root" then .ok .root
  else if name = "key" then .ok .key
  else if name = "index" then .ok .index
  else if name = "first" then .ok .first
  else if name = "last" then .ok .last
  else .error (.unknownVariable name)

/-- The step that a piece between dots spells; the name of the current value counts only at the
start of a path. -/
def Segment.ofPiece (isFirst : Bool) : List Char → Except PathError Segment
  | [] => .error .malformed
  | '@' :: rest => ofVariable (String.ofList rest)
  | piece =>
    if isFirst && String.ofList piece = "this" then .ok .current
    else .ok (.name (String.ofList piece))

namespace Path

/-- The plain name that a path consists of, if it is one. -/
def name? : Path → Option String
  | ⟨[.name s]⟩ => some s
  | _ => none

/-- The steps that pieces between dots spell. -/
def readPieces (isFirst : Bool) : List (List Char) → Except PathError (List Segment)
  | [] => .ok []
  | piece :: pieces =>
    match Segment.ofPiece isFirst piece with
    | .error e => .error e
    | .ok segment => (readPieces false pieces).map (segment :: ·)

/-- The steps that a part between slashes spells. -/
def readPart (isFirst : Bool) (part : List Char) : Except PathError (List Segment) :=
  if part = ['.', '.'] then .ok [.parent]
  else if part = ['.'] then .ok [.current]
  else readPieces isFirst (splitOn '.' part)

/-- The steps that parts between slashes spell. -/
def readParts (isFirst : Bool) : List (List Char) → Except PathError (List Segment)
  | [] => .ok []
  | part :: parts =>
    match readPart isFirst part with
    | .error e => .error e
    | .ok segments => (readParts false parts).map (segments ++ ·)

/-- The path that a word spells. -/
def read (word : String) : Except PathError Path :=
  (readParts true (splitOn '/' word.toList)).map mk

end Path

end TextTemplate
