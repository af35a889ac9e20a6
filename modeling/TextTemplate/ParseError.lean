import TextTemplate.Path
import TextTemplate.Token.Scan

/-!
# Faults in templates

## Main definitions

- `ParseError` — why a source is no template
- `ParseError.message` — its text
-/

namespace TextTemplate

/-- What should have stood where something else was found. -/
inductive Expectation
  | textOrTag
  | tagEnd
  | endOfComment
  | endOfElse
  | endOfCloser
  | endOfNegation
  | endOfLiteral
  | tagHead
  | blockName
  | argument
  | path
  deriving DecidableEq, Repr

/-- An expectation as messages put it. -/
def Expectation.phrase : Expectation → String
  | textOrTag => "text or `\x7b\x7b`"
  | tagEnd => "`\x7d\x7d`"
  | endOfComment => "`\x7d\x7d` after a comment"
  | endOfElse => "`\x7d\x7d` after `else`"
  | endOfCloser => "`\x7d\x7d` after a closing tag"
  | endOfNegation => "`\x7d\x7d` after a negated section"
  | endOfLiteral => "`\x7d\x7d` after a literal"
  | tagHead => "a path, helper or block"
  | blockName => "a block name"
  | argument => "a path or literal argument"
  | path => "a path"

/-- Why a source is no template. -/
inductive ParseError
  | lex (e : LexError)
  | unexpected (found : Token) (position : Position) (expected : Expectation)
  | mismatchedBlock (name closed : String) (opened position : Position)
  | unclosedBlock (name : String) (opened : Position)
  | strayClose (name : String) (position : Position)
  | strayElse (position : Position)
  | duplicateElse (position : Position)
  | arity (name : String) (position : Position) (expected found : Nat)
  | mismatchedDelimiters (opened : Position)
  | emptyExpression (opened : Position)
  | unknownDataVariable (name : String) (position : Position)
  | nestingTooDeep (name : String) (position : Position) (limit : Nat)

namespace ParseError

/-- The fault that a word at a position spells no path. -/
def ofPathError (word : String) (position : Position) : PathError → ParseError
  | .malformed => unexpected (.word word) position .path
  | .unknownVariable name => unknownDataVariable name position

/-- The place an error points at. -/
def position : ParseError → Position
  | lex e => e.position
  | unexpected _ p _ | mismatchedBlock _ _ _ p | unclosedBlock _ p | strayClose _ p
  | strayElse p | duplicateElse p | arity _ p _ _ | mismatchedDelimiters p | emptyExpression p
  | unknownDataVariable _ p | nestingTooDeep _ p _ => p

/-- The message of an error. -/
def message : ParseError → String
  | lex e => e.message
  | unexpected found p expected =>
    "unexpected " ++ found.shown ++ " at " ++ p.text ++ ", expected " ++ expected.phrase
  | mismatchedBlock name closed opened p =>
    "block `" ++ name ++ "` opened at " ++ opened.text ++ " closed by `/" ++ closed ++ "` at " ++
      p.text
  | unclosedBlock name opened =>
    "block `" ++ name ++ "` opened at " ++ opened.text ++ " is never closed"
  | strayClose name p => "closing `/" ++ name ++ "` at " ++ p.text ++ " has no open block"
  | strayElse p => "`else` at " ++ p.text ++ " outside of a block"
  | duplicateElse p => "second `else` at " ++ p.text ++ " in the same block"
  | arity name p expected found =>
    "`" ++ name ++ "` at " ++ p.text ++ " takes " ++ toString expected ++ " argument(s), got " ++
      toString found
  | mismatchedDelimiters opened =>
    "expression opened at " ++ opened.text ++ " closed with a different delimiter"
  | emptyExpression opened => "empty expression at " ++ opened.text
  | unknownDataVariable name p => "unknown data variable `@" ++ name ++ "` at " ++ p.text
  | nestingTooDeep name p limit =>
    "block `" ++ name ++ "` at " ++ p.text ++ " is nested more than " ++ toString limit ++ " deep"

end ParseError

/-- The path that a word at a position spells. -/
def Path.readAt (word : String) (position : Position) : Except ParseError Path :=
  match Path.read word with
  | .ok path => .ok path
  | .error e => .error (.ofPathError word position e)

end TextTemplate
