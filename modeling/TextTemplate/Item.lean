import TextTemplate.Node
import TextTemplate.ParseError
import TextTemplate.Token.Lexer

/-!
# Items of a template

A template is a row of items: its texts and its tags, each tag read by itself, before any block is
put together. What a tag says depends on its first token.

## Main definitions

- `Item` — a text or a tag
- `Item.ofTag` — the item that the tokens of a tag spell
- `Lexer.nextItem` — the next item and the lexer behind it
-/

namespace TextTemplate

/-- A text or a tag of a template. -/
inductive Item
  | node (n : Node)
  | comment
  | opener (kind : BlockKind) (name : String) (position : Position)
  | otherwise (position : Position)
  | closer (name : String) (position : Position)

/-- The fault that a lexeme stands where something else should. -/
def Lexeme.unexpected (lexeme : Lexeme) (expected : Expectation) : ParseError :=
  .unexpected lexeme.token lexeme.position expected

/-- The argument that a lexeme spells: a literal, or a word that opens or closes no block. -/
def Param.ofLexeme (lexeme : Lexeme) : Except ParseError Param :=
  match lexeme.token with
  | .literal value => .ok (.literal value)
  | .word word =>
    if (word.toList.head?.map isBlockMark).getD false then .error (lexeme.unexpected .argument)
    else (Path.readAt word lexeme.position).map .path
  | _ => .error (lexeme.unexpected .argument)

/-- The arguments that lexemes spell, up to the first fault. -/
def Param.ofLexemes : List Lexeme → Except ParseError (List Param)
  | [] => .ok []
  | lexeme :: lexemes =>
    match ofLexeme lexeme with
    | .error e => .error e
    | .ok param => (ofLexemes lexemes).map (param :: ·)

/-- The kinds of block that have a name of their own and take one argument. -/
def BlockKind.builtin? (name : String) : Option (Param → BlockKind) :=
  if name = "if" then some .conditional
  else if name = "unless" then some .negated
  else if name = "each" then some .each
  else if name = "with" then some .within
  else none

/-- The kind of a block opened by a name and arguments. -/
def BlockKind.ofName (name : String) (position : Position) (arguments : List Param) :
    Except ParseError BlockKind :=
  match builtin? name with
  | some kind =>
    match arguments with
    | [argument] => .ok (kind argument)
    | _ => .error (.arity name position 1 arguments.length)
  | none =>
    if name = "" then .error (.unexpected (.word "#") position .blockName)
    else match arguments with
      | [] => (Path.readAt name position).map .implicit
      | _ => .ok (.helper arguments)

namespace Item

/-- An item that nothing may follow in its tag. -/
def alone (extra : List Lexeme) (expected : Expectation) (item : Except ParseError Item) :
    Except ParseError Item :=
  match extra with
  | [] => item
  | lexeme :: _ => .error (lexeme.unexpected expected)

/-- The item of a tag that begins with a word at a position: `else` and a lone `^` start the other
branch of a block, `/` closes a block, `#` opens one, `^` opens a negated one, and any other word is
a path if it stands alone and a helper call if it does not. -/
def ofWord (escaped : Bool) (word : String) (position : Position) (extra : List Lexeme) :
    Except ParseError Item :=
  if word = "else" || word = "^" then alone extra .endOfElse (.ok (.otherwise position))
  else match word.toList with
    | '/' :: name => alone extra .endOfCloser (.ok (.closer (String.ofList name) position))
    | '#' :: name =>
      let name := String.ofList name
      match Param.ofLexemes extra with
      | .error e => .error e
      | .ok arguments =>
        (BlockKind.ofName name position arguments).map fun kind => .opener kind name position
    | '^' :: name =>
      let name := String.ofList name
      alone extra .endOfNegation ((Path.readAt name position).map fun path =>
        .opener (.negated (.path path)) name position)
    | _ =>
      if extra.isEmpty then (Path.readAt word position).map fun path => .node (.path path escaped)
      else (Param.ofLexemes extra).map fun arguments => .node (.call word arguments escaped)

/-- The item of a tag that begins with the name of a partial. -/
def ofPartial (name : String) (opened : Position) : List Lexeme → Except ParseError Item
  | [] => .ok (.node (.partialRef name none))
  | [lexeme] => (Param.ofLexeme lexeme).map fun param => .node (.partialRef name (some param))
  | lexemes => .error (.arity (">" ++ name) opened 1 lexemes.length)

/-- The item that the lexemes of a tag spell, of a tag opened at a position. -/
def ofTag (escaped : Bool) (opened : Position) : List Lexeme → Except ParseError Item
  | [] => .error (.emptyExpression opened)
  | head :: extra =>
    match head.token with
    | .comment _ => alone extra .endOfComment (.ok .comment)
    | .partialRef name => ofPartial name opened extra
    | .word word => ofWord escaped word head.position extra
    | .literal value => alone extra .endOfLiteral (.ok (.node (.literal value escaped)))
    | _ => .error (head.unexpected .tagHead)

end Item

namespace Lexer

/-- The lexemes up to the end of a tag, which has to be closed as it was opened. -/
def tagLexemes (escaped : Bool) (opened : Position) (l : Lexer) :
    Except ParseError (List Lexeme) × Lexer :=
  match _ : l.next with
  | (.error e, l') => (.error (.lex e), l')
  | (.ok none, l') => (.error (.lex (.unterminated opened)), l')
  | (.ok (some lexeme), l') =>
    match lexeme.token with
    | .endTag closed =>
      if closed = escaped then (.ok [], l') else (.error (.mismatchedDelimiters opened), l')
    | .startTag _ | .text _ => (.error (lexeme.unexpected .tagEnd), l')
    | _ =>
      let (result, l'') := l'.tagLexemes escaped opened
      (result.map (lexeme :: ·), l'')
termination_by l.rest.length
decreasing_by exact length_rest_of_next ‹_›

theorem tagLexemes_eq (escaped : Bool) (opened : Position) (l : Lexer) :
    l.tagLexemes escaped opened =
      match l.next with
      | (.error e, l') => (.error (.lex e), l')
      | (.ok none, l') => (.error (.lex (.unterminated opened)), l')
      | (.ok (some lexeme), l') =>
        match lexeme.token with
        | .endTag closed =>
          if closed = escaped then (.ok [], l') else (.error (.mismatchedDelimiters opened), l')
        | .startTag _ | .text _ => (.error (lexeme.unexpected .tagEnd), l')
        | _ =>
          let (result, l'') := l'.tagLexemes escaped opened
          (result.map (lexeme :: ·), l'') := by
  rw [tagLexemes]
  split
  · next h => simp only [h]
  · next h => simp only [h]
  · next h => simp only [h]

/-- The next item, if the template has not ended, and the lexer behind it. -/
def nextItem (l : Lexer) : Except ParseError (Option Item) × Lexer :=
  match l.next with
  | (.error e, l') => (.error (.lex e), l')
  | (.ok none, l') => (.ok none, l')
  | (.ok (some lexeme), l') =>
    match lexeme.token with
    | .text s => (.ok (some (.node (.text s))), l')
    | .startTag escaped =>
      match l'.tagLexemes escaped lexeme.position with
      | (.error e, l'') => (.error e, l'')
      | (.ok lexemes, l'') => ((Item.ofTag escaped lexeme.position lexemes).map some, l'')
    | _ => (.error (lexeme.unexpected .textOrTag), l')

/-- The end of a tag lies ahead. -/
theorem length_rest_of_tagLexemes {escaped : Bool} {opened : Position} {l l' : Lexer}
    {lexemes : List Lexeme} (h : l.tagLexemes escaped opened = (.ok lexemes, l')) :
    l'.rest.length < l.rest.length := by
  fun_induction tagLexemes escaped opened l generalizing lexemes l' with
  | case1 => simp at h
  | case2 => simp at h
  | case3 l lexeme l₁ hnext _ =>
    cases h
    exact length_rest_of_next hnext
  | case4 => simp at h
  | case5 => simp at h
  | case6 => simp at h
  | case7 l lexeme l₁ hnext result l₂ hmore _ _ _ ih =>
    cases result with
    | error e => simp [Except.map] at h
    | ok lexemes' =>
      simp only [Except.map, Prod.mk.injEq] at h
      obtain ⟨_, rfl⟩ := h
      exact Nat.lt_trans (ih hmore) (length_rest_of_next hnext)

/-- An item takes at least one character. -/
theorem length_rest_of_nextItem {l l' : Lexer} {item : Item}
    (h : l.nextItem = (.ok (some item), l')) : l'.rest.length < l.rest.length := by
  unfold nextItem at h
  split at h
  · simp at h
  · simp at h
  · next lexeme l₁ hnext =>
    have hlt := length_rest_of_next hnext
    split at h
    · cases h
      exact hlt
    · split at h
      · simp at h
      · next lexemes l₂ htag =>
        simp only [Prod.mk.injEq] at h
        obtain ⟨_, rfl⟩ := h
        exact Nat.lt_trans (length_rest_of_tagLexemes htag) hlt
    · simp at h

end Lexer

end TextTemplate
