import TextTemplate.Proofs.FirstFault
import TextTemplate.Proofs.Grammar.Parse

/-!
# The limit to the nesting of blocks

The limit decides about a source in one place only: at the first block that is opened where as many
blocks are open as the limit allows. A source that has no such block is read alike under every limit
that lets it pass, and comes to the same fault if it comes to one.

## Main definitions

- `Lexer.SpellsAll` — the items from one place of a source to another
- `Item.openBehind`, `Item.openBehindAll` — how many blocks are open behind items
- `FirstWithin` — the first block around which a number of blocks are open

## Main statements

- `FirstFault.raise` — a scan under a lower limit stops where the other one does, or at such a block
- `nesting_limit_is_exact` — what a source comes to under one limit decides what it comes to under
  the others
-/

namespace TextTemplate

-- ════════════════════════════════════════════════════════════════════════
-- Blocks in source order
-- ════════════════════════════════════════════════════════════════════════

/-- The items that are said one behind the other from one place of a source to another. -/
inductive Lexer.SpellsAll : Lexer → List Item → Lexer → Prop
  | nil (l : Lexer) : SpellsAll l [] l
  | cons {l l₁ l₂ : Lexer} {item : Item} {items : List Item} :
      l.Spells item l₁ → SpellsAll l₁ items l₂ → SpellsAll l (item :: items) l₂

namespace Item

/-- How many blocks are open behind an item, where a number of blocks are open before it. -/
def openBehind (around : Nat) : Item → Nat
  | opener _ _ _ => around + 1
  | closer _ _ => around - 1
  | _ => around

/-- How many blocks are open behind items in a row. -/
def openBehindAll (around : Nat) (items : List Item) : Nat :=
  items.foldl openBehind around

end Item

/-- The first block in source order around which `count` blocks are open, from a place where
`around` blocks are open: the tag that opens it has so many blocks around it, and none of those
before it has. -/
def FirstWithin (count around : Nat) (l : Lexer) (name : String) (position : Position) : Prop :=
  ∃ before kind l', l.SpellsAll (before ++ [.opener kind name position]) l' ∧
    Item.openBehindAll around before = count ∧
    ∀ earlier kind' name' position' later,
      before = earlier ++ .opener kind' name' position' :: later →
        Item.openBehindAll around earlier ≠ count

namespace FirstWithin

variable {count around : Nat} {l l' : Lexer} {kind : BlockKind} {name : String}
  {position : Position}

theorem here (h : l.Spells (.opener kind name position) l') :
    FirstWithin count count l name position := by
  refine ⟨[], kind, l', .cons h (.nil l'), rfl, ?_⟩
  intro earlier _ _ _ _ hnil
  cases earlier <;> cases hnil

/-- Behind an item that opens no block there, the block is the first one that is found. -/
theorem pass {item : Item} (hspells : l.Spells item l')
    (hitem : ∀ kind name position, item = .opener kind name position → around ≠ count)
    (h : FirstWithin count (item.openBehind around) l' name position) :
    FirstWithin count around l name position := by
  obtain ⟨before, kind, l'', hall, hcount, hfirst⟩ := h
  refine ⟨item :: before, kind, l'', .cons hspells hall, hcount, ?_⟩
  intro earlier kind' name' position' later heq
  cases earlier with
  | nil => exact hitem _ _ _ (List.cons.inj heq).1
  | cons x earlier =>
    obtain ⟨rfl, hmore⟩ := List.cons.inj heq
    exact hfirst earlier kind' name' position' later hmore

end FirstWithin

-- ════════════════════════════════════════════════════════════════════════
-- Scans under two limits
-- ════════════════════════════════════════════════════════════════════════

section

variable {limit limit' : Nat} {blocks blocks' : List OpenBlock} {item : Item} {e : ParseError}

theorem Passes.length_eq (h : Passes limit blocks item blocks') :
    blocks'.length = item.openBehind blocks.length := by
  cases h <;> rfl

theorem Passes.raise (h : Passes limit blocks item blocks') (hle : limit ≤ limit') :
    Passes limit' blocks item blocks' := by
  cases h with
  | node n => exact .node n
  | comment => exact .comment
  | opener hroom => exact .opener (Nat.lt_of_lt_of_le hroom hle)
  | otherwise => exact .otherwise
  | closer => exact .closer

/-- An item that fits opens no block around which as many blocks are open as the limit allows. -/
theorem Passes.length_ne (h : Passes limit blocks item blocks') (kind : BlockKind) (name : String)
    (position : Position) (hitem : item = .opener kind name position) : blocks.length ≠ limit := by
  subst hitem
  cases h with
  | opener hroom => exact Nat.ne_of_lt hroom

/-- A scan stops under a higher limit where it stops under a lower one, unless that is where a block
is opened inside as many blocks as the lower one allows. -/
theorem FirstFault.raise {l : Lexer} (h : FirstFault limit blocks l e) (hle : limit ≤ limit') :
    FirstFault limit' blocks l e ∨
      ∃ name position, e = .nestingTooDeep name position limit ∧
        FirstWithin limit blocks.length l name position := by
  induction h with
  | pass hspells hpasses _ ih =>
    obtain hfault | ⟨name, position, he, hfirst⟩ := ih
    · exact .inl (.pass hspells (hpasses.raise hle) hfault)
    · rw [hpasses.length_eq] at hfirst
      exact .inr ⟨name, position, he, hfirst.pass hspells hpasses.length_ne⟩
  | tag hfault => exact .inl (.tag hfault)
  | item hspells hoffends =>
    cases hoffends with
    | tooDeep hlength =>
      subst hlength
      exact .inr ⟨_, _, rfl, .here hspells⟩
    | strayElse => exact .inl (.item hspells .strayElse)
    | duplicateElse => exact .inl (.item hspells .duplicateElse)
    | strayClose => exact .inl (.item hspells .strayClose)
    | mismatched hname => exact .inl (.item hspells (.mismatched hname))
  | unclosed hend => exact .inl (.unclosed hend)

end

-- ════════════════════════════════════════════════════════════════════════
-- Parsing under two limits
-- ════════════════════════════════════════════════════════════════════════

theorem parseTemplate_eq_error_iff {limit : Nat} {source : String} {e : ParseError} :
    parseTemplate limit source = .error e ↔ FirstFault limit [] (.ofSource source) e := by
  constructor
  · intro h
    have hparse : Parser.assemble limit .empty (.ofSource source) =
        (.error e, (Parser.assemble limit .empty (.ofSource source)).2) := Prod.ext h rfl
    exact firstFault_of_assemble (Nat.zero_le limit) rfl hparse
  · intro h
    exact assemble_of_firstFault h rfl

/-- A source that is read under one limit is refused under any that its tree does not keep to. -/
theorem exists_error_of_lt_nesting {limit limit' : Nat} {source : String} {nodes : List Node}
    (h : parseTemplate limit source = .ok nodes) (hlt : limit' < Node.nestingOfAll nodes) :
    ∃ e, parseTemplate limit' source = .error e := by
  cases hresult : parseTemplate limit' source with
  | error e => exact ⟨e, rfl⟩
  | ok nodes' =>
    obtain ⟨lexemes, htokens, hderives, -⟩ := derives_of_parseTemplate h
    obtain ⟨lexemes', htokens', hderives', hnesting⟩ := derives_of_parseTemplate hresult
    obtain rfl := Except.ok.inj (htokens.symm.trans htokens')
    obtain rfl := eq_of_derives htokens hderives hderives'
    omega

/-- The limit to the nesting of blocks is exact, and only refuses. What is read under a limit keeps
to it; under another one that it keeps to it is read alike, and under any other it is refused for
the first block that has too many around it. A fault that is not about nesting is the same under
every higher limit. -/
theorem nesting_limit_is_exact (limit : Nat) (source : String) :
    (∀ nodes, parseTemplate limit source = .ok nodes →
      Node.nestingOfAll nodes ≤ limit ∧
        ∀ limit',
          (Node.nestingOfAll nodes ≤ limit' → parseTemplate limit' source = .ok nodes) ∧
          (limit' < Node.nestingOfAll nodes →
            ∃ name position, FirstWithin limit' 0 (.ofSource source) name position ∧
              parseTemplate limit' source = .error (.nestingTooDeep name position limit'))) ∧
    ∀ e, parseTemplate limit source = .error e →
      (∀ name position bound, e ≠ .nestingTooDeep name position bound) →
      ∀ limit', limit < limit' → parseTemplate limit' source = .error e := by
  refine ⟨?_, ?_⟩
  · intro nodes h
    obtain ⟨lexemes, htokens, hderives, hnesting⟩ := derives_of_parseTemplate h
    refine ⟨hnesting, fun limit' => ⟨parseTemplate_of_derives htokens hderives, ?_⟩⟩
    intro hlt
    obtain ⟨e, he⟩ := exists_error_of_lt_nesting h hlt
    have hle : limit' ≤ limit := by omega
    obtain hfault | ⟨name, position, rfl, hfirst⟩ := (parseTemplate_eq_error_iff.1 he).raise hle
    · rw [parseTemplate_eq_error_iff.2 hfault] at h
      cases h
    · exact ⟨name, position, hfirst, he⟩
  · intro e he hother limit' hlt
    obtain hfault | ⟨name, position, htoo, -⟩ :=
      (parseTemplate_eq_error_iff.1 he).raise (Nat.le_of_lt hlt)
    · exact parseTemplate_eq_error_iff.2 hfault
    · exact absurd htoo (hother name position limit)

/-- A block in the other branch of a block, behind a shallower one. -/
def nestedSource : String :=
  "\x7b\x7b#a\x7d\x7d\x7b\x7belse\x7d\x7d\x7b\x7b^b\x7d\x7dx\x7b\x7b/b\x7d\x7d\x7b\x7b/a\x7d\x7d"

/-- A block that another one closes. -/
def crossedSource : String :=
  "\x7b\x7b#a\x7d\x7d\x7b\x7b/b\x7d\x7d"

theorem nesting_limit_is_exact_nested :
    (∃ nodes, parseTemplate 7 nestedSource = .ok nodes ∧ Node.nestingOfAll nodes = 2 ∧
      parseTemplate 2 nestedSource = .ok nodes ∧
      ∃ name position, FirstWithin 1 0 (.ofSource nestedSource) name position ∧
        parseTemplate 1 nestedSource = .error (.nestingTooDeep name position 1)) ∧
    parseTemplate 1 crossedSource = .error (.mismatchedBlock "a" "b" ⟨2, 1, 3⟩ ⟨8, 1, 9⟩) ∧
    parseTemplate 9 crossedSource = .error (.mismatchedBlock "a" "b" ⟨2, 1, 3⟩ ⟨8, 1, 9⟩) := by
  have hnested : parseTemplate 7 nestedSource =
      .ok [.block (.implicit ⟨[.name "a"]⟩) "a" []
        (some [.block (.negated (.path ⟨[.name "b"]⟩)) "b" [.text "x"] none])] := by
    with_unfolding_all rfl
  have hcrossed : parseTemplate 1 crossedSource =
      .error (.mismatchedBlock "a" "b" ⟨2, 1, 3⟩ ⟨8, 1, 9⟩) := by
    with_unfolding_all rfl
  obtain ⟨-, hlimits⟩ := (nesting_limit_is_exact 7 nestedSource).1 _ hnested
  exact ⟨⟨_, hnested, rfl, (hlimits 2).1 (by decide), (hlimits 1).2 (by decide)⟩, hcrossed,
    (nesting_limit_is_exact 1 crossedSource).2 _ hcrossed (by simp) 9 (by decide)⟩

end TextTemplate
