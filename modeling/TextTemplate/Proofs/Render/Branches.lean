import TextTemplate.Proofs.Render.Sections

/-!
# Branches of blocks

A section that is given to no block helper visits the items of a sequence as `each` does, and does
what `with` does where its path leads to anything else or to nothing. Blocks of the kinds `if` and
`with` render their main branch for the same values, and those of the kind `unless` for all others;
where a block does not render its main branch it renders the other one.

## Main definitions

- `BlockKind.TakesMain`, `BlockKind.TakesOther` — which branch is rendered in a scope

## Main statements

- `takesMain_conditional_iff`, `takesMain_negated_iff`, `takesMain_within_iff` — the values for
  which the main branch is rendered
- `section_is_each_or_within` — sections as other blocks, and blocks that choose alike
-/

namespace TextTemplate

-- ════════════════════════════════════════════════════════════════════════
-- Sections
-- ════════════════════════════════════════════════════════════════════════

/-- A section whose word is the name of no block helper is rendered by the value of its path. -/
theorem Node.render_section_of_none {word : String} {path : Path}
    (hread : Path.read word = .ok path) {stage : Stage}
    (hnone : stage.registry.blockHelper? word = none) (consequent : List Node)
    (alternate? : Option (List Node)) (env : Env) (scope : Scope) :
    (Node.block (.implicit path) word consequent alternate?).render env scope stage =
      renderSection (renderNodes env consequent) (renderBranch env alternate?) scope
        (scope.resolve path) stage := by
  have hbind : path.name?.bind stage.registry.blockHelper? = none := by
    cases hname : path.name? with
    | none => rfl
    | some name =>
      rw [Path.eq_of_read_of_name? hread hname]
      exact hnone
  rw [Node.render_section, hbind]

theorem renderSection_of_not_sequence (body other : Scope → Render Unit) (scope : Scope)
    {value? : Option Value} (h : ∀ items, value? ≠ some (.sequence items)) :
    renderSection body other scope value? = renderWithin body other scope value? := by
  unfold renderSection
  split
  · next items => exact absurd rfl (h items)
  · rfl

-- ════════════════════════════════════════════════════════════════════════
-- Which branch is taken
-- ════════════════════════════════════════════════════════════════════════

/-- Blocks of a kind render their main branch once, whatever it consists of. -/
def BlockKind.TakesMain (kind : BlockKind) (scope : Scope) : Prop :=
  ∃ inner, ∀ env name consequent alternate?,
    (Node.block kind name consequent alternate?).render env scope = renderNodes env consequent inner

/-- Blocks of a kind render their other branch in the scope they are in, or nothing if it is
absent. -/
def BlockKind.TakesOther (kind : BlockKind) (scope : Scope) : Prop :=
  ∀ env name consequent alternate?,
    (Node.block kind name consequent alternate?).render env scope =
      renderBranch env alternate? scope

namespace BlockKind

variable {kind : BlockKind} {scope : Scope}

/-- A text in the main branch is written only where this branch is taken. -/
theorem TakesOther.not_takesMain (h : kind.TakesOther scope) : ¬ kind.TakesMain scope := by
  rintro ⟨inner, hmain⟩
  have hrender := hmain bareEnv "" [.text ""] none
  rw [h bareEnv "" [.text ""] none] at hrender
  have hchunks := congrArg
    (fun action : Render Unit => (Render.left (action ⟨⟨true, {}⟩, {}⟩)).output.sink.chunks) hrender
  have hnothing : ([] : List String) = [""] := hchunks
  cases hnothing

/-- Where a condition decides between the branches, it decides which one is taken. -/
theorem takesMain_iff {condition : Prop} (hmain : condition → kind.TakesMain scope)
    (hother : ¬ condition → kind.TakesOther scope) :
    (kind.TakesMain scope ↔ condition) ∧ (kind.TakesOther scope ↔ ¬ condition) := by
  refine ⟨⟨fun htakes => ?_, hmain⟩, fun htakes hcondition => ?_, hother⟩
  · by_contra hcondition
    exact (hother hcondition).not_takesMain htakes
  · exact htakes.not_takesMain (hmain hcondition)

variable (argument : Param) (scope : Scope)

theorem takesMain_conditional_iff :
    ((conditional argument).TakesMain scope ↔
      Value.isPresentAndTruthy (argument.value? scope) = true) ∧
    ((conditional argument).TakesOther scope ↔
      ¬ Value.isPresentAndTruthy (argument.value? scope) = true) := by
  apply takesMain_iff
  · intro htrue
    refine ⟨scope, fun env name consequent alternate? => ?_⟩
    rw [Node.render, BlockKind.render, if_pos htrue]
  · intro hfalse env name consequent alternate?
    rw [Node.render, BlockKind.render, if_neg hfalse]

theorem takesMain_negated_iff :
    ((negated argument).TakesMain scope ↔
      ¬ Value.isPresentAndTruthy (argument.value? scope) = true) ∧
    ((negated argument).TakesOther scope ↔
      ¬ ¬ Value.isPresentAndTruthy (argument.value? scope) = true) := by
  apply takesMain_iff
  · intro hfalse
    refine ⟨scope, fun env name consequent alternate? => ?_⟩
    rw [Node.render, BlockKind.render, if_neg hfalse]
  · intro htrue env name consequent alternate?
    rw [Node.render, BlockKind.render, if_pos (not_not.1 htrue)]

/-- The main branch of `with` sees the value itself. -/
theorem takesMain_within_iff :
    ((within argument).TakesMain scope ↔
      Value.isPresentAndTruthy (argument.value? scope) = true) ∧
    ((within argument).TakesOther scope ↔
      ¬ Value.isPresentAndTruthy (argument.value? scope) = true) := by
  apply takesMain_iff
  · intro htrue
    cases hvalue : argument.value? scope with
    | none => simp [hvalue, Value.isPresentAndTruthy] at htrue
    | some value =>
      rw [hvalue, Value.isPresentAndTruthy] at htrue
      refine ⟨.child scope value, fun env name consequent alternate? => ?_⟩
      rw [Node.render, BlockKind.render, hvalue, renderWithin, if_pos htrue]
  · intro hfalse env name consequent alternate?
    rw [Node.render, BlockKind.render]
    cases hvalue : argument.value? scope with
    | none => rfl
    | some value =>
      rw [hvalue, Value.isPresentAndTruthy] at hfalse
      rw [renderWithin, if_neg hfalse]

end BlockKind

/-- A section under a word that names no block helper is rendered as `each` over the same path if
this leads to a sequence, and as `with` over it otherwise. Over one argument, `with` takes its main
branch just where `if` does, and `unless` just where `if` does not; each of them takes the other
branch where it does not take the main one. -/
theorem section_is_each_or_within (word : String) (path : Path)
    (hread : Path.read word = .ok path) :
    (∀ consequent alternate? env scope stage, stage.registry.blockHelper? word = none →
      (∀ items, scope.resolve path = some (.sequence items) →
        (Node.block (.implicit path) word consequent alternate?).render env scope stage =
          (Node.block (.each (.path path)) "each" consequent alternate?).render env scope stage) ∧
      ((∀ items, scope.resolve path ≠ some (.sequence items)) →
        (Node.block (.implicit path) word consequent alternate?).render env scope stage =
          (Node.block (.within (.path path)) "with" consequent alternate?).render env scope
            stage)) ∧
    ∀ (argument : Param) (scope : Scope),
      ((BlockKind.within argument).TakesMain scope ↔
        (BlockKind.conditional argument).TakesMain scope) ∧
      ((BlockKind.negated argument).TakesMain scope ↔
        ¬ (BlockKind.conditional argument).TakesMain scope) ∧
      ∀ kind ∈ [BlockKind.conditional argument, .negated argument, .within argument],
        kind.TakesOther scope ↔ ¬ kind.TakesMain scope := by
  refine ⟨fun consequent alternate? env scope stage hnone => ⟨fun items hitems => ?_,
    fun hother => ?_⟩, fun argument scope => ?_⟩
  · rw [Node.render_section_of_none hread hnone, hitems]
    simp only [renderSection, Node.render, BlockKind.render, Param.value?, hitems]
  · rw [Node.render_section_of_none hread hnone, renderSection_of_not_sequence _ _ _ hother]
    simp only [Node.render, BlockKind.render, Param.value?]
  · obtain ⟨hif, hif'⟩ := BlockKind.takesMain_conditional_iff argument scope
    obtain ⟨hunless, hunless'⟩ := BlockKind.takesMain_negated_iff argument scope
    obtain ⟨hwith, hwith'⟩ := BlockKind.takesMain_within_iff argument scope
    refine ⟨hwith.trans hif.symm, hunless.trans (not_congr hif.symm), fun kind hkind => ?_⟩
    simp only [List.mem_cons, List.not_mem_nil, or_false] at hkind
    obtain rfl | rfl | rfl := hkind
    · exact hif'.trans (not_congr hif.symm)
    · exact hunless'.trans (not_congr hunless.symm)
    · exact hwith'.trans (not_congr hwith.symm)

/-- Data with an empty sequence and an empty keyed collection. -/
def emptyCollections : Scope :=
  .root (.keyed [("people", .sequence []), ("team", .keyed [])])

/-- A stage at which a block helper is registered under another name. -/
def cardStage : Stage :=
  ⟨⟨true, {}⟩, Registry.addBlockHelper {} "card" Stock.either⟩

/-- A section over an empty sequence is `each`, one over an empty keyed collection is `with`. -/
theorem section_is_each_or_within_empty :
    Path.read "people" = .ok ⟨[.name "people"]⟩ ∧ Path.read "team" = .ok ⟨[.name "team"]⟩ ∧
    cardStage.registry.blockHelper? "people" = none ∧
    cardStage.registry.blockHelper? "team" = none ∧
    ∀ consequent alternate? env,
      (Node.block (.implicit ⟨[.name "people"]⟩) "people" consequent alternate?).render env
          emptyCollections cardStage =
        (Node.block (.each (.path ⟨[.name "people"]⟩)) "each" consequent alternate?).render env
          emptyCollections cardStage ∧
      (Node.block (.implicit ⟨[.name "team"]⟩) "team" consequent alternate?).render env
          emptyCollections cardStage =
        (Node.block (.within (.path ⟨[.name "team"]⟩)) "with" consequent alternate?).render env
          emptyCollections cardStage := by
  have hpeople : Path.read "people" = .ok ⟨[.name "people"]⟩ := by decide
  have hteam : Path.read "team" = .ok ⟨[.name "team"]⟩ := by decide
  have hnone : cardStage.registry.blockHelper? "people" = none := rfl
  have hnone' : cardStage.registry.blockHelper? "team" = none := rfl
  refine ⟨hpeople, hteam, hnone, hnone', fun consequent alternate? env => ⟨?_, ?_⟩⟩
  · exact ((section_is_each_or_within _ _ hpeople).1 _ _ _ _ _ hnone).1 [] rfl
  · exact ((section_is_each_or_within _ _ hteam).1 _ _ _ _ _ hnone').2 (fun _ h => nomatch h)

end TextTemplate
