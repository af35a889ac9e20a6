import TextTemplate.Proofs.Grammar.Parse
import TextTemplate.Proofs.Path
import TextTemplate.Proofs.Render.Reach
import TextTemplate.Stock

/-!
# Block helpers of sections

A section without arguments is given to a block helper if its path consists of a plain name and one
is registered under it. The path is the one that the name of the section spells, so a section whose
name has a dot or a slash is never given to a helper, although one may be registered under that very
name, and run for it if it has arguments.

## Main statements

- `read_of_parseTemplate` — the path of a section is the one that its name spells
- `section_is_given_to_helper_iff` — the names under which sections are given to block helpers
-/

namespace TextTemplate

namespace Grammar

/-- The path of a section is the one that its name spells. -/
theorem Opener.read_eq {tokens : List Token} {path : Path} {name : String}
    (h : Opener tokens (.implicit path) name) : Path.read name = .ok path := by
  cases h with
  | implicit _ _ hread => exact hread

theorem Derives.read_of_occurs {tokens : List Token} {nodes : List Node} {path : Path}
    {name : String} {consequent : List Node} {alternate? : Option (List Node)}
    (h : Derives tokens nodes)
    (hoccurs : (Node.block (.implicit path) name consequent alternate?).Occurs nodes) :
    Path.read name = .ok path := by
  induction h with
  | nil => cases hoccurs
  | text s _ ih =>
    cases hoccurs with
    | tail hoccurs => exact ih hoccurs
  | comment escaped s _ ih => exact ih hoccurs
  | leaf hleaf _ ih =>
    cases hoccurs with
    | head => cases hleaf
    | tail hoccurs => exact ih hoccurs
    | consequent | alternate => cases hleaf
  | block e₁ e₂ hopener _ _ ihbody ih =>
    cases hoccurs with
    | head => exact hopener.read_eq
    | tail hoccurs => exact ih hoccurs
    | consequent hoccurs => exact ihbody hoccurs
  | blockElse e₁ e₂ e₃ hopener _ _ _ _ ihbody ihbody' ih =>
    cases hoccurs with
    | head => exact hopener.read_eq
    | tail hoccurs => exact ih hoccurs
    | consequent hoccurs => exact ihbody hoccurs
    | alternate hoccurs => exact ihbody' hoccurs

end Grammar

/-- Every section of a template has the path that its name spells. -/
theorem read_of_parseTemplate {limit : Nat} {source : String} {nodes : List Node} {path : Path}
    {name : String} {consequent : List Node} {alternate? : Option (List Node)}
    (h : parseTemplate limit source = .ok nodes)
    (hoccurs : (Node.block (.implicit path) name consequent alternate?).Occurs nodes) :
    Path.read name = .ok path := by
  obtain ⟨_, -, hderives, -⟩ := derives_of_parseTemplate h
  exact hderives.read_of_occurs hoccurs

-- ════════════════════════════════════════════════════════════════════════
-- Rendering sections
-- ════════════════════════════════════════════════════════════════════════

/-- A section is given to the block helper that is found under the name that its path consists of,
and is rendered by its value if none is. -/
theorem Node.render_section (path : Path) (name : String) (consequent : List Node)
    (alternate? : Option (List Node)) (env : Env) (scope : Scope) (stage : Stage) :
    (Node.block (.implicit path) name consequent alternate?).render env scope stage =
      match path.name?.bind stage.registry.blockHelper? with
      | some found =>
        env.runBlock found scope [] alternate?.isSome (renderNodes env consequent)
          (renderBranch env alternate?) stage
      | none =>
        renderSection (renderNodes env consequent) (renderBranch env alternate?) scope
          (scope.resolve path) stage := by
  simp only [Node.render, BlockKind.render, Render.bind_apply]
  change (match path.name?.bind stage.registry.blockHelper? with
    | some found => _ | none => _ : Render Unit) stage = _
  cases path.name?.bind stage.registry.blockHelper? <;> rfl

/-- Where the data is null, a path of members leads to nothing that is true. -/
theorem renderSection_null (body other : Scope → Render Unit) (names : List String) :
    renderSection body other (.root .null) ((Scope.root .null).resolve ⟨names.map .name⟩) =
      other (.root .null) := by
  obtain _ | ⟨_, _ | ⟨_, _⟩⟩ := names <;> rfl

/-- What nodes without partials are rendered with. -/
def bareEnv : Env :=
  ⟨{}, none, fun _ _ => pure ()⟩

/-- A helper that refuses to go on. -/
def refusing : BlockHelper := fun _ _ _ => .fail .write

/-- Sections under a name are given to the block helper that is registered under it, just if the
name has neither a dot nor a slash; otherwise, or if none is registered, they are rendered by the
value of their path. -/
theorem section_is_given_to_helper_iff (name : String) (path : Path) (names : List String)
    (hread : Path.read name = .ok path) (hnames : path.segments = names.map .name) :
    ((∀ consequent alternate? env scope stage found,
        stage.registry.blockHelper? name = some found →
          (Node.block (.implicit path) name consequent alternate?).render env scope stage =
            env.runBlock found scope [] alternate?.isSome (renderNodes env consequent)
              (renderBranch env alternate?) stage) ↔
      '.' ∉ name.toList ∧ '/' ∉ name.toList) ∧
    (∀ consequent alternate? env scope stage,
      ('.' ∈ name.toList ∨ '/' ∈ name.toList) ∨ stage.registry.blockHelper? name = none →
        (Node.block (.implicit path) name consequent alternate?).render env scope stage =
          renderSection (renderNodes env consequent) (renderBranch env alternate?) scope
            (scope.resolve path) stage) ∧
    ∀ limit source nodes path' consequent alternate?, parseTemplate limit source = .ok nodes →
      (Node.block (.implicit path') name consequent alternate?).Occurs nodes → path' = path := by
  have hname := Path.name?_of_read hread hnames
  refine ⟨⟨fun hgiven => ?_, fun hplain => ?_⟩, ?_, ?_⟩
  · by_contra hmark
    rw [if_pos (by simpa only [not_and_or, not_not] using hmark)] at hname
    -- The helper would end the rendering with a fault, but the section comes to nothing.
    have hrender := hgiven [] none bareEnv (.root .null)
      ⟨⟨true, {}⟩, Registry.addBlockHelper {} name refusing⟩ refusing
      (Registry.blockHelper?_addBlockHelper_self _ _ _)
    obtain ⟨segments⟩ := path
    cases hnames
    simp only [Node.render_section, hname, Option.bind_none, renderSection_null] at hrender
    cases hrender
  · intro consequent alternate? env scope stage found hfound
    rw [if_neg (by simpa only [not_or] using hplain)] at hname
    simp only [Node.render_section, hname, Option.bind_some, hfound]
  · intro consequent alternate? env scope stage hnone
    have hbind : path.name?.bind stage.registry.blockHelper? = none := by
      rw [hname]
      split
      · rfl
      · next hmark => exact hnone.resolve_left hmark
    rw [Node.render_section, hbind]
  · intro limit source nodes path' consequent alternate? hparse hoccurs
    exact Except.ok.inj ((read_of_parseTemplate hparse hoccurs).symm.trans hread)

theorem section_is_given_to_helper_iff_card :
    Path.read "card" = .ok ⟨[.name "card"]⟩ ∧
      ∀ consequent alternate? env scope stage found,
        stage.registry.blockHelper? "card" = some found →
          (Node.block (.implicit ⟨[.name "card"]⟩) "card" consequent alternate?).render env scope
              stage =
            env.runBlock found scope [] alternate?.isSome (renderNodes env consequent)
              (renderBranch env alternate?) stage := by
  have hread : Path.read "card" = .ok ⟨[.name "card"]⟩ := by decide
  exact ⟨hread,
    (section_is_given_to_helper_iff "card" ⟨[.name "card"]⟩ ["card"] hread rfl).1.2 (by decide)⟩

/-- A template with a section whose name has a dot. -/
def dottedSource : String :=
  "\x7b\x7b#a.b\x7d\x7dA\x7b\x7belse\x7d\x7dB\x7b\x7b/a.b\x7d\x7d"

/-- A stage at which a block helper is registered under that name. -/
def dottedStage : Stage :=
  ⟨⟨true, {}⟩, Registry.addBlockHelper {} "a.b" Stock.either⟩

/-- A section whose name has a dot is not given to the helper that is registered under it. -/
theorem dotted_section_not_given_to_helper :
    ¬ ∀ (limit : Nat) (source name : String) (names : List String)
        (consequent alternate : List Node) (env : Env) (scope : Scope) (stage : Stage)
        (found : BlockHelper),
        parseTemplate limit source =
          .ok [.block (.implicit ⟨names.map .name⟩) name consequent (some alternate)] →
        stage.registry.blockHelper? name = some found →
        (Node.block (.implicit ⟨names.map .name⟩) name consequent (some alternate)).render env scope
            stage =
          env.runBlock found scope [] true (renderNodes env consequent) (renderNodes env alternate)
            stage := by
  intro h
  have hparse : parseTemplate 1 dottedSource =
      .ok [.block (.implicit ⟨["a", "b"].map .name⟩) "a.b" [.text "A"] (some [.text "B"])] := by
    with_unfolding_all rfl
  have hfound : dottedStage.registry.blockHelper? "a.b" = some Stock.either := rfl
  have hrender := h 1 dottedSource "a.b" ["a", "b"] [.text "A"] [.text "B"] bareEnv (.root .null)
    dottedStage Stock.either hparse hfound
  -- The section writes its other branch alone, and the helper writes neither.
  have hsection : (Render.left ((Node.block (.implicit ⟨["a", "b"].map .name⟩) "a.b" [.text "A"]
      (some [.text "B"])).render bareEnv (.root .null) dottedStage)).output.sink.chunks = ["B"] := by
    decide +kernel
  have hhelper : (Render.left (bareEnv.runBlock Stock.either (.root .null) [] true
      (renderNodes bareEnv [.text "A"]) (renderNodes bareEnv [.text "B"])
        dottedStage)).output.sink.chunks = ["two"] := by
    decide +kernel
  rw [hrender, hhelper] at hsection
  exact absurd hsection (by decide)

end TextTemplate
