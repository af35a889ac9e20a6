import TextTemplate.Proofs.Members
import TextTemplate.Proofs.Render.Agreement
import TextTemplate.Proofs.Render.Writing

/-!
# Visiting members

A block of the kind `each` renders its main branch once for every member of a collection, in order
and each time from the stage that it has come to, and stops where one of these renderings halts.
Whatever has been written until then stays. The branch sees the member that it visits, where this
stands among the others, and around it the scope of the block. Where there is nothing to visit, the
other branch is rendered in that scope.

## Main definitions

- `Scope.IsVisit` — what a branch sees while it visits a member
- `Stage.Grows` — a stage at which more has been written
- `Rounds` — a rendering in some scopes, one after the other, up to one that halts

## Main statements

- `renderNodes_grows` — rendering takes nothing back that has been written
- `each_visits_every_member` — which branch of `each` is rendered, how often, and in which scopes
-/

namespace TextTemplate

open Text

-- ════════════════════════════════════════════════════════════════════════
-- What is seen during a visit
-- ════════════════════════════════════════════════════════════════════════

/-- What a branch sees while it visits a member, at a position among so many: the member itself in
place of what the scope around it has, whether it is the first and the last one, and its key or, if
it has none, its position. -/
structure Scope.IsVisit (scope : Scope) (i length : Nat) (key? : Option String) (member : Value)
    (inner : Scope) : Prop where
  parent : inner.parent? = some scope
  current : inner.resolve ⟨[.current]⟩ = some member
  first : inner.resolve ⟨[.first]⟩ = some (.boolean (decide (i = 0)))
  last : inner.resolve ⟨[.last]⟩ = some (.boolean (decide (i = length - 1)))
  key : inner.resolve ⟨[.key]⟩ = key?.map .text
  index : inner.resolve ⟨[.index]⟩ = if key?.isNone then some (.ofNat i) else none

theorem Scope.length_visits (scope : Scope) (collection : Value) :
    (scope.visits (some collection)).length = collection.members.length := by
  cases collection <;> simp [visits, Value.entries?, Value.members]

/-- The scopes of the visits are those of the members, in their order. -/
theorem Scope.isVisit_of_visits {scope inner : Scope} {collection member : Value} {i : Nat}
    {key? : Option String} (hmember : collection.members[i]? = some (key?, member))
    (hinner : (scope.visits (some collection))[i]? = some inner) :
    scope.IsVisit i collection.members.length key? member inner := by
  have hlt : i < collection.members.length := (List.getElem?_eq_some_iff.1 hmember).1
  have hlast : (i + 1 == collection.members.length) =
      decide (i = collection.members.length - 1) := by
    rw [Bool.eq_iff_iff, beq_iff_eq, decide_eq_true_eq]
    omega
  cases collection with
  | sequence items =>
    simp only [Value.members, List.getElem?_map, Option.map_eq_some_iff, Prod.mk.injEq] at hmember
    obtain ⟨item, hitem, rfl, rfl⟩ := hmember
    obtain rfl : inner = .item scope item i items.length := by
      simpa [visits, Value.entries?, hitem, eq_comm] using hinner
    simp only [Value.members, List.length_map] at hlast ⊢
    exact ⟨rfl, rfl, rfl, congrArg (some ∘ Value.boolean) hlast, rfl, rfl⟩
  | keyed pairs =>
    simp only [Value.members, List.getElem?_map, Option.map_eq_some_iff, Prod.mk.injEq] at hmember
    obtain ⟨⟨key, value⟩, hpair, rfl, rfl⟩ := hmember
    obtain rfl : inner = .entry scope value key i pairs.length := by
      simpa [visits, Value.entries?, hpair, eq_comm] using hinner
    simp only [Value.members, List.length_map] at hlast ⊢
    exact ⟨rfl, rfl, rfl, congrArg (some ∘ Value.boolean) hlast, rfl, rfl⟩
  | _ => cases hmember

/-- Below a well keyed scope, a member that is well keyed is visited in a well keyed scope. -/
theorem Scope.IsVisit.wellKeyed {scope inner : Scope} {i length : Nat} {key? : Option String}
    {member : Value} (hvisit : scope.IsVisit i length key? member inner) (h : scope.WellKeyed)
    (hmember : member.WellKeyed) : inner.WellKeyed := by
  have hcurrent : inner.value = member := Option.some.inj hvisit.current
  exact h.of_parent hvisit.parent (hcurrent ▸ hmember)

-- ════════════════════════════════════════════════════════════════════════
-- What has been written stays
-- ════════════════════════════════════════════════════════════════════════

/-- More has been written to the output, behind what was there. -/
def Stage.Grows (s s' : Stage) : Prop :=
  ∃ chunks, s'.output = { s.output with sink := s.output.sink.append chunks }

/-- What nodes are rendered with where a number of partials are being rendered. -/
abbrev Setting.envInside (setting : Setting) (depth : Nat) : Env :=
  setting.env (setting.config.maxPartialDepth - depth)

/-- Rendering takes nothing back that has been written, however it ends. -/
theorem renderNodes_grows (setting : Setting) (depth : Nat) (nodes : List Node) (scope : Scope)
    (stage : Stage) :
    stage.Grows (Render.left (renderNodes (setting.envInside depth) nodes scope stage)) := by
  have hlimit : min depth setting.config.maxPartialDepth +
      (setting.config.maxPartialDepth - depth) = setting.config.maxPartialDepth := by omega
  have hdepth : depthOf (List.replicate (min depth setting.config.maxPartialDepth) (.leave "")) =
      min depth setting.config.maxPartialDepth := by
    have hleave : Job.partial? (.leave "") = some "" := rfl
    rw [depthOf, List.filterMap_replicate_of_some hleave, List.length_replicate]
  -- The execution that does the same writes to the output of a template, which only grows.
  obtain ⟨written, hleads⟩ := carries_nodes (agrees_envAt setting hlimit) nodes scope
    { main := stage.output } stage.registry _ hdepth
  obtain ⟨more, -, hmain⟩ := hleads.extends
  refine ⟨_, Eq.trans ?_ hmain⟩
  simp only [Outputs.current]
  cases renderNodes (setting.envInside depth) nodes scope ⟨stage.output, stage.registry⟩ <;> rfl

/-- A rendering in some scopes, one after the other, each from the stage to which the one before it
has come, and each leaving what was written before it; the first one that halts is the last. -/
inductive Rounds (body : Scope → Render Unit) :
    List Scope → Stage → EStateM.Result Halt Stage Unit → Prop
  | done (stage : Stage) : Rounds body [] stage (.ok () stage)
  | next {scope : Scope} {scopes : List Scope} {stage stage' : Stage}
      {result : EStateM.Result Halt Stage Unit} :
      body scope stage = .ok () stage' → stage.Grows stage' → Rounds body scopes stage' result →
      Rounds body (scope :: scopes) stage result
  | halted {scope : Scope} {stage stage' : Stage} {halt : Halt} (scopes : List Scope) :
      body scope stage = .error halt stage' → stage.Grows stage' →
      Rounds body (scope :: scopes) stage (.error halt stage')

theorem rounds_forM {body : Scope → Render Unit}
    (hgrows : ∀ scope stage, Stage.Grows stage (Render.left (body scope stage)))
    (scopes : List Scope) (stage : Stage) : Rounds body scopes stage (scopes.forM body stage) := by
  induction scopes generalizing stage with
  | nil => exact .done stage
  | cons scope scopes ih =>
    have hbody := hgrows scope stage
    have hcons : (scope :: scopes).forM body stage =
        (do body scope; scopes.forM body : Render Unit) stage := rfl
    rw [hcons, Render.bind_apply]
    cases hresult : body scope stage with
    | ok _ stage' =>
      rw [hresult] at hbody
      exact .next hresult hbody (ih stage')
    | error halt stage' =>
      rw [hresult] at hbody
      exact .halted scopes hresult hbody

/-- Over a collection that has members, `each` renders its main branch in one round for every member,
in their order, and never the other branch; over anything else it renders the other branch, if there
is one, where it stands. The members that it visits are those that are found under their keys or
under the digits of their positions, and in a sequence these are all that can be found. Where the
data has been read this is so for everything that a path leads to, and again within each visit. -/
theorem each_visits_every_member (setting : Setting) (depth : Nat) (argument : Param)
    (name : String) (consequent : List Node) (scope : Scope) (stage : Stage) :
    (∀ collection, argument.value? scope = some collection → collection.members ≠ [] →
      ∃ (scopes : List Scope) (result : EStateM.Result Halt Stage Unit),
        scopes.length = collection.members.length ∧
        (∀ (i : Nat) key? member inner, collection.members[i]? = some (key?, member) →
          scopes[i]? = some inner →
          scope.IsVisit i collection.members.length key? member inner) ∧
        Rounds (renderNodes (setting.envInside depth) consequent) scopes stage result ∧
        ∀ alternate?, (Node.block (.each argument) name consequent alternate?).render
          (setting.envInside depth) scope stage = result) ∧
    ((∀ collection, argument.value? scope = some collection → collection.members = []) →
      ∀ alternate?, (Node.block (.each argument) name consequent alternate?).render
          (setting.envInside depth) scope stage =
        renderBranch (setting.envInside depth) alternate? scope stage) ∧
    (∀ (collection : Value) (i : Nat) key? member, collection.DistinctKeys →
      collection.members[i]? = some (key?, member) →
      collection.lookup (key?.getD (Number.integerText i)) = some member) ∧
    (∀ items name, ((Value.sequence items).lookup name).isSome ↔
      ∃ digits, (name.toList = digits ∨ name.toList = '+' :: digits) ∧ digits ≠ [] ∧
        (∀ c ∈ digits, c.isDigit = true) ∧ decimalValue digits < items.length) ∧
    (∀ source data, Value.read? source = some data → (Scope.root data).WellKeyed) ∧
    (scope.WellKeyed → ∀ path collection, scope.resolve path = some collection →
      ∀ (i : Nat) key? member, collection.members[i]? = some (key?, member) →
        collection.lookup (key?.getD (Number.integerText i)) = some member ∧
        ∀ inner, scope.IsVisit i collection.members.length key? member inner →
          inner.WellKeyed) := by
  have hrender : ∀ alternate?, (Node.block (.each argument) name consequent alternate?).render
      (setting.envInside depth) scope =
        renderEach (renderNodes (setting.envInside depth) consequent)
          (renderBranch (setting.envInside depth) alternate?) scope (argument.value? scope) := by
    intro alternate?
    rw [Node.render, BlockKind.render]
  refine ⟨fun collection hvalue hne => ?_, fun hempty alternate? => ?_,
    fun collection i key? member hkeys hi => Value.lookup_of_members hkeys hi,
    Value.isSome_lookup_sequence_iff, fun source data => Value.wellKeyed_of_read?,
    fun hscope path collection hpath i key? member hi => ?_⟩
  · refine ⟨scope.visits (some collection), _, scope.length_visits collection,
      fun i key? member inner => Scope.isVisit_of_visits,
      rounds_forM (renderNodes_grows setting depth consequent) _ stage, fun alternate? => ?_⟩
    have hlength := scope.length_visits collection
    rw [hrender, renderEach_eq, hvalue]
    cases hvisits : scope.visits (some collection) with
    | nil =>
      rw [hvisits] at hlength
      exact absurd (List.eq_nil_of_length_eq_zero hlength.symm) hne
    | cons visited scopes => rfl
  · have hvisits : scope.visits (argument.value? scope) = [] := by
      cases hvalue : argument.value? scope with
      | none => rfl
      | some collection =>
        apply List.eq_nil_of_length_eq_zero
        rw [Scope.length_visits, hempty collection hvalue, List.length_nil]
    rw [hrender, renderEach_eq, hvisits]
  · obtain ⟨hlookup, hmember⟩ := (hscope.resolve hpath).lookup_of_members hi
    exact ⟨hlookup, fun inner hvisit => hvisit.wellKeyed hscope hmember⟩

/-- Two words under keys, the data that they stand in, and that has nothing under another key. -/
def twoWords : Value :=
  .keyed [("foo", .text "hello"), ("bar", .text "world")]

@[inherit_doc twoWords]
def wordData : Scope :=
  .root (.keyed [("words", twoWords), ("rest", .sequence [])])

/-- The text from which the data with two words is read. -/
def wordSource : String :=
  "\x7b\"words\":\x7b\"foo\":\"hello\",\"bar\":\"world\"\x7d,\"rest\":[]\x7d"

/-- In data that is read, a keyed collection is visited by its keys, and an empty sequence is not
visited. -/
theorem each_visits_every_member_words :
    (Param.path ⟨[.name "words"]⟩).value? wordData = some twoWords ∧ twoWords.members ≠ [] ∧
    (∀ collection, (Param.path ⟨[.name "rest"]⟩).value? wordData = some collection →
      collection.members = []) ∧
    twoWords.DistinctKeys ∧ twoWords.members[1]? = some (some "bar", .text "world") ∧
    twoWords.lookup "bar" = some (.text "world") ∧
    Value.read? wordSource = some wordData.value ∧ wordData.WellKeyed ∧
    (∀ inner, wordData.IsVisit 1 2 (some "bar") (.text "world") inner → inner.WellKeyed) ∧
    ∀ (setting : Setting) (consequent : List Node) (stage : Stage),
      (∃ (scopes : List Scope) (result : EStateM.Result Halt Stage Unit), scopes.length = 2 ∧
        (∀ inner, scopes[1]? = some inner →
          wordData.IsVisit 1 2 (some "bar") (.text "world") inner) ∧
        Rounds (renderNodes (setting.envInside 0) consequent) scopes stage result ∧
        ∀ alternate?, (Node.block (.each (.path ⟨[.name "words"]⟩)) "each" consequent
          alternate?).render (setting.envInside 0) wordData stage = result) ∧
      ∀ alternate?, (Node.block (.each (.path ⟨[.name "rest"]⟩)) "each" consequent
          alternate?).render (setting.envInside 0) wordData stage =
        renderBranch (setting.envInside 0) alternate? wordData stage := by
  have hwords : (Param.path ⟨[.name "words"]⟩).value? wordData = some twoWords := rfl
  have hmembers : twoWords.members ≠ [] := List.cons_ne_nil _ _
  have hrest : ∀ collection, (Param.path ⟨[.name "rest"]⟩).value? wordData = some collection →
      collection.members = [] := by
    rintro _ ⟨⟩
    rfl
  have hkeys : twoWords.DistinctKeys := by
    change ["foo", "bar"].Nodup
    decide
  have hbar : twoWords.members[1]? = some (some "bar", .text "world") := rfl
  have hread : Value.read? wordSource = some wordData.value := by cbv
  obtain ⟨-, -, hfound, -, hstart, hinside⟩ := each_visits_every_member ⟨{}, fun _ _ => pure ()⟩ 0
    (.path ⟨[.name "words"]⟩) "each" [] wordData ⟨⟨true, {}⟩, {}⟩
  have hlookup := hfound twoWords 1 _ _ hkeys hbar
  have hwell : wordData.WellKeyed := hstart wordSource _ hread
  have hinner := (hinside hwell ⟨[.name "words"]⟩ twoWords hwords 1 _ _ hbar).2
  refine ⟨hwords, hmembers, hrest, hkeys, hbar, hlookup, hread, hwell, hinner,
    fun setting consequent stage => ⟨?_, ?_⟩⟩
  · obtain ⟨scopes, result, hlength, hvisits, hrounds, hresult⟩ := (each_visits_every_member setting
      0 (.path ⟨[.name "words"]⟩) "each" consequent wordData stage).1 twoWords hwords hmembers
    exact ⟨scopes, result, hlength, fun inner => hvisits 1 _ _ inner hbar, hrounds, hresult⟩
  · exact (each_visits_every_member setting 0 (.path ⟨[.name "rest"]⟩) "each" consequent wordData
      stage).2.1 hrest

end TextTemplate
