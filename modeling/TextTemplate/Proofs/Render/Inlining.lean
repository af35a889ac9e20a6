import Mathlib.Tactic.SplitIfs
import TextTemplate.Proofs.Render.RaisedLimit
import TextTemplate.Proofs.Render.Replacing

/-!
# Partials are inlined

A rendering in which no helper runs comes to the same result and the same text if inclusions are
replaced by the nodes of their partials. So a partial sees what the place of its inclusion sees: by
the same paths if it has no context, and one step up the chain of scopes if it has one.

## Main definitions

- `Engine.RunsTrueMarks` — a rendering in which the contexts of marked inclusions are true
-/

namespace TextTemplate

namespace Engine

open Execution

/-- A rendering in which the context of a marked inclusion is true wherever this runs. -/
def RunsTrueMarks (e : Engine) (label : String) (nodes : List Node) (data : Value) (sink : Sink) :
    Prop :=
  MarksHold e.setting label (e.start nodes data sink)

variable {config : Config} {r r' r'' : Registry} {nodes nodes' nodes'' : List Node} {data : Value}
  {sink : Sink} {label : String}

/-- Marked inclusions run with true contexts if all contexts that can be reached are true
everywhere. -/
theorem runsTrueMarks_of_reaches
    (h : ∀ name param, r.Reaches nodes (.partialRef name (some param)) →
      ∀ scope, Value.isPresentAndTruthy (param.value? scope) = true) :
    RunsTrueMarks ⟨config, r⟩ label nodes data sink := by
  intro reached hreached name param ns scope jobs _ hjobs
  have hjob : Job.nodes (.mark label :: .partialRef name (some param) :: ns) scope ∈
      reached.jobs := by
    rw [hjobs]
    exact List.mem_cons_self
  exact h name param ((within_reached hreached).jobs _ hjob _ (.tail .head)) scope

/-- Templates that are rendered alike come to the same, if not to the limit of partials. -/
theorem renderValue_of_alike
    (h : Alike r r' r'' (renderTemplate config maxExpansions nodes data
        ⟨⟨config.escapeHtml, sink⟩, r⟩)
      (renderTemplate config maxExpansions nodes' data ⟨⟨config.escapeHtml, sink⟩, r'⟩)
      (renderTemplate config maxExpansions nodes'' data ⟨⟨config.escapeHtml, sink⟩, r''⟩))
    (hlimit : ∀ name limit, (renderValue ⟨config, r⟩ nodes data sink).outcome ≠
      .error (.fault (.partialDepth name limit))) :
    ∃ outcome sink',
      renderValue ⟨config, r⟩ nodes data sink = ⟨outcome, sink', ⟨config, r⟩⟩ ∧
      renderValue ⟨config, r'⟩ nodes' data sink = ⟨outcome, sink', ⟨config, r'⟩⟩ ∧
      renderValue ⟨config, r''⟩ nodes'' data sink = ⟨outcome, sink', ⟨config, r''⟩⟩ := by
  unfold renderValue at hlimit ⊢
  simp only at hlimit ⊢
  generalize renderTemplate config maxExpansions nodes data _ = first at h hlimit ⊢
  generalize renderTemplate config maxExpansions nodes' data _ = second at h ⊢
  generalize renderTemplate config maxExpansions nodes'' data _ = third at h ⊢
  cases h with
  | exceeded name limit => exact absurd rfl (hlimit name limit)
  | ok output => exact ⟨_, _, rfl, rfl, rfl⟩
  | error halt output => exact ⟨_, _, rfl, rfl, rfl⟩

/-- A card: its number, its value, and the title of what is around it. -/
def cardNodes : List Node :=
  [.path ⟨[.index]⟩ true, .text "=", .path ⟨[.current]⟩ true, .text " in ",
    .path ⟨[.parent, .name "title"]⟩ true, .text ";"]

/-- The value of jokers. -/
def joker : Param :=
  .literal (.text "joker")

/-- Two sets of nodes for every item. -/
def listNodes (cards jokers : List Node) : List Node :=
  [.block (.each (.path ⟨[.name "items"]⟩)) "each" (cards ++ jokers) none]

/-- Cards and jokers for every item, which include the partial for cards. -/
def plainListNodes : List Node :=
  listNodes [.partialRef "card" none] [.partialRef "card" (some joker)]

/-- The same with a mark in front of every joker. -/
def markedListNodes : List Node :=
  listNodes [.partialRef "card" none] [.mark "joker", .partialRef "card" (some joker)]

/-- The same with the partial for cards in place of what includes it. -/
def inlinedListNodes : List Node :=
  listNodes cardNodes [.within joker cardNodes]

/-- Partials for cards and lists. -/
def cardsRegistry (list : List Node) : Registry :=
  (Registry.addPartial {} "card" cardNodes).addPartial "list" list

/-- Two lists. -/
def cardsNodes : List Node :=
  [.partialRef "list" none, .text "|", .partialRef "list" none]

/-- The same with the partial for lists in place of what includes it first. -/
def inlinedCardsNodes : List Node :=
  plainListNodes ++ [.text "|", .partialRef "list" none]

/-- Two items and a title. -/
def cardsData : Value :=
  .keyed [("title", .text "T"), ("items", .sequence [.text "a", .text "b"])]

theorem partial?_cardsRegistry (list : List Node) (name : String) :
    (cardsRegistry list).partial? name =
      if name = "list" then some list else if name = "card" then some cardNodes else none := by
  unfold cardsRegistry
  by_cases hlist : name = "list"
  · rw [hlist, Registry.partial?_addPartial_self, if_pos rfl]
  rw [Registry.partial?_addPartial_of_ne _ _ hlist, if_neg hlist]
  by_cases hcard : name = "card"
  · rw [hcard, Registry.partial?_addPartial_self, if_pos rfl]
  rw [Registry.partial?_addPartial_of_ne _ _ hcard, if_neg hcard]
  rfl

theorem not_answers_cardsRegistry (list : List Node) (answer : Script) :
    ¬ (cardsRegistry list).Answers answer := by
  rintro (⟨hlookup, _, _⟩ | ⟨hlookup, _, _, _⟩)
  · cases hlookup
  · cases hlookup

theorem inlines_cardsRegistry : (cardsRegistry plainListNodes).Inlines "joker"
    (cardsRegistry markedListNodes) (cardsRegistry inlinedListNodes) where
  helpers := ⟨rfl, rfl⟩
  blockHelpers := ⟨rfl, rfl⟩
  missing := by
    intro name h
    simp only [partial?_cardsRegistry] at h ⊢
    split_ifs at h ⊢
    exact ⟨rfl, rfl⟩
  found := by
    intro name body h
    simp only [partial?_cardsRegistry] at h ⊢
    split_ifs at h ⊢
    · cases h
      exact ⟨_, _, rfl, rfl, .block _ _ (.inlined rfl (.inlinedWithin joker rfl .nil)) .nil⟩
    · cases h
      refine ⟨_, _, rfl, rfl, ?_⟩
      iterate 6 refine .leaf trivial ?_
      exact .nil

/-- The only context is that of jokers. -/
theorem eq_joker_of_reaches {name : String} {param : Param}
    (h : (cardsRegistry markedListNodes).Reaches cardsNodes (.partialRef name (some param))) :
    param = joker := by
  have hoccurs : ∀ ns ∈ [cardsNodes, markedListNodes, cardNodes],
      (Node.partialRef name (some param)).Occurs ns → param = joker := by
    intro ns hns h
    simp only [cardsNodes, markedListNodes, listNodes, cardNodes, Node.mark, List.cons_append,
      List.nil_append, List.mem_cons, List.not_mem_nil, or_false] at hns
    obtain rfl | rfl | rfl := hns
    all_goals
      repeat'
        first
        | rfl
        | cases ‹Node.Occurs _ _›
  cases h with
  | here h => exact hoccurs _ (by simp) h
  | included _ hoffers h =>
    obtain hfound | ⟨_, _, hanswers, _⟩ := hoffers
    · rw [partial?_cardsRegistry] at hfound
      split_ifs at hfound
      · cases hfound
        exact hoccurs _ (by simp) h
      · cases hfound
        exact hoccurs _ (by simp) h
    · exact absurd hanswers (not_answers_cardsRegistry _ _)

/-- Inclusions of partials may be replaced in a template and in partials, those without a context by
the nodes of the partial and those with one by a block, if this is true wherever they run: the
result and the text stay the same unless the limit of partials was exceeded, and marks do not change
them. A partial is rendered in the scope of its inclusion, or just below it with the context for its
value, which is null if it is missing. -/
theorem inlining_keeps_result {label : String} {config : Config} {r r' r'' : Registry}
    {nodes nodes' nodes'' : List Node} (hregistry : r.Inlines label r' r'')
    (hnodes : Inlines label r nodes nodes' nodes'') (data : Value) (sink : Sink)
    (hquiet : RunsNoHelper ⟨config, r⟩ nodes data sink)
    (hmarks : RunsTrueMarks ⟨config, r'⟩ label nodes' data sink)
    (hlimit : ∀ name limit, (renderValue ⟨config, r⟩ nodes data sink).outcome ≠
      .error (.fault (.partialDepth name limit))) :
    ((renderValue ⟨config, r''⟩ nodes'' data sink).outcome =
          (renderValue ⟨config, r⟩ nodes data sink).outcome ∧
        (renderValue ⟨config, r''⟩ nodes'' data sink).sink =
          (renderValue ⟨config, r⟩ nodes data sink).sink) ∧
      ((renderValue ⟨config, r'⟩ nodes' data sink).outcome =
          (renderValue ⟨config, r⟩ nodes data sink).outcome ∧
        (renderValue ⟨config, r'⟩ nodes' data sink).sink =
          (renderValue ⟨config, r⟩ nodes data sink).sink) ∧
      ∀ (point : Execution) name context? scope jobs body, point.halt? = none →
        point.jobs = .node (.partialRef name context?) scope :: jobs →
        point.registry.partial? name = some body →
        point.included.length < config.maxPartialDepth →
        point.next (setting ⟨config, r⟩) = some
            { point with jobs := .nodes body (scope.ofPartial context?) :: .leave name :: jobs } ∧
          (context? = none →
            ∀ path, (scope.ofPartial context?).resolve path = scope.resolve path) ∧
          ∀ param, context? = some param →
            (param.value? scope = none → scope.ofPartial context? = .child scope .null) ∧
            ∀ segments, (scope.ofPartial context?).resolve ⟨.parent :: segments⟩ =
              scope.resolve ⟨segments⟩ := by
  let t : Sides := ⟨label, setting ⟨config, r⟩, r, r', r'', start ⟨config, r⟩ nodes data sink,
    start ⟨config, r'⟩ nodes' data sink⟩
  have hsound : t.Sound := ⟨hregistry, hquiet, hmarks⟩
  have hreached : t.Reached 0 (.nodes nodes (.root data)) (.nodes nodes' (.root data))
      ⟨config.escapeHtml, sink⟩ :=
    ⟨⟨_, [], rfl, rfl, .refl⟩, ⟨_, [], rfl, rfl, .refl⟩⟩
  have halike : Alike r r' r''
      (renderTemplate config maxExpansions nodes data ⟨⟨config.escapeHtml, sink⟩, r⟩)
      (renderTemplate config maxExpansions nodes' data ⟨⟨config.escapeHtml, sink⟩, r'⟩)
      (renderTemplate config maxExpansions nodes'' data ⟨⟨config.escapeHtml, sink⟩, r''⟩) :=
    hsound.alike_nodes (Nat.zero_add _) (Nat.le_refl _) hnodes (.root data) _ hreached
  obtain ⟨outcome, sink', hplain, hmarked, hinlined⟩ := renderValue_of_alike halike hlimit
  rw [hplain, hmarked, hinlined]
  refine ⟨⟨rfl, rfl⟩, ⟨rfl, rfl⟩, ?_⟩
  intro point name context? scope jobs body hruns hjobs hfound hdepth
  refine ⟨next_of_inclusion hruns hjobs hfound hdepth, ?_, ?_⟩
  · rintro rfl path
    rfl
  · rintro param rfl
    refine ⟨fun hmissing => ?_, fun segments => rfl⟩
    simp only [Scope.ofPartial, Param.value, hmissing, Option.getD_none]

theorem inlining_keeps_result_cards :
    (cardsRegistry plainListNodes).Inlines "joker" (cardsRegistry markedListNodes)
        (cardsRegistry inlinedListNodes) ∧
      Inlines "joker" (cardsRegistry plainListNodes) cardsNodes cardsNodes inlinedCardsNodes ∧
      RunsNoHelper ⟨{}, cardsRegistry plainListNodes⟩ cardsNodes cardsData {} ∧
      RunsTrueMarks ⟨{}, cardsRegistry markedListNodes⟩ "joker" cardsNodes cardsData {} ∧
      (renderValue ⟨{}, cardsRegistry plainListNodes⟩ cardsNodes cardsData {}).outcome = .ok () ∧
      (renderValue ⟨{}, cardsRegistry plainListNodes⟩ cardsNodes cardsData {}).sink.text =
        "0=a in T;=joker in ;1=b in T;=joker in ;|0=a in T;=joker in ;1=b in T;=joker in ;" ∧
      (renderValue ⟨{}, cardsRegistry inlinedListNodes⟩ inlinedCardsNodes cardsData {}).outcome =
        (renderValue ⟨{}, cardsRegistry plainListNodes⟩ cardsNodes cardsData {}).outcome ∧
      (renderValue ⟨{}, cardsRegistry inlinedListNodes⟩ inlinedCardsNodes cardsData {}).sink =
        (renderValue ⟨{}, cardsRegistry plainListNodes⟩ cardsNodes cardsData {}).sink := by
  have hnodes : Inlines "joker" (cardsRegistry plainListNodes) cardsNodes cardsNodes
      inlinedCardsNodes :=
    .inlined rfl (.leaf trivial (.leaf trivial .nil))
  have hquiet : RunsNoHelper ⟨{}, cardsRegistry plainListNodes⟩ cardsNodes cardsData {} :=
    runsNoHelper_of_not_answers (not_answers_cardsRegistry _) _ _ _
  have hmarks :
      RunsTrueMarks ⟨{}, cardsRegistry markedListNodes⟩ "joker" cardsNodes cardsData {} := by
    refine runsTrueMarks_of_reaches fun name param h scope => ?_
    rw [eq_joker_of_reaches h]
    rfl
  have hok :
      (renderValue ⟨{}, cardsRegistry plainListNodes⟩ cardsNodes cardsData {}).outcome.isOk := by
    decide +kernel
  have houtcome : (renderValue ⟨{}, cardsRegistry plainListNodes⟩ cardsNodes cardsData {}).outcome =
      .ok () := by
    generalize (renderValue _ _ _ _).outcome = outcome at hok ⊢
    cases outcome with
    | ok _ => rfl
    | error _ => cases hok
  have hlimit : ∀ name limit,
      (renderValue ⟨{}, cardsRegistry plainListNodes⟩ cardsNodes cardsData {}).outcome ≠
        .error (.fault (.partialDepth name limit)) := by
    intro name limit h
    rw [houtcome] at h
    cases h
  exact ⟨inlines_cardsRegistry, hnodes, hquiet, hmarks, houtcome, by decide +kernel,
    (inlining_keeps_result inlines_cardsRegistry hnodes cardsData {} hquiet hmarks hlimit).1⟩

end Engine

end TextTemplate
