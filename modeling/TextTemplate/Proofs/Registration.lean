import TextTemplate.Engine

/-!
# Registrations

What is registered under a name of some kind is what was registered last under that name in that
kind; nothing that was registered under another name, or in another kind, makes a difference.

## Main definitions

- `Registry.Kind`, `Registry.find?` — the three kinds of names, and what stands under a name
- `Registration` — something that is registered
- `Registration.last?` — what was registered last under a name of a kind
- `Registry.record` — a registry after a row of registrations
-/

namespace TextTemplate

namespace Registry

/-- The kinds of names, each with a name space of its own. -/
inductive Kind
  | helpers
  | blockHelpers
  | partials
  deriving DecidableEq, Repr

/-- What names of a kind stand for. -/
abbrev Kind.Content : Kind → Type
  | helpers => Helper
  | blockHelpers => BlockHelper
  | partials => List Node

/-- What stands under a name of a kind. -/
def find? (r : Registry) (name : String) : (kind : Kind) → Option kind.Content
  | .helpers => r.helper? name
  | .blockHelpers => r.blockHelper? name
  | .partials => r.partial? name

theorem find?_empty (name : String) (kind : Kind) :
    ({} : Registry).find? name kind = none := by
  cases kind <;> rfl

end Registry

/-- Something that is registered under a name. -/
inductive Registration
  | helper (name : String) (helper : Helper)
  | blockHelper (name : String) (helper : BlockHelper)
  | nodes (name : String) (nodes : List Node)

namespace Registration

/-- What a registration puts under a name of a kind, if it is of that name and kind. -/
def under? (name : String) : (kind : Registry.Kind) → Registration → Option kind.Content
  | .helpers, helper other content => if other = name then some content else none
  | .blockHelpers, blockHelper other content => if other = name then some content else none
  | .partials, nodes other content => if other = name then some content else none
  | _, _ => none

/-- What was registered last under a name of a kind. -/
def last? (log : List Registration) (name : String) (kind : Registry.Kind) :
    Option kind.Content :=
  (log.filterMap (under? name kind)).getLast?

end Registration

namespace Registry

/-- The registry with one more registration. -/
def add (r : Registry) : Registration → Registry
  | .helper name helper => r.addHelper name helper
  | .blockHelper name helper => r.addBlockHelper name helper
  | .nodes name nodes => r.addPartial name nodes

/-- The registry after a row of registrations. -/
def record (r : Registry) (log : List Registration) : Registry :=
  log.foldl add r

theorem record_append (r : Registry) (log more : List Registration) :
    r.record (log ++ more) = (r.record log).record more :=
  List.foldl_append

/-- A registration is found under its name in its kind, and changes no other name. -/
theorem find?_add (r : Registry) (g : Registration) (name : String) (kind : Kind) :
    (r.add g).find? name kind = (g.under? name kind).or (r.find? name kind) := by
  cases g with
  | helper other content =>
    cases kind with
    | helpers =>
      by_cases h : other = name
      · subst h
        simp [add, find?, Registration.under?]
      · simp [add, find?, Registration.under?, h, helper?_addHelper_of_ne _ _ (Ne.symm h)]
    | _ => rfl
  | blockHelper other content =>
    cases kind with
    | blockHelpers =>
      by_cases h : other = name
      · subst h
        simp [add, find?, Registration.under?]
      · simp [add, find?, Registration.under?, h, blockHelper?_addBlockHelper_of_ne _ _ (Ne.symm h)]
    | _ => rfl
  | nodes other content =>
    cases kind with
    | partials =>
      by_cases h : other = name
      · subst h
        simp [add, find?, Registration.under?]
      · simp [add, find?, Registration.under?, h, partial?_addPartial_of_ne _ _ (Ne.symm h)]
    | _ => rfl

/-- The last registration under a name of a kind is the one that is found. -/
theorem find?_record (r : Registry) (log : List Registration) (name : String) (kind : Kind) :
    (r.record log).find? name kind = (Registration.last? log name kind).or (r.find? name kind) := by
  induction log generalizing r with
  | nil => rfl
  | cons g log ih =>
    have hrecord : r.record (g :: log) = (r.add g).record log := rfl
    rw [hrecord, ih, find?_add, ← Option.or_assoc]
    congr 1
    unfold Registration.last?
    rw [List.filterMap_cons]
    cases g.under? name kind with
    | none => simp
    | some content =>
      simp only [List.getLast?_cons]
      cases (List.filterMap (Registration.under? name kind) log).getLast? <;> rfl

end Registry

end TextTemplate
