import TextTemplate.Proofs.Scope

/-!
# Missing values along a path

What a path does not find is missing, and a member that is looked up in it ends the path for good,
as does a step up from the data. But steps to another scope and data variables do not look at what
has been found before them. Behind a miss that has not ended the path, they find what they would
have found without it.

## Main definitions

- `Segment.leads` — the steps to another scope
- `Segment.Ignores` — steps that begin with one that does not look at what was found before
- `Scope.BreaksOff` — a path that is ended by a miss on its way
-/

namespace TextTemplate

namespace Segment

/-- The steps to another scope. -/
def leads : Segment → Bool
  | parent | root => true
  | _ => false

/-- The first of some steps, apart from those that stay, does not look at what was found before. -/
def Ignores : List Segment → Prop
  | [] | name _ :: _ => False
  | current :: path => Ignores path
  | _ :: _ => True

end Segment

namespace Scope

variable {s : Scope} {reached : Option Value} {path : List Segment}

/-- A path breaks off if a name is looked up in what is missing, or a step leads up from the
data. -/
def BreaksOff (s : Scope) (reached : Option Value) (path : List Segment) : Prop :=
  (∃ before n after, path = before ++ .name n :: after ∧ s.follow reached before = none) ∨
    ∃ before after, path = before ++ .parent :: after ∧
      s.follow reached (before ++ [.parent]) = none

/-- What a step does before a path is followed further: it leads to a scope and what is reached
there, or it ends the path. -/
theorem follow_cons_cases (s : Scope) (reached : Option Value) (segment : Segment) :
    (∃ (s' : Scope) (reached' : Option Value),
        ∀ path, s.follow reached (segment :: path) = s'.follow reached' path) ∨
      (∀ path, s.follow reached (segment :: path) = none) ∧
        ((∃ n, segment = .name n ∧ reached = none) ∨ segment = .parent ∧ s.parent? = none) := by
  cases segment with
  | name n =>
    cases reached with
    | none => exact .inr ⟨fun _ => rfl, .inl ⟨n, rfl, rfl⟩⟩
    | some v => exact .inl ⟨s, v.lookup n, fun _ => rfl⟩
  | parent =>
    cases hparent : s.parent? with
    | none => exact .inr ⟨fun _ => by simp only [follow, hparent], .inr ⟨rfl, rfl⟩⟩
    | some p => exact .inl ⟨p, some p.value, fun _ => by simp only [follow, hparent]⟩
  | root => exact .inl ⟨s.outermost, some s.rootValue, fun _ => rfl⟩
  | current => exact .inl ⟨s, reached, fun _ => rfl⟩
  | key | index | first | last => exact .inl ⟨s, _, fun _ => rfl⟩

/-- What is missing stays so where steps follow that stay or look at it. -/
theorem follow_none_of_not_ignores (s : Scope) (h : ¬ Segment.Ignores path) :
    s.follow none path = none := by
  induction path with
  | nil => rfl
  | cons segment path ih =>
    cases segment with
    | current => exact ih h
    | name n => rfl
    | _ => exact absurd trivial h

/-- Steps that do not look at what was found before find the same whatever it was. -/
theorem follow_of_ignores (s : Scope) (reached reached' : Option Value)
    (h : Segment.Ignores path) : s.follow reached path = s.follow reached' path := by
  induction path with
  | nil => exact h.elim
  | cons segment path ih =>
    cases segment with
    | current => exact ih h
    | name n => exact h.elim
    | _ => rfl

/-- A path whose end is missing leads nowhere with more steps that stay or look at it. -/
theorem follow_append_of_not_ignores (hmissing : s.follow reached path = none)
    {more : List Segment} (h : ¬ Segment.Ignores more) :
    s.follow reached (path ++ more) = none := by
  induction path generalizing s reached with
  | nil =>
    cases hmissing
    exact follow_none_of_not_ignores s h
  | cons segment path ih =>
    obtain ⟨s', reached', hfollow⟩ | ⟨hnone, -⟩ := s.follow_cons_cases reached segment
    · rw [List.cons_append, hfollow]
      exact ih ((hfollow path).symm.trans hmissing)
    · exact hnone _

/-- A step up from the data ends the path, whatever follows. -/
theorem follow_append_of_parent {before : List Segment}
    (hmissing : s.follow reached (before ++ [.parent]) = none) (after : List Segment) :
    s.follow reached (before ++ .parent :: after) = none := by
  induction before generalizing s reached with
  | nil =>
    simp only [List.nil_append, follow] at hmissing ⊢
    cases hparent : s.parent? with
    | none => rfl
    | some p =>
      rw [hparent] at hmissing
      cases hmissing
  | cons segment before ih =>
    obtain ⟨s', reached', hfollow⟩ | ⟨hnone, -⟩ := s.follow_cons_cases reached segment
    · rw [List.cons_append, hfollow] at hmissing ⊢
      exact ih hmissing
    · exact hnone _

namespace BreaksOff

/-- A path that breaks off leads nowhere, whatever follows. -/
theorem follow_append (h : s.BreaksOff reached path) (more : List Segment) :
    s.follow reached (path ++ more) = none := by
  obtain ⟨before, n, after, rfl, hmissing⟩ | ⟨before, after, rfl, hmissing⟩ := h
  · rw [List.append_assoc]
    exact follow_append_of_not_ignores hmissing id
  · rw [List.append_assoc]
    exact follow_append_of_parent hmissing (after ++ more)

/-- A path breaks off if it does so behind a first step. -/
theorem cons {s' : Scope} {reached' : Option Value} {segment : Segment}
    (hfollow : ∀ path, s.follow reached (segment :: path) = s'.follow reached' path)
    (h : s'.BreaksOff reached' path) : s.BreaksOff reached (segment :: path) := by
  obtain ⟨before, n, after, rfl, hmissing⟩ | ⟨before, after, rfl, hmissing⟩ := h
  · exact .inl ⟨segment :: before, n, after, rfl, (hfollow _).trans hmissing⟩
  · exact .inr ⟨segment :: before, after, rfl, (hfollow _).trans hmissing⟩

end BreaksOff

/-- A path behind which the data is not found has broken off. -/
theorem breaksOff_of_follow_root (h : s.follow reached (path ++ [.root]) = none) :
    s.BreaksOff reached path := by
  induction path generalizing s reached with
  | nil => cases h
  | cons segment path ih =>
    obtain ⟨s', reached', hfollow⟩ | ⟨hnone, hends⟩ := s.follow_cons_cases reached segment
    · exact (ih ((hfollow _).symm.trans h)).cons hfollow
    · obtain ⟨n, rfl, rfl⟩ | ⟨rfl, -⟩ := hends
      · exact .inl ⟨[], n, path, rfl, rfl⟩
      · exact .inr ⟨[], path, rfl, hnone []⟩

/-- Behind a path that does not break off, steps that do not look at what was found before find what
they find from the scope that the path leads to. -/
theorem follow_append_of_ignores (h : ¬ s.BreaksOff reached path) {more : List Segment}
    (hmore : Segment.Ignores more) (reached' : Option Value) :
    s.follow reached (path ++ more) = s.follow reached' (path.filter Segment.leads ++ more) := by
  induction path generalizing s reached reached' with
  | nil => exact s.follow_of_ignores reached reached' hmore
  | cons segment path ih =>
    cases segment with
    | name n =>
      cases reached with
      | none => exact absurd (.inl ⟨[], n, path, rfl, rfl⟩) h
      | some v => exact ih (fun hbreaks => h (hbreaks.cons fun _ => rfl)) reached'
    | parent =>
      cases hparent : s.parent? with
      | none => exact absurd (.inr ⟨[], path, rfl, by simp [follow, hparent]⟩) h
      | some p =>
        have hfollow : ∀ reached path,
            s.follow reached (.parent :: path) = p.follow (some p.value) path :=
          fun _ _ => by simp only [follow, hparent]
        have hpath := ih (fun hbreaks => h (hbreaks.cons (hfollow reached))) (some p.value)
        exact (hfollow _ _).trans (hpath.trans (hfollow _ _).symm)
    | root => exact ih (fun hbreaks => h (hbreaks.cons fun _ => rfl)) (some s.rootValue)
    | current | key | index | first | last =>
      exact ih (fun hbreaks => h (hbreaks.cons fun _ => rfl)) reached'

/-- A missing value stays missing with more steps just if the path has broken off, or the steps look
at it, or they lead nowhere from the scope reached. So it stays missing with any steps just if the
path has broken off. -/
theorem missing_stays_missing_iff (s : Scope) (path : List Segment)
    (hmissing : s.resolve ⟨path⟩ = none) :
    (∀ more, s.resolve ⟨path ++ more⟩ = none ↔
      s.BreaksOff (some s.value) path ∨ ¬ Segment.Ignores more ∨
        s.resolve ⟨path.filter Segment.leads ++ more⟩ = none) ∧
    ((∀ more, s.resolve ⟨path ++ more⟩ = none) ↔ s.BreaksOff (some s.value) path) := by
  refine ⟨fun more => ?_, fun hall => breaksOff_of_follow_root (hall [.root]),
    fun hbreaks more => hbreaks.follow_append more⟩
  by_cases hbreaks : s.BreaksOff (some s.value) path
  · exact iff_of_true (hbreaks.follow_append more) (.inl hbreaks)
  by_cases hmore : Segment.Ignores more
  · have hanew : s.resolve ⟨path ++ more⟩ = s.resolve ⟨path.filter Segment.leads ++ more⟩ :=
      follow_append_of_ignores hbreaks hmore (some s.value)
    simp only [hanew, hbreaks, hmore, not_true_eq_false, false_or]
  · exact iff_of_true (follow_append_of_not_ignores hmissing hmore) (.inr (.inl hmore))

/-- Data with one member. -/
def oneMember : Scope :=
  .root (.keyed [("a", .boolean true)])

theorem missing_stays_missing_iff_oneMember :
    oneMember.resolve ⟨[.name "gone", .name "b"]⟩ = none ∧
      (∀ more, oneMember.resolve ⟨[.name "gone", .name "b"] ++ more⟩ = none) ∧
      oneMember.resolve ⟨[.name "gone"]⟩ = none ∧
      ¬ oneMember.BreaksOff (some oneMember.value) [.name "gone"] := by
  have hpath : oneMember.resolve ⟨[.name "gone", .name "b"]⟩ = none := rfl
  have hgone : oneMember.resolve ⟨[.name "gone"]⟩ = none := rfl
  refine ⟨hpath, ?_, hgone, fun hbreaks => ?_⟩
  · exact (missing_stays_missing_iff oneMember _ hpath).2.2
      (.inl ⟨[.name "gone"], "b", [], rfl, hgone⟩)
  · have hall := (missing_stays_missing_iff oneMember _ hgone).2.2 hbreaks
    have hfound : oneMember.resolve ⟨[.name "gone"] ++ [.root]⟩ ≠ none := by
      rintro ⟨⟩
    exact hfound (hall [.root])

/-- A value found from the data makes up for a member that does not exist. -/
theorem missing_made_up_for :
    ¬ ∀ (s : Scope) (path more : List Segment), s.resolve ⟨path⟩ = none →
      s.resolve ⟨path ++ more⟩ = none := by
  intro h
  have hgone : oneMember.resolve ⟨[.name "gone"]⟩ = none := rfl
  have hmore := h oneMember [.name "gone"] [.root, .name "a"] hgone
  have hfound : oneMember.resolve ⟨[.name "gone"] ++ [.root, .name "a"]⟩ = some (.boolean true) :=
    rfl
  rw [hfound] at hmore
  cases hmore

end Scope

end TextTemplate
