import Mathlib.Data.List.Induction
import TextTemplate.Scope

/-!
# Chains of scopes

A scope that has come from the data of a template by links knows each of them: so many steps up are
the value and the place that the link there has brought, and beyond the first link stands the data.
Paths see a chain link by link, and from the root they see the data and nothing else.

## Main definitions

- `Scope.Link` — what links a scope to the one around it
- `Scope.extend`, `Scope.chain` — a scope with links below it, and the data with links below it
- `Scope.ancestor?` — the scope that is so many steps up
- `Scope.IsChain` — what is found in a scope that links lead to from the data
-/

namespace TextTemplate

namespace Scope

/-- What links a scope to the one around it: a value, and the place of a member that is visited. -/
inductive Link
  | child (value : Value)
  | item (value : Value) (index length : Nat)
  | entry (value : Value) (key : String) (position length : Nat)

namespace Link

/-- The value that a link brings. -/
def value : Link → Value
  | child v | item v _ _ | entry v _ _ _ => v

/-- The key that a link brings. -/
def key? : Link → Option String
  | entry _ key _ _ => some key
  | child _ | item _ _ _ => none

/-- The index that a link brings. -/
def index? : Link → Option Nat
  | item _ index _ => some index
  | child _ | entry _ _ _ _ => none

/-- The position that a link brings, and the number of members. -/
def step? : Link → Option (Nat × Nat)
  | item _ position length | entry _ _ position length => some (position, length)
  | child _ => none

end Link

/-- The scope with a link below it. -/
def link (s : Scope) : Link → Scope
  | .child v => .child s v
  | .item v index length => .item s v index length
  | .entry v key position length => .entry s v key position length

/-- The scope with links below it, outermost first. -/
def extend (s : Scope) (links : List Link) : Scope :=
  links.foldl link s

/-- The data of a template with links below it. -/
def chain (data : Value) (links : List Link) : Scope :=
  (root data).extend links

/-- The scope that is a number of steps up. -/
def ancestor? (s : Scope) : Nat → Option Scope
  | 0 => some s
  | k + 1 => s.parent?.bind (·.ancestor? k)

section

variable (s : Scope) (l : Link)

@[simp]
theorem value_link : (s.link l).value = l.value := by cases l <;> rfl

@[simp]
theorem key?_link : (s.link l).key? = l.key? := by cases l <;> rfl

@[simp]
theorem index?_link : (s.link l).index? = l.index? := by cases l <;> rfl

@[simp]
theorem step?_link : (s.link l).step? = l.step? := by cases l <;> rfl

@[simp]
theorem parent?_link : (s.link l).parent? = some s := by cases l <;> rfl

@[simp]
theorem outermost_link : (s.link l).outermost = s.outermost := by cases l <;> rfl

@[simp]
theorem ancestor?_link_succ (k : Nat) : (s.link l).ancestor? (k + 1) = s.ancestor? k := by
  simp [ancestor?]

end

@[simp]
theorem extend_nil (s : Scope) : s.extend [] = s := rfl

theorem extend_append (s : Scope) (links more : List Link) :
    s.extend (links ++ more) = (s.extend links).extend more := List.foldl_append

@[simp]
theorem chain_nil (data : Value) : chain data [] = root data := rfl

@[simp]
theorem chain_concat (data : Value) (links : List Link) (l : Link) :
    chain data (links ++ [l]) = (chain data links).link l := by
  simp [chain, extend]

theorem outermost_chain (data : Value) (links : List Link) :
    (chain data links).outermost = root data := by
  induction links using List.reverseRecOn with
  | nil => rfl
  | append_singleton links l ih => rw [chain_concat, outermost_link, ih]

-- ════════════════════════════════════════════════════════════════════════
-- Ancestors
-- ════════════════════════════════════════════════════════════════════════

/-- What a scope has from its last link is found, for every ancestor, with its link, and for the
last one with the data. -/
theorem map_ancestor?_chain {α : Type} {f : Scope → α} {g : Link → α}
    (h : ∀ (s : Scope) (l : Link), f (s.link l) = g l) (data : Value) (links : List Link) (k : Nat) :
    ((chain data links).ancestor? k).map f = (links.reverse.map g ++ [f (root data)])[k]? := by
  induction links using List.reverseRecOn generalizing k with
  | nil =>
    cases k with
    | zero => rfl
    | succ k => simp [ancestor?, parent?]
  | append_singleton links l ih =>
    cases k with
    | zero => simp [ancestor?, h]
    | succ k => simpa using ih k

theorem ancestor?_length_chain (data : Value) (links : List Link) :
    (chain data links).ancestor? links.length = some (root data) := by
  induction links using List.reverseRecOn with
  | nil => rfl
  | append_singleton links l ih => simpa using ih

/-- What a link brings is found with the ancestor that it leads to; the data brings nothing. -/
theorem bind_ancestor?_chain {α : Type} {f : Scope → Option α} {g : Link → Option α}
    (hlink : ∀ (s : Scope) (l : Link), f (s.link l) = g l) (hroot : ∀ data, f (root data) = none)
    (data : Value) (links : List Link) (k : Nat) :
    ((chain data links).ancestor? k).bind f = links.reverse[k]?.bind g := by
  induction links using List.reverseRecOn generalizing k with
  | nil =>
    cases k with
    | zero => exact hroot data
    | succ k => rfl
  | append_singleton links l ih =>
    cases k with
    | zero => simp [ancestor?, hlink]
    | succ k => simpa using ih k

theorem isSome_ancestor?_chain_iff (data : Value) (links : List Link) (k : Nat) :
    ((chain data links).ancestor? k).isSome ↔ k ≤ links.length := by
  induction links using List.reverseRecOn generalizing k with
  | nil => cases k <;> simp [ancestor?, parent?]
  | append_singleton links l ih =>
    cases k with
    | zero => simp [ancestor?]
    | succ k => simpa using ih k

-- ════════════════════════════════════════════════════════════════════════
-- Paths
-- ════════════════════════════════════════════════════════════════════════

/-- A path that begins with steps up is followed from the ancestor that they reach. -/
theorem resolve_parents (s : Scope) (k : Nat) (path : List Segment) :
    s.resolve ⟨List.replicate k .parent ++ path⟩ =
      (s.ancestor? k).bind fun a => a.resolve ⟨path⟩ := by
  induction k generalizing s with
  | zero => rfl
  | succ k ih =>
    cases hparent : s.parent? with
    | none => simp [List.replicate_succ, resolve, follow, ancestor?, hparent]
    | some p =>
      have hp := ih p
      simp only [resolve] at hp
      simp [List.replicate_succ, resolve, follow, ancestor?, hparent, hp]

/-- Names are looked up one after the other. -/
theorem follow_names (s : Scope) (v : Value) (names : List String) :
    s.follow (some v) (names.map .name) = names.foldlM Value.lookup v := by
  induction names generalizing v with
  | nil => rfl
  | cons name names ih =>
    simp only [List.map_cons, follow, List.foldlM_cons]
    cases v.lookup name with
    | some found => exact ih found
    | none =>
      -- From what is missing names lead nowhere.
      cases names <;> rfl

theorem outermost_of_parent? {s p : Scope} (h : s.parent? = some p) : p.outermost = s.outermost := by
  cases s with
  | root => cases h
  | child | item | entry =>
    cases h
    rfl

theorem outermost_outermost (s : Scope) : s.outermost.outermost = s.outermost := by
  induction s with
  | root => rfl
  | child _ _ ih | item _ _ _ _ ih | entry _ _ _ _ _ ih => exact ih

/-- Steps that lead nowhere from any scope that a path may come to lead nowhere behind the path. -/
theorem follow_append_eq_none {P : Scope → Prop} {steps : List Segment}
    (hparent : ∀ s p, P s → s.parent? = some p → P p) (houtermost : ∀ s, P s → P s.outermost)
    (hsteps : ∀ s reached, P s → s.follow reached steps = none) (path : List Segment) {s : Scope}
    (hs : P s) (reached : Option Value) : s.follow reached (path ++ steps) = none := by
  induction path generalizing s reached with
  | nil => exact hsteps s reached hs
  | cons segment path ih =>
    cases segment with
    | name n =>
      cases reached with
      | none => rfl
      | some v => exact ih hs _
    | parent =>
      simp only [List.cons_append, follow]
      cases hp : s.parent? with
      | none => rfl
      | some p => exact ih (hparent s p hs hp) _
    | root => exact ih (houtermost s hs) _
    | current | key | index | first | last => exact ih hs _

/-- Steps that lead nowhere from the data lead nowhere behind a path that has been at the root. -/
theorem resolve_root_eq_none {s : Scope} {data : Value} (hs : s.outermost = root data)
    {steps : List Segment} (hsteps : ∀ reached, (root data).follow reached steps = none)
    (before between : List Segment) :
    s.resolve ⟨before ++ .root :: (between ++ steps)⟩ = none := by
  have hroot : ∀ s reached, s = root data → s.follow reached (between ++ steps) = none := by
    rintro _ reached rfl
    refine follow_append_eq_none (P := (· = root data)) ?_ ?_ ?_ between rfl reached
    · rintro _ p rfl hp
      cases hp
    · rintro _ rfl
      rfl
    · rintro _ reached rfl
      exact hsteps reached
  refine follow_append_eq_none (P := (·.outermost = root data)) ?_ ?_ ?_ before hs _
  · intro s p hs hp
    rw [outermost_of_parent? hp, hs]
  · intro s hs
    rw [outermost_outermost, hs]
  · intro s reached hs
    exact hroot _ _ hs

-- ════════════════════════════════════════════════════════════════════════
-- What is found in a chain
-- ════════════════════════════════════════════════════════════════════════

/-- What is found in a scope that links lead to from the data of a template. The ancestors and their
links are counted from the scope itself outward. -/
structure IsChain (data : Value) (links : List Link) (s : Scope) : Prop where
  rootValue : s.rootValue = data
  ancestors : ∀ k, (s.ancestor? k).isSome ↔ k ≤ links.length
  outermost : s.ancestor? links.length = some (root data)
  values : ∀ k, (s.ancestor? k).map value = (links.reverse.map Link.value ++ [data])[k]?
  keys : ∀ k, (s.ancestor? k).map key? = (links.reverse.map Link.key? ++ [none])[k]?
  indices : ∀ k, (s.ancestor? k).map index? = (links.reverse.map Link.index? ++ [none])[k]?
  steps : ∀ k, (s.ancestor? k).map step? = (links.reverse.map Link.step? ++ [none])[k]?
  resolve_key : ∀ k, s.resolve ⟨List.replicate k .parent ++ [.key]⟩ =
    links.reverse[k]?.bind fun link => link.key?.map .text
  resolve_index : ∀ k, s.resolve ⟨List.replicate k .parent ++ [.index]⟩ =
    links.reverse[k]?.bind fun link => link.index?.map .ofNat
  resolve_first : ∀ k, s.resolve ⟨List.replicate k .parent ++ [.first]⟩ =
    links.reverse[k]?.bind fun link => link.step?.map fun (position, _) => .boolean (position == 0)
  resolve_last : ∀ k, s.resolve ⟨List.replicate k .parent ++ [.last]⟩ =
    links.reverse[k]?.bind fun link =>
      link.step?.map fun (position, length) => .boolean (position + 1 == length)
  resolve_names : ∀ k (names : List String), s.resolve ⟨List.replicate k .parent ++ names.map .name⟩ =
    (links.reverse.map Link.value ++ [data])[k]?.bind fun v => names.foldlM Value.lookup v
  resolve_root : ∀ names : List String,
    s.resolve ⟨.root :: names.map .name⟩ = names.foldlM Value.lookup data
  above_root : ∀ before between after,
    s.resolve ⟨before ++ .root :: (between ++ .parent :: after)⟩ = none
  place_of_root : ∀ before between, ∀ segment ∈ [Segment.key, .index, .first, .last],
    s.resolve ⟨before ++ .root :: (between ++ [segment])⟩ = none

/-- A data variable of an ancestor is what its link has brought. -/
theorem resolve_own_chain {g : Link → Option Value} {segment : Segment}
    (hlink : ∀ s l, (link s l).resolve ⟨[segment]⟩ = g l)
    (hroot : ∀ data, (root data).resolve ⟨[segment]⟩ = none) (data : Value) (links : List Link)
    (k : Nat) :
    (chain data links).resolve ⟨List.replicate k .parent ++ [segment]⟩ =
      links.reverse[k]?.bind g := by
  rw [resolve_parents]
  exact bind_ancestor?_chain hlink hroot data links k

/-- Whatever the links, a chain has what they have brought, and sees it where it stands. -/
theorem isChain_chain (data : Value) (links : List Link) :
    (chain data links).IsChain data links where
  rootValue := by rw [Scope.rootValue, outermost_chain]; rfl
  ancestors := isSome_ancestor?_chain_iff data links
  outermost := ancestor?_length_chain data links
  values := map_ancestor?_chain value_link data links
  keys := map_ancestor?_chain key?_link data links
  indices := map_ancestor?_chain index?_link data links
  steps := map_ancestor?_chain step?_link data links
  resolve_key := resolve_own_chain (fun _ l => by cases l <;> rfl) (fun _ => rfl) data links
  resolve_index := resolve_own_chain (fun _ l => by cases l <;> rfl) (fun _ => rfl) data links
  resolve_first := resolve_own_chain (fun _ l => by cases l <;> rfl) (fun _ => rfl) data links
  resolve_last := resolve_own_chain (fun _ l => by cases l <;> rfl) (fun _ => rfl) data links
  resolve_names k names := by
    have hnames : ∀ a : Scope, a.resolve ⟨names.map .name⟩ = names.foldlM Value.lookup a.value :=
      fun a => follow_names a a.value names
    have hvalues := map_ancestor?_chain value_link data links k
    simp only [value] at hvalues
    simp only [resolve_parents, hnames]
    rw [← hvalues, Option.bind_map]
    rfl
  resolve_root names := by
    simp only [resolve, follow, follow_names, Scope.rootValue, outermost_chain]
    rfl
  above_root before between after :=
    resolve_root_eq_none (outermost_chain data links) (fun _ => rfl) before between
  place_of_root before between segment hsegment := by
    refine resolve_root_eq_none (outermost_chain data links) ?_ before between
    intro reached
    simp only [List.mem_cons, List.not_mem_nil, or_false] at hsegment
    obtain rfl | rfl | rfl | rfl := hsegment <;> rfl

end Scope

end TextTemplate
