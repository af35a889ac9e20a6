import Mathlib.Data.Option.Basic
import TextTemplate.Proofs.Text.Characters
import TextTemplate.Scope
import TextTemplate.Value.Reader

/-!
# Members of collections

The members of a collection have an order, and each can be looked up by itself: by its key, or in a
sequence by the digits of its position. A sequence has no other members, and a keyed collection that
is read from a text has no two members under one key. Nor has any collection that a path leads to
from such data.

## Main definitions

- `Value.members` — the members of a collection with their keys
- `Value.DistinctKeys` — a collection without two members under one key
- `Value.WellKeyed` — a value whose collections have distinct keys at any depth
- `Scope.WellKeyed` — a scope whose current value, and those around it, are well keyed

## Main statements

- `Value.lookup_of_members` — a member is found under its own name
- `Value.isSome_lookup_sequence_iff` — the names under which a sequence has members
- `Value.wellKeyed_of_read?` — data that is read is well keyed
- `Scope.WellKeyed.resolve` — what a path leads to in a well keyed scope is well keyed
-/

namespace TextTemplate

open Text

namespace Value

/-- The members of a collection in order, each with its key if it has one; other values have
none. -/
def members : Value → List (Option String × Value)
  | sequence items => items.map fun item => (none, item)
  | keyed members => members.map fun (key, value) => (some key, value)
  | _ => []

/-- No two members have the same key, as in all data that is read (`wellKeyed_of_read?`). -/
def DistinctKeys (v : Value) : Prop :=
  (v.members.filterMap Prod.fst).Nodup

theorem distinctKeys_keyed_iff {pairs : List (String × Value)} :
    (keyed pairs).DistinctKeys ↔ (pairs.map Prod.fst).Nodup := by
  rw [DistinctKeys, members, List.filterMap_map, ← List.filterMap_eq_map]
  rfl

/-- A name spells a position with digits, behind a plus sign or by themselves. -/
theorem position?_eq_some_iff {name : String} {n : Nat} :
    position? name = some n ↔
      ∃ digits, (name.toList = digits ∨ name.toList = '+' :: digits) ∧ digits ≠ [] ∧
        (∀ c ∈ digits, c.isDigit = true) ∧ decimalValue digits = n := by
  have hnatural : ∀ digits, natural? digits = some n ↔
      digits ≠ [] ∧ (∀ c ∈ digits, c.isDigit = true) ∧ decimalValue digits = n := by
    intro digits
    simp [natural?, and_assoc]
  unfold position?
  split
  · next digits heq =>
    rw [hnatural]
    constructor
    · exact fun h => ⟨digits, .inr heq, h⟩
    · rintro ⟨digits', rfl | hplus, h⟩
      · -- The plus sign itself is no digit.
        rw [heq] at h
        exact absurd (h.2.1 '+' List.mem_cons_self) (by decide)
      · rw [heq] at hplus
        cases hplus
        exact h
  · next digits hplus =>
    rw [hnatural]
    constructor
    · exact fun h => ⟨_, .inl rfl, h⟩
    · rintro ⟨digits', rfl | heq, h⟩
      · exact h
      · exact absurd heq (hplus digits')

/-- The digits of a number spell it as a position. -/
theorem position?_integerText (n : Nat) : position? (Number.integerText n) = some n := by
  refine position?_eq_some_iff.2 ⟨Nat.toDigits 10 n, .inl String.toList_ofList,
    Nat.toDigits_ne_nil, ?_, decimalValue_toDigits n⟩
  exact fun c hc => Nat.isDigit_of_mem_toDigits (by decide) (by decide) hc

/-- Where keys are distinct, each of them leads to its own member. -/
theorem lookup_of_nodup {members : List (String × Value)} (h : (members.map Prod.fst).Nodup)
    {i : Nat} {key : String} {value : Value} (hi : members[i]? = some (key, value)) :
    members.lookup key = some value := by
  induction members generalizing i with
  | nil => cases hi
  | cons first members ih =>
    obtain ⟨hnotMem, hrest⟩ := List.nodup_cons.1 h
    cases i with
    | zero =>
      obtain rfl : first = (key, value) := by simpa using hi
      exact List.lookup_cons_self
    | succ i =>
      have hmem : key ∈ members.map Prod.fst :=
        List.mem_map.2 ⟨_, List.mem_of_getElem? hi, rfl⟩
      have hne : key ≠ first.1 := fun heq => hnotMem (heq ▸ hmem)
      rw [List.lookup_cons, beq_false_of_ne hne]
      exact ih hrest hi

/-- A member is found under its key, or under the digits of its position. -/
theorem lookup_of_members {v : Value} (h : v.DistinctKeys) {i : Nat} {key? : Option String}
    {member : Value} (hi : v.members[i]? = some (key?, member)) :
    v.lookup (key?.getD (Number.integerText i)) = some member := by
  cases v with
  | sequence items =>
    simp only [members, List.getElem?_map, Option.map_eq_some_iff, Prod.mk.injEq] at hi
    obtain ⟨item, hitem, rfl, rfl⟩ := hi
    simp only [lookup, Option.getD_none, position?_integerText, Option.bind_some, hitem]
  | keyed pairs =>
    simp only [members, List.getElem?_map, Option.map_eq_some_iff, Prod.mk.injEq] at hi
    obtain ⟨⟨key, value⟩, hpair, rfl, rfl⟩ := hi
    exact lookup_of_nodup (distinctKeys_keyed_iff.1 h) hpair
  | _ => cases hi

/-- A sequence has members under the digits of its positions, and under no other names. -/
theorem isSome_lookup_sequence_iff (items : List Value) (name : String) :
    ((sequence items).lookup name).isSome ↔
      ∃ digits, (name.toList = digits ∨ name.toList = '+' :: digits) ∧ digits ≠ [] ∧
        (∀ c ∈ digits, c.isDigit = true) ∧ decimalValue digits < items.length := by
  have hposition : ((sequence items).lookup name).isSome ↔
      ∃ n, position? name = some n ∧ n < items.length := by
    simp only [lookup]
    cases position? name <;> simp
  rw [hposition]
  simp only [position?_eq_some_iff]
  constructor
  · rintro ⟨n, ⟨digits, hname, hne, hdigits, rfl⟩, hlt⟩
    exact ⟨digits, hname, hne, hdigits, hlt⟩
  · rintro ⟨digits, hname, hne, hdigits, hlt⟩
    exact ⟨_, ⟨digits, hname, hne, hdigits, rfl⟩, hlt⟩

-- ════════════════════════════════════════════════════════════════════════
-- Keys of data that is read
-- ════════════════════════════════════════════════════════════════════════

/-- Values whose collections, at any depth, have distinct keys. -/
inductive WellKeyed : Value → Prop
  | null : WellKeyed null
  | boolean (b : Bool) : WellKeyed (boolean b)
  | number (n : Number) : WellKeyed (number n)
  | text (s : String) : WellKeyed (text s)
  | sequence {items : List Value} :
      (∀ item ∈ items, WellKeyed item) → WellKeyed (sequence items)
  | keyed {members : List (String × Value)} :
      (members.map Prod.fst).Nodup → (∀ m ∈ members, WellKeyed m.2) → WellKeyed (keyed members)

theorem WellKeyed.distinctKeys {v : Value} (h : v.WellKeyed) : v.DistinctKeys := by
  cases h with
  | keyed hkeys _ => exact distinctKeys_keyed_iff.2 hkeys
  | @sequence items _ =>
    have hnone : (Value.sequence items).members.filterMap Prod.fst = [] := by
      refine List.filterMap_eq_nil_iff.2 fun member hmember => ?_
      obtain ⟨item, -, rfl⟩ := List.mem_map.1 hmember
      rfl
    rw [DistinctKeys, hnone]
    exact .nil
  | _ => exact .nil

theorem WellKeyed.member {v : Value} (h : v.WellKeyed) {key? : Option String} {member : Value}
    (hmember : (key?, member) ∈ v.members) : member.WellKeyed := by
  cases h with
  | sequence hitems =>
    obtain ⟨item, hitem, heq⟩ := List.mem_map.1 hmember
    cases heq
    exact hitems _ hitem
  | keyed _ hvalues =>
    obtain ⟨⟨key, value⟩, hpair, heq⟩ := List.mem_map.1 hmember
    cases heq
    exact hvalues _ hpair
  | _ => cases hmember

/-- In a well keyed value every member is found, and can be looked into in the same way. -/
theorem WellKeyed.lookup_of_members {v : Value} (h : v.WellKeyed) {i : Nat}
    {key? : Option String} {member : Value} (hi : v.members[i]? = some (key?, member)) :
    v.lookup (key?.getD (Number.integerText i)) = some member ∧ member.WellKeyed :=
  ⟨Value.lookup_of_members h.distinctKeys hi, h.member (List.mem_of_getElem? hi)⟩

theorem WellKeyed.lookup {v : Value} (h : v.WellKeyed) {name : String} {member : Value}
    (hmember : v.lookup name = some member) : member.WellKeyed := by
  cases h with
  | sequence hitems =>
    obtain ⟨i, -, hitem⟩ := Option.bind_eq_some_iff.1 hmember
    exact hitems _ (List.mem_of_getElem? hitem)
  | keyed _ hvalues =>
    obtain ⟨before, behind, rfl, -⟩ := List.lookup_eq_some_iff.1 hmember
    exact hvalues _ (List.mem_append_right _ List.mem_cons_self)
  | _ => cases hmember

theorem WellKeyed.of_mem_some {v w : Value} (h : v.WellKeyed) (hw : w ∈ some v) : w.WellKeyed :=
  Option.mem_some.1 hw ▸ h

theorem mem_putMember {key : String} {value : Value} {members : List (String × Value)}
    {m : String × Value} (h : m ∈ putMember key value members) :
    m = (key, value) ∨ m ∈ members := by
  induction members with
  | nil => exact .inl (List.mem_singleton.1 h)
  | cons first members ih =>
    obtain ⟨k, v⟩ := first
    rw [putMember] at h
    split at h
    · next hkey =>
      rw [beq_iff_eq] at hkey
      subst hkey
      exact (List.mem_cons.1 h).imp_right (List.mem_cons_of_mem _)
    · obtain rfl | h := List.mem_cons.1 h
      · exact .inr List.mem_cons_self
      · exact (ih h).imp_right (List.mem_cons_of_mem _)

/-- A member is put in the place of the one with its key, or behind all others. -/
theorem nodup_putMember {key : String} {value : Value} {members : List (String × Value)}
    (h : (members.map Prod.fst).Nodup) : ((putMember key value members).map Prod.fst).Nodup := by
  induction members with
  | nil => exact List.nodup_cons.2 ⟨List.not_mem_nil, .nil⟩
  | cons first members ih =>
    obtain ⟨k, v⟩ := first
    obtain ⟨hnotMem, hrest⟩ := List.nodup_cons.1 h
    rw [putMember]
    split
    · exact h
    · next hkey =>
      refine List.nodup_cons.2 ⟨fun hmem => ?_, ih hrest⟩
      obtain ⟨m, hm, rfl⟩ := List.mem_map.1 hmem
      obtain rfl | hm := mem_putMember hm
      · exact hkey (beq_self_eq_true _)
      · exact hnotMem (List.mem_map.2 ⟨m, hm, rfl⟩)

/-- What is read with some fuel is well keyed: values, the items of a sequence, and the members of a
keyed collection if those read before were. -/
structure ReadsWellKeyed (fuel : Nat) : Prop where
  value : ∀ {cs v rest}, readValue? fuel cs = some (v, rest) → v.WellKeyed
  items : ∀ {cs items rest}, readItems? fuel cs = some (items, rest) →
    ∀ item ∈ items, item.WellKeyed
  members : ∀ {read cs members rest}, readMembers? fuel read cs = some (members, rest) →
    (keyed read).WellKeyed → (keyed members).WellKeyed

section

variable {fuel : Nat} {cs rest : List Char}

theorem ReadsWellKeyed.value_succ (ih : ReadsWellKeyed fuel) {v : Value}
    (h : readValue? (fuel + 1) cs = some (v, rest)) : v.WellKeyed := by
  rw [readValue?] at h
  split at h
  · obtain ⟨_, -, heq⟩ := Option.map_eq_some_iff.1 h
    cases heq
    exact .text _
  · split at h
    · cases h
      exact .sequence nofun
    · obtain ⟨_, hitems, heq⟩ := Option.map_eq_some_iff.1 h
      cases heq
      exact .sequence (ih.items hitems)
  · split at h
    · cases h
      exact .keyed .nil nofun
    · obtain ⟨_, hmembers, heq⟩ := Option.map_eq_some_iff.1 h
      cases heq
      exact ih.members hmembers (.keyed .nil nofun)
  · cases h
    exact .null
  · cases h
    exact .boolean true
  · cases h
    exact .boolean false
  · obtain ⟨_, -, heq⟩ := Option.map_eq_some_iff.1 h
    cases heq
    exact .number _

theorem ReadsWellKeyed.items_succ (ih : ReadsWellKeyed fuel) {items : List Value}
    (h : readItems? (fuel + 1) cs = some (items, rest)) : ∀ item ∈ items, item.WellKeyed := by
  rw [readItems?] at h
  obtain ⟨⟨item, _⟩, hitem, h⟩ := Option.bind_eq_some_iff.1 h
  have hitem := ih.value hitem
  simp only at h
  split at h
  · cases h
    simpa using hitem
  · obtain ⟨⟨more, _⟩, hmore, heq⟩ := Option.map_eq_some_iff.1 h
    cases heq
    exact List.forall_mem_cons.2 ⟨hitem, ih.items hmore⟩
  · cases h

theorem wellKeyed_putMember {read : List (String × Value)} (hread : (keyed read).WellKeyed)
    (key : String) {value : Value} (hvalue : value.WellKeyed) :
    (keyed (putMember key value read)).WellKeyed := by
  obtain _ | _ | _ | _ | _ | ⟨hkeys, hvalues⟩ := hread
  refine .keyed (nodup_putMember hkeys) fun m hm => ?_
  obtain rfl | hm := mem_putMember hm
  · exact hvalue
  · exact hvalues m hm

theorem ReadsWellKeyed.members_succ (ih : ReadsWellKeyed fuel)
    {read members : List (String × Value)}
    (h : readMembers? (fuel + 1) read cs = some (members, rest))
    (hread : (keyed read).WellKeyed) : (keyed members).WellKeyed := by
  rw [readMembers?] at h
  split at h
  · obtain ⟨⟨key, _⟩, -, h⟩ := Option.bind_eq_some_iff.1 h
    simp only at h
    split at h
    · obtain ⟨⟨value, _⟩, hvalue, h⟩ := Option.bind_eq_some_iff.1 h
      have hput := wellKeyed_putMember hread key (ih.value hvalue)
      simp only at h
      split at h
      · cases h
        exact hput
      · exact ih.members h hput
      · cases h
    · cases h
  · cases h

theorem readsWellKeyed (fuel : Nat) : ReadsWellKeyed fuel := by
  induction fuel with
  | zero => exact ⟨nofun, nofun, nofun⟩
  | succ fuel ih => exact ⟨ih.value_succ, ih.items_succ, ih.members_succ⟩

end

/-- Data that is read has distinct keys at any depth: where a key stands twice, the later member
takes the place of the earlier one. -/
theorem wellKeyed_of_read? {source : String} {v : Value} (h : read? source = some v) :
    v.WellKeyed := by
  unfold read? at h
  simp only at h
  split at h
  · next value rest hvalue =>
    split at h
    · cases h
      exact (readsWellKeyed _).value hvalue
    · cases h
  · cases h

end Value

-- ════════════════════════════════════════════════════════════════════════
-- Scopes over data that is read
-- ════════════════════════════════════════════════════════════════════════

namespace Scope

/-- Scopes whose current value is well keyed, as are those of the scopes around them. -/
def WellKeyed : Scope → Prop
  | root data => data.WellKeyed
  | child parent v | item parent v _ _ | entry parent v _ _ _ => v.WellKeyed ∧ parent.WellKeyed

namespace WellKeyed

variable {s : Scope}

theorem value (h : s.WellKeyed) : s.value.WellKeyed := by
  cases s with
  | root => exact h
  | child | item | entry => exact h.1

theorem parent (h : s.WellKeyed) {p : Scope} (hparent : s.parent? = some p) : p.WellKeyed := by
  cases s with
  | root => cases hparent
  | child | item | entry =>
    cases hparent
    exact h.2

theorem outermost (h : s.WellKeyed) : s.outermost.WellKeyed := by
  induction s with
  | root => exact h
  | child _ _ ih | item _ _ _ _ ih | entry _ _ _ _ _ ih => exact ih h.2

theorem of_parent {inner : Scope} (h : s.WellKeyed) (hparent : inner.parent? = some s)
    (hvalue : inner.value.WellKeyed) : inner.WellKeyed := by
  cases inner with
  | root => cases hparent
  | child | item | entry =>
    cases hparent
    exact ⟨hvalue, h⟩

/-- A path that has come to a well keyed value goes on to another one: it climbs to a value of the
chain, looks up a member, or comes to a data variable, which is no collection. -/
theorem follow (h : s.WellKeyed) {reached : Option Value} (hreached : ∀ v ∈ reached, v.WellKeyed)
    {path : List Segment} {v : Value} (hv : s.follow reached path = some v) : v.WellKeyed := by
  induction path generalizing s reached with
  | nil => exact hreached v hv
  | cons segment path ih =>
    cases segment with
    | current => exact ih h hreached hv
    | root => exact ih h.outermost (fun _ => h.outermost.value.of_mem_some) hv
    | parent =>
      rw [Scope.follow] at hv
      split at hv
      · cases hv
      · next p hparent =>
        have hp := h.parent hparent
        exact ih hp (fun _ => hp.value.of_mem_some) hv
    | key => exact ih h (Option.forall_mem_map.2 fun key _ => .text key) hv
    | index => exact ih h (Option.forall_mem_map.2 fun _ _ => .number _) hv
    | first | last => exact ih h (Option.forall_mem_map.2 fun b _ => .boolean b) hv
    | name n =>
      cases reached with
      | none => cases hv
      | some value => exact ih h (fun _ => (hreached value rfl).lookup) hv

/-- What a path leads to in a well keyed scope is well keyed. -/
theorem resolve (h : s.WellKeyed) {path : Path} {v : Value} (hv : s.resolve path = some v) :
    v.WellKeyed :=
  h.follow (fun _ => h.value.of_mem_some) hv

end WellKeyed

end Scope

end TextTemplate
