import TextTemplate.Proofs.Token.Run

/-!
# Progress of a lexer

A call that gives a lexeme passes over at least one character, so the calls come to the end of the
source or to an error within as many calls as the source has characters. Either of these is final:
what a call gives there, every later call gives.

## Main definitions

- `Lexer.after` — the lexer behind a number of calls

## Main statements

- `Lexer.next_after_of_next_self` — an outcome that leaves the lexer where it was is repeated
- `calls_come_to_rest` — every source has a call at which its tokens end, and it is final
-/

namespace TextTemplate

open Text

namespace Lexer

/-- The lexer behind a number of calls, each from where the one before it stopped. -/
def after : Nat → Lexer → Lexer
  | 0, l => l
  | n + 1, l => after n l.next.2

theorem after_succ (n : Nat) (l : Lexer) : after (n + 1) l = (after n l).next.2 := by
  induction n generalizing l with
  | zero => rfl
  | succ n ih => exact ih l.next.2

theorem after_add (n m : Nat) (l : Lexer) : after (n + m) l = after m (after n l) := by
  induction m with
  | zero => rfl
  | succ m ih => rw [← Nat.add_assoc, after_succ, after_succ, ih]

/-- A call that gives a lexeme passes over text, and its position moves on by that text. -/
theorem exists_passed_of_next {l l' : Lexer} {lexeme : Lexeme}
    (h : l.next = (.ok (some lexeme), l')) :
    ∃ passed, passed ≠ [] ∧ l.rest = passed ++ l'.rest ∧
      l'.position = l.position.advance passed := by
  obtain ⟨hmode, scan, hscan, htake⟩ | ⟨opened, scan, hmode, hscan, htake⟩ := next_eq_some h
  · cases htake
    obtain ⟨happend, hne⟩ := covers_of_scanText? hscan
    exact ⟨scan.slice, hne, happend.symm, rfl⟩
  · cases htake
    obtain ⟨happend, hne⟩ := covers_of_scanTag hscan
    -- Blanks in front of the token are passed over with it.
    refine ⟨l.rest.takeWhile isBlank ++ scan.slice, by simp [hne], ?_, ?_⟩
    · rw [List.append_assoc]
      simp only [behind, happend, skipBlanks]
      exact List.takeWhile_append_dropWhile.symm
    · simp only [behind, skipBlanks, Position.advance_append]

/-- An outcome that leaves the lexer where it was is the outcome of every call. -/
theorem next_after_of_next_self {l : Lexer} {outcome : Except LexError (Option Lexeme)}
    (h : l.next = (outcome, l)) (n : Nat) : (after n l).next = (outcome, l) := by
  have hafter : after n l = l := by
    induction n with
    | zero => rfl
    | succ n ih => rw [after, h, ih]
  rw [hafter, h]

/-- An error, and the end of the source, are what every later call gives. -/
theorem next_after_of_le {l : Lexer} {outcome : Except LexError (Option Lexeme)} {n m : Nat}
    (h : (after n l).next.1 = outcome) (hfinal : ∀ lexeme, outcome ≠ .ok (some lexeme))
    (hle : n ≤ m) : (after m l).next.1 = outcome := by
  obtain ⟨k, rfl⟩ := Nat.exists_eq_add_of_le hle
  rw [after_add]
  obtain ⟨l', hnext⟩ : ∃ l', (after n l).next = (outcome, l') := ⟨_, Prod.ext h rfl⟩
  match outcome, hfinal, hnext with
  | .error e, _, hnext =>
    cases k with
    | zero => exact congrArg Prod.fst hnext
    | succ k =>
      rw [after, hnext, next_after_of_next_self (next_of_next_error hnext)]
  | .ok none, _, hnext =>
    obtain ⟨-, -, rfl⟩ := next_eq_none hnext
    rw [next_after_of_next_self hnext]
  | .ok (some lexeme), hfinal, _ => exact absurd rfl (hfinal lexeme)

/-- Calls in a row end at the lexer that as many calls leave behind, and their lexemes are all that
is found by these. -/
theorem Yields.after_eq {l l' : Lexer} {lexemes : List Lexeme} (h : l.Yields lexemes l') :
    after lexemes.length l = l' ∧ found (calls lexemes.length l) = lexemes ∧
      ∀ n < lexemes.length, ∃ lexeme, (after n l).next.1 = .ok (some lexeme) := by
  induction h with
  | nil => exact ⟨rfl, rfl, by simp⟩
  | @cons l l₁ l₂ lexeme lexemes hnext _ ih =>
    obtain ⟨hafter, hfound, hlexemes⟩ := ih
    simp only [List.length_cons, after, calls, hnext]
    refine ⟨hafter, ?_, ?_⟩
    · exact congrArg (lexeme :: ·) hfound
    · intro n hn
      cases n with
      | zero => exact ⟨lexeme, congrArg Prod.fst hnext⟩
      | succ n =>
        rw [after, hnext]
        exact hlexemes n (Nat.lt_of_succ_lt_succ hn)

/-- The lexemes among the outcomes of calls are those of a run, and from the end of the run on calls
give what they give behind all of these. -/
theorem exists_yields_found (n : Nat) (l : Lexer) :
    ∃ l', l.Yields (found (calls n l)) l' ∧ l'.next.1 = (after n l).next.1 := by
  induction n generalizing l with
  | zero => exact ⟨l, .nil l, rfl⟩
  | succ n ih =>
    match hnext : l.next with
    | (.error e, l₁) =>
      have hfinal := next_of_next_error hnext
      refine ⟨l, ?_, ?_⟩
      · simp only [calls, hnext, calls_of_next_self hfinal, found, List.filterMap_cons,
          List.filterMap_replicate]
        exact .nil l
      · rw [after, hnext, next_after_of_next_self hfinal]
    | (.ok none, l₁) =>
      obtain ⟨-, -, rfl⟩ := next_eq_none hnext
      refine ⟨l₁, ?_, ?_⟩
      · simp only [calls, hnext, calls_of_next_self hnext, found, List.filterMap_cons,
          List.filterMap_replicate]
        exact .nil l₁
      · rw [after, hnext, next_after_of_next_self hnext]
    | (.ok (some lexeme), l₁) =>
      obtain ⟨l', hrun, hbehind⟩ := ih l₁
      rw [calls, after, hnext]
      exact ⟨l', .cons hnext hrun, hbehind⟩

/-- There are at most as many lexemes as characters. -/
theorem Yields.length_le {l l' : Lexer} {lexemes : List Lexeme} (h : l.Yields lexemes l') :
    lexemes.length + l'.rest.length ≤ l.rest.length := by
  induction h with
  | nil => simp
  | cons hnext _ ih =>
    have hlt := length_rest_of_next hnext
    simp only [List.length_cons]
    omega

/-- Reading all tokens is a run up to the end of the source or to an error, with the tokens of the
run or with that error. -/
theorem exists_yields_of_tokens (l : Lexer) :
    ∃ lexemes l', l.Yields lexemes l' ∧
      (l'.next.1 = .ok none ∧ l.tokens = .ok lexemes ∨
        ∃ e, l'.next.1 = .error e ∧ l.tokens = .error e) := by
  fun_induction tokens l with
  | case1 l e l' hnext => exact ⟨[], l, .nil l, .inr ⟨e, congrArg Prod.fst hnext, rfl⟩⟩
  | case2 l l' hnext => exact ⟨[], l, .nil l, .inl ⟨congrArg Prod.fst hnext, rfl⟩⟩
  | case3 l lexeme l₁ hnext ih =>
    obtain ⟨lexemes, l', hrun, ⟨hend, htokens⟩ | ⟨e, herror, htokens⟩⟩ := ih
    · exact ⟨lexeme :: lexemes, l', .cons hnext hrun, .inl ⟨hend, by rw [htokens]; rfl⟩⟩
    · exact ⟨lexeme :: lexemes, l', .cons hnext hrun, .inr ⟨e, herror, by rw [htokens]; rfl⟩⟩

end Lexer

/-- A lexer moves on with every lexeme, and comes to rest. A call that gives a lexeme passes over at
least one character, so no more calls give lexemes than the source has characters; there is a first
call that gives none, at the latest the one behind so many, and what it gives is what becomes of the
source as a whole. An error is repeated as it is by all later calls, and so is the end of the
source. -/
theorem calls_come_to_rest (source : String) :
    (∀ n lexeme l', (Lexer.after n (.ofSource source)).next = (.ok (some lexeme), l') →
      ∃ passed, passed ≠ [] ∧
        (Lexer.after n (.ofSource source)).rest = passed ++ l'.rest ∧
        l'.position = (Lexer.after n (.ofSource source)).position.advance passed) ∧
    (∀ n, (Lexer.found (Lexer.calls n (.ofSource source))).length ≤ source.length) ∧
    (∃ n ≤ source.length,
      (∀ m < n, ∃ lexeme, (Lexer.after m (.ofSource source)).next.1 = .ok (some lexeme)) ∧
      ((Lexer.after n (.ofSource source)).next.1 = .ok none ∧
          tokenize source = .ok (Lexer.found (Lexer.calls n (.ofSource source))) ∨
        ∃ e, (Lexer.after n (.ofSource source)).next.1 = .error e ∧
          tokenize source = .error e)) ∧
    (∀ n m, n ≤ m → ∀ e, (Lexer.after n (.ofSource source)).next.1 = .error e →
      (Lexer.after m (.ofSource source)).next.1 = .error e) ∧
    ∀ n m, n ≤ m → (Lexer.after n (.ofSource source)).next.1 = .ok none →
      (Lexer.after m (.ofSource source)).next.1 = .ok none := by
  have hlength : (Lexer.ofSource source).rest.length = source.length := String.length_toList
  refine ⟨fun n lexeme l' h => Lexer.exists_passed_of_next h, ?_, ?_, ?_, ?_⟩
  · intro n
    obtain ⟨l', hrun, -⟩ := Lexer.exists_yields_found n (.ofSource source)
    have hle := hrun.length_le
    omega
  · obtain ⟨lexemes, l', hrun, hend⟩ := Lexer.exists_yields_of_tokens (.ofSource source)
    obtain ⟨hafter, hfound, hlexemes⟩ := hrun.after_eq
    have hle := hrun.length_le
    refine ⟨lexemes.length, by omega, hlexemes, ?_⟩
    rw [hafter, hfound]
    exact hend
  · intro n m hle e he
    exact Lexer.next_after_of_le he (by simp) hle
  · intro n m hle hend
    exact Lexer.next_after_of_le hend (by simp) hle

/-- A tag with a character in it that begins no token, behind a blank. -/
def brokenTag : String := "a\x7b\x7bb %"

theorem calls_come_to_rest_brokenTag :
    (Lexer.after 3 (.ofSource brokenTag)).next.1 = .error (.unparseable ⟨5, 1, 6⟩ '%') ∧
      (∀ m, 3 ≤ m →
        (Lexer.after m (.ofSource brokenTag)).next.1 = .error (.unparseable ⟨5, 1, 6⟩ '%')) ∧
      ∀ n, (Lexer.found (Lexer.calls n (.ofSource brokenTag))).length ≤ 6 := by
  obtain ⟨-, hcount, -, herror, -⟩ := calls_come_to_rest brokenTag
  have hthird : (Lexer.after 3 (.ofSource brokenTag)).next.1 =
      .error (.unparseable ⟨5, 1, 6⟩ '%') := by
    with_unfolding_all rfl
  exact ⟨hthird, fun m hle => herror 3 m hle _ hthird, hcount⟩

end TextTemplate
