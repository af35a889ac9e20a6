import TextTemplate.Engine
import TextTemplate.Proofs.Surround

/-!
# Spellings of negation

A negated block can be opened by a hat and a word, by `unless` and a word, or as `if` with its
branches exchanged. The three are read in different ways, and come to the same: they can be read
just if the word spells a path, are rendered alike if they can be read, and are at fault in the same
way if they cannot.

## Main definitions

- `IsWordToken` — words that are read as one token
- `Engine.RendersAlike` — nodes that an engine renders alike, whatever is registered on it

## Main statements

- `opensOn_hat`, `opensOn_builtin` — the tags that open a block on a word
- `Engine.negations_agree` — the three spellings of a negated block
-/

namespace TextTemplate

open Grammar

-- ════════════════════════════════════════════════════════════════════════
-- Words
-- ════════════════════════════════════════════════════════════════════════

/-- Words that a lexer reads as one token. -/
def IsWordToken (word : String) : Prop :=
  ∃ l l' position, Lexer.next l = (.ok (some ⟨.word word, position⟩), l')

/-- A word is what the longest word from its first character gives. -/
theorem exists_scanWord_of_scanTag {opened position : Position} {cs : List Char} {scan : Scan}
    {word : String} (h : scanTag opened position cs = .ok scan) (hword : scan.token = .word word) :
    ∃ c ds, isWordStart c = true ∧ scan = scanWord c ds := by
  cases scansTag_of_scanTag h with
  | word ds hstart => exact ⟨_, ds, hstart, rfl⟩
  | comment hscan =>
    unfold scanComment? at hscan
    split at hscan
    all_goals
      obtain ⟨_, -, rfl⟩ := Option.map_eq_some_iff.1 hscan
      cases hword
  | partialRef hscan =>
    simp only [scanPartial?] at hscan
    split at hscan
    · cases hscan
    · cases hscan
      cases hword
  | number _ _ hscan =>
    obtain ⟨n, hnumber⟩ := token_of_scanNumber? hscan
    rw [hnumber] at hword
    cases hword
  | _ => cases hword

theorem eq_of_wordToken {word word' : String} (h : wordToken word' = .word word) :
    word' = word ∧ word ∉ ["true", "false", "null"] := by
  unfold wordToken at h
  split at h
  · cases h
  split at h
  · cases h
  split at h
  · cases h
  · next htrue hfalse hnull =>
    cases h
    exact ⟨rfl, by simp [htrue, hfalse, hnull]⟩

/-- A word that is read begins like a word, goes on like one, and is no literal. -/
theorem IsWordToken.spelled {word : String} (h : IsWordToken word) :
    (∃ c cs, word.toList = c :: cs ∧ isWordStart c = true ∧ cs.all isWordChar = true) ∧
      word ∉ ["true", "false", "null"] := by
  obtain ⟨l, l', position, hnext⟩ := h
  obtain ⟨-, scan, hscan, htake⟩ | ⟨opened, scan, -, hscan, htake⟩ := Lexer.next_eq_some hnext
  · have htoken : scan.token = .word word := congrArg (fun taken => taken.1.token) htake.symm
    obtain ⟨⟨s, htext⟩ | ⟨escaped, hstart⟩, -⟩ := token_of_scanText? hscan
    · rw [htext] at htoken
      cases htoken
    · rw [hstart] at htoken
      cases htoken
  · have htoken : scan.token = .word word := congrArg (fun taken => taken.1.token) htake.symm
    obtain ⟨c, cs, hstart, rfl⟩ := exists_scanWord_of_scanTag hscan htoken
    obtain ⟨rfl, hliteral⟩ := eq_of_wordToken htoken
    exact ⟨⟨c, _, String.toList_ofList, hstart, List.all_takeWhile⟩, hliteral⟩

theorem isWordChar_of_isWordStart {c : Char} (h : isWordStart c = true)
    (hmark : isBlockMark c = false) : isWordChar c = true := by
  simp only [isWordStart, hmark, Bool.false_or, Bool.or_eq_true, decide_eq_true_eq] at h
  obtain ((h | h) | h) | h := h <;> simp [isWordChar, h]

/-- Behind a mark a plain word goes on as a word. -/
theorem IsWordToken.all_isWordChar {word : String} (h : IsWordToken word) (hplain : IsPlain word) :
    word.toList.all isWordChar = true := by
  obtain ⟨⟨c, cs, hcons, hstart, hchars⟩, -⟩ := h.spelled
  have hmark : isBlockMark c = false := by
    have hnone := (isPlain_iff word).1 hplain
    rwa [hcons] at hnone
  rw [hcons, List.all_cons, isWordChar_of_isWordStart hstart hmark, hchars]
  rfl

theorem IsWordToken.writtenAs {word : String} (h : IsWordToken word) :
    (Token.word word).WrittenAs word.toList := by
  obtain ⟨⟨c, cs, hcons, hstart, hchars⟩, hliteral⟩ := h.spelled
  exact writtenAs_word hcons hstart hchars hliteral

theorem IsWordToken.ne_empty {word : String} (h : IsWordToken word) : word ≠ "" := by
  obtain ⟨⟨c, cs, hcons, -⟩, -⟩ := h.spelled
  rintro rfl
  cases hcons

-- ════════════════════════════════════════════════════════════════════════
-- Openers
-- ════════════════════════════════════════════════════════════════════════

theorem ParseError.Matches.ofPathError (word : String) (p q : Position) (e : PathError) :
    (ParseError.ofPathError word p e).Matches Position.Any (ParseError.ofPathError word q e) := by
  cases e with
  | malformed => exact .unexpected trivial _ _
  | unknownVariable name => exact .unknownDataVariable trivial name

theorem readAt_of_error {word : String} {e : PathError} (h : Path.read word = .error e)
    (position : Position) : Path.readAt word position = .error (.ofPathError word position e) := by
  rw [Path.readAt, h]

variable {word : String}

/-- A hat before a word opens a negated block on the path that the word spells. -/
theorem opensOn_hat (h : IsWordToken word) (hplain : IsPlain word) :
    OpensOn word ("^" ++ word) [.word ("^" ++ word)] (fun path => .negated (.path path)) word where
  isTag := by
    have hwritten : (Token.word ("^" ++ word)).WrittenAs ('^' :: word.toList) :=
      writtenAs_mark rfl rfl (h.all_isWordChar hplain)
    exact readsTags_of_text (by simp) hwritten .nil
  isInner := List.forall_mem_singleton.2 trivial
  isWord := h.all_isWordChar hplain
  opener hread := .inverted h.ne_empty hread
  fault := by
    intro e hread opened between hbetween
    obtain ⟨head, rfl, hhead⟩ := List.map_eq_singleton_iff.1 hbetween
    refine ⟨head.position, ?_⟩
    simp only [Item.ofTag, hhead, ofWord_inverted true h.ne_empty, Item.alone,
      readAt_of_error hread, Except.map]

/-- The name of a kind of block before a word opens such a block on the path that the word
spells. -/
theorem opensOn_builtin (h : IsWordToken word) (hplain : IsPlain word) (name : String)
    (kind : Param → BlockKind) (hname : name.toList.all isWordChar = true)
    (hkind : BlockKind.builtin? name = some kind) :
    OpensOn word ("#" ++ name ++ " " ++ word) [.word ("#" ++ name), .word word]
      (fun path => kind (.path path)) name where
  isTag := by
    have hwritten : (Token.word ("#" ++ name)).WrittenAs ('#' :: name.toList) :=
      writtenAs_mark rfl rfl hname
    exact readsTags_of_text (by simp) hwritten (.cons h.writtenAs .nil)
  isInner := List.forall_mem_cons.2 ⟨trivial, List.forall_mem_singleton.2 trivial⟩
  isWord := hname
  opener := by
    intro path hread
    have hofName : BlockKind.ofName name .start [.path path] = .ok (kind (.path path)) := by
      simp only [BlockKind.ofName, hkind]
    exact opener_of_ofName (.cons (.path hplain hread) .nil) hofName
  fault := by
    intro e hread opened between hbetween
    obtain ⟨head, extra, rfl, hhead, hextra⟩ := List.map_eq_cons_iff.1 hbetween
    obtain ⟨⟨_, position⟩, rfl, rfl⟩ := List.map_eq_singleton_iff.1 hextra
    refine ⟨position, ?_⟩
    have hlist : ("#" ++ name).toList = '#' :: name.toList := by simp
    have hif := isOtherwise_eq_false hlist (by decide) (fun hhat => absurd hhat (by decide))
    simp only [Item.ofTag, hhead, Item.ofWord, hif, Bool.false_eq_true, if_false, hlist,
      Param.ofLexemes, Param.ofLexeme, (isPlain_iff word).1 hplain, readAt_of_error hread,
      Except.map]

-- ════════════════════════════════════════════════════════════════════════
-- Rendering
-- ════════════════════════════════════════════════════════════════════════

/-- A negated block is rendered alike under every name. -/
theorem Node.render_negated (argument : Param) (name name' : String) (consequent : List Node)
    (alternate? : Option (List Node)) (env : Env) :
    (Node.block (.negated argument) name consequent alternate?).render env =
      (Node.block (.negated argument) name' consequent alternate?).render env := by
  funext scope
  simp only [Node.render, BlockKind.render]

/-- A negated block is a conditional one with its branches exchanged. -/
theorem Node.render_exchanged (argument : Param) (name name' : String)
    (consequent alternate : List Node) (env : Env) :
    (Node.block (.negated argument) name consequent (some alternate)).render env =
      (Node.block (.conditional argument) name' alternate (some consequent)).render env := by
  funext scope
  simp only [Node.render, BlockKind.render, renderBranch]

theorem renderTemplate_congr_of_node {n n' : Node} (h : ∀ env, n.render env = n'.render env)
    (config : Config) (expansions : Nat) (data : Value) :
    renderTemplate config expansions [n] data = renderTemplate config expansions [n'] data := by
  cases expansions with
  | zero => rfl
  | succ expansions => simp only [renderTemplate, renderNodes, h]

namespace Engine

/-- Nodes that an engine renders alike, whatever is registered on it. -/
def RendersAlike (e : Engine) (nodes nodes' : List Node) : Prop :=
  ∀ (registry : Registry) (data : Except String Value) (sink : Sink),
    { e with registry }.render nodes data sink = { e with registry }.render nodes' data sink

theorem rendersAlike_of_node (e : Engine) {n n' : Node} (h : ∀ env, n.render env = n'.render env) :
    e.RendersAlike [n] [n'] := by
  intro registry data sink
  cases data with
  | ok value => simp only [render, renderValue, renderTemplate_congr_of_node h]
  | error message => rfl

/-- The three spellings of a negated block around two branches can be read just if the word spells a
path. Then they are rendered alike, whatever is registered and into any sink, and otherwise they are
at fault in the same way. -/
theorem negations_agree (e : Engine) {word a b : String} {first second : List Node}
    (hlimit : 1 ≤ e.config.maxBlockDepth) (hword : IsWordToken word) (hplain : IsPlain word)
    (ha : IsBranch (e.config.maxBlockDepth - 1) a first)
    (hb : IsBranch (e.config.maxBlockDepth - 1) b second) :
    ((∃ nodes, e.compile (blockSource ("^" ++ word) word a b) = .ok nodes) ↔
      ∃ path, Path.read word = .ok path) ∧
    Agree (ParseError.Matches Position.Any) e.RendersAlike
      (e.compile (blockSource ("^" ++ word) word a b))
      (e.compile (blockSource ("#unless " ++ word) "unless" a b)) ∧
    Agree (ParseError.Matches Position.Any) e.RendersAlike
      (e.compile (blockSource ("^" ++ word) word a b))
      (e.compile (blockSource ("#if " ++ word) "if" b a)) := by
  obtain ⟨limit, hdepth⟩ : ∃ limit, e.config.maxBlockDepth = limit + 1 :=
    ⟨_, (Nat.sub_add_cancel hlimit).symm⟩
  rw [hdepth, Nat.add_sub_cancel] at ha hb
  have hcompile : ∀ source, e.compile source = parseTemplate (limit + 1) source := by
    intro source
    rw [compile, hdepth]
  have hhat := opensOn_hat hword hplain
  have hunless : OpensOn word ("#unless " ++ word) _ _ "unless" :=
    opensOn_builtin hword hplain "unless" .negated (by decide) rfl
  have hif : OpensOn word ("#if " ++ word) _ _ "if" :=
    opensOn_builtin hword hplain "if" .conditional (by decide) rfl
  simp only [hcompile]
  cases hread : Path.read word with
  | ok path =>
    rw [hhat.parse ha hb hread, hunless.parse ha hb hread, hif.parse hb ha hread]
    refine ⟨⟨fun _ => ⟨path, rfl⟩, fun _ => ⟨_, rfl⟩⟩, .ok ?_, .ok ?_⟩
    · exact e.rendersAlike_of_node (Node.render_negated _ _ _ _ _)
    · exact e.rendersAlike_of_node (Node.render_exchanged _ _ _ _ _)
  | error fault =>
    obtain ⟨p, hp⟩ := hhat.refuse ha b hread
    obtain ⟨q, hq⟩ := hunless.refuse ha b hread
    obtain ⟨q', hq'⟩ := hif.refuse hb a hread
    rw [hp, hq, hq']
    refine ⟨⟨?_, ?_⟩, .error (.ofPathError word p q fault), .error (.ofPathError word p q' fault)⟩
    · rintro ⟨_, hok⟩
      cases hok
    · rintro ⟨_, hok⟩
      cases hok

/-- The branches of a block on a user, with a block of two branches in the first one. -/
def welcome : String :=
  "\x7b\x7b#vip\x7d\x7dDear\x7b\x7b^\x7d\x7dHi\x7b\x7b/vip\x7d\x7d"

@[inherit_doc welcome]
def farewell : String := "Bye"

theorem isWordToken_banned : IsWordToken "user.banned" :=
  ⟨⟨"user.banned\x7d\x7d".toList, .start, .tag .start⟩, _, _, by with_unfolding_all rfl⟩

/-- A word that spells no path. -/
theorem isWordToken_hour : IsWordToken "@hour" :=
  ⟨⟨"@hour\x7d\x7d".toList, .start, .tag .start⟩, _, _, by with_unfolding_all rfl⟩

theorem negations_agree_welcome :
    1 ≤ ({} : Engine).config.maxBlockDepth ∧
    (IsWordToken "user.banned" ∧ IsPlain "user.banned") ∧
    (IsWordToken "@hour" ∧ IsPlain "@hour") ∧
    (∃ first second, IsBranch (({} : Engine).config.maxBlockDepth - 1) welcome first ∧
      IsBranch (({} : Engine).config.maxBlockDepth - 1) farewell second) ∧
    (∃ nodes nodes' nodes'',
      ({} : Engine).compile (blockSource "^user.banned" "user.banned" welcome farewell) =
        .ok nodes ∧
      ({} : Engine).compile (blockSource "#unless user.banned" "unless" welcome farewell) =
        .ok nodes' ∧
      ({} : Engine).compile (blockSource "#if user.banned" "if" farewell welcome) = .ok nodes'' ∧
      ({} : Engine).RendersAlike nodes nodes' ∧ ({} : Engine).RendersAlike nodes nodes'') ∧
    ∀ nodes, ({} : Engine).compile (blockSource "^@hour" "@hour" welcome farewell) ≠ .ok nodes := by
  have hlimit : 1 ≤ ({} : Engine).config.maxBlockDepth := by decide
  have hfirst : IsBranch (({} : Engine).config.maxBlockDepth - 1) welcome
      [.block (.implicit ⟨[.name "vip"]⟩) "vip" [.text "Dear"] (some [.text "Hi"])] :=
    ⟨by with_unfolding_all rfl, by decide, by decide⟩
  have hsecond : IsBranch (({} : Engine).config.maxBlockDepth - 1) farewell [.text "Bye"] :=
    ⟨by with_unfolding_all rfl, by decide, by decide⟩
  have hplain : IsPlain "user.banned" := (isPlain_iff _).2 (by decide)
  have hplain' : IsPlain "@hour" := (isPlain_iff _).2 (by decide)
  obtain ⟨hread, hunless, hif⟩ :=
    negations_agree {} hlimit isWordToken_banned hplain hfirst hsecond
  obtain ⟨hread', -, -⟩ := negations_agree {} hlimit isWordToken_hour hplain' hfirst hsecond
  refine ⟨hlimit, ⟨isWordToken_banned, hplain⟩, ⟨isWordToken_hour, hplain'⟩,
    ⟨_, _, hfirst, hsecond⟩, ?_, ?_⟩
  · obtain ⟨nodes, hnodes⟩ := hread.2 ⟨⟨[.name "user", .name "banned"]⟩, by decide⟩
    rw [hnodes] at hunless hif
    generalize hnodes' : ({} : Engine).compile (blockSource ("#unless " ++ "user.banned") _ _ _) =
      result at hunless
    generalize hnodes'' : ({} : Engine).compile (blockSource ("#if " ++ "user.banned") _ _ _) =
      result' at hif
    cases hunless with
    | ok halike =>
      cases hif with
      | ok halike' => exact ⟨_, _, _, hnodes, hnodes', hnodes'', halike, halike'⟩
  · intro nodes hnodes
    obtain ⟨path, hpath⟩ := hread'.1 ⟨nodes, hnodes⟩
    have herror : Path.read "@hour" = .error (.unknownVariable "hour") := by decide
    rw [herror] at hpath
    cases hpath

end Engine

end TextTemplate
