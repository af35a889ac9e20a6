import TextTemplate.Proofs.Grammar.Basic

/-!
# Tags and the grammar

The item that the lexemes of a tag spell is the one that the grammar gives to their tokens, and
every tag of the grammar spells an item.

## Main definitions

- `Item.SpelledBy` — the tokens that the grammar allows for an item
-/

namespace TextTemplate

/-- The tokens that the grammar allows between the markers of a tag for an item. -/
def Item.SpelledBy (escaped : Bool) (tokens : List Token) : Item → Prop
  | .node n => Grammar.Leaf escaped tokens n
  | .comment => ∃ s, tokens = [.comment s]
  | .opener kind name _ => Grammar.Opener tokens kind name
  | .otherwise _ => tokens = [.word "else"] ∨ tokens = [.word "^"]
  | .closer name _ => tokens = [.word ("/" ++ name)]

namespace Grammar

theorem isPlain_iff (word : String) :
    IsPlain word ↔ (word.toList.head?.map isBlockMark).getD false = false := by
  cases h : word.toList.head? <;> simp [IsPlain, h, isBlockMark, and_assoc]

theorem eq_append_of_toList {word : String} {c : Char} {name : List Char} (mark : String)
    (h : word.toList = c :: name) (hmark : mark.toList = [c]) :
    word = mark ++ String.ofList name := by
  apply String.toList_injective
  rw [String.toList_append, hmark, String.toList_ofList, h, List.singleton_append]

theorem isPlain_of_toList {word : String}
    (hclose : ∀ name, word.toList = '/' :: name → False)
    (hopen : ∀ name, word.toList = '#' :: name → False)
    (hhat : ∀ name, word.toList = '^' :: name → False) : IsPlain word := by
  intro c hc
  obtain ⟨cs, hcs⟩ := List.head?_eq_some_iff.1 hc
  refine ⟨?_, ?_, ?_⟩ <;> rintro rfl
  · exact hopen cs hcs
  · exact hhat cs hcs
  · exact hclose cs hcs

theorem readAt_eq_ok_iff {word : String} {position : Position} {path : Path} :
    Path.readAt word position = .ok path ↔ Path.read word = .ok path := by
  unfold Path.readAt
  cases Path.read word <;> simp

theorem ofLexeme_eq_ok_iff {lexeme : Lexeme} {param : Param} :
    Param.ofLexeme lexeme = .ok param ↔ Parameter lexeme.token param := by
  unfold Param.ofLexeme
  constructor
  · intro h
    split at h
    · next htoken =>
      cases h
      rw [htoken]
      exact .literal _
    · next word htoken =>
      split at h
      · simp at h
      · next hplain =>
        obtain ⟨path, hpath, rfl⟩ := map_eq_ok_iff.1 h
        rw [htoken]
        exact .path ((isPlain_iff word).2 (by simpa using hplain)) (readAt_eq_ok_iff.1 hpath)
    · simp at h
  · obtain ⟨token, position⟩ := lexeme
    intro h
    cases h with
    | literal value => rfl
    | path hplain hpath =>
      simp only [(isPlain_iff _).1 hplain, Bool.false_eq_true, if_false,
        readAt_eq_ok_iff.2 hpath, Except.map]

theorem ofLexemes_eq_ok_iff {lexemes : List Lexeme} {params : List Param} :
    Param.ofLexemes lexemes = .ok params ↔
      List.Forall₂ Parameter (lexemes.map Lexeme.token) params := by
  induction lexemes generalizing params with
  | nil => simp [Param.ofLexemes, eq_comm]
  | cons lexeme lexemes ih =>
    rw [Param.ofLexemes, List.map_cons, List.forall₂_cons_left_iff]
    constructor
    · intro h
      split at h
      · simp at h
      · next param hparam =>
        obtain ⟨more, hmore, rfl⟩ := map_eq_ok_iff.1 h
        exact ⟨param, more, ofLexeme_eq_ok_iff.1 hparam, ih.1 hmore, rfl⟩
    · rintro ⟨param, more, hparam, hmore, rfl⟩
      simp only [ofLexeme_eq_ok_iff.2 hparam, ih.2 hmore, Except.map]

-- ════════════════════════════════════════════════════════════════════════
-- From lexemes to the grammar
-- ════════════════════════════════════════════════════════════════════════

theorem builtin?_eq_none_iff (name : String) :
    BlockKind.builtin? name = none ↔ name ∉ builtinNames := by
  unfold BlockKind.builtin? builtinNames
  split
  · simp_all
  split
  · simp_all
  split
  · simp_all
  split <;> simp_all

/-- A name and arguments that give a kind of block open such a block. -/
theorem opener_of_ofName {name : String} {position : Position} {tokens : List Token}
    {params : List Param} {kind : BlockKind} (hparams : List.Forall₂ Parameter tokens params)
    (h : BlockKind.ofName name position params = .ok kind) :
    Opener (.word ("#" ++ name) :: tokens) kind name := by
  unfold BlockKind.ofName at h
  split at h
  · next make hbuiltin =>
    split at h
    · next param =>
      cases h
      obtain ⟨token, hparam, rfl⟩ : ∃ token, Parameter token param ∧ tokens = [token] := by
        cases hparams with
        | cons hparam hnil => cases hnil; exact ⟨_, hparam, rfl⟩
      unfold BlockKind.builtin? at hbuiltin
      split at hbuiltin
      · next hname => subst hname; cases hbuiltin; exact .conditional hparam
      split at hbuiltin
      · next hname => subst hname; cases hbuiltin; exact .negated hparam
      split at hbuiltin
      · next hname => subst hname; cases hbuiltin; exact .each hparam
      split at hbuiltin
      · next hname => subst hname; cases hbuiltin; exact .within hparam
      · simp at hbuiltin
    · simp at h
  · next hbuiltin =>
    have hname := (builtin?_eq_none_iff name).1 hbuiltin
    split at h
    · simp at h
    · next hne =>
      split at h
      · cases hparams
        obtain ⟨path, hpath, rfl⟩ := map_eq_ok_iff.1 h
        exact .implicit hne hname (readAt_eq_ok_iff.1 hpath)
      · next hparams' =>
        cases h
        refine .helper hne hname ?_ hparams
        rintro rfl
        cases hparams
        exact hparams' rfl

theorem eq_nil_of_alone {extra : List Lexeme} {expected : Expectation} {item : Item}
    {alone : Except ParseError Item} (h : Item.alone extra expected alone = .ok item) :
    extra = [] ∧ alone = .ok item := by
  cases extra with
  | nil => exact ⟨rfl, h⟩
  | cons => simp [Item.alone] at h

theorem spelledBy_of_ofWord {escaped : Bool} {word : String} {position : Position}
    {extra : List Lexeme} {item : Item} (h : Item.ofWord escaped word position extra = .ok item) :
    item.SpelledBy escaped (.word word :: extra.map Lexeme.token) := by
  unfold Item.ofWord at h
  -- The cases are tried in order, so a lone hat is none of the words behind a mark.
  split at h
  · next hword =>
    obtain ⟨rfl, hitem⟩ := eq_nil_of_alone h
    cases hitem
    simp only [Bool.or_eq_true, decide_eq_true_eq] at hword
    obtain rfl | rfl := hword
    · exact .inl rfl
    · exact .inr rfl
  · next hword =>
    simp only [Bool.or_eq_true, decide_eq_true_eq, not_or] at hword
    obtain ⟨helse, hhat⟩ := hword
    split at h
    · next name hname =>
      obtain ⟨rfl, hitem⟩ := eq_nil_of_alone h
      cases hitem
      rw [eq_append_of_toList "/" hname rfl]
      rfl
    · next name hname =>
      simp only at h
      split at h
      · simp at h
      · next params hparams =>
        obtain ⟨kind, hkind, rfl⟩ := map_eq_ok_iff.1 h
        rw [eq_append_of_toList "#" hname rfl]
        exact opener_of_ofName (ofLexemes_eq_ok_iff.1 hparams) hkind
    · next name hname =>
      simp only at h
      obtain ⟨rfl, hitem⟩ := eq_nil_of_alone h
      obtain ⟨path, hpath, rfl⟩ := map_eq_ok_iff.1 hitem
      have heq := eq_append_of_toList "^" hname rfl
      rw [heq]
      refine .inverted ?_ (readAt_eq_ok_iff.1 hpath)
      intro hempty
      rw [hempty] at heq
      exact hhat heq
    · next hclose hopen hnegate =>
      have hplain := isPlain_of_toList hclose hopen hnegate
      split at h
      · next hextra =>
        rw [List.isEmpty_iff] at hextra
        subst hextra
        obtain ⟨path, hpath, rfl⟩ := map_eq_ok_iff.1 h
        exact .path helse hplain (readAt_eq_ok_iff.1 hpath)
      · next hextra =>
        obtain ⟨params, hparams, rfl⟩ := map_eq_ok_iff.1 h
        refine .call helse hplain ?_ (ofLexemes_eq_ok_iff.1 hparams)
        simpa using hextra

/-- A tag that spells an item is one of the grammar. -/
theorem spelledBy_of_ofTag {escaped : Bool} {opened : Position} {lexemes : List Lexeme}
    {item : Item} (h : Item.ofTag escaped opened lexemes = .ok item) :
    item.SpelledBy escaped (lexemes.map Lexeme.token) := by
  cases lexemes with
  | nil => simp [Item.ofTag] at h
  | cons head extra =>
    rw [List.map_cons]
    simp only [Item.ofTag] at h
    split at h
    · next s htoken =>
      obtain ⟨rfl, hitem⟩ := eq_nil_of_alone h
      cases hitem
      exact ⟨s, by rw [htoken, List.map_nil]⟩
    · next name htoken =>
      rw [htoken]
      unfold Item.ofPartial at h
      split at h
      · cases h
        exact .partialRef name
      · obtain ⟨param, hparam, rfl⟩ := map_eq_ok_iff.1 h
        exact .partialWith name (ofLexeme_eq_ok_iff.1 hparam)
      · simp at h
    · next word htoken =>
      rw [htoken]
      exact spelledBy_of_ofWord h
    · next value htoken =>
      obtain ⟨rfl, hitem⟩ := eq_nil_of_alone h
      cases hitem
      rw [htoken]
      exact .literal value
    · simp at h

-- ════════════════════════════════════════════════════════════════════════
-- From the grammar to lexemes
-- ════════════════════════════════════════════════════════════════════════

/-- A plain word is a path by itself, and a helper call before arguments. -/
theorem ofWord_of_isPlain {word : String} (helse : word ≠ "else") (hplain : IsPlain word)
    (escaped : Bool) (position : Position) (extra : List Lexeme) :
    Item.ofWord escaped word position extra =
      if extra.isEmpty then
        (Path.readAt word position).map fun path => .node (.path path escaped)
      else (Param.ofLexemes extra).map fun params => .node (.call word params escaped) := by
  have hhat : word ≠ "^" := by
    rintro rfl
    exact (hplain '^' rfl).2.1 rfl
  unfold Item.ofWord
  rw [if_neg (by simp [helse, hhat])]
  split
  · next hname => exact absurd rfl (hplain _ (by rw [hname]; rfl)).2.2
  · next hname => exact absurd rfl (hplain _ (by rw [hname]; rfl)).1
  · next hname => exact absurd rfl (hplain _ (by rw [hname]; rfl)).2.1
  · rfl

theorem isOtherwise_eq_false {word : String} {c : Char} {name : List Char}
    (h : word.toList = c :: name) (helse : c ≠ 'e') (hhat : c = '^' → name ≠ []) :
    (word = "else" || word = "^") = false := by
  simp only [Bool.or_eq_false_iff, decide_eq_false_iff_not]
  constructor
  · rintro rfl
    exact helse (List.cons.inj h).1.symm
  · rintro rfl
    exact hhat (List.cons.inj h).1.symm (List.cons.inj h).2.symm

theorem ofWord_closer (escaped : Bool) (name : String) (position : Position)
    (extra : List Lexeme) :
    Item.ofWord escaped ("/" ++ name) position extra =
      Item.alone extra .endOfCloser (.ok (.closer name position)) := by
  have hlist : ("/" ++ name).toList = '/' :: name.toList := by simp
  have hif := isOtherwise_eq_false hlist (by decide) (fun h => absurd h (by decide))
  simp only [Item.ofWord, hif, Bool.false_eq_true, if_false, hlist, String.ofList_toList]

theorem ofWord_opener (escaped : Bool) (name : String) (position : Position)
    {extra : List Lexeme} {params : List Param} {kind : BlockKind}
    (hparams : Param.ofLexemes extra = .ok params)
    (hkind : BlockKind.ofName name position params = .ok kind) :
    Item.ofWord escaped ("#" ++ name) position extra = .ok (.opener kind name position) := by
  have hlist : ("#" ++ name).toList = '#' :: name.toList := by simp
  have hif := isOtherwise_eq_false hlist (by decide) (fun h => absurd h (by decide))
  simp only [Item.ofWord, hif, Bool.false_eq_true, if_false, hlist, String.ofList_toList,
    hparams, hkind, Except.map]

theorem ofWord_inverted (escaped : Bool) {name : String} (hne : name ≠ "") (position : Position)
    (extra : List Lexeme) :
    Item.ofWord escaped ("^" ++ name) position extra =
      Item.alone extra .endOfNegation ((Path.readAt name position).map fun path =>
        .opener (.negated (.path path)) name position) := by
  have hlist : ("^" ++ name).toList = '^' :: name.toList := by simp
  have hif := isOtherwise_eq_false hlist (by decide) (fun _ => by simpa using hne)
  simp only [Item.ofWord, hif, Bool.false_eq_true, if_false, hlist, String.ofList_toList]

/-- A leaf of the grammar is a node, wherever its tokens stand. -/
theorem ofTag_of_leaf {escaped : Bool} {opened : Position} {lexemes : List Lexeme} {node : Node}
    (h : Leaf escaped (lexemes.map Lexeme.token) node) :
    Item.ofTag escaped opened lexemes = .ok (.node node) := by
  generalize htokens : lexemes.map Lexeme.token = tokens at h
  cases h with
  | partialRef name =>
    obtain ⟨head, rfl, hname⟩ := List.map_eq_singleton_iff.1 htokens
    simp only [Item.ofTag, hname, Item.ofPartial]
  | partialWith name hparam =>
    obtain ⟨head, more, rfl, hname, hmore⟩ := List.map_eq_cons_iff.1 htokens
    obtain ⟨lexeme, rfl, rfl⟩ := List.map_eq_singleton_iff.1 hmore
    simp only [Item.ofTag, hname, Item.ofPartial, ofLexeme_eq_ok_iff.2 hparam, Except.map]
  | path helse hplain hpath =>
    obtain ⟨head, rfl, hword⟩ := List.map_eq_singleton_iff.1 htokens
    simp only [Item.ofTag, hword, ofWord_of_isPlain helse hplain, List.isEmpty_nil, if_true,
      readAt_eq_ok_iff.2 hpath, Except.map]
  | call helse hplain hne hparams =>
    obtain ⟨head, extra, rfl, hword, rfl⟩ := List.map_eq_cons_iff.1 htokens
    have hextra : extra.isEmpty = false := by simpa using hne
    simp only [Item.ofTag, hword, ofWord_of_isPlain helse hplain, hextra, Bool.false_eq_true,
      if_false, ofLexemes_eq_ok_iff.2 hparams, Except.map]
  | literal value =>
    obtain ⟨head, rfl, hvalue⟩ := List.map_eq_singleton_iff.1 htokens
    simp only [Item.ofTag, hvalue, Item.alone]

theorem exists_ofTag_of_ofName {escaped : Bool} {opened : Position} {lexemes : List Lexeme}
    {tokens : List Token} {params : List Param} {kind : BlockKind} (name : String)
    (htokens : lexemes.map Lexeme.token = .word ("#" ++ name) :: tokens)
    (hparams : List.Forall₂ Parameter tokens params)
    (hkind : ∀ position, BlockKind.ofName name position params = .ok kind) :
    ∃ position, Item.ofTag escaped opened lexemes = .ok (.opener kind name position) := by
  obtain ⟨head, extra, rfl, hword, rfl⟩ := List.map_eq_cons_iff.1 htokens
  refine ⟨head.position, ?_⟩
  simp only [Item.ofTag, hword]
  exact ofWord_opener escaped name head.position (ofLexemes_eq_ok_iff.2 hparams) (hkind _)

/-- An opener of the grammar opens a block of its kind under its name. -/
theorem exists_ofTag_of_opener (escaped : Bool) (opened : Position) {lexemes : List Lexeme}
    {kind : BlockKind} {name : String}
    (h : Opener (lexemes.map Lexeme.token) kind name) :
    ∃ position, Item.ofTag escaped opened lexemes = .ok (.opener kind name position) := by
  generalize htokens : lexemes.map Lexeme.token = tokens at h
  cases h with
  | conditional hparam =>
    exact exists_ofTag_of_ofName "if" htokens (.cons hparam .nil) fun _ => rfl
  | negated hparam =>
    exact exists_ofTag_of_ofName "unless" htokens (.cons hparam .nil) fun _ => rfl
  | each hparam =>
    exact exists_ofTag_of_ofName "each" htokens (.cons hparam .nil) fun _ => rfl
  | within hparam =>
    exact exists_ofTag_of_ofName "with" htokens (.cons hparam .nil) fun _ => rfl
  | implicit hne hname hpath =>
    refine exists_ofTag_of_ofName _ htokens .nil fun position => ?_
    simp only [BlockKind.ofName, (builtin?_eq_none_iff name).2 hname, if_neg hne,
      readAt_eq_ok_iff.2 hpath, Except.map]
  | @helper _ tokens params hne hname htokens' hparams =>
    refine exists_ofTag_of_ofName _ htokens hparams fun position => ?_
    cases hparams with
    | nil => exact absurd rfl htokens'
    | cons => simp only [BlockKind.ofName, (builtin?_eq_none_iff name).2 hname, if_neg hne]
  | inverted hne hpath =>
    obtain ⟨head, rfl, hword⟩ := List.map_eq_singleton_iff.1 htokens
    refine ⟨head.position, ?_⟩
    simp only [Item.ofTag, hword, ofWord_inverted escaped hne, Item.alone,
      readAt_eq_ok_iff.2 hpath, Except.map]

theorem exists_ofTag_of_otherwise (escaped : Bool) (opened : Position) {lexemes : List Lexeme}
    {word : String} (hword : word = "else" ∨ word = "^")
    (h : lexemes.map Lexeme.token = [.word word]) :
    ∃ position, Item.ofTag escaped opened lexemes = .ok (.otherwise position) := by
  obtain ⟨head, rfl, hhead⟩ := List.map_eq_singleton_iff.1 h
  refine ⟨head.position, ?_⟩
  have hif : (word = "else" || word = "^") = true := by simpa using hword
  simp only [Item.ofTag, hhead, Item.ofWord, hif, if_true, Item.alone]

theorem exists_ofTag_of_closer (escaped : Bool) (opened : Position) {lexemes : List Lexeme}
    {name : String} (h : lexemes.map Lexeme.token = [.word ("/" ++ name)]) :
    ∃ position, Item.ofTag escaped opened lexemes = .ok (.closer name position) := by
  obtain ⟨head, rfl, hhead⟩ := List.map_eq_singleton_iff.1 h
  refine ⟨head.position, ?_⟩
  simp only [Item.ofTag, hhead, ofWord_closer, Item.alone]

end Grammar

end TextTemplate
