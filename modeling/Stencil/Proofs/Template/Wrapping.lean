import Stencil.Proofs.Template.Concatenation

set_option autoImplicit false

namespace Stencil

def Condition.ofWords? : List String → Option Condition
  | [lhs] => some ⟨Expr.ofText lhs, none⟩
  | [lhs, symbol, rhs] => some ⟨Expr.ofText lhs, some (symbol, Expr.ofText rhs)⟩
  | _ => none

def blockText (content : List Char) : List Char :=
  ['{', '%', ' '] ++ content ++ [' ', '%', '}']

def blockTag (content : String) : String :=
  String.ofList (blockText content.toList)

namespace Fragment

def ofBlock (content : List Char) : Fragment :=
  ofRaw (String.ofList (blockText content))

theorem tag?_block {content : List Char} (free : ¬ ['%', '}'] <:+: content) (rest : List Char) :
    tag? (blockText content ++ rest) = some (blockText content, rest) := by
  have inside : ¬ ['%', '}'] <:+: ([' '] ++ content ++ [' ']) ++ ['%'] := by
    simp [Text.pair_infix_append, List.infix_cons_iff, free]
  have enclosed := tag?_enclosed .block inside rest
  simpa [blockText, Tag.start, Tag.finish] using enclosed

theorem ofBlock_opening {core after : List Char} (noOuter : Text.NoOuterBlank core)
    (blank : ∀ c ∈ after, Text.isBlank c = true) (notEnd : ¬ ['e', 'n', 'd'] <+: core) :
    ofBlock (core ++ after) =
      ⟨.opening, String.ofList (blockText (core ++ after)), String.ofList core⟩ := by
  have shape : blockText (core ++ after) =
      Tag.block.start ++ ([' '] ++ core ++ (after ++ [' '])) ++ Tag.block.finish := by
    simp [blockText, Tag.start, Tag.finish]
  -- The blanks after the content go with the one that stands before the delimiter.
  have trimmed : Text.trim ([' '] ++ core ++ (after ++ [' '])) = core := by
    refine Text.trim_between (List.forall_mem_singleton.mpr rfl) noOuter fun c member => ?_
    rcases List.mem_append.mp member with here | last
    · exact blank c here
    · cases List.mem_singleton.mp last
      rfl
  rw [ofBlock, shape, ofRaw_enclosed, trimmed, Tag.kind, trimmed, if_neg notEnd]

theorem condition_of_words {fragment : Fragment} {words : List String} {condition : Condition}
    (list : fragment.words = "if" :: words) (made : Condition.ofWords? words = some condition) :
    (fragment.words.length = 2 ∨ fragment.words.length = 4) ∧ fragment.condition = condition := by
  rw [Fragment.condition, list]
  unfold Condition.ofWords? at made
  split at made
  · cases made
    exact ⟨.inl rfl, rfl⟩
  · cases made
    exact ⟨.inr rfl, rfl⟩
  · cases made

theorem choice_plays {words : List String} {text : List Char} {condition : Condition}
    (spaced : Text.Spaced (words.map String.toList) text)
    (made : Condition.ofWords? words = some condition) :
    (ofBlock (['i', 'f', ' '] ++ text)).Plays .choice ∧
      (ofBlock (['i', 'f', ' '] ++ text)).condition = condition := by
  have whole : Text.Spaced (['i', 'f'] :: words.map String.toList) (['i', 'f', ' '] ++ text) :=
    .more (by decide) (List.cons_ne_nil ' ' []) (List.forall_mem_singleton.mpr rfl) spaced
  have notEnd : ¬ ['e', 'n', 'd'] <+: ['i', 'f', ' '] ++ text := by
    rintro ⟨_, same⟩
    cases same
  have fragment := ofBlock_opening (Text.spaced_no_outer_blank whole).2 (List.forall_mem_nil _) notEnd
  rw [List.append_nil] at fragment
  have list : (ofBlock (['i', 'f', ' '] ++ text)).words = "if" :: words := by
    rw [Fragment.words, fragment, String.toList_ofList, Text.words_spaced whole]
    simp
  have opening : (ofBlock (['i', 'f', ' '] ++ text)).kind = .opening := by rw [fragment]
  obtain ⟨operands, same⟩ := condition_of_words list made
  exact ⟨.choice ⟨opening, by rw [list]; rfl⟩ operands, same⟩

theorem each_fragment (before : List Char) {core after : List Char} (nonempty : core ≠ [])
    (noOuter : Text.NoOuterBlank core) (blankAfter : ∀ c ∈ after, Text.isBlank c = true) :
    ofBlock (['e', 'a', 'c', 'h', ' '] ++ (before ++ core ++ after)) =
      ⟨.opening, String.ofList (blockText (['e', 'a', 'c', 'h', ' '] ++ (before ++ core ++ after))),
        String.ofList (['e', 'a', 'c', 'h'] ++ ' ' :: (before ++ core))⟩ := by
  have isWord : Text.IsWord ['e', 'a', 'c', 'h'] := by decide
  have wholeOuter : Text.NoOuterBlank (['e', 'a', 'c', 'h'] ++ (' ' :: before) ++ core) :=
    Text.no_outer_blank_append isWord.nonempty nonempty (Text.word_no_outer_blank isWord) noOuter
  have notEnd : ¬ ['e', 'n', 'd'] <+: ['e', 'a', 'c', 'h'] ++ (' ' :: before) ++ core := by
    rintro ⟨_, same⟩
    cases same
  have fragment := ofBlock_opening wholeOuter blankAfter notEnd
  simpa using fragment

theorem each_plays {iterable : List Char} (visible : ∃ c ∈ iterable, Text.isBlank c = false) :
    (ofBlock (['e', 'a', 'c', 'h', ' '] ++ iterable)).Plays .each ∧
      (ofBlock (['e', 'a', 'c', 'h', ' '] ++ iterable)).remainder =
        String.ofList (Text.trim iterable) := by
  obtain ⟨before, after, parts, blankBefore, noOuter, blankAfter⟩ := Text.trim_parts iterable
  have nonempty := Text.trim_ne_nil visible
  have isWord : Text.IsWord ['e', 'a', 'c', 'h'] := by decide
  have fragment := each_fragment before nonempty noOuter blankAfter
  rw [← parts] at fragment
  generalize ofBlock (['e', 'a', 'c', 'h', ' '] ++ iterable) = block at fragment ⊢
  have first : block.words.head? = some "each" := by
    rw [fragment, Fragment.words, String.toList_ofList, Text.words_word_blank isWord rfl]
    rfl
  have remainder : block.remainder = String.ofList (Text.trim iterable) := by
    rw [fragment, Fragment.remainder, String.toList_ofList, Text.afterFirstBlank_word isWord rfl,
      Text.trim_front blankBefore noOuter]
  refine ⟨.each ⟨by rw [fragment], first⟩ ?_, remainder⟩
  rw [remainder]
  exact mt String.ofList_eq_empty_iff.mp nonempty

theorem separator_plays : (ofBlock ['e', 'l', 's', 'e']).Plays .separator :=
  .separator ⟨by decide, by decide⟩

theorem closer_closes : (ofBlock ['e', 'n', 'd']).kind = .closing := by
  decide

end Fragment

section Inside

variable {content rest : List Char} {source : String} {items : List Item}

theorem toList_block (free : ¬ ['%', '}'] <:+: content) :
    (Cursor.mk (blockText content ++ rest)).toList =
      Fragment.ofBlock content :: (Cursor.mk rest).toList :=
  toList_of_first? (Fragment.first?_tag (Fragment.tag?_block free rest))

theorem toList_before_block (derive : Item.Derive items (fragments source)) (closed : Closed source)
    (free : ¬ ['%', '}'] <:+: content) :
    (Cursor.mk (source.toList ++ (blockText content ++ rest))).toList =
      fragments source ++ Fragment.ofBlock content :: (Cursor.mk rest).toList :=
  Fragment.toList_before_tag (unopened_texts derive closed) (Fragment.tag?_block free rest)

end Inside

section Blocks

variable {a b source : String} {one other : List Item}

theorem derive_choice (first : Item.Derive one (fragments a)) (second : Item.Derive other (fragments b))
    (firstRoom : Item.nestingAll one ≤ 127) (secondRoom : Item.nestingAll other ≤ 127)
    {opener mark closer : Fragment} (plays : opener.Plays .choice) (separator : mark.Plays .separator)
    (closing : closer.kind = .closing) :
    Item.Derive [.choiceElse opener one mark other closer]
      (opener :: (fragments a ++ mark :: (fragments b ++ [closer]))) := by
  refine ⟨⟨⟨plays, first.1, separator, second.1, closing⟩, trivial⟩, ?_, ?_⟩
  · rw [Item.allFragments, Item.allFragments, List.append_nil, Item.fragments, first.2.1, second.2.1]
  · rw [Item.nestingAll, Item.nestingAll, Item.nesting]
    omega

theorem derive_each (body : Item.Derive one (fragments a)) (room : Item.nestingAll one ≤ 127)
    {opener closer : Fragment} (plays : opener.Plays .each) (closing : closer.kind = .closing) :
    Item.Derive [.each opener one closer] (opener :: (fragments a ++ [closer])) := by
  refine ⟨⟨⟨plays, body.1, closing⟩, trivial⟩, ?_, ?_⟩
  · rw [Item.allFragments, Item.allFragments, List.append_nil, Item.fragments, body.2.1]
  · rw [Item.nestingAll, Item.nestingAll, Item.nesting]
    omega

theorem compile_choice (first : Item.Derive one (fragments a)) (second : Item.Derive other (fragments b))
    (firstRoom : Item.nestingAll one ≤ 127) (secondRoom : Item.nestingAll other ≤ 127)
    (firstClosed : Closed a) (secondClosed : Closed b) {words : List String} {text : List Char}
    {condition : Condition} (spaced : Text.Spaced (words.map String.toList) text)
    (made : Condition.ofWords? words = some condition) (free : ¬ ['%', '}'] <:+: text)
    (shape : source.toList = blockText (['i', 'f', ' '] ++ text) ++ (a.toList ++
      (blockText ['e', 'l', 's', 'e'] ++ (b.toList ++ (blockText ['e', 'n', 'd'] ++ []))))) :
    Template.compile source =
      .ok ⟨source, .root [.choice condition (Item.nodes one) (Item.nodes other)]⟩ := by
  obtain ⟨plays, same⟩ := Fragment.choice_plays spaced made
  have openerFree : ¬ ['%', '}'] <:+: ['i', 'f', ' '] ++ text := by
    simp [List.infix_cons_iff, free]
  have parts : fragments source = Fragment.ofBlock (['i', 'f', ' '] ++ text) :: (fragments a ++
      Fragment.ofBlock ['e', 'l', 's', 'e'] :: (fragments b ++ [Fragment.ofBlock ['e', 'n', 'd']])) := by
    rw [fragments, Cursor.ofSource, shape, toList_block openerFree,
      toList_before_block first firstClosed (by decide),
      toList_before_block second secondClosed (by decide), toList_nil]
  have derive := derive_choice first second firstRoom secondRoom plays Fragment.separator_plays
    Fragment.closer_closes
  rw [← parts] at derive
  rw [compile_of_derivation derive, Item.nodes, Item.nodes, Item.node, same]

theorem compile_each (body : Item.Derive one (fragments a)) (room : Item.nestingAll one ≤ 127)
    (closed : Closed a) {iterable : List Char} (visible : ∃ c ∈ iterable, Text.isBlank c = false)
    (free : ¬ ['%', '}'] <:+: iterable)
    (shape : source.toList = blockText (['e', 'a', 'c', 'h', ' '] ++ iterable) ++
      (a.toList ++ (blockText ['e', 'n', 'd'] ++ []))) :
    Template.compile source =
      .ok ⟨source, .root [.each (Expr.ofText (String.ofList (Text.trim iterable))) (Item.nodes one)]⟩ := by
  obtain ⟨plays, remainder⟩ := Fragment.each_plays visible
  have openerFree : ¬ ['%', '}'] <:+: ['e', 'a', 'c', 'h', ' '] ++ iterable := by
    simp [List.infix_cons_iff, free]
  have parts : fragments source = Fragment.ofBlock (['e', 'a', 'c', 'h', ' '] ++ iterable) ::
      (fragments a ++ [Fragment.ofBlock ['e', 'n', 'd']]) := by
    rw [fragments, Cursor.ofSource, shape, toList_block openerFree,
      toList_before_block body closed (by decide), toList_nil]
  have derive := derive_each body room plays Fragment.closer_closes
  rw [← parts] at derive
  rw [compile_of_derivation derive, Item.nodes, Item.nodes, Item.node, remainder]

end Blocks

theorem render_choice (host : Host) (scope : Scope) {condition : Condition} {holds : Bool}
    (holding : condition.holds scope = .ok holds) (children others : List Node) :
    (Node.root [.choice condition children others]).render host scope =
      if holds then (Node.root children).render host scope
      else (Node.root others).render host scope := by
  simp only [Node.render, Node.renderAll, Output.andThen_nothing, holding, Output.ofResult]

theorem nesting_of_root {template : Template} {source : String} {items : List Item}
    (derive : Item.Derive items (fragments source)) (root : template.root = .root (Item.nodes items)) :
    template.root.nesting = Item.nestingAll items := by
  rw [root, Node.nesting, Item.nodes_nesting items derive.1]

/-- Templates wrapped in a block: with an `else` between them they are the two branches of a condition,
of which the one that is chosen renders as it does alone; one template in a loop is its body. -/
theorem compile_wrapped {a b : String} {first second : Template}
    (firstCompiles : Template.compile a = .ok first) (secondCompiles : Template.compile b = .ok second)
    (firstNesting : first.root.nesting ≤ 127) (secondNesting : second.root.nesting ≤ 127)
    (firstClosed : Closed a) (secondClosed : Closed b) :
    ∃ children others, first.root = .root children ∧ second.root = .root others ∧
      (∀ words condition text, Text.Spaced (words.map String.toList) text.toList →
        Condition.ofWords? words = some condition → ¬ ['%', '}'] <:+: text.toList →
        ∃ whole, Template.compile
            (blockTag ("if " ++ text) ++ a ++ blockTag "else" ++ b ++ blockTag "end") = .ok whole ∧
          whole.root = .root [.choice condition children others] ∧
          ∀ host context holds, condition.holds (.root context) = .ok holds →
            whole.output host context =
              if holds then first.output host context else second.output host context) ∧
      ∀ iterable : String, (∃ c ∈ iterable.toList, Text.isBlank c = false) →
        ¬ ['%', '}'] <:+: iterable.toList →
        ∃ whole, Template.compile (blockTag ("each " ++ iterable) ++ a ++ blockTag "end") = .ok whole ∧
          whole.root =
            .root [.each (Expr.ofText (String.ofList (Text.trim iterable.toList))) children] := by
  obtain ⟨one, firstDerives, firstRoot⟩ := derivation_of_compile firstCompiles
  obtain ⟨other, secondDerives, secondRoot⟩ := derivation_of_compile secondCompiles
  rw [nesting_of_root firstDerives firstRoot] at firstNesting
  rw [nesting_of_root secondDerives secondRoot] at secondNesting
  refine ⟨_, _, firstRoot, secondRoot, ?_, ?_⟩
  · intro words condition text spaced made free
    have shape : (blockTag ("if " ++ text) ++ a ++ blockTag "else" ++ b ++ blockTag "end").toList =
        blockText (['i', 'f', ' '] ++ text.toList) ++ (a.toList ++ (blockText ['e', 'l', 's', 'e'] ++
          (b.toList ++ (blockText ['e', 'n', 'd'] ++ [])))) := by
      simp [blockTag]
    have compiled := compile_choice firstDerives secondDerives firstNesting secondNesting firstClosed
      secondClosed spaced made free shape
    refine ⟨_, compiled, rfl, fun host context holds holding => ?_⟩
    rw [Template.output, Template.output, Template.output, firstRoot, secondRoot]
    exact render_choice host (.root context) holding _ _
  · intro iterable visible free
    have shape : (blockTag ("each " ++ iterable) ++ a ++ blockTag "end").toList =
        blockText (['e', 'a', 'c', 'h', ' '] ++ iterable.toList) ++
          (a.toList ++ (blockText ['e', 'n', 'd'] ++ [])) := by
      simp [blockTag]
    exact ⟨_, compile_each firstDerives firstNesting firstClosed visible free shape, rfl⟩

set_option maxRecDepth 4000 in
theorem compile_wrapped_blocks :
    (∃ whole, Template.compile (blockTag ("if " ++ "n  ==  1") ++ "{% if n %}x{% else %}y{% end %}" ++
          blockTag "else" ++ "{% each n %}z{% end %}" ++ blockTag "end") = .ok whole ∧
        whole.root = .root [.choice ⟨.name "n", some ("==", .literal (.int 1))⟩
          [.choice ⟨.name "n", none⟩ [.text "x"] [.text "y"]] [.each (.name "n") [.text "z"]]] ∧
        ∀ host, (whole.output host ⟨[("n", .int 1)]⟩).writes = ["x"]) ∧
      ∃ loop, Template.compile (blockTag ("each " ++ " n ") ++ "{% if n %}x{% else %}y{% end %}" ++
          blockTag "end") = .ok loop ∧
        loop.root = .root [.each (.name "n") [.choice ⟨.name "n", none⟩ [.text "x"] [.text "y"]]] := by
  have first : Template.compile "{% if n %}x{% else %}y{% end %}" =
      .ok ⟨"{% if n %}x{% else %}y{% end %}",
        .root [.choice ⟨.name "n", none⟩ [.text "x"] [.text "y"]]⟩ := by with_unfolding_all rfl
  have second : Template.compile "{% each n %}z{% end %}" =
      .ok ⟨"{% each n %}z{% end %}", .root [.each (.name "n") [.text "z"]]⟩ := by with_unfolding_all rfl
  have firstClosed : Closed "{% if n %}x{% else %}y{% end %}" := by
    rw [Closed]
    decide +kernel
  have secondClosed : Closed "{% each n %}z{% end %}" := by
    rw [Closed]
    decide +kernel
  obtain ⟨children, others, firstRoot, secondRoot, choices, loops⟩ :=
    compile_wrapped first second (by decide) (by decide) firstClosed secondClosed
  cases firstRoot
  cases secondRoot
  refine ⟨?_, ?_⟩
  · have blanks : ∀ c ∈ [' ', ' '], Text.isBlank c = true := by simp [Text.isBlank]
    have spaced : Text.Spaced (["n", "==", "1"].map String.toList) "n  ==  1".toList :=
      .more (by decide) (List.cons_ne_nil ' ' [' ']) blanks
        (.more (by decide) (List.cons_ne_nil ' ' [' ']) blanks (.one (by decide)))
    have condition : Condition.ofWords? ["n", "==", "1"] =
        some ⟨.name "n", some ("==", .literal (.int 1))⟩ := by with_unfolding_all rfl
    have holds : Condition.holds (.root ⟨[("n", .int 1)]⟩)
        ⟨.name "n", some ("==", .literal (.int 1))⟩ = .ok true := by with_unfolding_all rfl
    obtain ⟨whole, compiled, root, outputs⟩ := choices _ _ _ spaced condition (by decide +kernel)
    refine ⟨whole, compiled, root, fun host => ?_⟩
    rw [outputs host _ true holds]
    with_unfolding_all rfl
  · obtain ⟨loop, compiled, root⟩ := loops " n " ⟨'n', by decide⟩ (by decide +kernel)
    refine ⟨loop, compiled, ?_⟩
    rw [root]
    with_unfolding_all rfl

end Stencil
