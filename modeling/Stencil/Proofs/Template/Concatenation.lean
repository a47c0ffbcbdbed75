import Stencil.Proofs.Fragment.Seam
import Stencil.Proofs.Render.Sequence
import Stencil.Proofs.Template.Grammar

set_option autoImplicit false

namespace Stencil

namespace Fragment

theorem role_of_text {fragment : Fragment} {role : Role} (plays : fragment.Plays role)
    (isText : fragment.kind = .text) : role = .text := by
  have other : ∀ kind : Kind, fragment.kind = kind → kind ≠ .text → role = .text :=
    fun kind same different => absurd (same.symm.trans isText) different
  cases plays with
  | text kind => rfl
  | interpolation kind => exact other _ kind Kind.noConfusion
  | call command => exact other _ command.1 Kind.noConfusion
  | each command => exact other _ command.1 Kind.noConfusion
  | choice command => exact other _ command.1 Kind.noConfusion
  | separator command => exact other _ command.1 Kind.noConfusion

theorem clean_of_text {raw : String} (isText : (ofRaw raw).kind = .text) : (ofRaw raw).clean = raw := by
  revert isText
  unfold ofRaw
  split
  · exact fun isText => Kind.noConfusion isText
  · split
    · dsimp only
      split <;> exact fun isText => Kind.noConfusion isText
    · exact fun _ => rfl

end Fragment

namespace Item

mutual

theorem fragment_plays (item : Item) (formed : item.WellFormed) :
    ∀ fragment ∈ item.fragments, fragment.kind = .closing ∨ ∃ role, fragment.Plays role := by
  intro fragment member
  cases item with
  | leaf role leaf =>
    cases List.mem_singleton.mp member
    exact .inr ⟨role, formed.2⟩
  | each opener body closer =>
    obtain ⟨plays, bodyFormed, closing⟩ := formed
    simp only [fragments, List.mem_cons, List.mem_append, List.not_mem_nil, or_false] at member
    rcases member with rfl | inside | rfl
    · exact .inr ⟨.each, plays⟩
    · exact fragments_play body bodyFormed fragment inside
    · exact .inl closing
  | choice opener body closer =>
    obtain ⟨plays, bodyFormed, closing⟩ := formed
    simp only [fragments, List.mem_cons, List.mem_append, List.not_mem_nil, or_false] at member
    rcases member with rfl | inside | rfl
    · exact .inr ⟨.choice, plays⟩
    · exact fragments_play body bodyFormed fragment inside
    · exact .inl closing
  | choiceElse opener thenBranch mark elseBranch closer =>
    obtain ⟨plays, thenFormed, separator, elseFormed, closing⟩ := formed
    simp only [fragments, List.mem_cons, List.mem_append, List.not_mem_nil, or_false] at member
    rcases member with rfl | inThen | rfl | inElse | rfl
    · exact .inr ⟨.choice, plays⟩
    · exact fragments_play thenBranch thenFormed fragment inThen
    · exact .inr ⟨.separator, separator⟩
    · exact fragments_play elseBranch elseFormed fragment inElse
    · exact .inl closing

theorem fragments_play (items : List Item) (formed : AllWellFormed items) :
    ∀ fragment ∈ allFragments items, fragment.kind = .closing ∨ ∃ role, fragment.Plays role := by
  intro fragment member
  cases items with
  | nil => cases member
  | cons item rest =>
    rcases List.mem_append.mp member with here | later
    · exact fragment_plays item formed.1 fragment here
    · exact fragments_play rest formed.2 fragment later

end

theorem text_plays {items : List Item} (formed : AllWellFormed items) {fragment : Fragment}
    (member : fragment ∈ allFragments items) (isText : fragment.kind = .text) :
    fragment.Plays .text := by
  rcases fragments_play items formed fragment member with closing | ⟨role, plays⟩
  · cases closing.symm.trans isText
  · rwa [Fragment.role_of_text plays isText] at plays

theorem fragments_last (item : Item) (formed : item.WellFormed) :
    (∃ role fragment, item = .leaf role fragment) ∨
      ∃ inside closer, item.fragments = inside ++ [closer] ∧ closer.kind = .closing := by
  cases item with
  | leaf role fragment => exact .inl ⟨role, fragment, rfl⟩
  | each opener body closer => exact .inr ⟨opener :: allFragments body, closer, rfl, formed.2.2⟩
  | choice opener body closer => exact .inr ⟨opener :: allFragments body, closer, rfl, formed.2.2⟩
  | choiceElse opener thenBranch mark elseBranch closer =>
    refine .inr ⟨opener :: (allFragments thenBranch ++ mark :: allFragments elseBranch), closer, ?_,
      formed.2.2.2.2⟩
    simp [fragments]

theorem last_text {items : List Item} {before : List Fragment} {last : Fragment}
    (formed : AllWellFormed items) (ends : allFragments items = before ++ [last])
    (isText : last.kind = .text) :
    ∃ front, items = front ++ [.leaf .text last] ∧ allFragments front = before := by
  rcases List.eq_nil_or_concat items with rfl | ⟨front, item, rfl⟩
  · simp [allFragments] at ends
  · rw [List.concat_eq_append] at formed ends ⊢
    have itemFormed := ((all_well_formed_append front [item]).mp formed).2.1
    rw [all_fragments_append, allFragments, allFragments, List.append_nil] at ends
    rcases fragments_last item itemFormed with ⟨role, fragment, rfl⟩ | ⟨inside, closer, shape, closing⟩
    · obtain ⟨fronts, lasts⟩ := List.append_inj' ends rfl
      cases lasts
      have role := Fragment.role_of_text itemFormed.2 isText
      exact ⟨front, by rw [role], fronts⟩
    · rw [shape, ← List.append_assoc] at ends
      obtain ⟨_, lasts⟩ := List.append_inj' ends rfl
      cases lasts
      cases closing.symm.trans isText

theorem first_text {items : List Item} {first : Fragment} {after : List Fragment}
    (formed : AllWellFormed items) (begins : allFragments items = first :: after)
    (isText : first.kind = .text) :
    ∃ rest, items = .leaf .text first :: rest ∧ allFragments rest = after := by
  cases items with
  | nil => cases begins
  | cons item rest =>
    have heads := congrArg List.head? begins
    rw [allFragments, List.head?_append, opener_first] at heads
    have same : item.opener = first := Option.some.inj heads
    have plays := opener_plays item formed.1
    rw [same] at plays
    have isLeaf := Fragment.role_of_text plays isText
    cases item with
    | leaf role fragment =>
      cases same
      cases isLeaf
      exact ⟨rest, rfl, (List.cons.inj begins).2⟩
    | each opener body closer => cases isLeaf
    | choice opener body closer => cases isLeaf
    | choiceElse opener thenBranch mark elseBranch closer => cases isLeaf

theorem leaf_of_text {item : Item} (formed : item.WellFormed) {content : String}
    (isText : item.node = .text content) : ∃ fragment, item = .leaf .text fragment := by
  cases item with
  | leaf role fragment =>
    cases role with
    | text => exact ⟨fragment, rfl⟩
    | _ => cases isText
  | each opener body closer => cases isText
  | choice opener body closer => cases isText
  | choiceElse opener thenBranch mark elseBranch closer => cases isText

theorem nodes_eq_map (items : List Item) : nodes items = items.map node := by
  induction items with
  | nil => rfl
  | cons item rest ih => rw [nodes, ih, List.map_cons]

theorem fragments_end_text {items : List Item} (formed : AllWellFormed items) {front : List Node}
    {content : String} (ends : nodes items = front ++ [.text content]) :
    ∃ before last, allFragments items = before ++ [last] ∧ last.kind = .text := by
  rw [nodes_eq_map] at ends
  obtain ⟨start, final, rfl, _, one⟩ := List.map_eq_append_iff.mp ends
  obtain ⟨item, rfl, isText⟩ := List.map_eq_singleton_iff.mp one
  have itemFormed := ((all_well_formed_append start [item]).mp formed).2.1
  obtain ⟨fragment, rfl⟩ := leaf_of_text itemFormed isText
  cases itemFormed.2 with
  | text kind => exact ⟨allFragments start, fragment, all_fragments_append start _, kind⟩

theorem fragments_begin_text {items : List Item} (formed : AllWellFormed items) {rest : List Node}
    {content : String} (begins : nodes items = .text content :: rest) :
    ∃ first after, allFragments items = first :: after ∧ first.kind = .text := by
  rw [nodes_eq_map] at begins
  obtain ⟨item, items, rfl, isText, _⟩ := List.map_eq_cons_iff.mp begins
  obtain ⟨fragment, rfl⟩ := leaf_of_text formed.1 isText
  cases formed.1.2 with
  | text kind => exact ⟨fragment, allFragments items, rfl, kind⟩

end Item

-- No text of the template ends with a brace, which the text after it could make an opening delimiter.
def Closed (source : String) : Prop :=
  ∀ fragment ∈ fragments source, fragment.kind = .text → fragment.raw.toList.getLast? ≠ some '{'

theorem unopened_texts {source : String} {items : List Item}
    (derive : Item.Derive items (fragments source)) (closed : Closed source) :
    ∀ fragment ∈ (Cursor.mk source.toList).toList, fragment.kind = .text →
      Unopened fragment.raw.toList := by
  intro fragment member isText
  have listed : fragment ∈ Item.allFragments items := by
    rw [derive.2.1]
    exact member
  cases Item.text_plays derive.1 listed isText with
  | text _ noOutput noBlock => exact ⟨noOutput, noBlock, closed fragment member isText⟩

theorem fragments_join {one : String} {items : List Item}
    (derive : Item.Derive items (fragments one)) (closed : Closed one) (other : String) :
    Fragment.Joins (fragments one) (fragments other) (fragments (one ++ other)) := by
  have joins := Fragment.joins_append one.toList other.toList (unopened_texts derive closed)
  rwa [← String.toList_append] at joins

theorem derive_append {one other : List Item} {fragments otherFragments : List Fragment}
    (first : Item.Derive one fragments) (second : Item.Derive other otherFragments) :
    Item.Derive (one ++ other) (fragments ++ otherFragments) := by
  obtain ⟨oneFormed, oneFragments, oneFits⟩ := first
  obtain ⟨otherFormed, otherFragments, otherFits⟩ := second
  refine ⟨(Item.all_well_formed_append one other).mpr ⟨oneFormed, otherFormed⟩, ?_, ?_⟩
  · rw [Item.all_fragments_append, oneFragments, otherFragments]
  · rw [Item.nesting_all_append]
    omega

theorem merged_plays {last first : Fragment} (lastPlays : last.Plays .text)
    (firstPlays : first.Plays .text) (noBrace : last.raw.toList.getLast? ≠ some '{')
    (mergedText : (Fragment.ofRaw (last.raw ++ first.raw)).kind = .text) :
    (Fragment.ofRaw (last.raw ++ first.raw)).Plays .text := by
  have raw : (Fragment.ofRaw (last.raw ++ first.raw)).raw.toList = last.raw.toList ++ first.raw.toList := by
    rw [Fragment.ofRaw_raw, String.toList_append]
  cases lastPlays with
  | text _ lastOutput lastBlock =>
    cases firstPlays with
    | text _ firstOutput firstBlock =>
      refine .text mergedText ?_ ?_
      · rw [raw, Text.pair_infix_append]
        rintro (inLast | inFirst | ⟨brace, _⟩)
        · exact lastOutput inLast
        · exact firstOutput inFirst
        · exact noBrace brace
      · rw [raw, Text.pair_infix_append]
        rintro (inLast | inFirst | ⟨brace, _⟩)
        · exact lastBlock inLast
        · exact firstBlock inFirst
        · exact noBrace brace

theorem clean_of_member {source : String} {fragment : Fragment} (member : fragment ∈ fragments source)
    (isText : fragment.kind = .text) : fragment.clean = fragment.raw := by
  have same := (raw_of_toList source.toList fragment member).2
  rw [same] at isText
  have clean := Fragment.clean_of_text isText
  rwa [← same] at clean

theorem derive_merged {a b : String} {front rest : List Item} {last first : Fragment}
    (one : Item.Derive (front ++ [.leaf .text last]) (fragments a))
    (other : Item.Derive (.leaf .text first :: rest) (fragments b))
    (noBrace : last.raw.toList.getLast? ≠ some '{')
    (mergedText : (Fragment.ofRaw (last.raw ++ first.raw)).kind = .text) :
    Item.Derive (front ++ .leaf .text (Fragment.ofRaw (last.raw ++ first.raw)) :: rest)
      (Item.allFragments front ++ Fragment.ofRaw (last.raw ++ first.raw) :: Item.allFragments rest) := by
  obtain ⟨oneFormed, _, oneFits⟩ := one
  obtain ⟨⟨firstFormed, restFormed⟩, _, otherFits⟩ := other
  obtain ⟨frontFormed, lastFormed, _⟩ := (Item.all_well_formed_append front _).mp oneFormed
  have plays := merged_plays lastFormed.2 firstFormed.2 noBrace mergedText
  refine ⟨(Item.all_well_formed_append front _).mpr ⟨frontFormed, ⟨rfl, plays⟩, restFormed⟩, ?_, ?_⟩
  · rw [Item.all_fragments_append, Item.allFragments, Item.fragments, List.singleton_append]
  · rw [Item.nesting_all_append] at oneFits ⊢
    rw [Item.nestingAll] at otherFits ⊢
    rw [Item.nesting] at otherFits ⊢
    omega

theorem derive_joined {a b : String} {one other : List Item}
    (first : Item.Derive one (fragments a)) (second : Item.Derive other (fragments b))
    (closed : Closed a) :
    ∃ items, Item.Derive items (fragments (a ++ b)) ∧
      Item.nodes items = Node.concat (Item.nodes one) (Item.nodes other) := by
  cases fragments_join first closed b with
  | apart same =>
    refine ⟨one ++ other, by rw [same]; exact derive_append first second, ?_⟩
    rw [Item.nodes_append]
    rcases concat_cases (Item.nodes one) (Item.nodes other) with
      apart | ⟨front, before, after, rest, ends, begins, _⟩
    · exact apart.symm
    · obtain ⟨earlier, last, endFragments, lastText⟩ := Item.fragments_end_text first.1 ends
      obtain ⟨next, later, beginFragments, nextText⟩ := Item.fragments_begin_text second.1 begins
      rw [← first.2.1, ← second.2.1, endFragments, beginFragments, List.append_assoc] at same
      exact absurd nextText (texts_apart same lastText)
  | merged before after last next ends begins lastText nextText mergedText same =>
    have lastMember : last ∈ fragments a := by simp [ends]
    have nextMember : next ∈ fragments b := by simp [begins]
    obtain ⟨front, rfl, rfl⟩ := Item.last_text first.1 (first.2.1.trans ends) lastText
    obtain ⟨rest, rfl, rfl⟩ := Item.first_text second.1 (second.2.1.trans begins) nextText
    have derive := derive_merged first second (closed last lastMember lastText) mergedText
    rw [← same] at derive
    refine ⟨_, derive, ?_⟩
    simp only [Item.nodes_append, Item.nodes, Item.node, Fragment.nodeAs,
      Fragment.clean_of_text mergedText, clean_of_member lastMember lastText,
      clean_of_member nextMember nextText, concat_texts]

theorem compile_append {a b : String} {first second : Template}
    (firstCompiles : Template.compile a = .ok first) (secondCompiles : Template.compile b = .ok second)
    (closed : Closed a) :
    ∃ whole children others, Template.compile (a ++ b) = .ok whole ∧ first.root = .root children ∧
      second.root = .root others ∧ whole.root = .root (Node.concat children others) ∧
      ∀ host context,
        (∀ error, (first.output host context).result = .error error →
          (whole.output host context).text = (first.output host context).text ∧
            (whole.output host context).result = .error error) ∧
        ((first.output host context).result = .ok () →
          (whole.output host context).text =
              (first.output host context).text ++ (second.output host context).text ∧
            (whole.output host context).result = (second.output host context).result) := by
  obtain ⟨one, firstDerives, firstRoot⟩ := derivation_of_compile firstCompiles
  obtain ⟨other, secondDerives, secondRoot⟩ := derivation_of_compile secondCompiles
  obtain ⟨items, derives, nodes⟩ := derive_joined firstDerives secondDerives closed
  refine ⟨_, _, _, compile_of_derivation derives, firstRoot, secondRoot, by rw [nodes], ?_⟩
  intro host context
  have same := render_all_concat host (.root context) (Item.nodes one) (Item.nodes other)
  rw [← nodes] at same
  simp only [Template.output, firstRoot, secondRoot, Node.render]
  refine ⟨fun error failed => ?_, fun succeeded => ?_⟩
  · rw [Output.andThen_of_error failed] at same
    exact ⟨same.1, same.2.trans failed⟩
  · rw [Output.Same, Output.text_andThen succeeded, Output.result_andThen succeeded] at same
    exact same

set_option maxRecDepth 4000 in
theorem compile_append_texts :
    ∃ whole, Template.compile ("a{{ n }}b" ++ "c{% if n %}d{% end %}") = .ok whole ∧
      whole.root = .root [.text "a", .interpolation (.name "n"), .text "bc",
        .choice ⟨.name "n", none⟩ [.text "d"] []] := by
  have first : Template.compile "a{{ n }}b" = .ok ⟨"a{{ n }}b",
      .root [.text "a", .interpolation (.name "n"), .text "b"]⟩ := by with_unfolding_all rfl
  have second : Template.compile "c{% if n %}d{% end %}" = .ok ⟨"c{% if n %}d{% end %}",
      .root [.text "c", .choice ⟨.name "n", none⟩ [.text "d"] []]⟩ := by with_unfolding_all rfl
  have closed : Closed "a{{ n }}b" := by
    rw [Closed]
    decide +kernel
  obtain ⟨whole, children, others, compiled, firstRoot, secondRoot, root, _⟩ :=
    compile_append first second closed
  cases firstRoot
  cases secondRoot
  exact ⟨whole, compiled, root⟩

end Stencil
