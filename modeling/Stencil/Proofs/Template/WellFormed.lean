import Stencil.Proofs.Fragment.Seam
import Stencil.Proofs.Literal.Bound
import Stencil.Proofs.Node.Name
import Stencil.Proofs.Node.Occurrence
import Stencil.Proofs.Template.Concatenation

set_option autoImplicit false

namespace Stencil

structure Node.WellFormed (tree : Node) : Prop where
  isRoot : ∃ children, tree = .root children
  noRootInside : ∀ parent, tree.Occurs parent → ∀ siblings ∈ parent.childLists,
    ∀ children, .root children ∉ siblings
  noElseMark : ¬ tree.Occurs .elseMark
  shallow : tree.nesting ≤ 128
  texts : ∀ content, tree.Occurs (.text content) →
    content ≠ "" ∧ ¬ ['{', '{'] <:+: content.toList ∧ ¬ ['{', '%'] <:+: content.toList
  textsApart : ∀ parent, tree.Occurs parent → ∀ siblings ∈ parent.childLists,
    ∀ one other, ¬ [.text one, .text other] <:+: siblings
  literals : ∀ node, tree.Occurs node → ∀ value, .literal value ∈ node.exprs →
    value.Functionless ∧ value.nesting ≤ 64
  calls : ∀ invocation, tree.Occurs (.call invocation) → Text.IsWord invocation.callee.toList ∧
    ∀ keyword ∈ invocation.kwargs, Text.IsWord keyword.1.toList ∧ '=' ∉ keyword.1.toList
  choices : ∀ condition thenBranch elseBranch,
    tree.Occurs (.choice condition thenBranch elseBranch) →
      (∀ path, .name path ∈ condition.exprs → Text.IsWord path.toList) ∧
        ∀ symbol rhs, condition.comparison = some (symbol, rhs) → Text.IsWord symbol.toList

def Node.bare : Node → Node
  | .root _ => .root []
  | .each iterable _ => .each iterable []
  | .choice condition _ _ => .choice condition [] []
  | node => node

theorem Node.exprs_bare (node : Node) : node.bare.exprs = node.exprs := by
  cases node <;> rfl

theorem Expr.literal_of_text {text : String} {value : Value}
    (literal : .literal value = Expr.ofText text) : value.Within 64 := by
  rw [Expr.ofText] at literal
  split at literal
  · rename_i read
    cases literal
    exact Literal.read_within read
  · cases literal

theorem Expr.name_of_text {text path : String} (name : .name path = Expr.ofText text) : path = text := by
  rw [Expr.ofText] at name
  split at name
  · cases name
  · exact Expr.name.inj name

namespace Fragment

variable {fragment : Fragment}

theorem word_of_member {word : String} (member : word ∈ fragment.words) : Text.IsWord word.toList := by
  obtain ⟨run, inside, rfl⟩ := List.mem_map.mp member
  rw [String.toList_ofList]
  exact Text.word_of_mem_words inside

theorem word_at {position : Nat} (bound : position < fragment.words.length) :
    Text.IsWord (fragment.words.getD position "").toList := by
  rw [List.getD, List.getElem?_eq_getElem bound]
  exact word_of_member (List.getElem_mem bound)

theorem keyword_parts {keyword : String × Expr} {arguments : List String}
    (member : keyword ∈ Call.keywords arguments) :
    ∃ argument ∈ arguments, ∃ key value, Text.cutAt '=' argument.toList = some (key, value) ∧
      keyword = (String.ofList key, Expr.ofText (String.ofList value)) := by
  obtain ⟨argument, inside, made⟩ := List.mem_filterMap.mp member
  obtain ⟨⟨key, value⟩, cut, rfl⟩ := Option.map_eq_some_iff.mp made
  exact ⟨argument, inside, key, value, cut, rfl⟩

theorem keyword_name (plays : fragment.Plays .call) :
    ∀ keyword ∈ fragment.invocation.kwargs, Text.IsWord keyword.1.toList ∧ '=' ∉ keyword.1.toList := by
  intro keyword member
  obtain ⟨argument, inside, key, value, cut, rfl⟩ := keyword_parts member
  obtain ⟨parts, free⟩ := Text.cutAt_eq_some cut
  have isWord := word_of_member (List.mem_of_mem_drop inside)
  rw [String.toList_ofList]
  refine ⟨⟨?_, fun c within => isWord.unbroken c ?_⟩, free⟩
  · rintro rfl
    cases plays with
    | call command named keywords =>
      exact keywords argument inside ((cut_at_empty_iff argument.toList).mp ⟨value, cut⟩)
  · rw [parts]
    exact List.mem_append_left _ within

theorem callee_word (plays : fragment.Plays .call) : Text.IsWord fragment.invocation.callee.toList := by
  cases plays with
  | call command named keywords =>
    rw [invocation]
    exact word_at named

theorem condition_operand (fragment : Fragment) :
    ∀ expr ∈ fragment.condition.exprs, ∃ position,
      (position = 1 ∨ position = 3 ∧ fragment.words.length = 4) ∧
        expr = Expr.ofText (fragment.words.getD position "") := by
  by_cases compared : fragment.words.length = 4
  · simp only [condition, if_pos compared, Condition.exprs]
    exact List.forall_mem_cons.mpr
      ⟨⟨1, .inl rfl, rfl⟩, List.forall_mem_singleton.mpr ⟨3, .inr ⟨rfl, compared⟩, rfl⟩⟩
  · simp only [condition, if_neg compared, Condition.exprs]
    exact List.forall_mem_singleton.mpr ⟨1, .inl rfl, rfl⟩

theorem operand_name (plays : fragment.Plays .choice) {path : String}
    (held : .name path ∈ fragment.condition.exprs) : Text.IsWord path.toList := by
  obtain ⟨position, place, same⟩ := condition_operand fragment _ held
  rw [Expr.name_of_text same]
  cases plays with
  | choice command operands => exact word_at (by omega)

theorem symbol_word {symbol : String} {rhs : Expr}
    (compared : fragment.condition.comparison = some (symbol, rhs)) : Text.IsWord symbol.toList := by
  rw [condition] at compared
  split at compared
  · cases compared
    exact word_at (by omega)
  · cases compared

theorem exprs_as_text (fragment : Fragment) (role : Role) :
    ∀ expr ∈ (fragment.nodeAs role).exprs, ∃ text, expr = Expr.ofText text := by
  cases role with
  | text => exact List.forall_mem_nil _
  | interpolation => exact List.forall_mem_singleton.mpr ⟨_, rfl⟩
  | each => exact List.forall_mem_singleton.mpr ⟨_, rfl⟩
  | separator => exact List.forall_mem_nil _
  | choice =>
    intro expr held
    obtain ⟨position, _, same⟩ := condition_operand fragment expr held
    exact ⟨_, same⟩
  | call =>
    intro expr held
    rcases List.mem_append.mp held with positional | keyword
    · obtain ⟨argument, _, rfl⟩ := List.mem_map.mp positional
      exact ⟨argument, rfl⟩
    · obtain ⟨pair, member, rfl⟩ := List.mem_map.mp keyword
      obtain ⟨_, _, key, value, _, rfl⟩ := keyword_parts member
      exact ⟨String.ofList value, rfl⟩

end Fragment

namespace Item

theorem all_well_formed_part {part items : List Item} (inside : part <:+: items)
    (formed : AllWellFormed items) : AllWellFormed part := by
  obtain ⟨before, after, rfl⟩ := inside
  exact ((all_well_formed_append before part).mp ((all_well_formed_append _ after).mp formed).1).2

theorem all_fragments_part {part items : List Item} (inside : part <:+: items) :
    allFragments part <:+: allFragments items := by
  obtain ⟨before, after, rfl⟩ := inside
  rw [all_fragments_append, all_fragments_append]
  exact List.infix_append _ _ _

def Derived (whole : List Fragment) (node : Node) : Prop :=
  ∃ item : Item, item.WellFormed ∧ item.fragments <:+: whole ∧ item.node = node

def DerivedAll (whole : List Fragment) (list : List Node) : Prop :=
  ∃ items, AllWellFormed items ∧ allFragments items <:+: whole ∧ nodes items = list

section Derived

variable {whole : List Fragment}

theorem derived_member {list : List Node} (derived : DerivedAll whole list) {node : Node}
    (member : node ∈ list) : Derived whole node := by
  obtain ⟨items, formed, inside, rfl⟩ := derived
  rw [nodes_eq_map] at member
  obtain ⟨item, among, rfl⟩ := List.mem_map.mp member
  obtain ⟨before, after, rfl⟩ := List.append_of_mem among
  have part : [item] <:+: before ++ item :: after := List.infix_append' before [item] after
  have fragments := (all_fragments_part part).trans inside
  rw [allFragments, allFragments, List.append_nil] at fragments
  exact ⟨item, (all_well_formed_part part formed).1, fragments, rfl⟩

theorem derived_children {parent : Node} (derived : Derived whole parent) {siblings : List Node}
    (list : siblings ∈ parent.childLists) : DerivedAll whole siblings := by
  obtain ⟨item, formed, inside, rfl⟩ := derived
  cases item with
  | leaf role fragment =>
    obtain ⟨leaf, _⟩ := formed
    cases role with
    | text => cases list
    | interpolation => cases list
    | call => cases list
    | each => cases leaf
    | choice => cases leaf
    | separator => cases leaf
  | each opener body closer =>
    have part : allFragments body <:+: fragments (.each opener body closer) :=
      List.infix_append' [opener] _ _
    rw [List.mem_singleton.mp list]
    exact ⟨body, formed.2.1, part.trans inside, rfl⟩
  | choice opener body closer =>
    have part : allFragments body <:+: fragments (.choice opener body closer) :=
      List.infix_append' [opener] _ _
    rcases List.mem_cons.mp list with here | other
    · rw [here]
      exact ⟨body, formed.2.1, part.trans inside, rfl⟩
    · rw [List.mem_singleton.mp other]
      exact ⟨[], trivial, List.nil_infix, rfl⟩
  | choiceElse opener thenBranch mark elseBranch closer =>
    obtain ⟨_, thenFormed, _, elseFormed, _⟩ := formed
    rcases List.mem_cons.mp list with here | other
    · have part : allFragments thenBranch <:+:
          fragments (.choiceElse opener thenBranch mark elseBranch closer) :=
        List.infix_append' [opener] _ _
      rw [here]
      exact ⟨thenBranch, thenFormed, part.trans inside, rfl⟩
    · have part : allFragments elseBranch <:+:
          fragments (.choiceElse opener thenBranch mark elseBranch closer) := by
        refine ⟨opener :: (allFragments thenBranch ++ [mark]), [closer], ?_⟩
        simp [fragments]
      rw [List.mem_singleton.mp other]
      exact ⟨elseBranch, elseFormed, part.trans inside, rfl⟩

theorem derived_siblings {children : List Node} (derived : DerivedAll whole children) {parent : Node}
    (origin : parent = .root children ∨ Derived whole parent) {siblings : List Node}
    (list : siblings ∈ parent.childLists) : DerivedAll whole siblings := by
  rcases origin with rfl | inner
  · rw [List.mem_singleton.mp list]
    exact derived
  · exact derived_children inner list

theorem derived_inside {children : List Node} (derived : DerivedAll whole children) {node : Node}
    (occurs : (Node.root children).Occurs node) : node = .root children ∨ Derived whole node := by
  induction occurs with
  | itself => exact .inl rfl
  | inside occurs list member ih => exact .inr (derived_member (derived_siblings derived ih list) member)

theorem derived_origin {node : Node} (derived : Derived whole node) :
    ∃ fragment ∈ whole, ∃ role, fragment.Plays role ∧ role ≠ .separator ∧
      node.bare = fragment.nodeAs role := by
  obtain ⟨item, formed, inside, rfl⟩ := derived
  have member : item.opener ∈ item.fragments := List.mem_of_mem_head? (opener_first item)
  refine ⟨item.opener, inside.subset member, item.role, opener_plays item formed, ?_, ?_⟩
  · cases item with
    | leaf role fragment =>
      rintro rfl
      cases formed.1
    | each opener body closer => exact Role.noConfusion
    | choice opener body closer => exact Role.noConfusion
    | choiceElse opener thenBranch mark elseBranch closer => exact Role.noConfusion
  · cases item with
    | leaf role fragment => cases role <;> rfl
    | each opener body closer => rfl
    | choice opener body closer => rfl
    | choiceElse opener thenBranch mark elseBranch closer => rfl

theorem derived_not_root {children : List Node} : ¬ Derived whole (.root children) := by
  intro derived
  obtain ⟨fragment, _, role, _, _, same⟩ := derived_origin derived
  cases role <;> cases same

theorem derived_not_else_mark : ¬ Derived whole .elseMark := by
  intro derived
  obtain ⟨fragment, _, role, _, notSeparator, same⟩ := derived_origin derived
  cases role with
  | separator => exact notSeparator rfl
  | _ => cases same

theorem derived_text {content : String} (derived : Derived whole (.text content)) :
    ∃ fragment ∈ whole, fragment.Plays .text ∧ fragment.clean = content := by
  obtain ⟨fragment, member, role, plays, _, same⟩ := derived_origin derived
  cases role with
  | text => exact ⟨fragment, member, plays, (Node.text.inj same).symm⟩
  | _ => cases same

theorem derived_expr {node : Node} (derived : Derived whole node) :
    ∀ expr ∈ node.exprs, ∃ text, expr = Expr.ofText text := by
  obtain ⟨fragment, _, role, _, _, same⟩ := derived_origin derived
  rw [← Node.exprs_bare, same]
  exact Fragment.exprs_as_text fragment role

theorem derived_call {invocation : Call} (derived : Derived whole (.call invocation)) :
    ∃ fragment : Fragment, fragment.Plays .call ∧ fragment.invocation = invocation := by
  obtain ⟨fragment, _, role, plays, _, same⟩ := derived_origin derived
  cases role with
  | call => exact ⟨fragment, plays, (Node.call.inj same).symm⟩
  | _ => cases same

theorem derived_choice {condition : Condition} {thenBranch elseBranch : List Node}
    (derived : Derived whole (.choice condition thenBranch elseBranch)) :
    ∃ fragment : Fragment, fragment.Plays .choice ∧ fragment.condition = condition := by
  obtain ⟨fragment, _, role, plays, _, same⟩ := derived_origin derived
  cases role with
  | choice => exact ⟨fragment, plays, (Node.choice.inj same).1.symm⟩
  | _ => cases same

theorem derived_texts {list : List Node} (derived : DerivedAll whole list) {one other : String}
    (apart : [.text one, .text other] <:+: list) :
    ∃ first second : Fragment, [first, second] <:+: whole ∧ first.kind = .text ∧
      second.kind = .text := by
  obtain ⟨items, formed, inside, rfl⟩ := derived
  rw [nodes_eq_map] at apart
  obtain ⟨pair, part, same⟩ := List.infix_map_iff.mp apart
  obtain ⟨item, rest, rfl, oneText, last⟩ := List.map_eq_cons_iff.mp same.symm
  obtain ⟨next, rfl, otherText⟩ := List.map_eq_singleton_iff.mp last
  obtain ⟨itemFormed, nextFormed, _⟩ := all_well_formed_part part formed
  obtain ⟨first, rfl⟩ := leaf_of_text itemFormed oneText
  obtain ⟨second, rfl⟩ := leaf_of_text nextFormed otherText
  refine ⟨first, second, (all_fragments_part part).trans inside, ?_, ?_⟩
  · cases itemFormed.2 with
    | text kind => exact kind
  · cases nextFormed.2 with
    | text kind => exact kind

end Derived

end Item

section Compiled

variable {source : String}

theorem text_of_source {fragment : Fragment} (member : fragment ∈ fragments source)
    (plays : fragment.Plays .text) :
    fragment.clean ≠ "" ∧ ¬ ['{', '{'] <:+: fragment.clean.toList ∧
      ¬ ['{', '%'] <:+: fragment.clean.toList := by
  cases plays with
  | text kind noOutput noBlock =>
    rw [clean_of_member member kind]
    exact ⟨(raw_of_toList source.toList fragment member).1, noOutput, noBlock⟩

theorem no_texts_side_by_side {first second : Fragment} (apart : [first, second] <:+: fragments source)
    (firstText : first.kind = .text) : second.kind ≠ .text := by
  obtain ⟨before, after, parts⟩ := apart
  rw [List.append_assoc] at parts
  have cut : (Cursor.mk source.toList).toList = before ++ first :: second :: after := parts.symm
  exact texts_apart cut firstText

theorem root_well_formed {items : List Item} (derive : Item.Derive items (fragments source)) :
    (Node.root (Item.nodes items)).WellFormed := by
  obtain ⟨formed, same, fits⟩ := derive
  have derived : Item.DerivedAll (fragments source) (Item.nodes items) :=
    ⟨items, formed, same ▸ List.infix_rfl, rfl⟩
  have origin : ∀ {node}, (Node.root (Item.nodes items)).Occurs node →
      node = .root (Item.nodes items) ∨ Item.Derived (fragments source) node :=
    Item.derived_inside derived
  constructor
  case isRoot => exact ⟨_, rfl⟩
  case noRootInside =>
    intro parent occurs siblings list children member
    exact Item.derived_not_root (Item.derived_member
      (Item.derived_siblings derived (origin occurs) list) member)
  case noElseMark =>
    intro occurs
    exact Item.derived_not_else_mark ((origin occurs).resolve_left Node.noConfusion)
  case shallow =>
    rw [Node.nesting, Item.nodes_nesting items formed]
    exact fits
  case texts =>
    intro content occurs
    obtain ⟨fragment, member, plays, rfl⟩ :=
      Item.derived_text ((origin occurs).resolve_left Node.noConfusion)
    exact text_of_source member plays
  case textsApart =>
    intro parent occurs siblings list one other apart
    obtain ⟨first, second, sideBySide, firstText, secondText⟩ :=
      Item.derived_texts (Item.derived_siblings derived (origin occurs) list) apart
    exact no_texts_side_by_side sideBySide firstText secondText
  case literals =>
    intro node occurs value held
    rcases origin occurs with rfl | inner
    · cases held
    · obtain ⟨text, literal⟩ := Item.derived_expr inner _ held
      have within := Expr.literal_of_text literal
      exact ⟨within.functionless, within.shallow⟩
  case calls =>
    intro invocation occurs
    obtain ⟨fragment, plays, rfl⟩ :=
      Item.derived_call ((origin occurs).resolve_left Node.noConfusion)
    exact ⟨Fragment.callee_word plays, Fragment.keyword_name plays⟩
  case choices =>
    intro condition thenBranch elseBranch occurs
    obtain ⟨fragment, plays, rfl⟩ :=
      Item.derived_choice ((origin occurs).resolve_left Node.noConfusion)
    exact ⟨fun path => Fragment.operand_name plays, fun symbol rhs => Fragment.symbol_word⟩

end Compiled

theorem compiled_well_formed {source : String} {template : Template}
    (compiled : Template.compile source = .ok template) : template.root.WellFormed := by
  obtain ⟨items, derive, root⟩ := derivation_of_compile compiled
  rw [root]
  exact root_well_formed derive

theorem compiled_well_formed_blocks :
    let source :=
      "{% if a < 1 %}x{% else %}{% each ..b %}{{ [[2]] }}{% end %}{% call f k=v %}{% end %}"
    let loop := Node.each (.name "..b") [.interpolation (.literal (.array [.array [.int 2]]))]
    let call := Node.call ⟨"f", [], [("k", .name "v")]⟩
    let root := Node.root
      [.choice ⟨.name "a", some ("<", .literal (.int 1))⟩ [.text "x"] [loop, call]]
    ∃ template, Template.compile source = .ok template ∧ template.root.equal root = true ∧
      template.root.WellFormed := by
  intro source loop call root
  have made : (Template.compile source).toOption.any (fun template => template.root.equal root) =
      true := by decide +kernel
  cases compiled : Template.compile source with
  | error error =>
    rw [compiled] at made
    cases made
  | ok template =>
    rw [compiled] at made
    exact ⟨template, rfl, made, compiled_well_formed compiled⟩

end Stencil
