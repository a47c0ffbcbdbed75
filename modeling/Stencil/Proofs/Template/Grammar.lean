import Stencil.Template
import Stencil.Proofs.Template.Derivation

set_option autoImplicit false

namespace Stencil

inductive Unfinished where
  | top (items : List Item)
  | each (outer : Unfinished) (opener : Fragment) (items : List Item)
  | thenPart (outer : Unfinished) (opener : Fragment) (items : List Item)
  | elsePart (outer : Unfinished) (opener : Fragment) (thenBranch : List Item) (mark : Fragment)
      (items : List Item)

namespace Unfinished

def fragments : Unfinished → List Fragment
  | .top items => Item.allFragments items
  | .each outer opener items => outer.fragments ++ opener :: Item.allFragments items
  | .thenPart outer opener items => outer.fragments ++ opener :: Item.allFragments items
  | .elsePart outer opener thenBranch mark items =>
    outer.fragments ++ opener :: (Item.allFragments thenBranch ++ mark :: Item.allFragments items)

def stack : Unfinished → List OpenBlock
  | .top items => [⟨.root (Item.nodes items), ""⟩]
  | .each outer opener items =>
    ⟨.each (Expr.ofText opener.remainder) (Item.nodes items), opener.raw⟩ :: outer.stack
  | .thenPart outer opener items =>
    ⟨.choice opener.condition (Item.nodes items) [], opener.raw⟩ :: outer.stack
  | .elsePart outer opener thenBranch _ items =>
    ⟨.choice opener.condition (Item.nodes thenBranch ++ .elseMark :: Item.nodes items) [],
      opener.raw⟩ :: outer.stack

def depth : Unfinished → Nat
  | .top _ => 0
  | .each outer _ _ => outer.depth + 1
  | .thenPart outer _ _ => outer.depth + 1
  | .elsePart outer _ _ _ _ => outer.depth + 1

def add (more : List Item) : Unfinished → Unfinished
  | .top items => .top (items ++ more)
  | .each outer opener items => .each outer opener (items ++ more)
  | .thenPart outer opener items => .thenPart outer opener (items ++ more)
  | .elsePart outer opener thenBranch mark items =>
    .elsePart outer opener thenBranch mark (items ++ more)

def WellFormed : Unfinished → Prop
  | .top items => Item.AllWellFormed items ∧ Item.nestingAll items ≤ maxOpenBlocks
  | .each outer opener items =>
    outer.WellFormed ∧ opener.Plays .each ∧ Item.AllWellFormed items ∧
      outer.depth + 1 + Item.nestingAll items ≤ maxOpenBlocks
  | .thenPart outer opener items =>
    outer.WellFormed ∧ opener.Plays .choice ∧ Item.AllWellFormed items ∧
      outer.depth + 1 + Item.nestingAll items ≤ maxOpenBlocks
  | .elsePart outer opener thenBranch mark items =>
    outer.WellFormed ∧ opener.Plays .choice ∧ Item.AllWellFormed thenBranch ∧
      mark.Plays .separator ∧ Item.AllWellFormed items ∧
      outer.depth + 1 + max (Item.nestingAll thenBranch) (Item.nestingAll items) ≤ maxOpenBlocks

-- All that one fragment can do to a derivation in progress. A fragment that fits none of these moves
-- is malformed where it stands.
inductive Move : Unfinished → Fragment → Unfinished → Prop where
  | leaf {state : Unfinished} {fragment : Fragment} {role : Role} (isLeaf : role.isLeaf = true)
      (plays : fragment.Plays role) : Move state fragment (state.add [.leaf role fragment])
  | openEach {state : Unfinished} {fragment : Fragment} (plays : fragment.Plays .each)
      (room : state.depth < maxOpenBlocks) : Move state fragment (.each state fragment [])
  | openChoice {state : Unfinished} {fragment : Fragment} (plays : fragment.Plays .choice)
      (room : state.depth < maxOpenBlocks) : Move state fragment (.thenPart state fragment [])
  | separate {outer : Unfinished} {opener fragment : Fragment} {items : List Item}
      (plays : fragment.Plays .separator) :
      Move (.thenPart outer opener items) fragment (.elsePart outer opener items fragment [])
  | closeEach {outer : Unfinished} {opener fragment : Fragment} {items : List Item}
      (kind : fragment.kind = .closing) :
      Move (.each outer opener items) fragment (outer.add [.each opener items fragment])
  | closeThen {outer : Unfinished} {opener fragment : Fragment} {items : List Item}
      (kind : fragment.kind = .closing) :
      Move (.thenPart outer opener items) fragment (outer.add [.choice opener items fragment])
  | closeElse {outer : Unfinished} {opener mark fragment : Fragment} {thenBranch items : List Item}
      (kind : fragment.kind = .closing) :
      Move (.elsePart outer opener thenBranch mark items) fragment
        (outer.add [.choiceElse opener thenBranch mark items fragment])

theorem stack_length (state : Unfinished) : state.stack.length = state.depth + 1 := by
  induction state with
  | top items => rfl
  | each outer opener items ih => rw [stack, depth, List.length_cons, ih]
  | thenPart outer opener items ih => rw [stack, depth, List.length_cons, ih]
  | elsePart outer opener thenBranch mark items ih => rw [stack, depth, List.length_cons, ih]

theorem add_nil (state : Unfinished) : state.add [] = state := by
  cases state <;> simp [add]

theorem add_add (state : Unfinished) (one other : List Item) :
    (state.add one).add other = state.add (one ++ other) := by
  cases state <;> simp [add]

theorem add_depth (state : Unfinished) (more : List Item) : (state.add more).depth = state.depth := by
  cases state <;> rfl

theorem add_fragments (state : Unfinished) (more : List Item) :
    (state.add more).fragments = state.fragments ++ Item.allFragments more := by
  cases state <;> simp [add, fragments, Item.all_fragments_append]

theorem depth_bound {state : Unfinished} (wellFormed : state.WellFormed) :
    state.depth ≤ maxOpenBlocks := by
  cases state with
  | top items => exact Nat.zero_le maxOpenBlocks
  | each outer opener items => exact Nat.le_of_add_right_le wellFormed.2.2.2
  | thenPart outer opener items => exact Nat.le_of_add_right_le wellFormed.2.2.2
  | elsePart outer opener thenBranch mark items =>
    exact Nat.le_of_add_right_le wellFormed.2.2.2.2.2

theorem add_well_formed {state : Unfinished} {more : List Item} (wellFormed : state.WellFormed)
    (moreFormed : Item.AllWellFormed more)
    (room : state.depth + Item.nestingAll more ≤ maxOpenBlocks) : (state.add more).WellFormed := by
  cases state with
  | top items =>
    obtain ⟨formed, fits⟩ := wellFormed
    refine ⟨(Item.all_well_formed_append items more).mpr ⟨formed, moreFormed⟩, ?_⟩
    rw [Item.nesting_all_append]
    simp only [depth] at room
    omega
  | each outer opener items =>
    obtain ⟨outerFormed, plays, formed, fits⟩ := wellFormed
    refine ⟨outerFormed, plays, (Item.all_well_formed_append items more).mpr ⟨formed, moreFormed⟩, ?_⟩
    rw [Item.nesting_all_append]
    simp only [depth] at room
    omega
  | thenPart outer opener items =>
    obtain ⟨outerFormed, plays, formed, fits⟩ := wellFormed
    refine ⟨outerFormed, plays, (Item.all_well_formed_append items more).mpr ⟨formed, moreFormed⟩, ?_⟩
    rw [Item.nesting_all_append]
    simp only [depth] at room
    omega
  | elsePart outer opener thenBranch mark items =>
    obtain ⟨outerFormed, plays, thenFormed, separator, formed, fits⟩ := wellFormed
    refine ⟨outerFormed, plays, thenFormed, separator,
      (Item.all_well_formed_append items more).mpr ⟨formed, moreFormed⟩, ?_⟩
    rw [Item.nesting_all_append]
    simp only [depth] at room
    omega

theorem add_child_stack (state : Unfinished) (item : Item) :
    OpenBlock.addChild item.node state.stack = .ok (state.add [item]).stack := by
  cases state <;> simp [stack, add, OpenBlock.addChild, Node.push?, Item.nodes_append, Item.nodes]

theorem before_mark {children : List Node} (unmarked : ∀ node ∈ children, node.isElseMark = false) :
    ∀ node ∈ children, (!node.isElseMark) = true := by
  intro node member
  rw [unmarked node member]
  rfl

theorem closed_without_mark (condition : Condition) (children : List Node)
    (unmarked : ∀ node ∈ children, node.isElseMark = false) :
    (Node.choice condition children []).closed = .choice condition children [] := by
  have none : (children ++ []).dropWhile (fun child : Node => !child.isElseMark) = [] := by
    rw [List.dropWhile_append_of_pos (before_mark unmarked)]
    rfl
  rw [List.append_nil] at none
  rw [Node.closed, none]

theorem closed_at_mark (condition : Condition) (thenBranch elseBranch : List Node)
    (unmarked : ∀ node ∈ thenBranch, node.isElseMark = false) :
    (Node.choice condition (thenBranch ++ .elseMark :: elseBranch) []).closed =
      .choice condition thenBranch elseBranch := by
  have dropped : (thenBranch ++ .elseMark :: elseBranch).dropWhile (fun child => !child.isElseMark) =
      .elseMark :: elseBranch := by
    rw [List.dropWhile_append_of_pos (before_mark unmarked)]
    rfl
  have taken : (thenBranch ++ .elseMark :: elseBranch).takeWhile (fun child => !child.isElseMark) =
      thenBranch := by
    rw [List.takeWhile_append_of_pos (before_mark unmarked)]
    simp [Node.isElseMark]
  simp only [Node.closed, dropped, taken]

theorem step_plays {fragment : Fragment} {role : Role} (plays : fragment.Plays role)
    (stack : List OpenBlock) :
    OpenBlock.step stack fragment = OpenBlock.place fragment.raw stack (fragment.nodeAs role) := by
  rw [OpenBlock.step, if_neg (Fragment.plays_kind plays), Fragment.node_of_plays plays]
  rfl

-- The root is not counted among the open blocks, so the stack is one longer than the depth.
theorem place_block (state : Unfinished) {node : Node} (opens : node.opensScope = true)
    (notMark : node.isElseMark = false) (raw : String) :
    OpenBlock.place raw state.stack node =
      if state.depth < maxOpenBlocks then .ok (⟨node, raw⟩ :: state.stack)
      else .error (.malformed raw .tooDeep) := by
  rw [OpenBlock.place, notMark, opens, stack_length]
  by_cases room : state.depth < maxOpenBlocks
  · rw [if_pos room, if_neg Bool.false_ne_true, if_pos rfl, if_neg (by omega)]
  · rw [if_neg room, if_neg Bool.false_ne_true, if_pos rfl, if_pos (by omega)]

theorem step_closing {fragment : Fragment} (kind : fragment.kind = .closing)
    (stack : List OpenBlock) :
    OpenBlock.step stack fragment = OpenBlock.close fragment.raw stack := by
  rw [OpenBlock.step, if_pos kind]

theorem close_stack (raw : String) (block : OpenBlock) (outer : Unfinished) :
    OpenBlock.close raw (block :: outer.stack) = OpenBlock.addChild block.node.closed outer.stack := by
  cases outer <;> rfl

theorem step_of_move {state next : Unfinished} {fragment : Fragment} (wellFormed : state.WellFormed)
    (move : state.Move fragment next) : OpenBlock.step state.stack fragment = .ok next.stack := by
  cases move with
  | @leaf _ _ role isLeaf plays =>
    have added := add_child_stack state (.leaf role fragment)
    rw [step_plays plays]
    cases role with
    | text => exact added
    | interpolation => exact added
    | call => exact added
    | each => cases isLeaf
    | choice => cases isLeaf
    | separator => cases isLeaf
  | openEach plays room =>
    rw [step_plays plays, place_block state rfl rfl, if_pos room]
    rfl
  | openChoice plays room =>
    rw [step_plays plays, place_block state rfl rfl, if_pos room]
    rfl
  | @separate outer opener _ items plays =>
    obtain ⟨_, _, formed, _⟩ := wellFormed
    have unmarked : (Item.nodes items).any Node.isElseMark = false := by
      rw [List.any_eq_false]
      intro node member
      rw [Item.nodes_without_else_mark items formed node member]
      exact Bool.false_ne_true
    rw [step_plays plays]
    simp [OpenBlock.place, Fragment.nodeAs, Node.isElseMark, OpenBlock.admitElse, stack, unmarked,
      OpenBlock.addChild, Node.push?, Except.bind, Item.nodes]
  | @closeEach outer opener _ items kind =>
    rw [step_closing kind, stack, close_stack]
    exact add_child_stack outer (.each opener items fragment)
  | @closeThen outer opener _ items kind =>
    obtain ⟨_, _, formed, _⟩ := wellFormed
    rw [step_closing kind, stack, close_stack,
      closed_without_mark _ _ (Item.nodes_without_else_mark items formed)]
    exact add_child_stack outer (.choice opener items fragment)
  | @closeElse outer opener mark _ thenBranch items kind =>
    obtain ⟨_, _, formed, _⟩ := wellFormed
    rw [step_closing kind, stack, close_stack,
      closed_at_mark _ _ _ (Item.nodes_without_else_mark thenBranch formed)]
    exact add_child_stack outer (.choiceElse opener thenBranch mark items fragment)

theorem move_fragments {state next : Unfinished} {fragment : Fragment}
    (move : state.Move fragment next) : next.fragments = state.fragments ++ [fragment] := by
  cases move with
  | leaf isLeaf plays => rw [add_fragments]; rfl
  | openEach plays room => rfl
  | openChoice plays room => rfl
  | separate plays => simp [fragments, Item.allFragments]
  | closeEach kind => simp [fragments, add_fragments, Item.allFragments, Item.fragments]
  | closeThen kind => simp [fragments, add_fragments, Item.allFragments, Item.fragments]
  | closeElse kind => simp [fragments, add_fragments, Item.allFragments, Item.fragments]

theorem move_well_formed {state next : Unfinished} {fragment : Fragment}
    (wellFormed : state.WellFormed) (move : state.Move fragment next) : next.WellFormed := by
  cases move with
  | leaf isLeaf plays =>
    have fits := depth_bound wellFormed
    refine add_well_formed wellFormed (And.intro ⟨isLeaf, plays⟩ trivial) ?_
    simpa [Item.nestingAll, Item.nesting] using fits
  | openEach plays room => exact ⟨wellFormed, plays, trivial, room⟩
  | openChoice plays room => exact ⟨wellFormed, plays, trivial, room⟩
  | separate plays =>
    obtain ⟨outerFormed, choice, formed, fits⟩ := wellFormed
    refine ⟨outerFormed, choice, formed, plays, trivial, ?_⟩
    rw [Item.nestingAll]
    omega
  | @closeEach outer opener _ items kind =>
    obtain ⟨outerFormed, plays, formed, fits⟩ := wellFormed
    refine add_well_formed outerFormed (And.intro ⟨plays, formed, kind⟩ trivial) ?_
    simp only [Item.nestingAll, Item.nesting]
    omega
  | @closeThen outer opener _ items kind =>
    obtain ⟨outerFormed, plays, formed, fits⟩ := wellFormed
    refine add_well_formed outerFormed (And.intro ⟨plays, formed, kind⟩ trivial) ?_
    simp only [Item.nestingAll, Item.nesting]
    omega
  | @closeElse outer opener mark _ thenBranch items kind =>
    obtain ⟨outerFormed, plays, thenFormed, separator, formed, fits⟩ := wellFormed
    refine add_well_formed outerFormed
      (And.intro ⟨plays, thenFormed, separator, formed, kind⟩ trivial) ?_
    simp only [Item.nestingAll, Item.nesting]
    omega

theorem move_of_step {state : Unfinished} {fragment : Fragment} {stack : List OpenBlock}
    (stepped : OpenBlock.step state.stack fragment = .ok stack) :
    ∃ next, state.Move fragment next := by
  by_cases kind : fragment.kind = .closing
  · cases state with
    | top items =>
      rw [step_closing kind] at stepped
      cases stepped
    | each outer opener items => exact ⟨_, .closeEach kind⟩
    | thenPart outer opener items => exact ⟨_, .closeThen kind⟩
    | elsePart outer opener thenBranch mark items => exact ⟨_, .closeElse kind⟩
  · cases made : Node.ofFragment fragment with
    | error error =>
      rw [OpenBlock.step, if_neg kind, made] at stepped
      cases stepped
    | ok node =>
      obtain ⟨role, plays, _⟩ := Fragment.plays_of_node made
      rw [step_plays plays] at stepped
      cases role with
      | text => exact ⟨_, .leaf rfl plays⟩
      | interpolation => exact ⟨_, .leaf rfl plays⟩
      | call => exact ⟨_, .leaf rfl plays⟩
      | each =>
        by_cases room : state.depth < maxOpenBlocks
        · exact ⟨_, .openEach plays room⟩
        · rw [place_block state rfl rfl, if_neg room] at stepped
          cases stepped
      | choice =>
        by_cases room : state.depth < maxOpenBlocks
        · exact ⟨_, .openChoice plays room⟩
        · rw [place_block state rfl rfl, if_neg room] at stepped
          cases stepped
      | separator =>
        cases state with
        | top items => cases stepped
        | each outer opener items => cases stepped
        | thenPart outer opener items => exact ⟨_, .separate plays⟩
        | elsePart outer opener thenBranch mark items =>
          simp [OpenBlock.place, Fragment.nodeAs, Node.isElseMark, OpenBlock.admitElse,
            Unfinished.stack, Except.bind] at stepped

theorem run_moves {state : Unfinished} (wellFormed : state.WellFormed) {fragments : List Fragment}
    {stack : List OpenBlock} (ran : fragments.foldlM OpenBlock.step state.stack = .ok stack) :
    ∃ next : Unfinished, next.WellFormed ∧ next.stack = stack ∧
      next.fragments = state.fragments ++ fragments := by
  induction fragments generalizing state with
  | nil =>
    cases ran
    exact ⟨state, wellFormed, rfl, (List.append_nil _).symm⟩
  | cons fragment rest ih =>
    rw [List.foldlM_cons] at ran
    cases stepped : OpenBlock.step state.stack fragment with
    | error error =>
      rw [stepped] at ran
      cases ran
    | ok after =>
      obtain ⟨middle, move⟩ := move_of_step stepped
      have same := (step_of_move wellFormed move).symm.trans stepped
      rw [stepped, ← Except.ok.inj same] at ran
      obtain ⟨next, formed, stacked, derived⟩ := ih (move_well_formed wellFormed move) ran
      refine ⟨next, formed, stacked, ?_⟩
      rw [derived, move_fragments move, List.append_assoc, List.singleton_append]

theorem run_cons {state next : Unfinished} (wellFormed : state.WellFormed) {fragment : Fragment}
    (move : state.Move fragment next) (rest : List Fragment) :
    (fragment :: rest).foldlM OpenBlock.step state.stack = rest.foldlM OpenBlock.step next.stack := by
  rw [List.foldlM_cons, step_of_move wellFormed move]
  rfl

theorem run_append {state next : Unfinished} {fragments : List Fragment}
    (ran : fragments.foldlM OpenBlock.step state.stack = .ok next.stack) (rest : List Fragment) :
    (fragments ++ rest).foldlM OpenBlock.step state.stack = rest.foldlM OpenBlock.step next.stack := by
  rw [List.foldlM_append, ran]
  rfl

-- An item is run in any derivation in progress, so that the items inside a block are run in the state
-- that its opener leads to.
mutual

theorem run_item (item : Item) (state : Unfinished) (wellFormed : state.WellFormed)
    (itemFormed : item.WellFormed) (room : state.depth + item.nesting ≤ maxOpenBlocks) :
    item.fragments.foldlM OpenBlock.step state.stack = .ok (state.add [item]).stack := by
  cases item with
  | leaf role fragment =>
    rw [Item.fragments, run_cons wellFormed (.leaf itemFormed.1 itemFormed.2)]
    rfl
  | each opener body closer =>
    obtain ⟨plays, formed, kind⟩ := itemFormed
    rw [Item.nesting] at room
    have opened : state.Move opener (.each state opener []) := .openEach plays (by omega)
    have inside := move_well_formed wellFormed opened
    have fits : (Unfinished.each state opener []).depth + Item.nestingAll body ≤ maxOpenBlocks := by
      simp only [depth]
      omega
    have ran := run_items body _ inside formed fits
    have bodyFormed := add_well_formed inside formed fits
    rw [Item.fragments, run_cons wellFormed opened, run_append ran,
      run_cons bodyFormed (.closeEach kind)]
    rfl
  | choice opener body closer =>
    obtain ⟨plays, formed, kind⟩ := itemFormed
    rw [Item.nesting] at room
    have opened : state.Move opener (.thenPart state opener []) := .openChoice plays (by omega)
    have inside := move_well_formed wellFormed opened
    have fits : (Unfinished.thenPart state opener []).depth + Item.nestingAll body ≤ maxOpenBlocks := by
      simp only [depth]
      omega
    have ran := run_items body _ inside formed fits
    have bodyFormed := add_well_formed inside formed fits
    rw [Item.fragments, run_cons wellFormed opened, run_append ran,
      run_cons bodyFormed (.closeThen kind)]
    rfl
  | choiceElse opener thenBranch mark elseBranch closer =>
    obtain ⟨plays, thenFormed, separator, elseFormed, kind⟩ := itemFormed
    rw [Item.nesting] at room
    have opened : state.Move opener (.thenPart state opener []) := .openChoice plays (by omega)
    have inside := move_well_formed wellFormed opened
    have thenFits : (Unfinished.thenPart state opener []).depth + Item.nestingAll thenBranch ≤
        maxOpenBlocks := by
      simp only [depth]
      omega
    have thenRan := run_items thenBranch _ inside thenFormed thenFits
    have atMark := add_well_formed inside thenFormed thenFits
    have separated : ((Unfinished.thenPart state opener []).add thenBranch).Move mark
        (.elsePart state opener thenBranch mark []) := .separate separator
    have afterMark := move_well_formed atMark separated
    have elseFits : (Unfinished.elsePart state opener thenBranch mark []).depth +
        Item.nestingAll elseBranch ≤ maxOpenBlocks := by
      simp only [depth]
      omega
    have elseRan := run_items elseBranch _ afterMark elseFormed elseFits
    have atEnd := add_well_formed afterMark elseFormed elseFits
    rw [Item.fragments, run_cons wellFormed opened, run_append thenRan, run_cons atMark separated,
      run_append elseRan, run_cons atEnd (.closeElse kind)]
    rfl

theorem run_items (items : List Item) (state : Unfinished) (wellFormed : state.WellFormed)
    (itemsFormed : Item.AllWellFormed items)
    (room : state.depth + Item.nestingAll items ≤ maxOpenBlocks) :
    (Item.allFragments items).foldlM OpenBlock.step state.stack = .ok (state.add items).stack := by
  cases items with
  | nil =>
    rw [add_nil]
    rfl
  | cons item rest =>
    rw [Item.nestingAll] at room
    have first := run_item item state wellFormed itemsFormed.1 (by omega)
    have added : (state.add [item]).WellFormed := by
      refine add_well_formed wellFormed (And.intro itemsFormed.1 trivial) ?_
      simp only [Item.nestingAll]
      omega
    have later := run_items rest (state.add [item]) added itemsFormed.2 (by rw [add_depth]; omega)
    rw [Item.allFragments, run_append first, later, add_add]
    rfl

end

end Unfinished

theorem finish_top {state : Unfinished} {root : Node}
    (finished : OpenBlock.finish state.stack = .ok root) :
    ∃ items, state = .top items ∧ root = .root (Item.nodes items) := by
  cases state with
  | top items =>
    cases finished
    exact ⟨items, rfl, rfl⟩
  | each outer opener items => cases outer <;> cases finished
  | thenPart outer opener items => cases outer <;> cases finished
  | elsePart outer opener thenBranch mark items => cases outer <;> cases finished

-- The items derive exactly these fragments, with no more blocks open at once than are allowed.
def Item.Derive (items : List Item) (fragments : List Fragment) : Prop :=
  Item.AllWellFormed items ∧ Item.allFragments items = fragments ∧ Item.nestingAll items ≤ 128

theorem of_fragments_ok_iff (fragments : List Fragment) (root : Node) :
    Node.ofFragments fragments = .ok root ↔
      ∃ items, Item.Derive items fragments ∧ root = .root (Item.nodes items) := by
  have start : (Unfinished.top []).WellFormed := ⟨trivial, Nat.zero_le maxOpenBlocks⟩
  constructor
  · intro made
    rw [Node.ofFragments] at made
    cases ran : fragments.foldlM OpenBlock.step OpenBlock.start with
    | error error =>
      rw [ran] at made
      cases made
    | ok stack =>
      obtain ⟨state, formed, rfl, derived⟩ := Unfinished.run_moves start ran
      rw [ran] at made
      obtain ⟨items, rfl, rfl⟩ := finish_top made
      exact ⟨items, ⟨formed.1, derived, formed.2⟩, rfl⟩
  · rintro ⟨items, ⟨formed, rfl, fits⟩, rfl⟩
    have room : (Unfinished.top []).depth + Item.nestingAll items ≤ maxOpenBlocks := by
      rw [Unfinished.depth, Nat.zero_add]
      exact fits
    have ran := Unfinished.run_items items (.top []) start formed room
    rw [Node.ofFragments]
    exact congrArg (Except.bind · OpenBlock.finish) ran

theorem compile_of_derivation {source : String} {items : List Item}
    (derive : Item.Derive items (fragments source)) :
    Template.compile source = .ok ⟨source, .root (Item.nodes items)⟩ := by
  have made := (of_fragments_ok_iff (fragments source) _).mpr ⟨items, derive, rfl⟩
  rw [Template.compile, made]
  rfl

theorem derivation_of_compile {source : String} {template : Template}
    (compiled : Template.compile source = .ok template) :
    ∃ items, Item.Derive items (fragments source) ∧ template.root = .root (Item.nodes items) := by
  rw [Template.compile] at compiled
  cases made : Node.ofFragments (fragments source) with
  | error error =>
    rw [made] at compiled
    cases compiled
  | ok root =>
    rw [made] at compiled
    cases compiled
    exact (of_fragments_ok_iff (fragments source) root).mp made

end Stencil
