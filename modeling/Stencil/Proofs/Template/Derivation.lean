import Stencil.Proofs.Node.Role

set_option autoImplicit false

namespace Stencil

namespace Node

mutual

def nesting : Node → Nat
  | .root children => nestingAll children
  | .each _ body => nestingAll body + 1
  | .choice _ thenBranch elseBranch => max (nestingAll thenBranch) (nestingAll elseBranch) + 1
  | _ => 0

def nestingAll : List Node → Nat
  | [] => 0
  | node :: rest => max (nesting node) (nestingAll rest)

end

end Node

inductive Item where
  | leaf (role : Role) (fragment : Fragment)
  | each (opener : Fragment) (body : List Item) (closer : Fragment)
  | choice (opener : Fragment) (body : List Item) (closer : Fragment)
  | choiceElse (opener : Fragment) (thenBranch : List Item) (mark : Fragment)
      (elseBranch : List Item) (closer : Fragment)

namespace Item

mutual

def fragments : Item → List Fragment
  | .leaf _ fragment => [fragment]
  | .each opener body closer => opener :: (allFragments body ++ [closer])
  | .choice opener body closer => opener :: (allFragments body ++ [closer])
  | .choiceElse opener thenBranch mark elseBranch closer =>
    opener :: (allFragments thenBranch ++ mark :: (allFragments elseBranch ++ [closer]))

def allFragments : List Item → List Fragment
  | [] => []
  | item :: rest => fragments item ++ allFragments rest

end

mutual

def WellFormed : Item → Prop
  | .leaf role fragment => role.isLeaf = true ∧ fragment.Plays role
  | .each opener body closer => opener.Plays .each ∧ AllWellFormed body ∧ closer.kind = .closing
  | .choice opener body closer => opener.Plays .choice ∧ AllWellFormed body ∧ closer.kind = .closing
  | .choiceElse opener thenBranch mark elseBranch closer =>
    opener.Plays .choice ∧ AllWellFormed thenBranch ∧ mark.Plays .separator ∧
      AllWellFormed elseBranch ∧ closer.kind = .closing

def AllWellFormed : List Item → Prop
  | [] => True
  | item :: rest => WellFormed item ∧ AllWellFormed rest

end

mutual

def nesting : Item → Nat
  | .leaf .. => 0
  | .each _ body _ => nestingAll body + 1
  | .choice _ body _ => nestingAll body + 1
  | .choiceElse _ thenBranch _ elseBranch _ => max (nestingAll thenBranch) (nestingAll elseBranch) + 1

def nestingAll : List Item → Nat
  | [] => 0
  | item :: rest => max (nesting item) (nestingAll rest)

end

mutual

def node : Item → Node
  | .leaf role fragment => fragment.nodeAs role
  | .each opener body _ => .each (Expr.ofText opener.remainder) (nodes body)
  | .choice opener body _ => .choice opener.condition (nodes body) []
  | .choiceElse opener thenBranch _ elseBranch _ =>
    .choice opener.condition (nodes thenBranch) (nodes elseBranch)

def nodes : List Item → List Node
  | [] => []
  | item :: rest => node item :: nodes rest

end

section Lists

variable (one other : List Item)

theorem all_fragments_append : allFragments (one ++ other) = allFragments one ++ allFragments other := by
  induction one with
  | nil => rfl
  | cons item rest ih => rw [List.cons_append, allFragments, allFragments, ih, List.append_assoc]

theorem all_well_formed_append :
    AllWellFormed (one ++ other) ↔ AllWellFormed one ∧ AllWellFormed other := by
  induction one with
  | nil => simp [AllWellFormed]
  | cons item rest ih => simp only [List.cons_append, AllWellFormed, ih, and_assoc]

theorem nesting_all_append :
    nestingAll (one ++ other) = max (nestingAll one) (nestingAll other) := by
  induction one with
  | nil => simp [nestingAll]
  | cons item rest ih => rw [List.cons_append, nestingAll, nestingAll, ih, Nat.max_assoc]

theorem nodes_append : nodes (one ++ other) = nodes one ++ nodes other := by
  induction one with
  | nil => rfl
  | cons item rest ih => rw [List.cons_append, nodes, nodes, ih, List.cons_append]

end Lists

mutual

theorem node_nesting (item : Item) (formed : item.WellFormed) : item.node.nesting = item.nesting := by
  cases item with
  | leaf role fragment =>
    obtain ⟨leaf, _⟩ := formed
    cases role <;> first | rfl | cases leaf
  | each opener body closer => rw [node, Node.nesting, nesting, nodes_nesting body formed.2.1]
  | choice opener body closer =>
    rw [node, Node.nesting, nesting, nodes_nesting body formed.2.1, Node.nestingAll, Nat.max_zero]
  | choiceElse opener thenBranch mark elseBranch closer =>
    obtain ⟨_, thenFormed, _, elseFormed, _⟩ := formed
    rw [node, Node.nesting, nesting, nodes_nesting thenBranch thenFormed,
      nodes_nesting elseBranch elseFormed]

theorem nodes_nesting (items : List Item) (formed : AllWellFormed items) :
    Node.nestingAll (nodes items) = nestingAll items := by
  cases items with
  | nil => rfl
  | cons item rest =>
    rw [nodes, Node.nestingAll, nestingAll, node_nesting item formed.1, nodes_nesting rest formed.2]

end

theorem node_not_else_mark (item : Item) (wellFormed : item.WellFormed) :
    item.node.isElseMark = false := by
  cases item with
  | leaf role fragment =>
    obtain ⟨leaf, _⟩ := wellFormed
    cases role <;> first | rfl | cases leaf
  | each opener body closer => rfl
  | choice opener body closer => rfl
  | choiceElse opener thenBranch mark elseBranch closer => rfl

theorem nodes_without_else_mark (items : List Item) (wellFormed : AllWellFormed items) :
    ∀ node ∈ nodes items, node.isElseMark = false := by
  induction items with
  | nil => simp [nodes]
  | cons item rest ih =>
    intro node member
    rw [nodes] at member
    rcases List.mem_cons.mp member with here | later
    · rw [here]
      exact node_not_else_mark item wellFormed.1
    · exact ih wellFormed.2 node later

def Stops (rest : List Fragment) : Prop :=
  ∀ fragment ∈ rest.head?, fragment.kind = .closing ∨ fragment.Plays .separator

theorem stops_closing {closer : Fragment} {rest : List Fragment} (kind : closer.kind = .closing) :
    Stops (closer :: rest) := by
  intro fragment first
  cases first
  exact .inl kind

theorem stops_separator {mark : Fragment} {rest : List Fragment} (plays : mark.Plays .separator) :
    Stops (mark :: rest) := by
  intro fragment first
  cases first
  exact .inr plays

def opener : Item → Fragment
  | .leaf _ fragment => fragment
  | .each opener _ _ => opener
  | .choice opener _ _ => opener
  | .choiceElse opener _ _ _ _ => opener

def role : Item → Role
  | .leaf role _ => role
  | .each .. => .each
  | .choice .. => .choice
  | .choiceElse .. => .choice

theorem opener_first (item : Item) : item.fragments.head? = some item.opener := by
  cases item <;> rfl

theorem opener_plays (item : Item) (wellFormed : item.WellFormed) : item.opener.Plays item.role := by
  cases item with
  | leaf role fragment => exact wellFormed.2
  | each opener body closer => exact wellFormed.1
  | choice opener body closer => exact wellFormed.1
  | choiceElse opener thenBranch mark elseBranch closer => exact wellFormed.1

theorem same_opener {one other : Item} {rest otherRest : List Fragment}
    (same : one.fragments ++ rest = other.fragments ++ otherRest) : one.opener = other.opener := by
  have heads := congrArg List.head? same
  rw [List.head?_append, List.head?_append, opener_first, opener_first] at heads
  exact Option.some.inj heads

theorem no_item_stops (item : Item) (wellFormed : item.WellFormed) (rest : List Fragment) :
    ¬ Stops (item.fragments ++ rest) := by
  intro stops
  have plays := opener_plays item wellFormed
  have first : item.opener ∈ (item.fragments ++ rest).head? := by
    rw [List.head?_append, opener_first]
    rfl
  rcases stops item.opener first with closing | separator
  · exact Fragment.plays_kind plays closing
  · have same := Fragment.plays_unique plays separator
    cases item with
    | leaf role fragment =>
      have leaf := wellFormed.1
      rw [show role = .separator from same] at leaf
      cases leaf
    | each opener body closer => cases same
    | choice opener body closer => cases same
    | choiceElse opener thenBranch mark elseBranch closer => cases same

-- Induction on the first derivation. What follows a list of items is left free, so that the list ends
-- where it does for the sake of the fragment after it and not of the end of the template.
mutual

theorem item_unique (one other : Item) (rest otherRest : List Fragment)
    (wellFormed : one.WellFormed) (otherWellFormed : other.WellFormed)
    (same : one.fragments ++ rest = other.fragments ++ otherRest) : one = other ∧ rest = otherRest := by
  have openers := same_opener same
  have roles : one.role = other.role := by
    apply Fragment.plays_unique (opener_plays one wellFormed)
    rw [openers]
    exact opener_plays other otherWellFormed
  cases one with
  | leaf role fragment =>
    have leaf := wellFormed.1
    change role = other.role at roles
    rw [roles] at leaf
    cases other with
    | leaf otherRole otherFragment =>
      change fragment = otherFragment at openers
      subst openers roles
      exact ⟨rfl, List.append_cancel_left same⟩
    | each opener body closer => cases leaf
    | choice opener body closer => cases leaf
    | choiceElse opener thenBranch mark elseBranch closer => cases leaf
  | each opener body closer =>
    obtain ⟨_, bodyFormed, closing⟩ := wellFormed
    cases other with
    | leaf otherRole otherFragment =>
      have leaf := otherWellFormed.1
      rw [show otherRole = .each from roles.symm] at leaf
      cases leaf
    | each otherOpener otherBody otherCloser =>
      obtain ⟨_, otherFormed, otherClosing⟩ := otherWellFormed
      simp only [fragments, List.cons_append, List.append_assoc, List.nil_append] at same
      obtain ⟨bodies, tails⟩ := items_unique body otherBody _ _ bodyFormed otherFormed
        (stops_closing closing) (stops_closing otherClosing) (List.cons.inj same).2
      cases tails
      cases openers
      exact ⟨by rw [bodies], rfl⟩
    | choice opener body closer => cases roles
    | choiceElse opener thenBranch mark elseBranch closer => cases roles
  | choice opener body closer =>
    obtain ⟨_, bodyFormed, closing⟩ := wellFormed
    cases other with
    | leaf otherRole otherFragment =>
      have leaf := otherWellFormed.1
      rw [show otherRole = .choice from roles.symm] at leaf
      cases leaf
    | each opener body closer => cases roles
    | choice otherOpener otherBody otherCloser =>
      obtain ⟨_, otherFormed, otherClosing⟩ := otherWellFormed
      simp only [fragments, List.cons_append, List.append_assoc, List.nil_append] at same
      obtain ⟨bodies, tails⟩ := items_unique body otherBody _ _ bodyFormed otherFormed
        (stops_closing closing) (stops_closing otherClosing) (List.cons.inj same).2
      cases tails
      cases openers
      exact ⟨by rw [bodies], rfl⟩
    | choiceElse otherOpener otherThen mark otherElse otherCloser =>
      obtain ⟨_, thenFormed, separator, _⟩ := otherWellFormed
      simp only [fragments, List.cons_append, List.append_assoc, List.nil_append] at same
      obtain ⟨_, tails⟩ := items_unique body otherThen _ _ bodyFormed thenFormed
        (stops_closing closing) (stops_separator separator) (List.cons.inj same).2
      cases tails
      exact absurd closing (Fragment.plays_kind separator)
  | choiceElse opener thenBranch mark elseBranch closer =>
    obtain ⟨_, thenFormed, separator, elseFormed, closing⟩ := wellFormed
    cases other with
    | leaf otherRole otherFragment =>
      have leaf := otherWellFormed.1
      rw [show otherRole = .choice from roles.symm] at leaf
      cases leaf
    | each opener body closer => cases roles
    | choice otherOpener otherBody otherCloser =>
      obtain ⟨_, otherFormed, otherClosing⟩ := otherWellFormed
      simp only [fragments, List.cons_append, List.append_assoc, List.nil_append] at same
      obtain ⟨_, tails⟩ := items_unique thenBranch otherBody _ _ thenFormed otherFormed
        (stops_separator separator) (stops_closing otherClosing) (List.cons.inj same).2
      cases tails
      exact absurd otherClosing (Fragment.plays_kind separator)
    | choiceElse otherOpener otherThen otherMark otherElse otherCloser =>
      obtain ⟨_, otherThenFormed, otherSeparator, otherElseFormed, otherClosing⟩ := otherWellFormed
      simp only [fragments, List.cons_append, List.append_assoc, List.nil_append] at same
      obtain ⟨thens, tails⟩ := items_unique thenBranch otherThen _ _ thenFormed otherThenFormed
        (stops_separator separator) (stops_separator otherSeparator) (List.cons.inj same).2
      obtain ⟨marks, later⟩ := List.cons.inj tails
      obtain ⟨elses, ends⟩ := items_unique elseBranch otherElse _ _ elseFormed otherElseFormed
        (stops_closing closing) (stops_closing otherClosing) later
      cases ends
      cases openers
      exact ⟨by rw [thens, marks, elses], rfl⟩

theorem items_unique (one other : List Item) (rest otherRest : List Fragment)
    (wellFormed : AllWellFormed one) (otherWellFormed : AllWellFormed other)
    (stops : Stops rest) (otherStops : Stops otherRest)
    (same : allFragments one ++ rest = allFragments other ++ otherRest) :
    one = other ∧ rest = otherRest := by
  cases one with
  | nil =>
    cases other with
    | nil => exact ⟨rfl, same⟩
    | cons item items =>
      rw [allFragments, allFragments, List.nil_append, List.append_assoc] at same
      rw [same] at stops
      exact absurd stops (no_item_stops item otherWellFormed.1 _)
  | cons item items =>
    cases other with
    | nil =>
      rw [allFragments, allFragments, List.nil_append, List.append_assoc] at same
      rw [← same] at otherStops
      exact absurd otherStops (no_item_stops item wellFormed.1 _)
    | cons otherItem otherItems =>
      rw [allFragments, allFragments, List.append_assoc, List.append_assoc] at same
      obtain ⟨first, later⟩ := item_unique item otherItem _ _ wellFormed.1 otherWellFormed.1 same
      obtain ⟨others, rests⟩ := items_unique items otherItems rest otherRest wellFormed.2
        otherWellFormed.2 stops otherStops later
      exact ⟨by rw [first, others], rests⟩

end

end Item

end Stencil
