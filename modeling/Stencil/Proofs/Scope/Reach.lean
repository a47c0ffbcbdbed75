import Stencil.Proofs.Node.Name
import Stencil.Proofs.Scope.Flatten

set_option autoImplicit false

namespace Stencil

def Scope.inside (context : Context) : List Value → Scope
  | [] => .root context
  | item :: outer => .loop (inside context outer) item

def Scope.SameFor (names : List String) (one other : Scope) : Prop :=
  ∀ name ∈ names, one.resolve name = other.resolve name

def Context.SameAt (keys : List String) (one other : Context) : Prop :=
  ∀ key ∈ keys, one.get? key = other.get? key

theorem pieces_first (separates : Char → Bool) (text : List Char) :
    (Text.pieces separates text).1 = text.takeWhile fun c => !separates c := by
  induction text with
  | nil => rfl
  | cons c rest ih =>
    cases here : separates c with
    | true => simp [Text.pieces, here]
    | false => simp [Text.pieces, here, ih]

theorem segments_head (escaped : Bool) (text : List Char) :
    (Path.ofSegments escaped text).head = firstSegment text := by
  rw [Path.ofSegments, firstSegment, pieces_first]
  rfl

section Starts

variable {one other : Scope} {path : Path}

theorem find_of_lookup (plain : path.escaped = false)
    (start : one.lookup? path.head = other.lookup? path.head) : one.find? path = other.find? path := by
  simp only [Scope.find?, plain, Bool.false_eq_true, if_false, start]

theorem find_of_lookup_outside (escaped : path.escaped = true)
    (start : one.lookupOutside? path.head = other.lookupOutside? path.head) :
    one.find? path = other.find? path := by
  simp only [Scope.find?, escaped, if_true, start]

end Starts

section Contexts

variable {one other : Context} (items : List Value)

theorem find_plain {text : List Char}
    (same : ∀ key ∈ plainKey? text items.length, one.get? key = other.get? key) :
    (Scope.inside one items).find? (Path.ofSegments false text) =
      (Scope.inside other items).find? (Path.ofSegments false text) := by
  apply find_of_lookup rfl
  rw [segments_head]
  cases items with
  | nil => exact same _ rfl
  | cons item outer => rfl

theorem find_escaped {text : List Char}
    (same : ∀ key ∈ escapedKey? text items.length, one.get? key = other.get? key) :
    (Scope.inside one items).find? (Path.ofSegments true text) =
      (Scope.inside other items).find? (Path.ofSegments true text) := by
  apply find_of_lookup_outside rfl
  rw [segments_head]
  match items with
  | [] =>
    have entry : one.get? ".." = other.get? ".." := same _ rfl
    exact congrArg (Option.bind · (Value.attribute? (firstSegment text))) entry
  | [item] => exact same _ rfl
  | item :: around :: outer => rfl

theorem resolve_inside {name : String}
    (same : ∀ key ∈ contextKey? items.length name, one.get? key = other.get? key) :
    (Scope.inside one items).resolve name = (Scope.inside other items).resolve name := by
  have found : (Scope.inside one items).find? (Path.ofName name) =
      (Scope.inside other items).find? (Path.ofName name) := by
    unfold contextKey? at same
    unfold Path.ofName
    split
    · rename_i text shape
      rw [shape] at same
      exact find_escaped items same
    · rename_i plain
      split at same
      · rename_i text shape
        exact absurd shape (plain text)
      · exact find_plain items same
  simp only [Scope.resolve, found]

theorem same_for_inside {node : Node} (same : one.SameAt (node.ownKeys items.length) other) :
    (Scope.inside one items).SameFor node.names (Scope.inside other items) := by
  intro name member
  refine resolve_inside items fun key asked => same key ?_
  exact List.mem_filterMap.mpr ⟨name, member, asked⟩

end Contexts

section Readers

variable {one other : Scope} {node : Node}

theorem same_expr (same : one.SameFor node.names other) {expr : Expr} (held : expr ∈ node.exprs) :
    expr.resolve one = expr.resolve other := by
  cases expr with
  | literal value => rfl
  | name path => exact same path (Node.name_of_expr held (List.mem_singleton_self path))

theorem same_holds {condition : Condition} {thenBranch elseBranch : List Node}
    (same : one.SameFor (Node.choice condition thenBranch elseBranch).names other) :
    condition.holds one = condition.holds other := by
  obtain ⟨lhs, comparison⟩ := condition
  cases comparison with
  | none => simp only [Condition.holds, same_expr same (List.mem_singleton_self lhs)]
  | some pair =>
    have left : lhs.resolve one = lhs.resolve other := same_expr same List.mem_cons_self
    have right : pair.2.resolve one = pair.2.resolve other :=
      same_expr same (List.mem_cons_of_mem _ (List.mem_singleton_self pair.2))
    simp only [Condition.holds, left, right]

theorem same_loop_items {iterable : Expr} {body : List Node}
    (same : one.SameFor (Node.each iterable body).names other) :
    iterable.loopItems one = iterable.loopItems other := by
  simp only [Expr.loopItems, same_expr same (List.mem_singleton_self iterable)]

theorem mapM_congr {α β : Type} {use one : α → Except Error β} {list : List α}
    (same : ∀ a ∈ list, use a = one a) : list.mapM use = list.mapM one := by
  induction list with
  | nil => rfl
  | cons a rest ih =>
    rw [List.mapM_cons, List.mapM_cons, same a List.mem_cons_self,
      ih fun b member => same b (List.mem_cons_of_mem a member)]

theorem same_call (host : Host) {invocation : Call}
    (same : one.SameFor (Node.call invocation).names other) :
    invocation.result host one = invocation.result host other := by
  have args : invocation.args.mapM (Expr.resolve one) = invocation.args.mapM (Expr.resolve other) :=
    mapM_congr fun arg member => same_expr same (List.mem_append_left _ member)
  have kwargs : ∀ pair ∈ invocation.kwargs,
      (pair.2.resolve one).map (pair.1, ·) = (pair.2.resolve other).map (pair.1, ·) := by
    intro pair member
    have held : pair.2 ∈ (Node.call invocation).exprs :=
      List.mem_append_right _ (List.mem_map_of_mem member)
    rw [same_expr same held]
  have callee : one.resolve invocation.callee = other.resolve invocation.callee :=
    same invocation.callee (List.mem_append_right _ (List.mem_singleton_self _))
  rw [Call.result, Call.result, args, callee, mapM_congr kwargs]

end Readers

theorem same_at_append (one other : Context) (keys more : List String) :
    one.SameAt (keys ++ more) other ↔ one.SameAt keys other ∧ one.SameAt more other := by
  simp only [Context.SameAt, List.mem_append, or_imp, forall_and]

-- Entering a loop adds the same item to both scopes, so the induction over the tree is over all lists
-- of items.
mutual

theorem same_render (host : Host) {one other : Context} (items : List Value) (node : Node)
    (same : one.SameAt (node.keys items.length) other) :
    node.render host (.inside one items) = node.render host (.inside other items) := by
  cases node with
  | root children => exact same_render_all host items children same
  | text content => rfl
  | interpolation expr =>
    simp only [Node.render, same_expr (same_for_inside items same) (List.mem_singleton_self expr)]
  | each iterable body =>
    obtain ⟨ofIterable, ofBody⟩ := (same_at_append one other _ _).mp same
    have bodies : ∀ item, Node.renderAll host (.loop (.inside one items) item) body =
        Node.renderAll host (.loop (.inside other items) item) body :=
      fun item => same_render_all host (item :: items) body ofBody
    simp only [Node.render, same_loop_items (same_for_inside items ofIterable), bodies]
  | choice condition thenBranch elseBranch =>
    obtain ⟨ofChoice, ofElse⟩ := (same_at_append one other _ _).mp same
    obtain ⟨ofCondition, ofThen⟩ := (same_at_append one other _ _).mp ofChoice
    simp only [Node.render, same_holds (same_for_inside items ofCondition),
      same_render_all host items thenBranch ofThen, same_render_all host items elseBranch ofElse]
  | elseMark => rfl
  | call invocation => simp only [Node.render, same_call host (same_for_inside items same)]

theorem same_render_all (host : Host) {one other : Context} (items : List Value) (nodes : List Node)
    (same : one.SameAt (Node.keysAll items.length nodes) other) :
    Node.renderAll host (.inside one items) nodes = Node.renderAll host (.inside other items) nodes := by
  cases nodes with
  | nil => rfl
  | cons node rest =>
    obtain ⟨ofNode, ofRest⟩ := (same_at_append one other _ _).mp same
    rw [Node.renderAll, Node.renderAll, same_render host items node ofNode,
      same_render_all host items rest ofRest]

end

theorem agree_within_loops (one other : Scope) (outer inner : Value) :
    (Scope.loop (.loop one outer) inner).Agree (.loop (.loop other outer) inner) where
  inside _ _ := rfl
  outside _ _ := rfl

/-- Contexts that agree on the keys that a tree asks for are one and the same to it: they give the same
writes and the same end. Inside two loops nothing but the items of the loops is seen. -/
theorem render_depends_on_keys (host : Host) (node : Node) :
    (∀ one other : Context, (∀ key ∈ node.keys 0, one.get? key = other.get? key) →
      node.render host (.root one) = node.render host (.root other)) ∧
    ∀ (one other : Scope) (outer inner : Value),
      node.render host (.loop (.loop one outer) inner) =
        node.render host (.loop (.loop other outer) inner) :=
  ⟨fun _ _ same => same_render host [] node same,
    fun one other outer inner => agree_render host (agree_within_loops one other outer inner) node⟩

theorem render_depends_on_keys_nested :
    let tree := Node.root [.each (.name "xs.a") [.interpolation (.name "..t.u"),
      .each (.name "iter") [.interpolation (.name "..iter.0"), .interpolation (.name "z")]]]
    let xs := ("xs", Value.map [("a", .array [.array [.int 1]])])
    let t := ("t", Value.map [("u", .string "!")])
    tree.keys 0 = ["xs", "t"] ∧
      ∀ host, (tree.render host (.root ⟨[t, xs]⟩)).writes = ["!", "1"] ∧
        tree.render host (.root ⟨[t, xs]⟩) =
          tree.render host (.root ⟨[("iter", .int 7), t, xs, ("z", .null)]⟩) := by
  refine ⟨by with_unfolding_all rfl, fun host => ⟨by with_unfolding_all rfl, ?_⟩⟩
  apply (render_depends_on_keys host _).1
  intro key asked
  have keys : key ∈ ["xs", "t"] := asked
  rcases List.mem_cons.mp keys with rfl | rest
  · rfl
  · rw [List.mem_singleton.mp rest]
    rfl

end Stencil
