import Stencil.Render

set_option autoImplicit false

namespace Stencil

def Scope.flatten : Scope → Context
  | .root context => context
  | .loop parent item =>
    (Context.empty.insert ".." (.map parent.flatten.vars)).insert "iter" item

-- The head of a path never holds a dot. So no name asks a loop scope for its entry `..`, the only key
-- on which it differs from the context it flattens to.
structure Scope.Agree (one other : Scope) : Prop where
  inside : ∀ key : String, '.' ∉ key.toList → one.lookup? key = other.lookup? key
  outside : ∀ key : String, '.' ∉ key.toList → one.lookupOutside? key = other.lookupOutside? key

theorem path_head_undotted (name : String) : '.' ∉ (Path.ofName name).head.toList := by
  have undotted : ∀ escaped text, '.' ∉ (Path.ofSegments escaped text).head.toList := by
    intro escaped text member
    have inFirst : '.' ∈ (Text.pieces (· == '.') text).1 := by
      simpa only [Path.ofSegments, String.toList_ofList] using member
    have free := Text.pieces_first_free (· == '.') text '.' inFirst
    simp at free
  rw [Path.ofName]
  split
  · exact undotted true _
  · exact undotted false _

section Agreement

variable {one other : Scope}

theorem agree_loop (agree : one.Agree other) (item : Value) :
    (Scope.loop one item).Agree (.loop other item) where
  inside _ _ := rfl
  outside key undotted := agree.inside key undotted

theorem agree_resolve (agree : one.Agree other) (name : String) :
    one.resolve name = other.resolve name := by
  have undotted := path_head_undotted name
  have start := agree.inside _ undotted
  have startOutside := agree.outside _ undotted
  have found : one.find? (Path.ofName name) = other.find? (Path.ofName name) := by
    simp only [Scope.find?, start, startOutside]
  simp only [Scope.resolve, found]

theorem agree_expr (agree : one.Agree other) : Expr.resolve one = Expr.resolve other := by
  funext expr
  cases expr with
  | literal value => rfl
  | name path => exact agree_resolve agree path

theorem agree_holds (agree : one.Agree other) (condition : Condition) :
    condition.holds one = condition.holds other := by
  simp only [Condition.holds, agree_expr agree]

theorem agree_loop_items (agree : one.Agree other) (iterable : Expr) :
    iterable.loopItems one = iterable.loopItems other := by
  simp only [Expr.loopItems, agree_expr agree]

theorem agree_call (agree : one.Agree other) (host : Host) (call : Call) :
    call.result host one = call.result host other := by
  simp only [Call.result, agree_expr agree, agree_resolve agree]

end Agreement

-- Agreement survives entering a loop, so the induction over the tree is over all pairs of scopes.
mutual

theorem agree_render (host : Host) {one other : Scope} (agree : one.Agree other) (node : Node) :
    node.render host one = node.render host other := by
  cases node with
  | root children => exact agree_render_all host agree children
  | text content => rfl
  | interpolation expr => simp only [Node.render, agree_expr agree]
  | each iterable body =>
    have bodies : ∀ item, Node.renderAll host (.loop one item) body =
        Node.renderAll host (.loop other item) body :=
      fun item => agree_render_all host (agree_loop agree item) body
    simp only [Node.render, agree_loop_items agree, bodies]
  | choice condition thenBranch elseBranch =>
    simp only [Node.render, agree_holds agree, agree_render_all host agree thenBranch,
      agree_render_all host agree elseBranch]
  | elseMark => rfl
  | call call => simp only [Node.render, agree_call agree]

theorem agree_render_all (host : Host) {one other : Scope} (agree : one.Agree other)
    (nodes : List Node) : Node.renderAll host one nodes = Node.renderAll host other nodes := by
  cases nodes with
  | nil => rfl
  | cons node rest =>
    rw [Node.renderAll, Node.renderAll, agree_render host agree node]
    simp only [agree_render_all host agree rest]

end

theorem flatten_loop_get (parent : Scope) (item : Value) (key : String) :
    (Scope.loop parent item).flatten.get? key =
      if key = "iter" then some item
      else if key = ".." then some (.map parent.flatten.vars) else none := by
  rw [Scope.flatten, Context.get?_insert, Context.get?_insert]
  rfl

theorem flatten_lookup (scope : Scope) (key : String) (undotted : '.' ∉ key.toList) :
    scope.lookup? key = scope.flatten.get? key := by
  cases scope with
  | root context => rfl
  | loop parent item =>
    have notEscape : key ≠ ".." := by
      rintro rfl
      exact undotted (by decide)
    rw [flatten_loop_get, if_neg notEscape]
    rfl

theorem flatten_agree (scope : Scope) : scope.Agree (.root scope.flatten) where
  inside key undotted := flatten_lookup scope key undotted
  outside key undotted := by
    cases scope with
    | root context => rfl
    | loop parent item =>
      have entry : (Scope.loop parent item).flatten.get? ".." = some (.map parent.flatten.vars) := by
        rw [flatten_loop_get]
        rfl
      calc parent.lookup? key
          = parent.flatten.get? key := flatten_lookup parent key undotted
        _ = (some (Value.map parent.flatten.vars)).bind (Value.attribute? key) := rfl
        _ = (Scope.root (Scope.loop parent item).flatten).lookupOutside? key := by
          rw [Scope.lookupOutside?, entry]

theorem flatten_indistinguishable (host : Host) (scope : Scope) :
    (∀ node : Node, node.render host scope = node.render host (.root scope.flatten)) ∧
      ∀ name : String, scope.resolve name = (Scope.root scope.flatten).resolve name :=
  ⟨fun node => agree_render host (flatten_agree scope) node,
    fun name => agree_resolve (flatten_agree scope) name⟩

end Stencil
