import Stencil.Proofs.Node.Name
import Stencil.Proofs.Node.Occurrence
import Stencil.Proofs.Render.Writing
import Stencil.Proofs.Scope.Path

set_option autoImplicit false

namespace Stencil

def Call.Raises (host : Host) (scope : Scope) (invocation : Call) (error : Error) : Prop :=
  ∃ function args kwargs, scope.resolve invocation.callee = .ok (.function function) ∧
    invocation.args.mapM (Expr.resolve scope) = .ok args ∧
    (invocation.kwargs.mapM fun (key, arg) => (arg.resolve scope).map (key, ·)) = .ok kwargs ∧
    host.call function args (Entries.ofPairs kwargs) = .error error

namespace Node

-- Rendering the tree over the context comes to this node in this scope, if nothing fails before.
inductive Reaches (context : Context) (tree : Node) : Scope → Node → Prop where
  | start : Reaches context tree (.root context) tree
  | child {scope : Scope} {children : List Node} {node : Node}
      (reached : Reaches context tree scope (.root children)) (member : node ∈ children) :
      Reaches context tree scope node
  | body {scope : Scope} {iterable : Expr} {body : List Node} {items : List Value} {item : Value}
      {node : Node} (reached : Reaches context tree scope (.each iterable body))
      (looped : iterable.loopItems scope = .ok items) (current : item ∈ items) (member : node ∈ body) :
      Reaches context tree (.loop scope item) node
  | branch {scope : Scope} {condition : Condition} {thenBranch elseBranch : List Node} {holds : Bool}
      {node : Node} (reached : Reaches context tree scope (.choice condition thenBranch elseBranch))
      (decided : condition.holds scope = .ok holds)
      (member : node ∈ if holds then thenBranch else elseBranch) : Reaches context tree scope node

inductive Fails (host : Host) (scope : Scope) : Node → Error → Prop where
  | raised {invocation : Call} {error : Error} (raises : invocation.Raises host scope error) :
      Fails host scope (.call invocation) error
  | unresolved {node : Node} {name : String} (stands : name ∈ node.names)
      (missing : scope.find? (Path.ofName name) = none) : Fails host scope node (.unresolved name)
  | unknownOperator {lhs rhs : Expr} {symbol : String} {thenBranch elseBranch : List Node}
      (unknown : symbol ∉ [">", "<", "==", ">=", "<=", "!="]) :
      Fails host scope (.choice ⟨lhs, some (symbol, rhs)⟩ thenBranch elseBranch)
        (.unknownOperator symbol)
  | notCallable {invocation : Call} {value : Value} {error : Error}
      (resolved : scope.resolve invocation.callee = .ok value) (other : value.kind ≠ .function)
      (kind : error.kind = .template)
      (message : error.message = "'" ++ invocation.callee ++ "' is not callable") :
      Fails host scope (.call invocation) error
  | notIterable {iterable : Expr} {body : List Node} {value : Value} {error : Error}
      (resolved : iterable.resolve scope = .ok value) (itemless : value.loopItems? = none)
      (kind : error.kind = .template)
      (message : error.message =
        "'" ++ iterable.text ++ "' (" ++ value.kind.name ++ ") is not iterable") :
      Fails host scope (.each iterable body) error
  | incomparable {lhs rhs : Expr} {symbol : String} {thenBranch elseBranch : List Node}
      {left right : Value} {error : Error} (resolvedLeft : lhs.resolve scope = .ok left)
      (resolvedRight : rhs.resolve scope = .ok right) (unordered : left.order right = none)
      (kind : error.kind = .template)
      (message : error.message =
        "cannot compare " ++ left.kind.name ++ " with " ++ right.kind.name) :
      Fails host scope (.choice ⟨lhs, some (symbol, rhs)⟩ thenBranch elseBranch) error

end Node

theorem bind_error {α β : Type} {first : Except Error α} {next : α → Except Error β} {error : Error}
    (failed : (first >>= next) = .error error) :
    first = .error error ∨ ∃ a, first = .ok a ∧ next a = .error error := by
  cases first with
  | error reason =>
    cases failed
    exact .inl rfl
  | ok a => exact .inr ⟨a, rfl, failed⟩

theorem map_error {α β : Type} {first : Except Error α} {change : α → β} {error : Error}
    (failed : first.map change = .error error) : first = .error error := by
  cases first with
  | error reason =>
    cases failed
    rfl
  | ok a => cases failed

theorem mapM_error {α β : Type} {use : α → Except Error β} {list : List α} {error : Error}
    (failed : list.mapM use = .error error) : ∃ a ∈ list, use a = .error error := by
  induction list with
  | nil => cases failed
  | cons a rest ih =>
    rw [List.mapM_cons] at failed
    rcases bind_error failed with here | ⟨b, _, later⟩
    · exact ⟨a, List.mem_cons_self, here⟩
    · rcases bind_error later with inRest | ⟨values, _, done⟩
      · obtain ⟨c, member, same⟩ := ih inRest
        exact ⟨c, List.mem_cons_of_mem a member, same⟩
      · cases done

section Readers

variable {host : Host} {scope : Scope} {error : Error}

theorem expr_error {node : Node} {expr : Expr} (held : expr ∈ node.exprs)
    (failed : expr.resolve scope = .error error) : node.Fails host scope error := by
  cases expr with
  | literal value => cases failed
  | name path =>
    obtain ⟨missing, rfl⟩ := (Scope.resolve_error_iff scope path error).mp failed
    exact .unresolved (Node.name_of_expr held (List.mem_singleton_self path)) missing

theorem unknown_symbol {symbol : String} (unknown : Comparison.ofSymbol? symbol = none) :
    symbol ∉ [">", "<", "==", ">=", "<=", "!="] := by
  intro member
  simp only [List.mem_cons, List.not_mem_nil, or_false] at member
  rcases member with rfl | rfl | rfl | rfl | rfl | rfl <;> cases unknown

theorem comparison_error {comparison : Comparison} {left right : Value}
    (failed : comparison.holds left right = .error error) :
    left.order right = none ∧ error = .incomparable left.kind right.kind := by
  have unordered : Comparison.ordered left right = .error error := by
    cases comparison with
    | eq => cases failed
    | ne => cases failed
    | gt => exact map_error failed
    | lt => exact map_error failed
    | ge => exact map_error failed
    | le => exact map_error failed
  rw [Comparison.ordered] at unordered
  split at unordered
  · cases unordered
  · rename_i none
    cases unordered
    exact ⟨none, rfl⟩

theorem holds_error {condition : Condition} {thenBranch elseBranch : List Node}
    (failed : condition.holds scope = .error error) :
    (Node.choice condition thenBranch elseBranch).Fails host scope error := by
  obtain ⟨lhs, comparison⟩ := condition
  rcases bind_error failed with ofLeft | ⟨left, resolvedLeft, later⟩
  · refine expr_error ?_ ofLeft
    cases comparison <;> exact List.mem_cons_self
  · cases comparison with
    | none => cases later
    | some pair =>
      obtain ⟨symbol, rhs⟩ := pair
      dsimp only at later
      split at later
      · rename_i unknown
        cases later
        exact .unknownOperator (unknown_symbol unknown)
      · rcases bind_error later with ofRight | ⟨right, resolvedRight, compared⟩
        · exact expr_error (List.mem_cons_of_mem _ (List.mem_singleton_self rhs)) ofRight
        · obtain ⟨unordered, rfl⟩ := comparison_error compared
          exact .incomparable resolvedLeft resolvedRight unordered rfl rfl

theorem loop_items_error {iterable : Expr} {body : List Node}
    (failed : iterable.loopItems scope = .error error) :
    (Node.each iterable body).Fails host scope error := by
  rcases bind_error failed with unresolved | ⟨value, resolved, later⟩
  · exact expr_error (List.mem_singleton_self iterable) unresolved
  · split at later
    · cases later
    · rename_i itemless
      cases later
      exact .notIterable resolved itemless rfl rfl

theorem call_error {invocation : Call} (failed : invocation.result host scope = .error error) :
    (Node.call invocation).Fails host scope error := by
  rcases bind_error failed with ofArgs | ⟨args, argsResolved, failed⟩
  · obtain ⟨arg, member, unresolved⟩ := mapM_error ofArgs
    exact expr_error (List.mem_append_left _ member) unresolved
  rcases bind_error failed with ofKwargs | ⟨kwargs, kwargsResolved, failed⟩
  · obtain ⟨pair, member, unresolved⟩ := mapM_error ofKwargs
    exact expr_error (List.mem_append_right _ (List.mem_map_of_mem member)) (map_error unresolved)
  rcases bind_error failed with ofCallee | ⟨callee, resolved, failed⟩
  · obtain ⟨missing, rfl⟩ := (Scope.resolve_error_iff scope _ error).mp ofCallee
    exact .unresolved (List.mem_append_right _ (List.mem_singleton_self _)) missing
  · split at failed
    · exact .raised ⟨_, args, kwargs, resolved, argsResolved, kwargsResolved, failed⟩
    · rename_i notFunction
      cases failed
      refine .notCallable resolved (fun kind => ?_) rfl rfl
      cases callee with
      | function function => exact notFunction function rfl
      | _ => cases kind

end Readers

section Outputs

variable {error : Error}

theorem and_then_error {first : Output} {second : Unit → Output}
    (failed : (first.andThen second).result = .error error) :
    first.result = .error error ∨ (second ()).result = .error error := by
  rw [Output.andThen] at failed
  split at failed
  · exact .inr failed
  · exact .inl failed

theorem for_each_error {α : Type} {body : α → Output} {items : List α}
    (failed : (Output.forEach body items).result = .error error) :
    ∃ item ∈ items, (body item).result = .error error := by
  induction items with
  | nil => cases failed
  | cons item rest ih =>
    rcases and_then_error failed with here | later
    · exact ⟨item, List.mem_cons_self, here⟩
    · obtain ⟨other, member, same⟩ := ih later
      exact ⟨other, List.mem_cons_of_mem item member, same⟩

theorem of_result_error {α : Type} {use : α → Output} {result : Except Error α}
    (failed : (Output.ofResult use result).result = .error error) :
    result = .error error ∨ ∃ value, result = .ok value ∧ (use value).result = .error error := by
  cases result with
  | ok value => exact .inr ⟨value, rfl, failed⟩
  | error reason =>
    cases failed
    exact .inl rfl

end Outputs

-- The scope grows with every loop that is entered, so the induction is over the node in any scope that
-- the rendering has come to.
mutual

theorem failing_node {host : Host} {context : Context} {tree : Node} {error : Error} {scope : Scope}
    (node : Node) (reached : tree.Reaches context scope node)
    (failed : (node.render host scope).result = .error error) :
    ∃ place culprit, tree.Reaches context place culprit ∧ culprit.Fails host place error := by
  cases node with
  | root children => exact failing_nodes children (fun child member => .child reached member) failed
  | text content => cases failed
  | interpolation expr =>
    rcases of_result_error failed with unresolved | ⟨value, _, written⟩
    · exact ⟨scope, _, reached, expr_error (List.mem_singleton_self expr) unresolved⟩
    · cases written
  | each iterable body =>
    rcases of_result_error failed with itemless | ⟨items, looped, failed⟩
    · exact ⟨scope, _, reached, loop_items_error itemless⟩
    · obtain ⟨item, current, failed⟩ := for_each_error failed
      exact failing_nodes body (fun child member => .body reached looped current member) failed
  | choice condition thenBranch elseBranch =>
    rcases of_result_error failed with undecided | ⟨holds, decided, failed⟩
    · exact ⟨scope, _, reached, holds_error undecided⟩
    · cases holds with
      | true =>
        exact failing_nodes thenBranch (fun child member => .branch reached decided member) failed
      | false =>
        exact failing_nodes elseBranch (fun child member => .branch reached decided member) failed
  | elseMark => cases failed
  | call invocation =>
    rcases of_result_error failed with refused | ⟨value, _, written⟩
    · exact ⟨scope, _, reached, call_error refused⟩
    · cases written

theorem failing_nodes {host : Host} {context : Context} {tree : Node} {error : Error} {scope : Scope}
    (nodes : List Node) (reached : ∀ node ∈ nodes, tree.Reaches context scope node)
    (failed : (Node.renderAll host scope nodes).result = .error error) :
    ∃ place culprit, tree.Reaches context place culprit ∧ culprit.Fails host place error := by
  cases nodes with
  | nil => cases failed
  | cons node rest =>
    rcases and_then_error failed with here | later
    · exact failing_node node (reached node List.mem_cons_self) here
    · exact failing_nodes rest (fun other member => reached other (List.mem_cons_of_mem node member)) later

end

theorem occurs_of_reaches {context : Context} {tree node : Node} {scope : Scope}
    (reached : tree.Reaches context scope node) : tree.Occurs node := by
  induction reached with
  | start => exact .itself
  | child _ member ih => exact .inside ih (List.mem_singleton_self _) member
  | body _ _ _ member ih => exact .inside ih (List.mem_singleton_self _) member
  | @branch _ _ thenBranch elseBranch holds _ _ _ member ih =>
    refine .inside ih ?_ member
    cases holds with
    | true => exact List.mem_cons_self
    | false => exact List.mem_cons_of_mem _ (List.mem_singleton_self _)

theorem message_not_refused {message : String} (begins : message.toList.head? ≠ some 'f') :
    message ≠ "failed to write rendered output" := by
  rintro rfl
  exact begins rfl

theorem raised_of_foreign {host : Host} {scope : Scope} {node : Node} {error : Error}
    (fails : node.Fails host scope error)
    (foreign : error.kind = .malformed ∨ error.message = "failed to write rendered output") :
    ∃ invocation, node = .call invocation ∧ invocation.Raises host scope error := by
  have own : error.kind ≠ .malformed → error.message ≠ "failed to write rendered output" → False :=
    fun otherKind otherMessage => foreign.elim otherKind otherMessage
  cases fails with
  | @raised invocation _ raises => exact ⟨invocation, rfl, raises⟩
  | @unresolved _ name _ _ =>
    have message : (Error.unresolved name).message = "Cannot resolve '" ++ name ++ "'." := rfl
    refine (own (fun same => by cases same) (message_not_refused ?_)).elim
    simp [message]
  | @unknownOperator _ _ symbol _ _ _ =>
    have message : (Error.unknownOperator symbol).message =
        "'" ++ symbol ++ "' is an invalid operator." := rfl
    refine (own (fun same => by cases same) (message_not_refused ?_)).elim
    simp [message]
  | notCallable _ _ kind message =>
    refine (own (by simp [kind]) (message_not_refused ?_)).elim
    simp [message]
  | notIterable _ _ kind message =>
    refine (own (by simp [kind]) (message_not_refused ?_)).elim
    simp [message]
  | incomparable _ _ _ kind message =>
    refine (own (by simp [kind]) (message_not_refused ?_)).elim
    simp [message]

/-- A rendering that fails has come to a node of the tree that fails by itself, and the error is that of
this node. An error of malformed markup or of a refused write is one that a called function returned. -/
theorem render_error_origin {template : Template} {host : Host} {context : Context} {before : String}
    {error : Error} (failed : (template.renderInto host context ⟨before, none⟩).2 = .error error) :
    ∃ scope node, template.root.Reaches context scope node ∧ template.root.Occurs node ∧
      node.Fails host scope error ∧
      (error.kind = .malformed ∨ error.message = "failed to write rendered output" →
        ∃ invocation, node = .call invocation ∧ invocation.Raises host scope error) := by
  have taken : (⟨before, none⟩ : Buffer).Takes (template.output host context).text :=
    .inr fun limit limited => by cases limited
  have accepted := (Writing.accept_follows (template.output host context)).taken _ taken
  rw [Template.renderInto, accepted] at failed
  obtain ⟨scope, node, reached, fails⟩ := failing_node template.root .start failed
  exact ⟨scope, node, reached, occurs_of_reaches reached, fails, raised_of_foreign fails⟩

theorem render_error_origin_raised :
    let error := Error.malformed "frag" (.other "bad luck")
    let host := Host.mk fun _ _ _ => .error error
    let test := Condition.mk (.name "iter") (some (">", .literal (.int 1)))
    let template := Template.mk "" (.root [.each (.name "xs")
      [.choice test [.call ⟨"..f", [.name "iter"], [("k", .name "..f")]⟩] [.text "small"]]])
    let context := Context.mk [("f", .function ⟨"f"⟩), ("xs", .array [.int 1, .int 2])]
    template.renderInto host context ⟨"a", none⟩ = (⟨"asmall", none⟩, .error error) ∧
      ∃ scope invocation, template.root.Reaches context scope (.call invocation) ∧
        invocation.Raises host scope error := by
  intro error host test template context
  have stopped : template.renderInto host context ⟨"a", none⟩ = (⟨"asmall", none⟩, .error error) := by
    with_unfolding_all rfl
  obtain ⟨scope, node, reached, _, _, foreign⟩ := render_error_origin (congrArg Prod.snd stopped)
  obtain ⟨invocation, rfl, raises⟩ := foreign (.inl rfl)
  exact ⟨stopped, scope, invocation, reached, raises⟩

end Stencil
