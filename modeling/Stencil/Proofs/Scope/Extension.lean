import Stencil.CommandLine.Builtin
import Stencil.Proofs.Render.Sequence

set_option autoImplicit false

namespace Stencil

def Context.Extends (one other : Context) : Prop :=
  ∀ key value, one.get? key = some value → other.get? key = some value

theorem extends_insert {context : Context} {key : String} (unbound : context.get? key = none)
    (value : Value) : context.Extends (context.insert key value) := by
  intro wanted found bound
  have different : wanted ≠ key := by
    rintro rfl
    cases bound.symm.trans unbound
  rw [Context.get?_insert, if_neg different, bound]

theorem extends_refl (context : Context) : context.Extends context :=
  fun _ _ bound => bound

theorem extends_trans {one middle other : Context} (first : one.Extends middle)
    (second : middle.Extends other) : one.Extends other :=
  fun key value bound => second key value (first key value bound)

theorem extends_builtins (context : Context) : context.Extends (Builtin.addTo context) := by
  rw [Builtin.addTo]
  generalize Builtin.functions = functions
  induction functions generalizing context with
  | nil => exact extends_refl context
  | cons entry rest ih =>
    rw [List.foldl_cons]
    by_cases bound : (context.get? entry.1).isSome = true
    · rw [if_pos bound]
      exact ih context
    · rw [if_neg bound]
      have unbound := Option.not_isSome_iff_eq_none.mp bound
      exact extends_trans (extends_insert unbound _) (ih _)

structure Scope.Extends (one other : Scope) : Prop where
  inside : ∀ key value, one.lookup? key = some value → other.lookup? key = some value
  outside : ∀ key value, one.lookupOutside? key = some value → other.lookupOutside? key = some value

theorem extends_root {one other : Context} (larger : one.Extends other) :
    (Scope.root one).Extends (.root other) where
  inside := larger
  outside key value found := by
    obtain ⟨around, bound, reached⟩ := Option.bind_eq_some_iff.mp found
    rw [Scope.lookupOutside?, larger ".." around bound]
    exact reached

theorem extends_loop {one other : Scope} (larger : one.Extends other) (item : Value) :
    (Scope.loop one item).Extends (.loop other item) where
  inside _ _ found := found
  outside := larger.inside

def Missed {α : Type} (result : Except Error α) : Prop :=
  ∃ error, result = .error error ∧ error.kind = .context

-- The larger scope gives the same result, or the smaller one misses a variable and what the larger one
-- gives does not matter.
inductive Kept {α : Type} (one other : Except Error α) : Prop where
  | missed (missed : Missed one)
  | same (same : other = one)

section Results

variable {α β : Type} {one other : Except Error α}

theorem kept_bind (kept : Kept one other) {use useOther : α → Except Error β}
    (next : ∀ a, Kept (use a) (useOther a)) : Kept (one >>= use) (other >>= useOther) := by
  cases kept with
  | missed missed =>
    obtain ⟨error, rfl, kind⟩ := missed
    exact .missed ⟨error, rfl, kind⟩
  | same same =>
    subst same
    cases other with
    | error error => exact .same rfl
    | ok a => exact next a

theorem kept_refl (result : Except Error α) : Kept result result :=
  .same rfl

theorem kept_map (kept : Kept one other) (change : α → β) :
    Kept (one.map change) (other.map change) := by
  cases kept with
  | missed missed =>
    obtain ⟨error, rfl, kind⟩ := missed
    exact .missed ⟨error, rfl, kind⟩
  | same same => exact .same (by rw [same])

theorem kept_mapM {use useOther : α → Except Error β} (kept : ∀ a, Kept (use a) (useOther a))
    (list : List α) : Kept (list.mapM use) (list.mapM useOther) := by
  induction list with
  | nil => exact kept_refl _
  | cons a rest ih =>
    rw [List.mapM_cons, List.mapM_cons]
    exact kept_bind (kept a) fun b => kept_bind ih fun more => kept_refl _

end Results

section Readers

variable {one other : Scope}

theorem walk_none (segments : List String) :
    segments.foldl (fun value segment => value.bind (Value.attribute? segment)) none = none := by
  induction segments with
  | nil => rfl
  | cons segment rest ih => exact ih

theorem find_extends (larger : one.Extends other) {path : Path} {value : Value}
    (found : one.find? path = some value) : other.find? path = some value := by
  have started : ∀ start : Option Value, path.rest.foldl
      (fun value segment => value.bind (Value.attribute? segment)) start = some value →
      ∃ first, start = some first := by
    intro start reached
    cases start with
    | some first => exact ⟨first, rfl⟩
    | none => cases (walk_none path.rest).symm.trans reached
  rw [Scope.find?] at found ⊢
  obtain ⟨first, start⟩ := started _ found
  by_cases escaped : path.escaped = true
  · rw [if_pos escaped] at start found ⊢
    rw [larger.outside path.head first start]
    rwa [start] at found
  · rw [if_neg escaped] at start found ⊢
    rw [larger.inside path.head first start]
    rwa [start] at found

theorem resolve_kept (larger : one.Extends other) (name : String) :
    Kept (one.resolve name) (other.resolve name) := by
  rw [Scope.resolve, Scope.resolve]
  cases found : one.find? (Path.ofName name) with
  | none => exact .missed ⟨.unresolved name, rfl, rfl⟩
  | some value =>
    rw [find_extends larger found]
    exact kept_refl _

theorem expr_kept (larger : one.Extends other) (expr : Expr) :
    Kept (expr.resolve one) (expr.resolve other) := by
  cases expr with
  | literal value => exact kept_refl _
  | name path => exact resolve_kept larger path

theorem holds_kept (larger : one.Extends other) (condition : Condition) :
    Kept (condition.holds one) (condition.holds other) := by
  obtain ⟨lhs, comparison⟩ := condition
  refine kept_bind (expr_kept larger lhs) fun left => ?_
  cases comparison with
  | none => exact kept_refl _
  | some pair =>
    dsimp only
    cases Comparison.ofSymbol? pair.1 with
    | none => exact kept_refl _
    | some comparison => exact kept_bind (expr_kept larger pair.2) fun right => kept_refl _

theorem loop_items_kept (larger : one.Extends other) (iterable : Expr) :
    Kept (iterable.loopItems one) (iterable.loopItems other) :=
  kept_bind (expr_kept larger iterable) fun _ => kept_refl _

theorem call_kept (larger : one.Extends other) (host : Host) (call : Call) :
    Kept (call.result host one) (call.result host other) := by
  refine kept_bind (kept_mapM (expr_kept larger) call.args) fun args => ?_
  refine kept_bind (kept_mapM (fun pair => kept_map (expr_kept larger pair.2) _) call.kwargs) ?_
  intro kwargs
  exact kept_bind (resolve_kept larger call.callee) fun callee => kept_refl _

end Readers

inductive Output.Kept (one other : Output) : Prop where
  | missed (missed : Missed one.result) (begun : one.writes <+: other.writes)
  | same (same : other = one)

namespace Output

theorem kept_self (output : Output) : output.Kept output :=
  .same rfl

theorem writes_and_then (first : Output) (second : Unit → Output) :
    first.writes <+: (first.andThen second).writes := by
  cases ended : first.result with
  | error error =>
    have stopped := congrArg writes (andThen_of_error ended second)
    exact ⟨[], by rw [List.append_nil, stopped]⟩
  | ok _ =>
    rw [andThen, ended]
    exact List.prefix_append first.writes _

theorem kept_and_then {one other : Output} {next nextOther : Unit → Output} (kept : one.Kept other)
    (later : (next ()).Kept (nextOther ())) : (one.andThen next).Kept (other.andThen nextOther) := by
  cases kept with
  | missed missed begun =>
    have stopped : one.andThen next = one := by
      obtain ⟨error, failed, _⟩ := missed
      exact andThen_of_error failed next
    rw [stopped]
    exact .missed missed (begun.trans (writes_and_then other nextOther))
  | same same =>
    subst same
    cases ended : other.result with
    | error error =>
      rw [andThen_of_error ended, andThen_of_error ended]
      exact kept_self other
    | ok _ =>
      cases later with
      | missed missed begun =>
        refine .missed ?_ ?_
        · rwa [result_andThen ended]
        · rw [andThen, andThen, ended]
          exact (List.prefix_append_right_inj other.writes).mpr begun
      | same same => exact .same (by rw [andThen, andThen, same])

theorem kept_for_each {α : Type} {body bodyOther : α → Output}
    (kept : ∀ item, (body item).Kept (bodyOther item)) (items : List α) :
    (forEach body items).Kept (forEach bodyOther items) := by
  induction items with
  | nil => exact kept_self _
  | cons item rest ih => exact kept_and_then (kept item) ih

theorem kept_of_result {α : Type} {use useOther : α → Output} {one other : Except Error α}
    (kept : Stencil.Kept one other) (uses : ∀ a, (use a).Kept (useOther a)) :
    (ofResult use one).Kept (ofResult useOther other) := by
  cases kept with
  | missed missed =>
    obtain ⟨error, rfl, kind⟩ := missed
    exact .missed ⟨error, rfl, kind⟩ List.nil_prefix
  | same same =>
    subst same
    cases other with
    | error error => exact kept_self _
    | ok a => exact uses a

end Output

-- The larger scope stays larger inside a loop, so the induction over the tree is over all pairs of scopes.
mutual

theorem render_kept (host : Host) {one other : Scope} (larger : one.Extends other) (node : Node) :
    (node.render host one).Kept (node.render host other) := by
  cases node with
  | root children => exact render_all_kept host larger children
  | text content => exact Output.kept_self _
  | interpolation expr => exact Output.kept_of_result (expr_kept larger expr) fun _ => Output.kept_self _
  | each iterable body =>
    apply Output.kept_of_result (loop_items_kept larger iterable)
    exact Output.kept_for_each fun item => render_all_kept host (extends_loop larger item) body
  | choice condition thenBranch elseBranch =>
    apply Output.kept_of_result (holds_kept larger condition)
    intro holds
    cases holds with
    | true => exact render_all_kept host larger thenBranch
    | false => exact render_all_kept host larger elseBranch
  | elseMark => exact Output.kept_self _
  | call call => exact Output.kept_of_result (call_kept larger host call) fun _ => Output.kept_self _

theorem render_all_kept (host : Host) {one other : Scope} (larger : one.Extends other)
    (nodes : List Node) :
    (Node.renderAll host one nodes).Kept (Node.renderAll host other nodes) := by
  cases nodes with
  | nil => exact Output.kept_self _
  | cons node rest =>
    exact Output.kept_and_then (render_kept host larger node) (render_all_kept host larger rest)

end

namespace Buffer

theorem writeAll_refused {buffer after : Buffer} {texts : List String}
    (refused : buffer.writeAll texts = (after, false)) (more : List String) :
    buffer.writeAll (texts ++ more) = (after, false) := by
  induction texts generalizing buffer with
  | nil => cases refused
  | cons text rest ih =>
    rw [writeAll] at refused
    rw [List.cons_append, writeAll]
    cases written : buffer.write? text with
    | none =>
      rw [written] at refused
      exact refused
    | some longer =>
      rw [written] at refused
      exact ih refused

theorem accept_kept {one other : Output} (kept : one.Kept other) {buffer : Buffer}
    (found : ¬ Missed (buffer.accept one).2) : buffer.accept other = buffer.accept one := by
  cases kept with
  | same same => rw [same]
  | missed missed begun =>
    obtain ⟨more, begun⟩ := begun
    rw [accept] at found
    rw [accept, accept, ← begun]
    cases written : buffer.writeAll one.writes with
    | mk after whole =>
      cases whole with
      | true =>
        rw [written] at found
        exact absurd missed found
      | false => rw [writeAll_refused written more]

end Buffer

theorem render_extends {one other : Context} (larger : one.Extends other) (host : Host)
    (template : Template) :
    (¬ Missed (template.render host one) →
      template.output host other = template.output host one ∧
        template.render host other = template.render host one) ∧
    ∀ buffer, ¬ Missed (template.renderInto host one buffer).2 →
      template.renderInto host other buffer = template.renderInto host one buffer := by
  have kept : (template.output host one).Kept (template.output host other) :=
    render_kept host (extends_root larger) template.root
  refine ⟨fun found => ?_, fun buffer found => Buffer.accept_kept kept found⟩
  cases kept with
  | missed missed begun =>
    obtain ⟨error, failed, kind⟩ := missed
    exact absurd ⟨error, by rw [Template.render, Output.complete, failed]; rfl, kind⟩ found
  | same same => exact ⟨same, by rw [Template.render, same]; rfl⟩

theorem render_extends_loop :
    let template : Template := ⟨"{% each xs %}{{ iter }}{{ ..t }}{% end %}",
      .root [.each (.name "xs") [.interpolation (.name "iter"), .interpolation (.name "..t")]]⟩
    let context : Context := ⟨[("t", .string "!"), ("xs", .array [.int 1, .int 2])]⟩
    let larger := Builtin.addTo (context.insert ".." (.map [("t", .null)]))
    ∀ host, template.render host context = .ok "1!2!" ∧ template.render host larger = .ok "1!2!" := by
  intro template context larger host
  have rendered : template.render host context = .ok "1!2!" := by with_unfolding_all rfl
  have extended : context.Extends larger := extends_trans (extends_insert rfl _) (extends_builtins _)
  have found : ¬ Missed (template.render host context) := by
    intro missed
    obtain ⟨error, failed, _⟩ := missed
    cases rendered.symm.trans failed
  refine ⟨rendered, ?_⟩
  rw [((render_extends extended host template).1 found).2, rendered]

end Stencil
