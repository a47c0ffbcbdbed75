import Mathlib.Data.List.Forall2
import Stencil.Proofs.Scope.Path
import Stencil.Proofs.Template.CallTag

set_option autoImplicit false

namespace Stencil

namespace Argument

inductive StandsFor (scope : Scope) (text : String) : Value → Prop where
  | literal {value : Value} (reads : Literal.read? text = some value) : StandsFor scope text value
  | bound {value : Value} (unread : Literal.read? text = none)
      (resolves : scope.resolve text = .ok value) : StandsFor scope text value

inductive FirstMissing (scope : Scope) : List String → String → Prop where
  | here {name : String} {rest : List String} (missing : ¬ ∃ value, StandsFor scope name value) :
      FirstMissing scope (name :: rest) name
  | later {text name : String} {value : Value} {rest : List String}
      (stands : StandsFor scope text value) (missing : FirstMissing scope rest name) :
      FirstMissing scope (text :: rest) name

section Lookup

variable {scope : Scope} {text : String}

theorem stands_for_iff (value : Value) :
    StandsFor scope text value ↔ (Expr.ofText text).resolve scope = .ok value := by
  rw [Expr.ofText]
  constructor
  · intro stands
    cases stands with
    | literal reads => rw [reads]; rfl
    | bound unread resolves => rw [unread]; exact resolves
  · intro resolves
    cases read : Literal.read? text with
    | some literal =>
      rw [read] at resolves
      cases resolves
      exact .literal read
    | none =>
      rw [read] at resolves
      exact .bound read resolves

theorem missing_unresolved (missing : ¬ ∃ value, StandsFor scope text value) :
    (Expr.ofText text).resolve scope = .error (.unresolved text) := by
  rw [Expr.ofText]
  cases read : Literal.read? text with
  | some literal => exact absurd ⟨literal, .literal read⟩ missing
  | none =>
    refine Scope.resolve_missing ?_
    rintro ⟨value, resolves⟩
    exact missing ⟨value, .bound read resolves⟩

theorem missing_append (one other : List String) (name : String) :
    FirstMissing scope (one ++ other) name ↔
      FirstMissing scope one name ∨
        (∃ values, List.Forall₂ (StandsFor scope) one values) ∧ FirstMissing scope other name := by
  induction one with
  | nil =>
    constructor
    · exact fun missing => .inr ⟨⟨[], .nil⟩, missing⟩
    · rintro (missing | ⟨_, missing⟩)
      · cases missing
      · exact missing
  | cons text rest ih =>
    constructor
    · intro missing
      cases missing with
      | here missing => exact .inl (.here missing)
      | later stands missing =>
        rcases ih.mp missing with here | ⟨⟨values, found⟩, later⟩
        · exact .inl (.later stands here)
        · exact .inr ⟨⟨_, .cons stands found⟩, later⟩
    · rintro (missing | ⟨⟨_, found⟩, missing⟩)
      · cases missing with
        | here missing => exact .here missing
        | later stands missing => exact .later stands (ih.mpr (.inl missing))
      · cases found with
        | cons stands found => exact .later stands (ih.mpr (.inr ⟨⟨_, found⟩, missing⟩))

theorem found_or_missing (scope : Scope) (texts : List String) :
    (∃ values, List.Forall₂ (StandsFor scope) texts values) ∨
      ∃ name, FirstMissing scope texts name := by
  induction texts with
  | nil => exact .inl ⟨[], .nil⟩
  | cons text rest ih =>
    by_cases found : ∃ value, StandsFor scope text value
    · obtain ⟨value, stands⟩ := found
      rcases ih with ⟨values, more⟩ | ⟨name, missing⟩
      · exact .inl ⟨_, .cons stands more⟩
      · exact .inr ⟨name, .later stands missing⟩
    · exact .inr ⟨text, .here found⟩

theorem all_found {texts : List String} {values : List Value}
    (stand : List.Forall₂ (StandsFor scope) texts values) :
    (texts.map Expr.ofText).mapM (Expr.resolve scope) = .ok values := by
  induction stand with
  | nil => rfl
  | cons stands _ ih =>
    rw [List.map_cons, List.mapM_cons, (stands_for_iff _).mp stands, ih]
    rfl

theorem first_missing {texts : List String} {name : String}
    (missing : FirstMissing scope texts name) :
    (texts.map Expr.ofText).mapM (Expr.resolve scope) = .error (.unresolved name) := by
  induction missing with
  | here missing =>
    rw [List.map_cons, List.mapM_cons, missing_unresolved missing]
    rfl
  | later stands _ ih =>
    rw [List.map_cons, List.mapM_cons, (stands_for_iff _).mp stands, ih]
    rfl

end Lookup

theorem mapM_keyed {α β γ : Type} (use : β → Except Error γ) (keys : List α) (operands : List β)
    (same : keys.length = operands.length) :
    ((keys.zip operands).mapM fun (key, operand) => (use operand).map (key, ·)) =
      (operands.mapM use).map (keys.zip ·) := by
  induction keys generalizing operands with
  | nil =>
    cases operands with
    | nil => rfl
    | cons => cases same
  | cons key keys ih =>
    cases operands with
    | nil => cases same
    | cons operand operands =>
      rw [List.zip_cons_cons, List.mapM_cons, ih operands (Nat.succ.inj same), List.mapM_cons]
      dsimp only
      cases use operand with
      | error error => rfl
      | ok value => cases operands.mapM use <;> rfl

end Argument

namespace Call

open Argument

structure Supplied (scope : Scope) (arguments : List String) (args values : List Value) : Prop where
  positional : List.Forall₂ (StandsFor scope) (positionals arguments) args
  keyword : List.Forall₂ (StandsFor scope) (operands arguments) values

structure Bound (arguments : List String) (values : List Value) (kwargs : List (String × Value)) :
    Prop where
  ordered : Entries.Ordered kwargs
  last : ∀ key, Entries.get? key kwargs = Entries.last? key ((keys arguments).zip values)

-- What a call with these arguments renders to. Arguments without `=` come before those with `=`, in the
-- order of the source, and all of them before the callee. Only then is a function asked.
inductive Renders (host : Host) (scope : Scope) (callee : String) (arguments : List String) :
    Output → Prop where
  | missing {name : String}
      (first : FirstMissing scope (positionals arguments ++ operands arguments) name) :
      Renders host scope callee arguments (.fail (.unresolved name))
  | unnamed {args values : List Value} (supplied : Supplied scope arguments args values)
      (unresolved : ¬ ∃ value, scope.resolve callee = .ok value) :
      Renders host scope callee arguments (.fail (.unresolved callee))
  | uncallable {args values : List Value} {value : Value}
      (supplied : Supplied scope arguments args values) (resolves : scope.resolve callee = .ok value)
      (other : value.kind ≠ .function) :
      Renders host scope callee arguments (.fail (.notCallable callee))
  | failed {args values : List Value} {function : Function} {kwargs : List (String × Value)}
      {error : Error} (supplied : Supplied scope arguments args values)
      (resolves : scope.resolve callee = .ok (.function function))
      (bound : Bound arguments values kwargs) (returned : host.call function args kwargs = .error error) :
      Renders host scope callee arguments (.fail error)
  | shown {args values : List Value} {function : Function} {kwargs : List (String × Value)}
      {value : Value} (supplied : Supplied scope arguments args values)
      (resolves : scope.resolve callee = .ok (.function function))
      (bound : Bound arguments values kwargs) (returned : host.call function args kwargs = .ok value) :
      Renders host scope callee arguments (.write value.text)

theorem supplied_or_missing (scope : Scope) (arguments : List String) :
    (∃ args values, Supplied scope arguments args values) ∨
      ∃ name, FirstMissing scope (positionals arguments ++ operands arguments) name := by
  rcases found_or_missing scope (positionals arguments) with ⟨args, found⟩ | ⟨name, missing⟩
  · rcases found_or_missing scope (operands arguments) with ⟨values, keyed⟩ | ⟨name, missing⟩
    · exact .inl ⟨args, values, found, keyed⟩
    · exact .inr ⟨name, (missing_append _ _ name).mpr (.inr ⟨⟨args, found⟩, missing⟩)⟩
  · exact .inr ⟨name, (missing_append _ _ name).mpr (.inl missing)⟩

section Result

variable (host : Host) {scope : Scope} (callee : String) {arguments : List String}

theorem kwargs_eq :
    ((ofArguments callee arguments).kwargs.mapM fun (key, arg) =>
        (arg.resolve scope).map (key, ·)) =
      (((operands arguments).map Expr.ofText).mapM (Expr.resolve scope)).map
        ((keys arguments).zip ·) := by
  rw [ofArguments, mapM_keyed _ _ _ (by simp [keys, operands])]

theorem result_missing {name : String}
    (missing : FirstMissing scope (positionals arguments ++ operands arguments) name) :
    (ofArguments callee arguments).result host scope = .error (.unresolved name) := by
  rw [result, kwargs_eq]
  rcases (missing_append _ _ name).mp missing with positional | ⟨⟨args, found⟩, keyword⟩
  · rw [ofArguments, first_missing positional]
    rfl
  · rw [first_missing keyword, ofArguments, all_found found]
    rfl

theorem result_supplied {args values : List Value} (supplied : Supplied scope arguments args values) :
    (ofArguments callee arguments).result host scope =
      scope.resolve callee >>= fun
        | .function function =>
          host.call function args (Entries.ofPairs ((keys arguments).zip values))
        | _ => .error (.notCallable callee) := by
  rw [result, kwargs_eq, all_found supplied.keyword, ofArguments, all_found supplied.positional]
  rfl

theorem bound_of_pairs (arguments : List String) (values : List Value) :
    Bound arguments values (Entries.ofPairs ((keys arguments).zip values)) where
  ordered := Entries.ordered_of_pairs _
  last key := Entries.get?_of_pairs key _

theorem bound_unique {values : List Value} {kwargs : List (String × Value)}
    (bound : Bound arguments values kwargs) :
    Entries.ofPairs ((keys arguments).zip values) = kwargs := by
  have made := bound_of_pairs arguments values
  exact Entries.ordered_ext made.ordered bound.ordered fun key =>
    (made.last key).trans (bound.last key).symm

theorem result_function {args values : List Value} {function : Function}
    {kwargs : List (String × Value)} (supplied : Supplied scope arguments args values)
    (resolves : scope.resolve callee = .ok (.function function))
    (bound : Bound arguments values kwargs) :
    (ofArguments callee arguments).result host scope = host.call function args kwargs := by
  rw [result_supplied host callee supplied, resolves, ← bound_unique bound]
  rfl

theorem result_uncallable {args values : List Value} {value : Value}
    (supplied : Supplied scope arguments args values) (resolves : scope.resolve callee = .ok value)
    (other : value.kind ≠ .function) :
    (ofArguments callee arguments).result host scope = .error (.notCallable callee) := by
  rw [result_supplied host callee supplied, resolves]
  cases value with
  | function function => exact absurd rfl other
  | _ => rfl

end Result

section Rendering

theorem render_of_renders {host : Host} {scope : Scope} {callee : String} {arguments : List String}
    {output : Output} (renders : Renders host scope callee arguments output) :
    (Node.call (ofArguments callee arguments)).render host scope = output := by
  rw [Node.render]
  cases renders with
  | missing first => rw [result_missing host callee first, Output.ofResult]
  | unnamed supplied unresolved =>
    rw [result_supplied host callee supplied, Scope.resolve_missing unresolved]
    rfl
  | uncallable supplied resolves other =>
    rw [result_uncallable host callee supplied resolves other, Output.ofResult]
  | failed supplied resolves bound returned =>
    rw [result_function host callee supplied resolves bound, returned, Output.ofResult]
  | shown supplied resolves bound returned =>
    rw [result_function host callee supplied resolves bound, returned, Output.ofResult]

theorem renders_some (host : Host) (scope : Scope) (callee : String) (arguments : List String) :
    ∃ output, Renders host scope callee arguments output := by
  rcases supplied_or_missing scope arguments with ⟨args, values, supplied⟩ | ⟨name, missing⟩
  · by_cases resolves : ∃ value, scope.resolve callee = .ok value
    · obtain ⟨value, resolves⟩ := resolves
      by_cases callable : value.kind = .function
      · obtain ⟨function, rfl⟩ : ∃ function, value = .function function := by
          cases value <;> first | exact ⟨_, rfl⟩ | cases callable
        have bound := bound_of_pairs arguments values
        cases returned : host.call function args (Entries.ofPairs ((keys arguments).zip values)) with
        | error error => exact ⟨_, .failed supplied resolves bound returned⟩
        | ok value => exact ⟨_, .shown supplied resolves bound returned⟩
      · exact ⟨_, .uncallable supplied resolves callable⟩
    · exact ⟨_, .unnamed supplied resolves⟩
  · exact ⟨_, .missing missing⟩

theorem render_iff (host : Host) (scope : Scope) (callee : String) (arguments : List String)
    (output : Output) :
    (Node.call (ofArguments callee arguments)).render host scope = output ↔
      Renders host scope callee arguments output := by
  refine ⟨?_, render_of_renders⟩
  rintro rfl
  obtain ⟨output, renders⟩ := renders_some host scope callee arguments
  rwa [render_of_renders renders]

end Rendering

end Call

theorem call_renders {callee inside : String} {arguments : List String}
    (text : CallText callee arguments inside) :
    ∃ template call, Template.compile (Tag.block.around inside) = .ok template ∧
      template.root = .root [.call call] ∧
      (∀ host context,
        template.output host context = (Node.call call).render host (.root context)) ∧
      ∀ host scope output, (Node.call call).render host scope = output ↔
        Call.Renders host scope callee arguments output := by
  refine ⟨_, _, CallText.compile_call text, rfl, fun host context => ?_, ?_⟩
  · rw [Template.output, Node.render, Node.renderAll, Node.renderAll, Output.andThen_nothing]
  · exact fun host scope output => Call.render_iff host scope callee arguments output

-- The keyword that names nothing stands first in the source, but the positional argument is the error.
theorem call_renders_keywords :
    let inside := " call f\u2003 1 k=x\ty k='a=b'"
    let context := Context.mk [("f", .function ⟨"f"⟩), ("x", .int 7), ("y", .string "why")]
    CallText "f" ["1", "k=x", "y", "k='a=b'"] inside ∧
      ∃ template call, Template.compile (Tag.block.around inside) = .ok template ∧
        template.root = .root [.call call] ∧
        (∀ host, (Node.call call).render host (.root .empty) = .fail (.unresolved "y")) ∧
        ∀ host value, host.call ⟨"f"⟩ [.int 1, .string "why"] [("k", .string "a=b")] = .ok value →
          (Node.call call).render host (.root context) = .write value.text := by
  intro inside context
  have text : CallText "f" ["1", "k=x", "y", "k='a=b'"] inside := by
    have blank {c : Char} (space : Text.isBlank c = true) : ∀ d ∈ [c], Text.isBlank d = true :=
      List.forall_mem_singleton.mpr space
    have wide : ∀ c ∈ ['\u2003', ' '], Text.isBlank c = true :=
      List.forall_mem_cons.mpr ⟨rfl, blank rfl⟩
    have spaced : Text.Spaced (["call", "f", "1", "k=x", "y", "k='a=b'"].map String.toList)
        "call f\u2003 1 k=x\ty k='a=b'".toList :=
      .more (by decide) (List.cons_ne_nil ' ' []) (blank rfl)
        (.more (by decide) (List.cons_ne_nil '\u2003' [' ']) wide
          (.more (by decide) (List.cons_ne_nil ' ' []) (blank rfl)
            (.more (by decide) (List.cons_ne_nil '\t' []) (blank rfl)
              (.more (by decide) (List.cons_ne_nil ' ' []) (blank rfl) (.one (by decide))))))
    exact ⟨⟨[' '], _, [], by decide, blank rfl, spaced, List.forall_mem_nil _⟩, by decide,
      by decide +kernel⟩
  obtain ⟨template, call, compiled, root, _, renders⟩ := call_renders text
  have one (scope : Scope) : Argument.StandsFor scope "1" (.int 1) :=
    .literal (by with_unfolding_all rfl)
  refine ⟨text, template, call, compiled, root, fun host => ?_, fun host value returned => ?_⟩
  · have missing : ¬ ∃ value, Argument.StandsFor (.root .empty) "y" value := by
      rintro ⟨value, stands⟩
      cases stands with
      | literal reads => cases reads
      | bound unread resolves => cases resolves
    exact (renders host _ _).mpr (.missing (.later (one _) (.here missing)))
  · have x : Argument.StandsFor (.root context) "x" (.int 7) :=
      .bound (by with_unfolding_all rfl) (by with_unfolding_all rfl)
    have y : Argument.StandsFor (.root context) "y" (.string "why") :=
      .bound (by with_unfolding_all rfl) (by with_unfolding_all rfl)
    have quoted : Argument.StandsFor (.root context) "'a=b'" (.string "a=b") :=
      .literal (by with_unfolding_all rfl)
    have bound : Call.Bound ["1", "k=x", "y", "k='a=b'"] [.int 7, .string "a=b"]
        [("k", .string "a=b")] := Call.bound_of_pairs _ _
    have supplied : Call.Supplied (.root context) ["1", "k=x", "y", "k='a=b'"]
        [.int 1, .string "why"] [.int 7, .string "a=b"] :=
      ⟨.cons (one _) (.cons y .nil), .cons x (.cons quoted .nil)⟩
    have function : Scope.resolve "f" (.root context) = .ok (.function ⟨"f"⟩) := by
      with_unfolding_all rfl
    exact (renders host _ _).mpr (.shown supplied function bound returned)

end Stencil
