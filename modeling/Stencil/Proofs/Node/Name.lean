import Stencil.Node

set_option autoImplicit false

namespace Stencil

def Expr.names : Expr → List String
  | .literal _ => []
  | .name path => [path]

def Condition.exprs (condition : Condition) : List Expr :=
  match condition.comparison with
  | none => [condition.lhs]
  | some (_, rhs) => [condition.lhs, rhs]

def Call.exprs (invocation : Call) : List Expr :=
  invocation.args ++ invocation.kwargs.map Prod.snd

def firstSegment (text : List Char) : String :=
  String.ofList (text.takeWhile fun c => c != '.')

def plainKey? (text : List Char) : Nat → Option String
  | 0 => some (firstSegment text)
  | _ => none

def escapedKey? (text : List Char) : Nat → Option String
  | 0 => some ".."
  | 1 => some (firstSegment text)
  | _ => none

-- The key of the context that a name asks for with so many loop bodies around it.
def contextKey? (loops : Nat) (name : String) : Option String :=
  match name.toList with
  | '.' :: '.' :: text => escapedKey? text loops
  | text => plainKey? text loops

namespace Node

def exprs : Node → List Expr
  | .interpolation expr => [expr]
  | .each iterable _ => [iterable]
  | .choice condition _ _ => condition.exprs
  | .call invocation => invocation.exprs
  | _ => []

-- The callee is always a name, also where its text could be read as a literal.
def names : Node → List String
  | .call invocation => invocation.exprs.flatMap Expr.names ++ [invocation.callee]
  | node => node.exprs.flatMap Expr.names

def ownKeys (loops : Nat) (node : Node) : List String :=
  node.names.filterMap (contextKey? loops)

mutual

def keys (loops : Nat) : Node → List String
  | .root children => keysAll loops children
  | .text _ => []
  | .interpolation expr => ownKeys loops (.interpolation expr)
  | .each iterable body => ownKeys loops (.each iterable body) ++ keysAll (loops + 1) body
  | .choice condition thenBranch elseBranch =>
    ownKeys loops (.choice condition thenBranch elseBranch) ++ keysAll loops thenBranch ++
      keysAll loops elseBranch
  | .elseMark => []
  | .call invocation => ownKeys loops (.call invocation)

def keysAll (loops : Nat) : List Node → List String
  | [] => []
  | node :: rest => keys loops node ++ keysAll loops rest

end

theorem name_of_expr {node : Node} {expr : Expr} (held : expr ∈ node.exprs) {name : String}
    (inside : name ∈ expr.names) : name ∈ node.names := by
  have listed : name ∈ node.exprs.flatMap Expr.names := List.mem_flatMap.mpr ⟨expr, held, inside⟩
  cases node with
  | call invocation => exact List.mem_append_left _ listed
  | _ => exact listed

end Node

end Stencil
