import Stencil.Comparison
import Stencil.Output
import Stencil.Scope
import Stencil.Template

set_option autoImplicit false

namespace Stencil

-- What the embedding program supplies: the result of calling a function with positional arguments and
-- with keywords, which are bound in increasing order.
structure Host where
  call : Function → List Value → List (String × Value) → Except Error Value

-- Whether a condition holds. The operator is judged before its right operand is looked up.
def Condition.holds (scope : Scope) (condition : Condition) : Except Error Bool := do
  let lhs ← condition.lhs.resolve scope
  match condition.comparison with
  | none => pure lhs.isTruthy
  | some (symbol, operand) =>
    match Comparison.ofSymbol? symbol with
    | none => throw (.unknownOperator symbol)
    | some comparison =>
      let rhs ← operand.resolve scope
      comparison.holds lhs rhs

def Expr.loopItems (scope : Scope) (iterable : Expr) : Except Error (List Value) := do
  let value ← iterable.resolve scope
  match value.loopItems? with
  | some items => pure items
  | none => throw (.notIterable iterable.text value.kind)

-- The result of a call. Arguments are looked up first, positional ones before keywords, and then the
-- function; a keyword given twice has its last value.
def Call.result (host : Host) (scope : Scope) (call : Call) : Except Error Value := do
  let args ← call.args.mapM (Expr.resolve scope)
  let kwargs ← call.kwargs.mapM fun (key, arg) => (arg.resolve scope).map (key, ·)
  match ← scope.resolve call.callee with
  | .function function => host.call function args (Entries.ofPairs kwargs)
  | _ => throw (.notCallable call.callee)

mutual

def Node.render (host : Host) (scope : Scope) : Node → Output
  | .root children => Node.renderAll host scope children
  | .text content => .write content
  | .interpolation expr => .ofResult (fun value => .write value.text) (expr.resolve scope)
  | .each iterable body =>
    .ofResult (.forEach fun item => Node.renderAll host (.loop scope item) body)
      (iterable.loopItems scope)
  | .choice condition thenBranch elseBranch =>
    .ofResult (fun holds =>
        if holds then Node.renderAll host scope thenBranch else Node.renderAll host scope elseBranch)
      (condition.holds scope)
  | .elseMark => .nothing
  | .call invocation => .ofResult (fun value => .write value.text) (invocation.result host scope)

def Node.renderAll (host : Host) (scope : Scope) : List Node → Output
  | [] => .nothing
  | node :: rest => (Node.render host scope node).andThen fun _ => Node.renderAll host scope rest

end

namespace Template

def output (template : Template) (host : Host) (context : Context) : Output :=
  template.root.render host (.root context)

def render (template : Template) (host : Host) (context : Context) : Except Error String :=
  (template.output host context).complete

def renderInto (template : Template) (host : Host) (context : Context) (buffer : Buffer) :
    Buffer × Except Error Unit :=
  buffer.accept (template.output host context)

end Template

end Stencil
