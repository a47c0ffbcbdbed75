import Stencil.Literal
import Stencil.Value.Order

set_option autoImplicit false

namespace Stencil

inductive Expr where
  | literal (value : Value)
  | name (path : String)

def Expr.ofText (text : String) : Expr :=
  match Literal.read? text with
  | some value => .literal value
  | none => .name text

structure Condition where
  lhs : Expr
  comparison : Option (String × Expr)

structure Call where
  callee : String
  args : List Expr
  kwargs : List (String × Expr)

-- A node of the tree. An `elseMark` separates the two branches of a condition while it is open.
inductive Node where
  | root (children : List Node)
  | text (content : String)
  | interpolation (expr : Expr)
  | each (iterable : Expr) (body : List Node)
  | choice (condition : Condition) (thenBranch elseBranch : List Node)
  | elseMark
  | call (call : Call)

def Expr.equal : Expr → Expr → Bool
  | .literal a, .literal b => a.equal b
  | .name a, .name b => a == b
  | _, _ => false

def Condition.equal (a b : Condition) : Bool :=
  a.lhs.equal b.lhs &&
    match a.comparison, b.comparison with
    | none, none => true
    | some (symbol, rhs), some (other, operand) => symbol == other && rhs.equal operand
    | _, _ => false

def Call.equal (a b : Call) : Bool :=
  a.callee == b.callee && a.args.length == b.args.length && a.kwargs.length == b.kwargs.length &&
    (a.args.zip b.args).all (fun pair => pair.1.equal pair.2) &&
    (a.kwargs.zip b.kwargs).all fun pair => pair.1.1 == pair.2.1 && pair.1.2.equal pair.2.2

namespace Node

mutual

def equal : Node → Node → Bool
  | .root xs, .root ys => equalAll xs ys
  | .text a, .text b => a == b
  | .interpolation a, .interpolation b => a.equal b
  | .each source xs, .each other ys => source.equal other && equalAll xs ys
  | .choice test xs us, .choice other ys vs => test.equal other && equalAll xs ys && equalAll us vs
  | .elseMark, .elseMark => true
  | .call a, .call b => a.equal b
  | _, _ => false

def equalAll : List Node → List Node → Bool
  | [], [] => true
  | x :: xs, y :: ys => equal x y && equalAll xs ys
  | _, _ => false

end

def isElseMark : Node → Bool
  | .elseMark => true
  | _ => false

def opensScope : Node → Bool
  | .root _ => true
  | .each .. => true
  | .choice .. => true
  | _ => false

def push? (child : Node) : Node → Option Node
  | .root children => some (.root (children ++ [child]))
  | .each iterable body => some (.each iterable (body ++ [child]))
  | .choice condition thenBranch elseBranch =>
    some (.choice condition (thenBranch ++ [child]) elseBranch)
  | _ => none

def closed : Node → Node
  | .choice condition children elseBranch =>
    match children.dropWhile fun child => !child.isElseMark with
    | _ :: afterMark => .choice condition (children.takeWhile fun child => !child.isElseMark) afterMark
    | [] => .choice condition children elseBranch
  | node => node

end Node

end Stencil
