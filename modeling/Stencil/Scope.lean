import Stencil.Context
import Stencil.Node
import Stencil.Text.Cut

set_option autoImplicit false

namespace Stencil

inductive Scope where
  | root (context : Context)
  | loop (parent : Scope) (item : Value)

structure Path where
  escaped : Bool
  head : String
  rest : List String
deriving DecidableEq

def Path.ofSegments (escaped : Bool) (text : List Char) : Path :=
  let segments := Text.pieces (· == '.') text
  ⟨escaped, String.ofList segments.1, segments.2.map String.ofList⟩

def Path.ofName (name : String) : Path :=
  match name.toList with
  | '.' :: '.' :: text => Path.ofSegments true text
  | text => Path.ofSegments false text

namespace Scope

def lookup? (key : String) : Scope → Option Value
  | .root context => context.get? key
  | .loop _ item => if key = "iter" then some item else none

-- What a key is bound to one scope out. Outside the root lies what the context binds `..` to.
def lookupOutside? (key : String) : Scope → Option Value
  | .root context => (context.get? "..").bind (Value.attribute? key)
  | .loop parent _ => parent.lookup? key

def find? (path : Path) (scope : Scope) : Option Value :=
  let start := if path.escaped then scope.lookupOutside? path.head else scope.lookup? path.head
  path.rest.foldl (fun value segment => value.bind (Value.attribute? segment)) start

def resolve (name : String) (scope : Scope) : Except Error Value :=
  match scope.find? (Path.ofName name) with
  | some value => .ok value
  | none => .error (.unresolved name)

end Scope

def Expr.resolve (scope : Scope) : Expr → Except Error Value
  | .literal value => .ok value
  | .name path => scope.resolve path

def Expr.text : Expr → String
  | .literal value => value.text
  | .name path => path

end Stencil
