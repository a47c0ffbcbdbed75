import Stencil.Error

set_option autoImplicit false

namespace Stencil

structure Context where
  vars : List (String × Value)

namespace Context

def empty : Context :=
  ⟨[]⟩

def get? (context : Context) (key : String) : Option Value :=
  Entries.get? key context.vars

def insert (context : Context) (key : String) (value : Value) : Context :=
  ⟨Entries.insert key value context.vars⟩

def insertAll (context : Context) (pairs : List (String × Value)) : Context :=
  ⟨Entries.insertAll pairs context.vars⟩

def ofPairs (pairs : List (String × Value)) : Context :=
  empty.insertAll pairs

def ofValue : Value → Except Error Context
  | .map entries => .ok ⟨entries⟩
  | value => .error (.notAnObject value.kind)

def size (context : Context) : Nat :=
  context.vars.length

def isEmpty (context : Context) : Bool :=
  context.vars.isEmpty

theorem get?_insert (context : Context) (key wanted : String) (value : Value) :
    (context.insert key value).get? wanted =
      if wanted = key then some value else context.get? wanted :=
  Entries.get?_insert key wanted value context.vars

end Context

end Stencil
