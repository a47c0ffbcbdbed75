import Stencil.Error

set_option autoImplicit false

namespace Stencil

structure Output where
  writes : List String
  result : Except Error Unit

namespace Output

def nothing : Output :=
  ⟨[], .ok ()⟩

def write (text : String) : Output :=
  ⟨[text], .ok ()⟩

def fail (error : Error) : Output :=
  ⟨[], .error error⟩

def andThen (first : Output) (second : Unit → Output) : Output :=
  match first.result with
  | .ok () =>
    let rest := second ()
    ⟨first.writes ++ rest.writes, rest.result⟩
  | .error _ => first

def forEach {α : Type} (body : α → Output) : List α → Output
  | [] => nothing
  | item :: rest => (body item).andThen fun _ => forEach body rest

def ofResult {α : Type} (use : α → Output) : Except Error α → Output
  | .ok value => use value
  | .error error => fail error

def text (output : Output) : String :=
  String.join output.writes

def complete (output : Output) : Except Error String :=
  output.result.map fun _ => output.text

end Output

structure Buffer where
  text : String
  limit : Option Nat

namespace Buffer

def write? (buffer : Buffer) (text : String) : Option Buffer :=
  let longer := buffer.text ++ text
  if text.isEmpty || buffer.limit.all (longer.utf8ByteSize ≤ ·) then
    some { buffer with text := longer }
  else none

def writeAll (buffer : Buffer) : List String → Buffer × Bool
  | [] => (buffer, true)
  | text :: rest =>
    match buffer.write? text with
    | some longer => longer.writeAll rest
    | none => (buffer, false)

def accept (buffer : Buffer) (output : Output) : Buffer × Except Error Unit :=
  match buffer.writeAll output.writes with
  | (buffer, true) => (buffer, output.result)
  | (buffer, false) => (buffer, .error .writeRefused)

end Buffer

end Stencil
