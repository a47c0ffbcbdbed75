import Stencil.CommandLine

set_option autoImplicit false

namespace Stencil

structure Directory where
  files : List (String × ByteArray)

namespace Directory

inductive Place where
  | directory
  | entry (name : String) (slash : Bool)

def follow (directory : Directory) : List String → Except FileError Place
  | [] => .ok .directory
  | name :: rest =>
    if name = "" ∨ name = "." then directory.follow rest
    else if name = ".." then
      if rest.all fun other => other = "" ∨ other = "." ∨ other = ".." then .ok .directory
      else .error .noSuchFile
    else if rest.all String.isEmpty then .ok (.entry name !rest.isEmpty)
    else if (Entries.get? name directory.files).isSome then .error .notDirectory
    else .error .noSuchFile

-- An empty path leads nowhere; a path that starts with a slash leaves the directory, as `..` does.
def locate (path : String) (directory : Directory) : Except FileError Place :=
  if path.isEmpty then .error .noSuchFile
  else
    let names := Text.pieces (· == '/') path.toList
    if names.1.isEmpty then directory.follow (".." :: names.2.map String.ofList)
    else directory.follow ((names.1 :: names.2).map String.ofList)

def read (path : String) (directory : Directory) : Except FileError ByteArray :=
  match directory.locate path with
  | .error cause => .error cause
  | .ok .directory => .error .isDirectory
  | .ok (.entry name slash) =>
    match Entries.get? name directory.files with
    | none => .error .noSuchFile
    | some bytes => if slash then .error .notDirectory else .ok bytes

def write (path : String) (bytes : ByteArray) (directory : Directory) : Except FileError Directory :=
  match directory.locate path with
  | .error cause => .error cause
  | .ok (.entry name false) => .ok ⟨Entries.insert name bytes directory.files⟩
  | .ok _ => .error .isDirectory

def fileSystem : FileSystem (StateM Directory) where
  read path := do pure ((← get).read path)
  write path text := do
    match (← get).write path text.toUTF8 with
    | .ok written => set written; pure (.ok ())
    | .error cause => pure (.error cause)

end Directory

end Stencil
