import Stencil.CommandLine.Builtin
import Stencil.CommandLine.Log
import Stencil.Json

set_option autoImplicit false

namespace Stencil

inductive FileError where
  | system (text : String) (code : Nat)
  | notText

def FileError.noSuchFile : FileError :=
  .system "No such file or directory" 2

def FileError.notDirectory : FileError :=
  .system "Not a directory" 20

def FileError.isDirectory : FileError :=
  .system "Is a directory" 21

def FileError.message : FileError → String
  | .system text code => s!"{text} (os error {code})"
  | .notText => "stream did not contain valid UTF-8"

structure FileSystem (m : Type → Type) where
  read : String → m (Except FileError ByteArray)
  write : String → String → m (Except FileError Unit)

structure RenderOptions where
  context : Option String
  vars : List String
  output : Option String

inductive Command where
  | check (template : String)
  | render (template : String) (options : RenderOptions)

inductive Failure where
  | unreadable (path : String) (cause : FileError)
  | template (path : String) (cause : Error)
  | notJson (path complaint : String)
  | notContext (path : String) (cause : Error)
  | notBinding (item : String)
  | unwritable (path : String) (cause : FileError)

namespace Failure

def code : Failure → Nat
  | .template .. => 2
  | _ => 1

def message : Failure → String
  | .unreadable path cause => s!"cannot read {path}: {cause.message}"
  | .template path cause => s!"{path}: {cause.message}"
  | .notJson path complaint => s!"invalid JSON in {path}: {complaint}"
  | .notContext path cause => s!"{path}: {cause.message}"
  | .notBinding item => s!"--var expects KEY=VALUE, got '{item}'"
  | .unwritable path cause => s!"cannot write {path}: {cause.message}"

def fields : Failure → List (String × String)
  | .template _ cause => [("kind", cause.kind.name)]
  | _ => []

def event (failure : Failure) : Event :=
  ⟨.error, failure.message, failure.fields⟩

def lines (log : Log) (failure : Failure) : String :=
  log.text [failure.event] ++ s!"error: {failure.message}\n"

end Failure

structure Report where
  code : Nat
  stdout : String
  stderr : String
deriving DecidableEq

def Context.bindItem (json : Json.Reader) (context : Context) (item : String) :
    Except Failure Context :=
  match Text.cutAt '=' item.toList with
  | some (key, written) =>
    let text := String.ofList written
    .ok (context.insert (String.ofList key) ((json text).toOption.getD (.string text)))
  | none => .error (.notBinding item)

def Context.forRun (json : Json.Reader) (file : Context) (items : List String) :
    Except Failure Context := do
  let bound ← items.foldlM (Context.bindItem json) file
  pure (Builtin.addTo bound)

namespace Command

variable {m : Type → Type} [Monad m]

abbrev Run (m : Type → Type) : Type → Type :=
  ExceptT Failure (StateT (List Event) m)

def note (event : Event) : Run m Unit :=
  modify fun noted => noted ++ [event]

def orFail {α : Type} (path : String) : Except Error α → Run m α
  | .ok a => pure a
  | .error cause => throw (.template path cause)

def readText (files : FileSystem m) (path : String) : Run m String := do
  match ← files.read path with
  | .error cause => throw (.unreadable path cause)
  | .ok bytes =>
    match String.fromUTF8? bytes with
    | some text => pure text
    | none => throw (.unreadable path .notText)

def readTemplate (files : FileSystem m) (path : String) : Run m Template := do
  let source ← readText files path
  note (.compiling path source)
  orFail path (Template.compile source)

def readContext (json : Json.Reader) (files : FileSystem m) : Option String → Run m Context
  | none => pure .empty
  | some path => do
    let text ← readText files path
    match json text with
    | .error complaint => throw (.notJson path complaint)
    | .ok value =>
      match Context.ofValue value with
      | .ok context => pure context
      | .error cause => throw (.notContext path cause)

def buildContext (json : Json.Reader) (files : FileSystem m) (options : RenderOptions) :
    Run m Context := do
  let file ← readContext json files options.context
  ExceptT.mk (pure (file.forRun json options.vars))

def renderText (json : Json.Reader) (files : FileSystem m) (path : String) (options : RenderOptions) :
    Run m String := do
  let template ← readTemplate files path
  let context ← buildContext json files options
  note (.contextReady context)
  let text ← orFail path (template.render Builtin.host context)
  note (.rendered path text)
  pure text

def deliver (files : FileSystem m) (text : String) : Option String → Run m String
  | none => pure text
  | some path => do
    match ← files.write path text with
    | .ok () => pure ""
    | .error cause => throw (.unwritable path cause)

def stdout (json : Json.Reader) (files : FileSystem m) : Command → Run m String
  | .check path => do
    let _ ← readTemplate files path
    pure s!"{path}: ok\n"
  | .render path options => do
    let text ← renderText json files path options
    deliver files text options.output

def runWith (json : Json.Reader) (log : Log) (files : FileSystem m) (command : Command) :
    m Report := do
  let (result, noted) ← ((command.stdout json files).run).run []
  match result with
  | .ok text => pure ⟨0, text, log.text noted⟩
  | .error failure => pure ⟨failure.code, "", log.text noted ++ failure.lines log⟩

def run (files : FileSystem m) (command : Command) : m Report :=
  command.runWith Json.read .off files

end Command

end Stencil
