import Stencil.CommandLine

set_option autoImplicit false

namespace Stencil

def FileError.ofIO : IO.Error → FileError
  | .noFileOrDirectory .. => .noSuchFile
  | .permissionDenied _ code text => .system text code.toNat
  | .inappropriateType _ code text => .system text code.toNat
  | .alreadyExists _ code text => .system text code.toNat
  | .resourceExhausted _ code text => .system text code.toNat
  | .hardwareFault code text => .system text code.toNat
  | .otherError code text => .system text code.toNat
  | error => .system (toString error) 5

def realFiles : FileSystem IO where
  read path := do
    try
      let bytes ← IO.FS.readBinFile path
      pure (.ok bytes)
    catch error => pure (.error (.ofIO error))
  write path text := do
    try
      IO.FS.writeFile path text
      pure (.ok ())
    catch error => pure (.error (.ofIO error))

def Level.name : Level → String
  | .error => "ERROR"
  | .warn => "WARN"
  | .info => "INFO"
  | .debug => "DEBUG"

def Event.line (event : Event) : String :=
  let fields := event.fields.map fun field => s!" {field.1}={field.2}"
  s!"{event.level.name} stencil: {event.message}{String.join fields}\n"

-- Of the filters that the environment may name, those that are one level for all events.
def filter? (name : String) : Option (Event → Bool) :=
  let upTo (bound : Nat) : Event → Bool := fun event => event.level.verbosity ≤ bound
  match name with
  | "off" => some (upTo 0)
  | "error" => some (upTo 1)
  | "warn" => some (upTo 2)
  | "info" => some (upTo 3)
  | "debug" => some (upTo 4)
  | "trace" => some (upTo 4)
  | _ => none

def logFor (verbose : Bool) : IO Log := do
  let named ← IO.getEnv "RUST_LOG"
  pure ⟨verbose, named.bind filter?, Event.line⟩

def usage : String :=
  "usage: stencil [--verbose] render TEMPLATE [--context FILE] [--var KEY=VALUE]... [--output FILE]\n" ++
  "       stencil [--verbose] check TEMPLATE\n"

def isVerbose (argument : String) : Bool :=
  argument == "--verbose" || argument == "-v"

def optionValue? (option argument : String) : Option String :=
  let start := (option ++ "=").toList
  if start.isPrefixOf argument.toList then some (String.ofList (argument.toList.drop start.length))
  else none

def renderArguments? (template : Option String) (options : RenderOptions) :
    List String → Option Command
  | [] => template.map fun path => .render path options
  | "--context" :: path :: rest => renderArguments? template { options with context := some path } rest
  | "-c" :: path :: rest => renderArguments? template { options with context := some path } rest
  | "--var" :: item :: rest =>
    renderArguments? template { options with vars := options.vars ++ [item] } rest
  | "--output" :: path :: rest => renderArguments? template { options with output := some path } rest
  | "-o" :: path :: rest => renderArguments? template { options with output := some path } rest
  | argument :: rest =>
    match optionValue? "--context" argument, optionValue? "--var" argument,
        optionValue? "--output" argument with
    | some path, _, _ => renderArguments? template { options with context := some path } rest
    | _, some item, _ => renderArguments? template { options with vars := options.vars ++ [item] } rest
    | _, _, some path => renderArguments? template { options with output := some path } rest
    | none, none, none =>
      if template.isNone && !(['-'].isPrefixOf argument.toList) then
        renderArguments? (some argument) options rest
      else none

def Command.ofArguments? : List String → Option Command
  | ["check", path] => some (.check path)
  | "render" :: rest => renderArguments? none ⟨none, [], none⟩ rest
  | _ => none

end Stencil

def main (arguments : List String) : IO UInt32 := do
  match Stencil.Command.ofArguments? (arguments.filter fun argument => !Stencil.isVerbose argument) with
  | none =>
    IO.eprint Stencil.usage
    pure 2
  | some command =>
    let log ← Stencil.logFor (arguments.any Stencil.isVerbose)
    let report ← command.runWith Stencil.Json.read log Stencil.realFiles
    IO.print report.stdout
    IO.eprint report.stderr
    pure report.code.toUInt32
