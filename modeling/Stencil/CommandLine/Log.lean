import Stencil.Context

set_option autoImplicit false

namespace Stencil

inductive Level where
  | error
  | warn
  | info
  | debug
deriving DecidableEq

def Level.verbosity : Level → Nat
  | .error => 1
  | .warn => 2
  | .info => 3
  | .debug => 4

structure Event where
  level : Level
  message : String
  fields : List (String × String)
deriving DecidableEq

namespace Event

def compiling (path source : String) : Event :=
  ⟨.debug, s!"compiling {path}", [("bytes", toString source.utf8ByteSize)]⟩

def contextReady (context : Context) : Event :=
  ⟨.debug, "context ready", [("variables", toString context.size)]⟩

def rendered (path text : String) : Event :=
  ⟨.info, s!"rendered {path}", [("bytes", toString text.utf8ByteSize)]⟩

end Event

-- The filter is the one that the environment names, if it names one. The line of an event has the time
-- and the colours in it, so it is left open.
structure Log where
  verbose : Bool
  filter : Option (Event → Bool)
  line : Event → String

namespace Log

def shows (log : Log) (event : Event) : Bool :=
  match log.filter with
  | some filter => filter event
  | none => event.level.verbosity ≤ (if log.verbose then Level.debug else Level.warn).verbosity

def text (log : Log) (events : List Event) : String :=
  String.join ((events.filter log.shows).map log.line)

def off : Log :=
  ⟨false, some fun _ => false, Event.message⟩

end Log

end Stencil
