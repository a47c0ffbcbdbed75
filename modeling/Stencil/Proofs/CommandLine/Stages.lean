import Stencil.Proofs.CommandLine.Inputs

set_option autoImplicit false

namespace Stencil.Command

inductive Stage where
  | read
  | compile
  | context
  | items
  | render
  | write
deriving DecidableEq

def Stage.code : Stage → Nat
  | .compile => 2
  | .render => 2
  | _ => 1

abbrev Outcome (α : Type) : Type :=
  List Event × Except (Stage × Failure) α

def Outcome.report (log : Log) (output : Option String) : Outcome String → Report
  | (events, .error (stage, failure)) => ⟨stage.code, "", log.text events ++ failure.lines log⟩
  | (events, .ok text) => ⟨0, if output.isSome then "" else text, log.text events⟩

section Sequence

variable {α β : Type}

inductive At (stage : Stage) (result : Except Failure α → Prop) : Outcome α → Prop where
  | failed {failure : Failure} (fails : result (.error failure)) :
      At stage result ([], .error (stage, failure))
  | done {a : α} (succeeds : result (.ok a)) : At stage result ([], .ok a)

inductive Noted (event : Event) (next : Outcome α → Prop) : Outcome α → Prop where
  | noted {later : List Event} {result : Except (Stage × Failure) α} (continues : next (later, result)) :
      Noted event next (event :: later, result)

def Gives (a : α) : Outcome α → Prop :=
  (· = ([], .ok a))

inductive Then (first : Outcome α → Prop) (next : α → Outcome β → Prop) : Outcome β → Prop where
  | stopped {events : List Event} {stop : Stage × Failure} (fails : first (events, .error stop)) :
      Then first next (events, .error stop)
  | continued {events later : List Event} {a : α} {result : Except (Stage × Failure) β}
      (succeeds : first (events, .ok a)) (continues : next a (later, result)) :
      Then first next (events ++ later, result)

-- What all outcomes have in common: the stages that may be the one that fails, each of which gives its
-- failures its own code, and that the events on the way are no warnings.
structure Within (stages : List Stage) (outcomes : Outcome α → Prop) : Prop where
  stops : ∀ {events stage failure}, outcomes (events, .error (stage, failure)) →
    stage ∈ stages ∧ failure.code = stage.code
  details : ∀ {events result}, outcomes (events, result) → ∀ event ∈ events,
    Level.warn.verbosity < event.level.verbosity

section Carries

variable {σ : Type}

variable {disk : σ} {action : Run (StateM σ) α}

end Carries

end Sequence

section Stages

variable {σ : Type} (json : Json.Reader) (files : FileSystem (StateM σ)) (disk : σ)

inductive Delivers (text : String) : Option String → Except Failure String → Prop where
  | printed : Delivers text none (.ok text)
  | written {path : String} (writes : ((files.write path text).run disk).1 = .ok ()) :
      Delivers text (some path) (.ok text)
  | unwritable {path : String} {cause : FileError}
      (fails : ((files.write path text).run disk).1 = .error cause) :
      Delivers text (some path) (.error (.unwritable path cause))

def Loads (path : String) : Outcome Template → Prop :=
  Then (At .read (ReadsText files disk path)) fun source =>
    Noted (.compiling path source) <|
      At .compile (· = (Template.compile source).mapError (.template path))

def Prepares (options : RenderOptions) : Outcome Context → Prop :=
  Then (At .context (ReadsContext json files disk options.context)) fun file =>
    At .items (BindsItems json file options.vars)

def Renders (path : String) (options : RenderOptions) : Outcome String → Prop :=
  Then (Loads files disk path) fun template =>
    Then (Prepares json files disk options) fun context =>
      Noted (.contextReady context) <|
        Then (At .render (· = (template.render Builtin.host context).mapError (.template path)))
          fun text => Noted (.rendered path text) (Gives text)

def Ends (path : String) (options : RenderOptions) : Outcome String → Prop :=
  Then (Renders json files disk path options) fun text => At .write (Delivers files disk text options.output)

-- The disk that a run leaves. Only a write that failed may have changed it without leaving the output.
def Outcome.Leaves (output : Option String) (after : σ) : Except (Stage × Failure) String → Prop
  | .error (stage, _) => stage ≠ .write → after = disk
  | .ok text =>
    match output with
    | none => after = disk
    | some path => ((files.read path).run after).1 = .ok text.toUTF8

end Stages

section Run

variable {σ : Type} {json : Json.Reader} {files : FileSystem (StateM σ)} {disk : σ}

def Outcome.output (path : Option String) (outcome : Outcome String) : Except Failure String :=
  match outcome.2 with
  | .error (_, failure) => .error failure
  | .ok text => .ok (if path.isSome then "" else text)

end Run

end Stencil.Command
