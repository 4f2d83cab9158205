import TutorialPages.Files.Path

/-!
# Traced computations

Compiling a document reads files and writes log records. A traced computation carries the list of
these events next to its outcome, in the order in which they happen; a failure ends the computation
and keeps the events that came before it.
-/

namespace TutorialPages

/-- What is asked of a file. -/
inductive ReadMode where
  /-- Its contents as text. -/
  | text
  /-- Its contents as bytes. -/
  | bytes
  deriving DecidableEq, Repr

/-- The weight of a log record. -/
inductive LogLevel where
  | trace
  | debug
  | warn
  deriving DecidableEq, Repr

/-- Something that a computation does besides giving its outcome. -/
inductive Event where
  /-- It reads a file. -/
  | read (mode : ReadMode) (path : Path)
  /-- It writes a log record. -/
  | log (level : LogLevel) (message : Text)
  deriving DecidableEq, Repr

/-- An outcome together with the events that led to it. -/
structure Traced (ε α : Type) where
  events : List Event
  outcome : Except ε α

namespace Traced

variable {ε ε' α β : Type}

/-- An outcome without events. -/
def ofExcept (outcome : Except ε α) : Traced ε α :=
  ⟨[], outcome⟩

/-- A single event. -/
def emit (event : Event) : Traced ε Unit :=
  ⟨[event], .ok ()⟩

/-- Writes a log record. -/
def log (level : LogLevel) (message : Text) : Traced ε Unit :=
  emit (.log level message)

/-- A failure without events. -/
def fail (problem : ε) : Traced ε α :=
  ⟨[], .error problem⟩

/-- Goes on with the value of the first computation, or stops at its failure. -/
def andThen (first : Traced ε α) (next : α → Traced ε β) : Traced ε β :=
  match first.outcome with
  | .ok value =>
    let second := next value
    ⟨first.events ++ second.events, second.outcome⟩
  | .error problem => ⟨first.events, .error problem⟩

instance : Monad (Traced ε) where
  pure value := ⟨[], .ok value⟩
  bind := andThen

/-- Restates the problem of a failure. -/
def mapError (restate : ε → ε') (first : Traced ε α) : Traced ε' α :=
  ⟨first.events, first.outcome.mapError restate⟩

/-- The readings among the events, in order. -/
def reads (first : Traced ε α) : List (ReadMode × Path) :=
  first.events.filterMap fun
    | .read mode path => some (mode, path)
    | .log .. => none

/-- The log records among the events, in order. -/
def logs (first : Traced ε α) : List (LogLevel × Text) :=
  first.events.filterMap fun
    | .read .. => none
    | .log level message => some (level, message)

end Traced

end TutorialPages
