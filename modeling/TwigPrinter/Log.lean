import TwigPrinter.Twig.Trace
/-!
The log of a run. A record tells what happened and how much it matters; a filter decides which
records are written. What a computation notes is kept beside its result.
-/
namespace TwigPrinter

structure LogRecord where
  level : Level
  /-- The part of the program that made the record. -/
  target : String
  message : String
  details : List (String × Detail) := []
  /-- The kind of the root of the template that was being printed. -/
  root : Option String := none
  deriving DecidableEq, Repr

def Event.target : Event → String
  | .truthTest _ => "kusari::transform::truthy"
  | .finish _ => "kusari::transform"
  | _ => "kusari::transform::handlers"

def Event.record (root : Kind) (e : Event) : LogRecord where
  level := e.level
  target := e.target
  message := e.message
  details := e.details
  root := some root.name

abbrev LogFilter := LogRecord → Bool

namespace LogFilter

def off : LogFilter := fun _ => false

def least (level : Level) : LogFilter := fun record => level.rank ≤ record.level.rank

/-- What is written when nothing else is asked for. -/
def usual (verbose : Bool) : LogFilter := least (if verbose then .debug else .warn)

end LogFilter

structure Logged (ε α : Type) where
  log : List LogRecord
  result : Except ε α

namespace Logged

variable {ε δ α : Type}

def pure (a : α) : Logged ε α := ⟨[], .ok a⟩

def fail (e : ε) : Logged ε α := ⟨[], .error e⟩

def after (record : LogRecord) (x : Logged ε α) : Logged ε α := ⟨record :: x.log, x.result⟩

def mapError (f : ε → δ) (x : Logged ε α) : Logged δ α := ⟨x.log, x.result.mapError f⟩

end Logged
end TwigPrinter
