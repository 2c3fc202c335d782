import TwigPrinter.Template.Kind
/-!
What happens while a template is printed, in order: a computation with a log. The log is kept when
the computation fails, up to and including what was noted last.
-/
namespace TwigPrinter

inductive PrintError where
  | unhandled (kind : String)
  | construct (kind detail : String)
  deriving DecidableEq, Repr

namespace PrintError

def message : PrintError → String
  | .unhandled kind => "Unhandled node " ++ kind
  | .construct kind detail => "In " ++ kind ++ " block, " ++ detail

def kind : PrintError → String
  | .unhandled kind => kind
  | .construct kind _ => kind

end PrintError

inductive Level where
  | trace
  | debug
  | info
  | warn
  | error
  deriving DecidableEq, Repr

def Level.name : Level → String
  | .trace => "TRACE"
  | .debug => "DEBUG"
  | .info => "INFO"
  | .warn => "WARN"
  | .error => "ERROR"

def Level.rank : Level → Nat
  | .trace => 0
  | .debug => 1
  | .info => 2
  | .warn => 3
  | .error => 4

inductive Event where
  | visit (kind : Kind) (wrap : Bool)
  | truthTest (kind : Kind)
  | collapse (symbol : String)
  | rename (old new : String)
  | strip (path : String)
  | finish (bytes : Nat)
  | noRule (kind : String)
  | loopAlternative
  deriving DecidableEq, Repr

inductive Detail where
  | text (s : String)
  | flag (b : Bool)
  | count (n : Nat)
  deriving DecidableEq, Repr

namespace Event

def level : Event → Level
  | .visit _ _ => .trace
  | .truthTest _ | .collapse _ | .rename _ _ | .strip _ | .finish _ => .debug
  | .noRule _ | .loopAlternative => .warn

def message : Event → String
  | .visit _ _ => "dispatch"
  | .truthTest _ => "spelling out truthiness test"
  | .collapse _ => "collapsing self conditional"
  | .rename _ _ => "renaming filter"
  | .strip _ => "stripping relative include prefix"
  | .finish _ => "transform finished"
  | .noRule _ => "no rewrite rule for node"
  | .loopAlternative => "for loop has an else branch"

def details : Event → List (String × Detail)
  | .visit kind wrap => [("kind", .text kind.name), ("wrap", .flag wrap)]
  | .truthTest kind => [("kind", .text kind.name)]
  | .collapse symbol => [("symbol", .text symbol)]
  | .rename old new => [("from", .text old), ("to", .text new)]
  | .strip path => [("path", .text path)]
  | .finish bytes => [("bytes", .count bytes)]
  | .noRule kind => [("kind", .text kind)]
  | .loopAlternative => []

end Event

structure Traced (α : Type) where
  events : List Event
  result : Except PrintError α

namespace Traced

def bind {α β : Type} (x : Traced α) (f : α → Traced β) : Traced β :=
  match x.result with
  | .error e => ⟨x.events, .error e⟩
  | .ok a =>
    let y := f a
    ⟨x.events ++ y.events, y.result⟩

instance : Monad Traced where
  pure a := ⟨[], .ok a⟩
  bind := bind

def fail {α : Type} (e : PrintError) : Traced α := ⟨[], .error e⟩

def note (event : Event) : Traced Unit := ⟨[event], .ok ()⟩

def noteIf (condition : Bool) (event : Event) : Traced Unit :=
  if condition then note event else pure ()

def after {α : Type} (event : Event) (x : Traced α) : Traced α := ⟨event :: x.events, x.result⟩

section Lemmas

variable {α β : Type}

@[simp] theorem result_pure (a : α) : (pure a : Traced α).result = .ok a := rfl

@[simp] theorem events_pure (a : α) : (pure a : Traced α).events = [] := rfl

@[simp] theorem result_fail (e : PrintError) : (fail e : Traced α).result = .error e := rfl

@[simp] theorem events_fail (e : PrintError) : (fail e : Traced α).events = [] := rfl

@[simp] theorem result_note (e : Event) : (note e).result = .ok () := rfl

@[simp] theorem events_note (e : Event) : (note e).events = [e] := rfl

@[simp] theorem result_after (e : Event) (x : Traced α) : (after e x).result = x.result := rfl

@[simp] theorem events_after (e : Event) (x : Traced α) : (after e x).events = e :: x.events := rfl

theorem result_bind (x : Traced α) (f : α → Traced β) :
    (x >>= f).result = x.result >>= fun a => (f a).result := by
  obtain ⟨es, r⟩ := x
  cases r <;> rfl

theorem events_bind_ok {x : Traced α} {a : α} (f : α → Traced β) (h : x.result = .ok a) :
    (x >>= f).events = x.events ++ (f a).events := by
  obtain ⟨es, r⟩ := x
  subst h
  rfl

theorem events_bind_error {x : Traced α} {e : PrintError} (f : α → Traced β)
    (h : x.result = .error e) : (x >>= f).events = x.events := by
  obtain ⟨es, r⟩ := x
  subst h
  rfl

end Lemmas
end Traced
end TwigPrinter
