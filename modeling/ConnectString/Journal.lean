/-
  ConnectString.Journal — the events that a computation reports along the way.

  A `Logged` computation has a value and the list of events that it reported, in order. Nothing can read an event
  back, so a computation's value never hangs on whether events are written anywhere.
-/

import ConnectString.Text

namespace ConnectString

/-- Severity of an event, the gravest first. -/
inductive Level where
  | error | warn | info | debug | trace
  deriving DecidableEq, Repr

namespace Level

/-- Higher is less severe. -/
def rank : Level → Nat
  | error => 0
  | warn => 1
  | info => 2
  | debug => 3
  | trace => 4

def name : Level → String
  | error => "error"
  | warn => "warn"
  | info => "info"
  | debug => "debug"
  | trace => "trace"

def label : Level → String
  | error => "ERROR"
  | warn => "WARN"
  | info => "INFO"
  | debug => "DEBUG"
  | trace => "TRACE"

/-- Whether a threshold lets an event of the given level pass. -/
def admits (threshold level : Level) : Bool := level.rank ≤ threshold.rank

end Level

inductive FieldValue where
  | text (t : Text)
  | number (n : Nat)
  /-- A value that may be missing, written in quoted form. -/
  | optional (t : Option Text)
  deriving DecidableEq, Repr

structure Event where
  level : Level
  /-- The part of the program that reports. -/
  target : String
  message : String
  fields : List (String × FieldValue)
  deriving DecidableEq, Repr

/-- A value and the events reported on the way to it. -/
structure Logged (α : Type) where
  value : α
  events : List Event

namespace Logged

def emit (e : Event) : Logged Unit := ⟨(), [e]⟩

def emitAll (es : List Event) : Logged Unit := ⟨(), es⟩

instance : Monad Logged where
  pure a := ⟨a, []⟩
  bind x f := let y := f x.value; ⟨y.value, x.events ++ y.events⟩

variable {α β : Type}

@[ext] theorem ext {x y : Logged α} (hvalue : x.value = y.value) (hevents : x.events = y.events) : x = y := by
  cases x
  cases y
  subst hvalue hevents
  rfl

@[simp] theorem value_pure (a : α) : (pure a : Logged α).value = a := rfl
@[simp] theorem events_pure (a : α) : (pure a : Logged α).events = [] := rfl
@[simp] theorem value_bind (x : Logged α) (f : α → Logged β) : (x >>= f).value = (f x.value).value := rfl
@[simp] theorem events_bind (x : Logged α) (f : α → Logged β) :
    (x >>= f).events = x.events ++ (f x.value).events := rfl
@[simp] theorem value_emit (e : Event) : (emit e).value = () := rfl
@[simp] theorem events_emit (e : Event) : (emit e).events = [e] := rfl
@[simp] theorem value_emitAll (es : List Event) : (emitAll es).value = () := rfl
@[simp] theorem events_emitAll (es : List Event) : (emitAll es).events = es := rfl

end Logged

end ConnectString
