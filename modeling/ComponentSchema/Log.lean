/-!
Log events, as values.

A computation that logs is a `Logged` value: its result and the events on the way, in order. What
becomes of the events is decided by whoever runs the program.
-/

set_option autoImplicit false

namespace ComponentSchema

namespace Log

inductive Level where
  | trace
  | debug
  | info
  | warn
  | error
  deriving DecidableEq

inductive Origin where
  | application
  | source
  | check
  | examples
  | normalization
  | compilation
  | validation
  | registry
  deriving DecidableEq

/-- The content of a field: a text, which a line of text shows in quotes, a text shown as it is, or
a number. -/
inductive Content where
  | quoted (text : String)
  | shown (text : String)
  | count (n : Nat)
  deriving DecidableEq

structure Event where
  level : Level
  origin : Origin
  message : String
  fields : List (String × Content) := []
  deriving DecidableEq

end Log

structure Logged (α : Type) where
  value : α
  events : List Log.Event := []

namespace Logged

variable {α β : Type}

instance : Monad Logged where
  pure value := { value }
  bind x f := { value := (f x.value).value, events := x.events ++ (f x.value).events }

instance : LawfulMonad Logged := LawfulMonad.mk' Logged
  (by intros; simp [Functor.map])
  (by intros; simp [bind, pure])
  (by intros; simp [bind])

def emit (event : Log.Event) : Logged Unit :=
  { value := (), events := [event] }

def emitAll (events : List Log.Event) : Logged Unit :=
  { value := (), events }

@[simp] theorem value_pure (a : α) : (pure a : Logged α).value = a := rfl

@[simp] theorem events_pure (a : α) : (pure a : Logged α).events = [] := rfl

@[simp] theorem value_bind (x : Logged α) (f : α → Logged β) :
    (x >>= f).value = (f x.value).value := rfl

@[simp] theorem value_map (f : α → β) (x : Logged α) : (f <$> x).value = f x.value := rfl

@[simp] theorem events_bind (x : Logged α) (f : α → Logged β) :
    (x >>= f).events = x.events ++ (f x.value).events := rfl

@[simp] theorem events_emit (event : Log.Event) : (emit event).events = [event] := rfl

@[simp] theorem events_emitAll (events : List Log.Event) : (emitAll events).events = events := rfl

end Logged

end ComponentSchema
