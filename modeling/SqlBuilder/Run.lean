import SqlBuilder.Event
import SqlBuilder.Statement

/-!
# Exchanges and runs

An `Exchange` is what goes on between a client and its database: the statements that the database
is sent, and the result. `Exchange.send` is the only step that sends one. A `Run` is what carrying
something out amounts to: the events that were reported next to an exchange.
-/

namespace SqlBuilder

/-- A result with the statements that were sent for it, in order. -/
structure Exchange (α : Type) where
  requests : List Statement
  result : Except Error α

namespace Exchange

variable {α β : Type}

/-- A result for which nothing is sent. -/
def ofResult (result : Except Error α) : Exchange α := ⟨[], result⟩

/-- Sends a statement; the result is what is answered to it. -/
def send (answer : Statement → Except Error α) (s : Statement) : Exchange α := ⟨[s], answer s⟩

/-- Goes on with the result of an exchange unless it failed. -/
protected def bind (x : Exchange α) (next : α → Exchange β) : Exchange β :=
  match x.result with
  | .error e => ⟨x.requests, .error e⟩
  | .ok a => ⟨x.requests ++ (next a).requests, (next a).result⟩

instance : Monad Exchange where
  pure a := ofResult (.ok a)
  bind := Exchange.bind

end Exchange

/-- A result with what happened on the way. -/
structure Run (α : Type) where
  events : List Event
  requests : List Statement
  result : Except Error α

namespace Run

variable {α β : Type}

/-- A result for which nothing happens. -/
def ofResult (result : Except Error α) : Run α := ⟨[], [], result⟩

/-- Reports an event. -/
def report (event : Event) : Run Unit := ⟨[event], [], .ok ()⟩

/-- An exchange during which nothing is reported. -/
def ofExchange (x : Exchange α) : Run α := ⟨[], x.requests, x.result⟩

/-- Goes on with the result of a run unless it failed. -/
protected def bind (r : Run α) (next : α → Run β) : Run β :=
  match r.result with
  | .error e => ⟨r.events, r.requests, .error e⟩
  | .ok a => ⟨r.events ++ (next a).events, r.requests ++ (next a).requests, (next a).result⟩

instance : Monad Run where
  pure a := ofResult (.ok a)
  bind := Run.bind

end Run

end SqlBuilder
