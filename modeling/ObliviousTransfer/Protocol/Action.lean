import ObliviousTransfer.Protocol.Event
import ObliviousTransfer.Protocol.Tape

/-!
Operations that record events, that fail, and that draw from a tape. What a
failed operation drew and recorded is kept.
-/

namespace ObliviousTransfer

structure Logged (Value : Type) where
  value : Value
  events : List Event

structure Step (Session Value : Type) where
  session : Session
  result : Except Failure Value
  events : List Event

structure Outcome (Value : Type) where
  result : Except Failure Value
  tape : Tape
  events : List Event

def Action (Value : Type) : Type := Tape → Outcome Value

namespace Action

variable {Value Next Session : Type}

def succeed (value : Value) : Action Value := fun tape => ⟨.ok value, tape, []⟩

def andThen (action : Action Value) (next : Value → Action Next) : Action Next := fun tape =>
  let first := action tape
  match first.result with
  | .error failure => ⟨.error failure, first.tape, first.events⟩
  | .ok value =>
      let second := next value first.tape
      { second with events := first.events ++ second.events }

instance : Monad Action where
  pure := succeed
  bind := andThen

def ofResult (result : Except Failure Value) : Action Value := fun tape => ⟨result, tape, []⟩

/-- A call of a session whose new state goes on with its value. -/
def ofStep (step : Step Session Value) : Action (Session × Value) := fun tape =>
  ⟨step.result.map fun value => (step.session, value), tape, step.events⟩

def draw (take : Tape → Value × Tape) : Action Value := fun tape =>
  let (value, rest) := take tape
  ⟨.ok value, rest, []⟩

def record (notice : Notice) : Action Unit := fun tape => ⟨.ok (), tape, [⟨[], notice⟩]⟩

def within (span : Span) (action : Action Value) : Action Value := fun tape =>
  let outcome := action tape
  { outcome with events := outcome.events.map (Event.within span) }

end Action

end ObliviousTransfer
