import Searchable.Event
import Searchable.Fault

/-!
# Outcomes

What an operation on a state comes to. An operation that fails still has a state after it and may
have reported events before it failed.
-/

namespace Searchable

/-- What an operation comes to. -/
structure Outcome (State Answer : Type) where
  /-- The state after the operation. -/
  state : State
  /-- The answer, or why there is none. -/
  answer : Except Failure Answer
  /-- What happened, in order. -/
  events : List Event

namespace Outcome

variable {State Answer : Type}

/-- An operation that only looks at the state. -/
def look (state : State) (answer : Except Failure Answer) : Outcome State Answer :=
  ⟨state, answer, []⟩

/-- The outcome with its answer and its state seen in another way. -/
def map {State' Answer' : Type} (onState : State → State') (onAnswer : Answer → Answer')
    (o : Outcome State Answer) : Outcome State' Answer' :=
  ⟨onState o.state, o.answer.map onAnswer, o.events⟩

end Outcome

end Searchable
