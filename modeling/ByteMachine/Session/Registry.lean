import ByteMachine.Session.Command

/-!
# Listeners of a session

A session keeps its listeners in the order in which they were subscribed, counts the calls of each
reaction, and keeps a record of what recorders heard and what reactions were answered.
-/

namespace ByteMachine

/-- Something that is called for the notices of a topic. -/
inductive Subscriber
  /-- Writes the notice down. -/
  | recorder
  /-- The reaction with a number. -/
  | reaction (number : Nat)
  deriving DecidableEq, Repr

/-- A reaction and how often it was called. -/
structure Reaction where
  /-- Number of calls so far. -/
  calls : Nat
  /-- What it does at a call, the first being number one. -/
  react : Nat → Option Command

/-- A line in the record of a session. -/
inductive Entry
  /-- A recorder heard a notice. -/
  | heard (notice : Notice)
  /-- A reaction was answered. -/
  | reacted (answer : Answer)

/-- The listeners of a session and its record. -/
structure Registry where
  /-- The listeners with their topics, in the order of subscription. -/
  subscribers : List (Topic × Subscriber)
  /-- The reactions in the order of subscription. -/
  reactions : Array Reaction
  /-- What was recorded. -/
  entries : Array Entry

namespace Registry

/-- No listeners, and nothing recorded. -/
def empty : Registry :=
  ⟨[], #[], #[]⟩

/-- Subscribes the recorder of a topic. -/
def subscribe (registry : Registry) (topic : Topic) : Registry :=
  { registry with subscribers := registry.subscribers ++ [(topic, .recorder)] }

/-- Takes back the first subscription of the recorder of a topic. -/
def unsubscribe (registry : Registry) (topic : Topic) : Registry :=
  { registry with subscribers := registry.subscribers.erase (topic, .recorder) }

/-- Subscribes a new reaction. -/
def hook (registry : Registry) (topic : Topic) (react : Nat → Option Command) : Registry :=
  { registry with
    subscribers := registry.subscribers ++ [(topic, .reaction registry.reactions.size)]
    reactions := registry.reactions.push ⟨0, react⟩ }

/-- The listeners of a topic in the order of subscription. -/
def subscribersOf (registry : Registry) (topic : Topic) : List Subscriber :=
  registry.subscribers.filterMap fun entry => if entry.1 = topic then some entry.2 else none

/-- Counts a call of a reaction and tells what it does. -/
def countCall (registry : Registry) (number : Nat) : Option Command × Registry :=
  match registry.reactions[number]? with
  | none => (none, registry)
  | some reaction =>
      let calls := reaction.calls + 1
      (reaction.react calls,
        { registry with
          reactions := registry.reactions.setIfInBounds number { reaction with calls } })

/-- Adds a line to the record. -/
def note (registry : Registry) (entry : Entry) : Registry :=
  { registry with entries := registry.entries.push entry }

/-- Forgets the record. -/
def forget (registry : Registry) : Registry :=
  { registry with entries := #[] }

end Registry
end ByteMachine
