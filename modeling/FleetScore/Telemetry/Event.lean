/-!
# Log events

Everything the program has to say while it works is an *event*: a level, a message
for people, and named values for machines.  Events are values.  A function that
has something to report answers its events beside its result, in order, and the
outermost layer decides what becomes of them.

Each event names its *target*, the part of the program that speaks; a filter may
admit some targets and not others.
-/

namespace FleetScore

/-- How much an event matters, from the least to the most. -/
inductive Level where
  | debug
  | info
  | warn
  deriving DecidableEq, Repr

namespace Level

/-- The name of a level in a log line. -/
def name : Level → String
  | .debug => "DEBUG"
  | .info => "INFO"
  | .warn => "WARN"

end Level

/-- A value that an event carries. -/
inductive FieldValue where
  | text (s : String)
  | integer (n : Int)
  | measure (x : Float)

/-- One log event: how much it matters, who speaks, what people read, and named values, in the
order they were given. -/
structure Event where
  level : Level
  target : String
  message : String
  fields : List (String × FieldValue)

namespace Event

/-- The name of the event, where it has one. -/
def name? (e : Event) : Option String :=
  e.fields.findSome? fun f =>
    match f with
    | ("event", .text s) => some s
    | _ => none

end Event
end FleetScore
