import FleetScore.Telemetry.Event
import FleetScore.Telemetry.Pattern
import FleetScore.Decimal.Entry
import FleetScore.Text.Alphanumeric
import FleetScore.Text.Blank

/-!
# Which events are shown

An operator says what the log should show in a list of *directives*, separated by
commas.  A directive has up to three parts, in this order:

* a *target*, `pipeline_lib::join`, which an event's target has to start with;
* in brackets a *scope*, the name of a span, `[fit]`, or in braces a field that an event
  has to carry, `[{event}]`, or both; a field may also be held against a value;
* after an equals sign a level, `=debug`, which admits events that matter at least as
  much.

What is missing admits everything, and a level that stands alone is a level and not a
target.

For an event the most specific directive decides, that is the one with the longest
target, then the one with a field, and of equal ones the last.  An event no directive
speaks about is not shown.  This program has no spans and holds no values against
fields, so a directive that asks for one or the other admits nothing.

A list that cannot be read counts as no list at all, and then everything is shown from
`info` upwards.
-/

namespace FleetScore

/-- How far a log goes into detail: nothing at zero, everything at five. -/
abbrev Detail := Nat

/-- The detail at which an event of a level is shown. -/
def Level.detail : Level → Detail
  | .warn => 2
  | .info => 3
  | .debug => 4

/-- A field that an event has to carry: its name, and what its value has to be, if that matters
as well. -/
structure FieldWish where
  name : String
  value : Option String
  deriving DecidableEq, Repr

/-- One wish about the log: the detail that is shown of the events whose targets start like
this, that are in this span and carry this field, as far as it names them. -/
structure Directive where
  target : Option String
  span : Option String
  field : Option FieldWish
  detail : Detail
  deriving DecidableEq, Repr

/-- Wishes about the log, in the order they were given. -/
abbrev Filter := List Directive

namespace Directive

/-- The detail of directives that name no level. -/
def everything : Detail := 5

/-- A directive about all events. -/
def ofDetail (detail : Detail) : Directive := ⟨none, none, none, detail⟩

/-- The detail that a word or a digit stands for. -/
def detail? (s : String) : Option Detail :=
  match String.ofList (s.toList.map Char.toLower) with
  | "off" => some 0
  | "error" => some 1
  | "warn" => some 2
  | "info" => some 3
  | "debug" => some 4
  | "trace" => some everything
  | _ => (Decimal.Entry.natural? s.toList).filter fun n => decide (n ≤ everything)

/-! ## Reading

Blanks around a directive are left out when it is taken apart, but the parts are then
cut from the text with its blanks, at the positions that were found without them.  So a
blank in front belongs to the first part and pushes every part by its room, and one
behind belongs to the last part.  Positions count bytes. -/

/-- A text without its first bytes. -/
def dropBytes : Nat → List Char → List Char
  | 0, s => s
  | _, [] => []
  | n + 1, c :: rest => dropBytes (n + 1 - c.utf8Size) rest

/-- The first bytes of a text. -/
def takeBytes : Nat → List Char → List Char
  | 0, _ => []
  | _, [] => []
  | n + 1, c :: rest => c :: takeBytes (n + 1 - c.utf8Size) rest

/-- The part of a text from one position up to another. -/
def slice (text : List Char) (start stop : Nat) : String :=
  String.ofList (takeBytes (stop - start) (dropBytes start text))

/-- The part of a text from a position on. -/
def tail (text : List Char) (start : Nat) : String := String.ofList (dropBytes start text)

/-- The position of the first character that ends a part, from a position on, and the
text that starts with it. -/
def upTo (ends : Char → Bool) : Nat → List Char → Nat × List Char
  | position, [] => (position, [])
  | position, c :: rest =>
      if ends c then (position, c :: rest) else upTo ends (position + c.utf8Size) rest

/-- A text without the blanks around it. -/
def trimmed (s : List Char) : List Char :=
  (Text.dropBlanks (Text.dropBlanks s).reverse).reverse

/-- Whether a target may begin with a character. -/
def mayBegin (c : Char) : Bool :=
  Text.isAlphanumeric c || c == '-' || c == ':' || c == '_'

/-- The level in the text from a position on; nothing admits everything. -/
def level? (text : List Char) (start : Nat) : Option Detail :=
  match tail text start with
  | "" => some everything
  | s => detail? s

/-- The end of a directive after its scope. -/
def ending? (d : Directive) (text : List Char) (position : Nat) : List Char → Option Directive
  | [] => some d
  | '=' :: _ => (level? text (position + 1)).map fun detail => { d with detail := detail }
  | _ => none

/-- What a field's value has to be: a number or a pattern. -/
def isValue (s : String) : Bool := (Decimal.Entry.real? s.toList).isSome || Pattern.isPattern s

/-- A field in braces: its name, and its value after an equals sign.  What follows a
second equals sign is ignored. -/
def field? (s : String) : Option FieldWish :=
  if s = "" then none
  else match s.splitOn "=" with
    | name :: value :: _ => if isValue value then some ⟨name, some value⟩ else none
    | _ => some ⟨s, none⟩

/-- The rest of a directive after its opening bracket. -/
def scope? (target : Option String) (text : List Char) (position : Nat) (s : List Char) :
    Option Directive :=
  let span := upTo (fun c => c == ']' || c == '\x7b') position s
  let name := slice text position span.1
  match span.2 with
  | ']' :: rest => ending? ⟨target, some name, none, everything⟩ text (span.1 + 1) rest
  | '\x7b' :: rest => do
      let last := upTo (fun c => c == '\x7d') (span.1 + 1) rest
      let field ← field? (slice text (span.1 + 1) last.1)
      match last.2 with
      | '\x7d' :: ']' :: rest =>
          ending? ⟨target, if name = "" then none else some name, some field, everything⟩ text
            (last.1 + 2) rest
      | _ => none
  | _ => none

/-- A directive of a single word: a level, or else a target. -/
def ofWord (s : String) : Directive :=
  match detail? s with
  | some detail => ofDetail detail
  | none => ⟨some s, none, none, everything⟩

/-- Reads a directive. -/
def read? (s : String) : Option Directive :=
  let text := s.toList
  match trimmed text with
  | [] => none
  | '[' :: rest => scope? none text 1 rest
  | c :: rest =>
      if mayBegin c then
        let word := upTo (fun c => c == '=' || c == '[') 0 (c :: rest)
        let target := some (slice text 0 word.1)
        match word.2 with
        | [] => some (ofWord s)
        | '=' :: _ => (level? text (word.1 + 1)).map fun detail => ⟨target, none, none, detail⟩
        | _ :: rest => scope? target text (word.1 + 1) rest
      else none

/-! ## Holding events against directives -/

/-- Whether an event has a field of a name; the message is one. -/
def carries (e : Event) (name : String) : Bool :=
  name == "message" || e.fields.any fun f => f.1 == name

/-- Whether a directive can be decided without spans and values. -/
def isDecidable (d : Directive) : Bool :=
  d.span.isNone && (d.field.all fun f => f.value.isNone)

/-- Whether a directive speaks about an event. -/
def concerns (d : Directive) (e : Event) : Bool :=
  d.isDecidable
    && (d.target.all fun t => t.toList.isPrefixOf e.target.toList)
    && (d.field.all fun f => carries e f.name)

/-- How far a directive narrows down its events by their target. -/
def reach (d : Directive) : Nat := (d.target.map fun t => t.length + 1).getD 0

/-- Whether a directive is at least as specific as another one about the same event. -/
def isAsSpecific (d other : Directive) : Bool :=
  if d.reach = other.reach then
    match d.field, other.field with
    | some f, some g => decide (g.name ≤ f.name)
    | _, some _ => false
    | _, none => true
  else decide (other.reach < d.reach)

end Directive

namespace Filter

/-- What is shown where nothing else is wished for. -/
def standard : Filter := [.ofDetail 3]

/-- Splits a text at commas and leaves out what is empty. -/
def pieces (s : String) : List String := (s.splitOn ",").filter fun piece => !piece.isEmpty

/-- Reads a list of directives; a list of none shows errors only. -/
def read? (s : String) : Option Filter :=
  match pieces s with
  | [] => some [.ofDetail 1]
  | pieces => pieces.mapM Directive.read?

/-- The variable that holds the wishes. -/
def logVariable : String := "RUST_LOG"

/-- The filter that an environment asks for. -/
def ofEnvironment (env : List (String × String)) : Filter :=
  ((env.lookup logVariable).bind read?).getD standard

/-- The more specific of two directives; of two equal ones the second. -/
def moreSpecific (best : Option Directive) (d : Directive) : Option Directive :=
  match best with
  | none => some d
  | some b => if d.isAsSpecific b then some d else some b

/-- The directive that decides about an event. -/
def deciding? (f : Filter) (e : Event) : Option Directive :=
  (f.filter fun d => d.concerns e).foldl moreSpecific none

/-- Whether an event is shown. -/
def shows (f : Filter) (e : Event) : Bool :=
  match f.deciding? e with
  | none => false
  | some d => decide (e.level.detail ≤ d.detail)

/-- The events that are shown. -/
def apply (f : Filter) (events : List Event) : List Event := events.filter f.shows

end Filter
end FleetScore
