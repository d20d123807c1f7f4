import FieldRules.Record
import FieldRules.Schema.Compile

/-!
# Running a schema

The chains run in order over one shared record, each chain its steps in order. A transform replaces
the field in the record, so later steps and later fields see the new value. A failure adds a message
and the run goes on, except that an empty required value ends its field. What happens on the way is
kept as a list of events; the messages are read off them.
-/

namespace FieldRules

/-- What a run does besides changing the record. -/
inductive Event
  | refused (field : String) (error : TooDeep)
  | asked (rule : String) (context : Context)
  | objected (rule field reason : String)
  | failed (field : String) (value : Option Value) (message : String)

namespace Event

def message? : Event → Option String
  | failed _ _ message => some message
  | _ => none

end Event

def messagesOf (events : List Event) : List String :=
  events.filterMap Event.message?

structure Progress where
  record : Record
  events : List Event

inductive Turn
  | next (progress : Progress)
  | stop (events : List Event)

namespace CustomRule

def ask (rule : CustomRule) (context : Context) : List Event :=
  .asked rule.name context :: match rule.check context with
    | .ok true => []
    | .ok false => [.failed context.field context.value s!"{context.field} is invalid"]
    | .error reason =>
      [.objected rule.name context.field reason, .failed context.field context.value reason]

end CustomRule

namespace Check

def run (field : String) (value : Option Value) (r : Record) : Check → List Event
  | type name =>
    if name.acceptsIfAny value then [] else [.failed field value (name.message field)]
  | bound b => if b.accepts value then [] else [.failed field value (b.message field)]
  | relation k => if k.accepts value r then [] else [.failed field value (k.message field)]
  | custom rule => rule.ask ⟨field, value, r⟩

end Check

namespace Chain

/-- Whether checks are left out for a value. An empty required value is reported by the required
step alone; otherwise optional fields may be missing and nullable ones null. -/
def skips (c : Chain) (value : Option Value) : Bool :=
  if c.isRequired then Value.isEmpty value
  else (c.isOptional && value.isNone) || (c.isNullable && value == some .null)

def turn (c : Chain) (r : Record) : Step → Turn
  | .required =>
    let value := r.get? c.field
    if Value.isEmpty value then .stop [.failed c.field value s!"{c.field} is required"]
    else .next ⟨r, []⟩
  | .transform t =>
    let value := r.get? c.field
    match t.apply value with
    | .ok (some v) => .next ⟨r.insert c.field v, []⟩
    | .ok none => .next ⟨r, []⟩
    | .error e =>
      .next ⟨r, [.refused c.field e, .failed c.field value s!"{c.field} is nested too deeply"]⟩
  | .check k =>
    let value := r.get? c.field
    if c.skips value then .next ⟨r, []⟩ else .next ⟨r, k.run c.field value r⟩

/-- Steps of the chain in order, until one of them stops. -/
def runSteps (c : Chain) : List Step → Record → Progress
  | [], r => ⟨r, []⟩
  | s :: rest, r =>
    match c.turn r s with
    | .stop events => ⟨r, events⟩
    | .next p =>
      let q := c.runSteps rest p.record
      ⟨q.record, p.events ++ q.events⟩

def run (c : Chain) (r : Record) : Progress := c.runSteps c.steps r

end Chain

def runChains : List Chain → Record → Progress
  | [], r => ⟨r, []⟩
  | c :: rest, r =>
    let p := c.run r
    let q := runChains rest p.record
    ⟨q.record, p.events ++ q.events⟩

/-- The transformed record and the messages, in the order of fields and steps. -/
structure Outcome where
  record : Record
  errors : List String

namespace Outcome

def accepted (o : Outcome) : Bool := o.errors.isEmpty

end Outcome

namespace Schema

def run (s : Schema) (r : Record) : Progress := runChains s.chains r

def validate (s : Schema) (r : Record) : Outcome :=
  let p := s.run r
  ⟨p.record, messagesOf p.events⟩

end Schema
end FieldRules
