import FieldRules.Json.Printer

/-!
# Log lines

A line of a log has a level, a target that says where it comes from, and a text. Submitted values
are user data: unless the log may show them, only the length of a value's text is logged, and not
even that of a short one.
-/

namespace FieldRules.Log

inductive Level
  | error
  | warn
  | info
  | debug
  | trace
  deriving DecidableEq, Repr

namespace Level

def all : List Level := [error, warn, info, debug, trace]

def name : Level → String
  | error => "ERROR"
  | warn => "WARN"
  | info => "INFO"
  | debug => "DEBUG"
  | trace => "TRACE"

def rank : Level → Nat
  | error => 1
  | warn => 2
  | info => 3
  | debug => 4
  | trace => 5

end Level

structure Line where
  level : Level
  target : String
  text : String
  deriving DecidableEq, Repr

def Line.render (l : Line) : String := s!"[{l.level.name} {l.target}] {l.text}"

/-- A text of more than eight bytes is replaced by its length, a shorter one by less. -/
def redact (s : String) : String :=
  if s.utf8ByteSize ≤ 8 then "[REDACTED]" else s!"[REDACTED: {s.utf8ByteSize} chars]"

def shown (revealing : Bool) : Option Value → String
  | none => "<missing>"
  | some v =>
    let text := Json.compactText v
    if revealing then text else redact text

end FieldRules.Log
