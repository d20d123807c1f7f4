import FieldRules.Record
import FieldRules.Schema.Run

/-!
# Validation failures

What a client is told about a rejected record: a status and the messages. A failure is written as an
object with these two members, and read from such an object or from an array of the two.
-/

namespace FieldRules

structure ValidationFailure where
  status : Nat
  errors : List String
  deriving DecidableEq, Repr

namespace ValidationFailure

def unprocessable : Nat := 422

def message (f : ValidationFailure) : String :=
  "Validation failed: " ++ String.intercalate "; " f.errors

def withStatus (f : ValidationFailure) (status : Nat) : ValidationFailure :=
  { f with status := status }

def toValue (f : ValidationFailure) : Value :=
  .object [("status", .number (.integer f.status)), ("errors", .array (f.errors.map .string))]

def statusOf? : Value → Option Nat
  | .number (.integer i) => if 0 ≤ i && i < 65536 then some i.toNat else none
  | _ => none

def textOf? : Value → Option String
  | .string s => some s
  | _ => none

def textsOf? : Value → Option (List String)
  | .array items => items.mapM textOf?
  | _ => none

/-- Both members are needed; further ones of an object are ignored. -/
def ofValue? : Value → Option ValidationFailure
  | .object members => do
    let status ← Record.get? members "status"
    let errors ← Record.get? members "errors"
    return ⟨← statusOf? status, ← textsOf? errors⟩
  | .array [status, errors] => do return ⟨← statusOf? status, ← textsOf? errors⟩
  | _ => none

end ValidationFailure

namespace Outcome

def toResult (o : Outcome) : Except ValidationFailure Record :=
  if o.accepted then .ok o.record else .error ⟨ValidationFailure.unprocessable, o.errors⟩

end Outcome
end FieldRules
