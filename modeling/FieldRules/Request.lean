import FieldRules.Value.Equality
import FieldRules.Sanitizer

/-!
# Requests

The parts of a request, each a value of its own: body, query and path parameters. Merging makes one
record of the parts that are objects; of a key that several parts hold, the body's value wins over
the query's and that over the path parameters'. A key stands where it first appeared.
-/

namespace FieldRules

structure RequestParts where
  body : Value
  query : Value
  params : Value
  deriving DecidableEq

namespace RequestParts

def membersOf : Value → Record
  | .object members => members
  | _ => []

def merged (p : RequestParts) : Record :=
  ((Record.ofList (membersOf p.params)).insertAll (membersOf p.query)).insertAll (membersOf p.body)

def sanitized (p : RequestParts) (s : Sanitizer) : Except TooDeep RequestParts := do
  let body ← s.sanitize p.body
  let query ← s.sanitize p.query
  let params ← s.sanitize p.params
  return ⟨body, query, params⟩

/-- The parts of a document: an object with any of the three keys, or an array of up to three values
in the order body, query, path parameters. A missing part is null. -/
def ofValue? : Value → Option RequestParts
  | .object members =>
    let part := fun key => (Record.get? members key).getD .null
    some ⟨part "body", part "query", part "params"⟩
  | .array items =>
    if items.length ≤ 3 then
      some ⟨items.getD 0 .null, items.getD 1 .null, items.getD 2 .null⟩
    else none
  | _ => none

end RequestParts
end FieldRules
