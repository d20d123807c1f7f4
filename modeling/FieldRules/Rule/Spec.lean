import FieldRules.Record
import FieldRules.Text.Blank
import FieldRules.Text.Pieces

/-!
# Field specifications

How a caller writes down the rules of one field: as one string with bars between the tokens, or as a
list of tokens. A list may also hold custom rules, predicates of the caller's own; they are kept
apart from the tokens.
-/

namespace FieldRules

/-- What a custom rule sees: its field, the field's value and the whole record. -/
structure Context where
  field : String
  value : Option Value
  record : Record

/-- A predicate of the caller's own. It accepts, rejects, or rejects with a reason. -/
structure CustomRule where
  name : String
  check : Context → Except String Bool

inductive Entry
  | token (text : String)
  | custom (rule : CustomRule)

inductive Spec
  | pipe (text : String)
  | list (entries : List Entry)

namespace Entry

def token? : Entry → Option String
  | token text => some text
  | custom _ => none

def custom? : Entry → Option CustomRule
  | token _ => none
  | custom rule => some rule

end Entry

namespace Spec

/-- The texts trimmed, without the blank ones. -/
def tidy (texts : List String) : List String :=
  (texts.map Text.trimmed).filter fun t => t ≠ ""

def tokens : Spec → List String
  | pipe text => tidy (Text.pieces '|' text)
  | list entries => tidy (entries.filterMap Entry.token?)

def customs : Spec → List CustomRule
  | pipe _ => []
  | list entries => entries.filterMap Entry.custom?

def ofTokens (texts : List String) : Spec := list (texts.map .token)

end Spec
end FieldRules
