/-!
# Faults of patterns

Why a text is not a pattern. All faults but one concern how the pattern is written; `tooBig` says
that the pattern is well written but stands for too many states. How a fault is worded is left to
the callers of the reader, who take the wording as an argument.
-/

namespace FieldRules.Pattern

inductive Fault
  | unclosedGroup
  | unopenedGroup
  | unclosedClass
  | unclosedCount
  | unfinishedEscape
  | nothingToRepeat
  | badCount
  | badEscape
  | badFlags
  | badGroupName
  | repeatedGroupName
  | lookAround
  | badRange
  | notACharacter
  | unknownProperty
  /-- The class or character may match a part of a character. -/
  | splitsCharacters
  | needsUnicode
  | nestedTooDeeply
  | tooBig
  deriving DecidableEq, Repr

/-- The greatest number of bytes that the states of a pattern may take. -/
def sizeLimit : Nat := 10 * Nat.pow 2 20

def nestLimit : Nat := 250

end FieldRules.Pattern
