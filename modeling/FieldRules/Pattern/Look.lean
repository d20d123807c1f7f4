import FieldRules.Text.Word

/-!
# Looks

A look is a condition on a place in a text. It depends on the characters on both sides of the place
and takes none of them.
-/

namespace FieldRules.Pattern

structure Place where
  before : Option Char
  after : Option Char
  deriving DecidableEq, Repr

inductive Edge
  | either
  | none
  | opening
  | closing
  /-- No word character stands before the place. -/
  | openingHalf
  | closingHalf
  deriving DecidableEq, Repr

inductive Look
  | textStart
  | textEnd
  | lineStart
  | lineEnd
  /-- The start of a line, where carriage return, line feed, or both end a line. -/
  | crlfLineStart
  | crlfLineEnd
  | word (ascii : Bool) (edge : Edge)
  deriving DecidableEq, Repr

def isAsciiWord (c : Char) : Bool := c.isAlphanum || c == '_'

namespace Edge

/-- The edge stands between sides that are or are not word characters. -/
def holds (before after : Bool) : Edge → Bool
  | either => before != after
  | none => before == after
  | opening => !before && after
  | closing => before && !after
  | openingHalf => !before
  | closingHalf => !after

end Edge

namespace Look

def holds (p : Place) : Look → Bool
  | textStart => p.before.isNone
  | textEnd => p.after.isNone
  | lineStart => p.before.isNone || p.before == some '\n'
  | lineEnd => p.after.isNone || p.after == some '\n'
  | crlfLineStart =>
    p.before.isNone || p.before == some '\n' || (p.before == some '\r' && p.after != some '\n')
  | crlfLineEnd =>
    p.after.isNone || p.after == some '\r' || (p.after == some '\n' && p.before != some '\r')
  | word ascii edge =>
    let inWord := if ascii then isAsciiWord else Text.isWord
    edge.holds (p.before.any inWord) (p.after.any inWord)

end Look
end FieldRules.Pattern
