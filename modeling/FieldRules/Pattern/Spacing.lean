import FieldRules.Text.Blank

/-!
# Spaced writing

With the flag for spaced writing, blanks between the parts of a pattern are passed over, and so is
everything from `#` to the end of its line.
-/

namespace FieldRules.Pattern.Spacing

/-- The text after its blanks and comments; `comment` says that it begins inside a comment. -/
def dropFrom (comment : Bool) : List Char → List Char
  | [] => []
  | c :: t =>
    if comment then dropFrom (c != '\n') t
    else if Text.isBlank c then dropFrom false t
    else if c = '#' then dropFrom true t
    else c :: t

def drop (spaced : Bool) (t : List Char) : List Char :=
  if spaced then dropFrom false t else t

/-- The text before the next closing brace, less what spaced writing passes over, and the text after
the brace. -/
def upToBrace (spaced comment : Bool) (read : List Char) :
    List Char → Option (List Char × List Char)
  | [] => none
  | c :: t =>
    if comment then upToBrace spaced (c != '\n') read t
    else if spaced && Text.isBlank c then upToBrace spaced false read t
    else if spaced && c = '#' then upToBrace spaced true read t
    else if c = '}' then some (read.reverse, t)
    else upToBrace spaced false (c :: read) t

def braced (spaced : Bool) (t : List Char) : Option (List Char × List Char) :=
  upToBrace spaced false [] t

end FieldRules.Pattern.Spacing
