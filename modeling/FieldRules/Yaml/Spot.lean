/-!
# Text with places

A YAML text as a list of spots: each character with its line, column and index. The end of the text
is a spot of its own; its character is NUL, which no YAML text holds. All ways of ending a line are
one line feed here, but for the two separators U+2028 and U+2029.
-/

namespace FieldRules.Yaml

structure Spot where
  char : Char
  line : Nat
  column : Nat
  index : Nat
  deriving DecidableEq, Repr

def isBreak (c : Char) : Bool := c == '\n' || c == '\u2028' || c == '\u2029'

def isGap (c : Char) : Bool := c == ' ' || c == '\t'

def isEnd (c : Char) : Bool := c == '\x00'

def endsLine (c : Char) : Bool := isBreak c || isEnd c

def endsWord (c : Char) : Bool := isGap c || endsLine c

def isNameChar (c : Char) : Bool := c.isAlphanum || c == '_' || c == '-'

def isAllowed (c : Char) : Bool :=
  let n := c.toNat
  n == 0x9 || n == 0xA || n == 0xD || (0x20 ≤ n && n ≤ 0x7E) || n == 0x85
    || (0xA0 ≤ n && n ≤ 0xFFFD && n != 0xFEFF) || 0x10000 ≤ n

/-- The text with a line feed for each line end of another kind. -/
def unifyBreaks : List Char → List Char
  | '\r' :: '\n' :: t => '\n' :: unifyBreaks t
  | c :: t => (if c = '\r' || c = '\u0085' then '\n' else c) :: unifyBreaks t
  | [] => []

namespace Spot

def placed (line column index : Nat) : List Char → List Spot
  | [] => [⟨'\x00', line, column, index⟩]
  | c :: t =>
    ⟨c, line, column, index⟩ ::
      if isBreak c then placed (line + 1) 0 (index + 1) t
      else placed line (column + 1) (index + 1) t

/-- The spots of a text, unless it holds a character that it may not hold. A byte order mark at the
start does not count. -/
def ofText? (t : List Char) : Option (List Spot) :=
  let t := if t.head? = some '\ufeff' then t.tail else t
  if t.all isAllowed then some (placed 0 0 0 (unifyBreaks t)) else none

def charAt (t : List Spot) (k : Nat) : Char :=
  match t[k]? with
  | some s => s.char
  | none => '\x00'

def first (t : List Spot) : Char := charAt t 0

/-- The text begins, in the first column, with three times `c` and the end of a word. -/
def isMarker (c : Char) (t : List Spot) : Bool :=
  t.head?.any (·.column == 0) && charAt t 0 == c && charAt t 1 == c && charAt t 2 == c
    && endsWord (charAt t 3)

def isDocumentMarker (t : List Spot) : Bool := isMarker '-' t || isMarker '.' t

def dropGap (t : List Spot) : List Spot := t.dropWhile fun s => isGap s.char

def spanChars (kind : Char → Bool) (t : List Spot) : List Char × List Spot :=
  let (a, b) := t.span fun s => kind s.char
  (a.map Spot.char, b)

def endLine? (t : List Spot) : Option (List Spot) :=
  let t := dropGap t
  let t := if first t = '#' then t.dropWhile fun s => !endsLine s.char else t
  if isBreak (first t) then some t.tail else if isEnd (first t) then some t else none

end Spot
end FieldRules.Yaml
