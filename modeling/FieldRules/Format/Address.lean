import FieldRules.Text.Blank
import FieldRules.Text.Pieces

/-!
# Addresses and identifiers

Which texts are e-mail addresses, web addresses and UUIDs. `isEmail` tries every way of cutting the
text at an `@` and what follows at a point, since points may stand in both parts of a domain.
-/

namespace FieldRules.Format

def isAsciiLetter (c : Char) : Bool := c.isAlpha

def isAsciiAlphanumeric (c : Char) : Bool := c.isAlphanum

def isMailboxChar (c : Char) : Bool :=
  c.isAlphanum || c == '.' || c == '_' || c == '%' || c == '+' || c == '-'

def isDomainChar (c : Char) : Bool :=
  c.isAlphanum || c == '.' || c == '-'

/-- A domain ends in a point and at least two letters. -/
def isDomain (t : List Char) : Bool :=
  (Text.cuts '.' t).any fun p =>
    !p.1.isEmpty && p.1.all isDomainChar && 2 ≤ p.2.length && p.2.all isAsciiLetter

def isEmail (t : List Char) : Bool :=
  (Text.cuts '@' t).any fun p => !p.1.isEmpty && p.1.all isMailboxChar && isDomain p.2

def afterScheme? : List Char → Option (List Char)
  | 'h' :: 't' :: 't' :: 'p' :: ':' :: '/' :: '/' :: t => some t
  | 'h' :: 't' :: 't' :: 'p' :: 's' :: ':' :: '/' :: '/' :: t => some t
  | _ => none

def startsAddress (c : Char) : Bool :=
  !Text.isBlank c && c != '/' && c != '$' && c != '.' && c != '?' && c != '#'

def isUrl (t : List Char) : Bool :=
  match afterScheme? t with
  | some (c :: rest) => startsAddress c && rest.all fun c => !Text.isBlank c
  | _ => false

def isHexDigit (c : Char) : Bool :=
  c.isDigit || ('a' ≤ c && c ≤ 'f') || ('A' ≤ c && c ≤ 'F')

def isHexGroups : List Nat → List Char → Bool
  | [], t => t.isEmpty
  | [n], t => t.length == n && t.all isHexDigit
  | n :: more, t =>
    (t.take n).length == n && (t.take n).all isHexDigit
      && (t.drop n).head? == some '-' && isHexGroups more (t.drop (n + 1))

def isUuid (t : List Char) : Bool := isHexGroups [8, 4, 4, 4, 12] t

end FieldRules.Format
