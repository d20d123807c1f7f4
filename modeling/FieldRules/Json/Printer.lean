import FieldRules.Value

/-!
# Writing JSON

`compact` writes a value without any blanks; `pretty` puts every item and member on a line of its
own, two spaces deeper than what surrounds it. Strings are written with the fewest escapes.
-/

namespace FieldRules.Json

def hexDigit (n : Nat) : Char := (Nat.digitChar n)

def escape (c : Char) : List Char :=
  match c with
  | '"' => ['\\', '"']
  | '\\' => ['\\', '\\']
  | '\x08' => ['\\', 'b']
  | '\x0c' => ['\\', 'f']
  | '\n' => ['\\', 'n']
  | '\r' => ['\\', 'r']
  | '\t' => ['\\', 't']
  | c =>
    if c.toNat < 0x20 then
      ['\\', 'u', '0', '0', hexDigit (c.toNat / 16), hexDigit (c.toNat % 16)]
    else [c]

def quoted (s : String) : List Char :=
  '"' :: s.toList.flatMap escape ++ ['"']

def boolText (b : Bool) : List Char :=
  if b then ['t', 'r', 'u', 'e'] else ['f', 'a', 'l', 's', 'e']

def nullText : List Char := ['n', 'u', 'l', 'l']

mutual

def compact : Value → List Char
  | .null => nullText
  | .bool b => boolText b
  | .number n => n.text
  | .string s => quoted s
  | .array items => '[' :: compactItems items
  | .object members => '{' :: compactMembers members

def compactItems : List Value → List Char
  | [] => [']']
  | [v] => compact v ++ [']']
  | v :: rest => compact v ++ ',' :: compactItems rest

def compactMembers : List (String × Value) → List Char
  | [] => ['}']
  | [(k, v)] => quoted k ++ ':' :: compact v ++ ['}']
  | (k, v) :: rest => quoted k ++ ':' :: compact v ++ ',' :: compactMembers rest

end

def newline (level : Nat) : List Char :=
  '\n' :: List.replicate (2 * level) ' '

mutual

def prettyAt (level : Nat) : Value → List Char
  | .null => nullText
  | .bool b => boolText b
  | .number n => n.text
  | .string s => quoted s
  | .array [] => ['[', ']']
  | .object [] => ['{', '}']
  | .array items => '[' :: prettyItems level items
  | .object members => '{' :: prettyMembers level members

def prettyItems (level : Nat) : List Value → List Char
  | [] => []
  | [v] => newline (level + 1) ++ prettyAt (level + 1) v ++ newline level ++ [']']
  | v :: rest => newline (level + 1) ++ prettyAt (level + 1) v ++ ',' :: prettyItems level rest

def prettyMembers (level : Nat) : List (String × Value) → List Char
  | [] => []
  | [(k, v)] =>
    newline (level + 1) ++ quoted k ++ ':' :: ' ' :: prettyAt (level + 1) v
      ++ newline level ++ ['}']
  | (k, v) :: rest =>
    newline (level + 1) ++ quoted k ++ ':' :: ' ' :: prettyAt (level + 1) v
      ++ ',' :: prettyMembers level rest

end

def pretty (v : Value) : List Char := prettyAt 0 v

def compactText (v : Value) : String := String.ofList (compact v)

def prettyText (v : Value) : String := String.ofList (pretty v)

end FieldRules.Json
