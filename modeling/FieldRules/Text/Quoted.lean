import FieldRules.Text.Property

/-!
# Quoted text

`quoted` writes a text between quotation marks so that it can be read on a screen: quotes,
backslashes and line ends are escaped by name, and characters that have no shape of their own by
number.
-/

namespace FieldRules.Text

/-- Characters that cannot be seen, or not by themselves. -/
def isShapeless (c : Char) : Bool :=
  if c.toNat < 0x7F then c.toNat < 0x20
  else
    [graphemeExtend, controls, formats, privateUseSigns, spaceSeparators, unassigned].any
        (·.contains c.toNat)
      || c.toNat == 0x2028 || c.toNat == 0x2029

def quotedChar (c : Char) : List Char :=
  match c with
  | '\x00' => ['\\', '0']
  | '\t' => ['\\', 't']
  | '\r' => ['\\', 'r']
  | '\n' => ['\\', 'n']
  | '\\' => ['\\', '\\']
  | '"' => ['\\', '"']
  | _ =>
    if isShapeless c then '\\' :: 'u' :: '\x7b' :: (Nat.toDigits 16 c.toNat ++ ['\x7d']) else [c]

def quoted (s : String) : String :=
  String.ofList ('"' :: (s.toList.flatMap quotedChar ++ ['"']))

end FieldRules.Text
