import FieldRules.Pattern.Flags
import FieldRules.Pattern.Look
import FieldRules.Pattern.PropertyName
import FieldRules.Pattern.Spacing
import FieldRules.Text.Variant

/-!
# Escapes

What may follow a backslash: a character by name or number, a class of characters, or a look. Inside
and outside brackets escapes are read alike.
-/

namespace FieldRules.Pattern

open Text (CodeSet)

inductive Escape
  /-- `isByte` says that the character was written as two hexadecimal digits. -/
  | letter (c : Char) (isByte : Bool)
  | set (set : CodeSet)
  | look (look : Look)

namespace Escape

def isMeta (c : Char) : Bool := "\\.+*?()|[]\x7b\x7d^$#&-~".toList.contains c

def isPlain (c : Char) : Bool :=
  isMeta c || (c.toNat < 0x80 && !c.isAlphanum && c != '<' && c != '>')

def asciiSet (ranges : List (Char × Char)) : CodeSet :=
  .ofRanges (ranges.map fun p => (p.1.toNat, p.2.toNat))

def perlSet (unicode : Bool) (letter : Char) : CodeSet :=
  match letter with
  | 'd' => if unicode then Text.decimalNumbers else asciiSet [('0', '9')]
  | 's' => if unicode then Text.whiteSpace else asciiSet [('\t', '\r'), (' ', ' ')]
  | _ =>
    if unicode then Text.wordSet else asciiSet [('0', '9'), ('A', 'Z'), ('_', '_'), ('a', 'z')]

end Escape

namespace Flags

def vary (f : Flags) (s : CodeSet) : CodeSet :=
  if f.caseless then if f.unicode then s.withVariants else s.withAsciiVariants else s

/-- The complement of a set if it is negated. Without Unicode classes a complement would hold bytes
that are parts of characters. -/
def negate (f : Flags) (negated : Bool) (s : CodeSet) : Except Fault CodeSet :=
  if !negated then .ok s else if f.unicode then .ok s.complement else .error .splitsCharacters

end Flags

namespace Escape

def hexValue? (c : Char) : Option Nat :=
  if '0' ≤ c && c ≤ '9' then some (c.toNat - '0'.toNat)
  else if 'a' ≤ c && c ≤ 'f' then some (c.toNat - 'a'.toNat + 10)
  else if 'A' ≤ c && c ≤ 'F' then some (c.toNat - 'A'.toNat + 10)
  else none

def ofHex (digits : List Char) : Except Fault Char :=
  match digits.mapM hexValue? with
  | none | some [] => .error .badEscape
  | some values =>
    let n := values.foldl (fun n d => 16 * n + d) 0
    if h : n.isValidChar then .ok (Char.ofNatAux n h) else .error .notACharacter

def take (spaced : Bool) : Nat → List Char → Option (List Char × List Char)
  | 0, t => some ([], t)
  | n + 1, t => match Spacing.drop spaced t with
    | [] => none
    | c :: t => (take spaced n t).map fun p => (c :: p.1, p.2)

def readHex (f : Flags) (digits : Nat) (t : List Char) : Except Fault (Escape × List Char) :=
  match Spacing.drop f.spaced t with
  | '\x7b' :: t => match Spacing.braced f.spaced t with
    | none => .error .unfinishedEscape
    | some (content, t) => do return (.letter (← ofHex content) false, t)
  | t => match take f.spaced digits t with
    | none => .error .unfinishedEscape
    | some (content, t) => do return (.letter (← ofHex content) (digits == 2), t)

/-- A named class; negation follows case variants. -/
def readProperty (f : Flags) (negated : Bool) (t : List Char) :
    Except Fault (Escape × List Char) := do
  let (found, t) ← match Spacing.drop f.spaced t with
    | [] => .error .unfinishedEscape
    | '\x7b' :: t => match Spacing.braced f.spaced t with
      | none => .error .unfinishedEscape
      | some (content, t) => .ok (PropertyName.read? content, t)
    | c :: t => .ok (if c = '\\' then none else PropertyName.find? [c], t)
  if !f.unicode then .error .needsUnicode
  else match found with
    | none => .error .unknownProperty
    | some s => return (.set (← f.negate negated (f.vary s)), t)

def isEdgeLetter (c : Char) : Bool := c.isAlpha || c == '-'

/-- An edge of words: `\b`, or `\b` with the kind of the edge in braces. Braces that do not begin
with a letter or hyphen are left to be read as a count. -/
def readEdge (f : Flags) (t : List Char) : Except Fault (Escape × List Char) :=
  let found := fun edge => .look (.word (!f.unicode) edge)
  match t with
  | '\x7b' :: inner => match Spacing.drop f.spaced inner with
    | [] => .error .unclosedCount
    | c :: rest =>
      if !isEdgeLetter c then .ok (found .either, t)
      else match Spacing.braced f.spaced (c :: rest) with
        | none => .error .unfinishedEscape
        | some (content, rest) => match String.ofList content with
          | "start" => .ok (found .opening, rest)
          | "end" => .ok (found .closing, rest)
          | "start-half" => .ok (found .openingHalf, rest)
          | "end-half" => .ok (found .closingHalf, rest)
          | _ => .error .badEscape
  | _ => .ok (found .either, t)

def read (f : Flags) : List Char → Except Fault (Escape × List Char)
  | [] => .error .unfinishedEscape
  | c :: t =>
    let edge := fun e => .ok (.look (.word (!f.unicode) e), t)
    let letter := fun d => .ok (.letter d false, t)
    if c.isDigit then .error .badEscape
    else if isPlain c then letter c
    else match c with
      | 'x' => readHex f 2 t
      | 'u' => readHex f 4 t
      | 'U' => readHex f 8 t
      | 'p' => readProperty f false t
      | 'P' => readProperty f true t
      | 'd' | 's' | 'w' => .ok (.set (perlSet f.unicode c), t)
      | 'D' | 'S' | 'W' => do return (.set (← f.negate true (perlSet f.unicode c.toLower)), t)
      | 'a' => letter '\x07'
      | 'f' => letter '\x0c'
      | 't' => letter '\t'
      | 'n' => letter '\n'
      | 'r' => letter '\r'
      | 'v' => letter '\x0b'
      | 'A' => .ok (.look .textStart, t)
      | 'z' => .ok (.look .textEnd, t)
      | 'b' => readEdge f t
      | 'B' => edge .none
      | '<' => edge .opening
      | '>' => edge .closing
      | _ => .error .badEscape

/-- The character that an escape writes, as far as it is one. Two hexadecimal digits name a byte
when classes are ASCII, and a byte above ASCII is only a part of a character. -/
def checkLetter (f : Flags) (c : Char) (isByte : Bool) : Except Fault Char :=
  if !f.unicode && isByte && c.toNat > 0x7F then .error .splitsCharacters else .ok c

end Escape
end FieldRules.Pattern
