import FieldRules.Json.Number

/-!
# Tokens of JSON text

`Token.ofText?` takes a text apart into the tokens of RFC 8259. Reading is one fold over the
characters: the mode says what the characters read so far belong to.
-/

namespace FieldRules.Json

inductive Token
  | openArray
  | closeArray
  | openObject
  | closeObject
  | comma
  | colon
  | string (value : String)
  | scalar (value : Value)
  deriving DecidableEq

def Token.ofBare? (t : List Char) : Option Token :=
  if t = ['n', 'u', 'l', 'l'] then some (.scalar .null)
  else if t = ['t', 'r', 'u', 'e'] then some (.scalar (.bool true))
  else if t = ['f', 'a', 'l', 's', 'e'] then some (.scalar (.bool false))
  else do
    let n ← Numeral.ofText? t
    if isStrict n then return .scalar (.number (← numberOf? n)) else none

def Token.ofPunctuation? : Char → Option Token
  | '[' => some .openArray
  | ']' => some .closeArray
  | '{' => some .openObject
  | '}' => some .closeObject
  | ',' => some .comma
  | ':' => some .colon
  | _ => none

def isGap (c : Char) : Bool := c == ' ' || c == '\t' || c == '\n' || c == '\r'

/-- What the characters read last belong to. Texts read so far stand in reverse. -/
inductive Mode
  | between
  | bare (read : List Char)
  | string (read : List Char)
  | escape (read : List Char)
  /-- In `\uXXXX`, after a first half of a pair if there is one. -/
  | unit (read : List Char) (high : Option Nat) (digits value : Nat)
  | half (read : List Char) (high : Nat)
  | halfEscape (read : List Char) (high : Nat)

def escaped? : Char → Option Char
  | '"' => some '"'
  | '\\' => some '\\'
  | '/' => some '/'
  | 'b' => some '\x08'
  | 'f' => some '\x0c'
  | 'n' => some '\n'
  | 'r' => some '\r'
  | 't' => some '\t'
  | _ => none

def hexValue? (c : Char) : Option Nat :=
  if c.isDigit then some (c.toNat - '0'.toNat)
  else if 'a' ≤ c && c ≤ 'f' then some (c.toNat - 'a'.toNat + 10)
  else if 'A' ≤ c && c ≤ 'F' then some (c.toNat - 'A'.toNat + 10)
  else none

/-- The mode after the four digits of a unit: the halves of a pair must come in order. -/
def Mode.ofUnit? (read : List Char) (high : Option Nat) (value : Nat) : Option Mode :=
  let isHigh := 0xD800 ≤ value && value < 0xDC00
  let isLow := 0xDC00 ≤ value && value < 0xE000
  match high with
  | none =>
    if isHigh then some (.half read value)
    else if isLow then none
    else some (.string (Char.ofNat value :: read))
  | some first =>
    if isLow then
      some (.string (Char.ofNat (0x10000 + (first - 0xD800) * 0x400 + (value - 0xDC00)) :: read))
    else none

structure Lexer where
  tokens : List Token
  mode : Mode

namespace Lexer

def start : Lexer := ⟨[], .between⟩

def fresh (tokens : List Token) (c : Char) : Lexer :=
  if isGap c then ⟨tokens, .between⟩
  else if c = '"' then ⟨tokens, .string []⟩
  else match Token.ofPunctuation? c with
    | some token => ⟨token :: tokens, .between⟩
    | none => ⟨tokens, .bare [c]⟩

def endsRun (c : Char) : Bool :=
  isGap c || c == '"' || (Token.ofPunctuation? c).isSome

def step (l : Lexer) (c : Char) : Option Lexer :=
  match l.mode with
  | .between => some (fresh l.tokens c)
  | .bare read =>
    if endsRun c then (Token.ofBare? read.reverse).map fun token => fresh (token :: l.tokens) c
    else some { l with mode := .bare (c :: read) }
  | .string read =>
    if c = '"' then some ⟨.string (String.ofList read.reverse) :: l.tokens, .between⟩
    else if c = '\\' then some { l with mode := .escape read }
    else if c.toNat < 0x20 then none
    else some { l with mode := .string (c :: read) }
  | .escape read =>
    if c = 'u' then some { l with mode := .unit read none 0 0 }
    else (escaped? c).map fun c => { l with mode := .string (c :: read) }
  | .unit read high digits value => do
    let value := 16 * value + (← hexValue? c)
    if digits = 3 then return { l with mode := ← Mode.ofUnit? read high value }
    else return { l with mode := .unit read high (digits + 1) value }
  | .half read high => if c = '\\' then some { l with mode := .halfEscape read high } else none
  | .halfEscape read high =>
    if c = 'u' then some { l with mode := .unit read (some high) 0 0 } else none

def finish? (l : Lexer) : Option (List Token) :=
  match l.mode with
  | .between => some l.tokens.reverse
  | .bare read => (Token.ofBare? read.reverse).map fun token => (token :: l.tokens).reverse
  | _ => none

end Lexer

def Token.ofText? (t : List Char) : Option (List Token) :=
  (t.foldlM Lexer.step Lexer.start).bind Lexer.finish?

end FieldRules.Json
