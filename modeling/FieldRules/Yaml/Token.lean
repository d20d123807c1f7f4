import FieldRules.Yaml.Scalar

/-!
# Tokens of YAML text

The signs of a YAML text. Besides what is written there are tokens for the starts and ends of
blocks, which follow from indentation alone, and for the starts of keys that have no sign of their
own.
-/

namespace FieldRules.Yaml

/-- A tag as written: a handle, which may be empty, and what follows it. -/
structure TagName where
  handle : List Char
  suffix : List Char
  deriving DecidableEq, Repr

inductive Token
  | streamEnd
  | versionDirective (major minor : Nat)
  | tagDirective (handle stem : List Char)
  | documentStart
  | documentEnd
  | blockSequenceStart
  | blockMappingStart
  | blockEnd
  | flowSequenceStart
  | flowSequenceEnd
  | flowMappingStart
  | flowMappingEnd
  | blockEntry
  | flowEntry
  | key
  | value
  | reference (name : List Char)
  | anchor (name : List Char)
  | tag (name : TagName)
  | scalar (style : Style) (text : List Char)
  deriving DecidableEq, Repr

namespace Token

def isTagChar (bracketed : Bool) (c : Char) : Bool :=
  isNameChar c || ";/?:@&=+$.%!~*'()".toList.contains c || (bracketed && ",[]".toList.contains c)

/-- The number of bytes that follow the first byte of a character, and what it adds to the number of
the character. -/
def leadByte? (b : Nat) : Option (Nat × Nat) :=
  if b < 0x80 then some (0, b)
  else if b / 32 = 6 then some (1, b % 32)
  else if b / 16 = 14 then some (2, b % 16)
  else if b / 8 = 30 then some (3, b % 8)
  else none

/-- A text in which bytes are written as percent signs with two digits; `pending` more bytes belong
to the character whose number has been read as `value`. -/
def decodePercent (pending value : Nat) : List Char → Option (List Char)
  | '%' :: a :: b :: t => do
    let byte := 16 * (← hexDigit? a) + (← hexDigit? b)
    let (pending, value) ←
      if pending = 0 then leadByte? byte
      else if byte / 64 = 2 then some (pending - 1, 64 * value + byte % 64)
      else none
    let more ← decodePercent pending value t
    return if pending = 0 then Char.ofNat value :: more else more
  | c :: t =>
    if pending ≠ 0 || c = '%' then none else (decodePercent 0 0 t).map (c :: ·)
  | [] => if pending = 0 then some [] else none

def readTagText (bracketed : Bool) (t : List Spot) : Option (List Char × List Spot) :=
  let (raw, t) := Spot.spanChars (isTagChar bracketed) t
  (decodePercent 0 0 raw).map fun text => (text, t)

def readHandle (t : List Spot) : Option (List Char × List Spot) :=
  if Spot.first t ≠ '!' then none
  else
    let (name, t) := Spot.spanChars isNameChar t.tail
    if Spot.first t = '!' then some ('!' :: name ++ ['!'], t.tail) else some ('!' :: name, t)

def isFullHandle (handle : List Char) : Bool := handle.length ≥ 2 && handle.getLast? == some '!'

def readTag (inFlow : Bool) (t : List Spot) : Option (TagName × List Spot) := do
  let (name, t) ←
    if Spot.charAt t 1 = '<' then do
      let (suffix, t) ← readTagText true (t.drop 2)
      if suffix.isEmpty || Spot.first t ≠ '>' then none else some (⟨[], suffix⟩, t.tail)
    else do
      let (handle, t) ← readHandle t
      let (text, t) ← readTagText false t
      if isFullHandle handle then if text.isEmpty then none else some (⟨handle, text⟩, t)
      else
        let suffix := handle.tail ++ text
        some (if suffix.isEmpty then ⟨[], ['!']⟩ else ⟨['!'], suffix⟩, t)
  if (inFlow && Spot.first t = ',') || endsWord (Spot.first t) then some (name, t) else none

def readName (t : List Spot) : Option (List Char × List Spot) :=
  let (name, t) := Spot.spanChars isNameChar t
  let c := Spot.first t
  if name.isEmpty then none
  else if endsWord c || ['?', ':', ',', ']', '\x7d', '%', '@', '\x60'].contains c then
    some (name, t)
  else none

def readNumber (t : List Spot) : Option (Nat × List Spot) :=
  let (digits, t) := Spot.spanChars Char.isDigit t
  if digits.isEmpty || digits.length > 9 then none
  else some (digits.foldl (fun n d => 10 * n + (d.toNat - '0'.toNat)) 0, t)

def readVersion (t : List Spot) : Option (Token × List Spot) := do
  let (major, t) ← readNumber (Spot.dropGap t)
  if Spot.first t ≠ '.' then none
  else
    let (minor, t) ← readNumber t.tail
    return (.versionDirective major minor, t)

def readTagRule (t : List Spot) : Option (Token × List Spot) := do
  let (handle, t) ← readHandle (Spot.dropGap t)
  if !(isFullHandle handle || handle = ['!']) || !isGap (Spot.first t) then none
  else
    let (stem, t) ← readTagText true (Spot.dropGap t)
    if stem.isEmpty || !endsWord (Spot.first t) then none
    else return (.tagDirective handle stem, t)

def readDirective (t : List Spot) : Option (Token × List Spot) := do
  let (name, t) := Spot.spanChars isNameChar t
  if !endsWord (Spot.first t) then none
  else
    let (token, t) ← match String.ofList name with
      | "YAML" => readVersion t
      | "TAG" => readTagRule t
      | _ => none
    return (token, ← Spot.endLine? t)

end Token
end FieldRules.Yaml
