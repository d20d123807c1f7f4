import FieldRules.Json.Token
import FieldRules.Record

/-!
# Reading JSON

One value is read from a text. The tokens drive a machine whose stack holds the arrays and objects
that are still open; at most `depthLimit` of them may be. `read?` gives each key of an object its
first place and its last value; `readAsWritten?` keeps repeated keys as they are.
-/

namespace FieldRules.Json

/-- The greatest number of arrays and objects around a value. -/
def depthLimit : Nat := 127

/-- An open array or object, waiting for its next value. What was read last stands first. -/
inductive Frame
  | items (read : List Value)
  | member (read : List (String × Value)) (key : String)

inductive Expecting
  | value
  | firstItem
  | afterItem (read : List Value)
  | firstKey
  | key (read : List (String × Value))
  | colon (read : List (String × Value)) (key : String)
  | afterMember (read : List (String × Value))
  | done (value : Value)

structure Reader where
  frames : List Frame
  expecting : Expecting

namespace Reader

def start : Reader := ⟨[], .value⟩

def complete (v : Value) : List Frame → Reader
  | [] => ⟨[], .done v⟩
  | .items read :: frames => ⟨frames, .afterItem (v :: read)⟩
  | .member read key :: frames => ⟨frames, .afterMember ((key, v) :: read)⟩

def begin? (frames : List Frame) : Token → Option Reader
  | .scalar v => some (complete v frames)
  | .string s => some (complete (.string s) frames)
  | .openArray => if frames.length < depthLimit then some ⟨frames, .firstItem⟩ else none
  | .openObject => if frames.length < depthLimit then some ⟨frames, .firstKey⟩ else none
  | _ => none

/-- One token; `gather` makes a record of the members of an object. -/
def step (gather : List (String × Value) → Record) (r : Reader) (t : Token) : Option Reader :=
  match r.expecting, t with
  | .value, t => begin? r.frames t
  | .firstItem, .closeArray => some (complete (.array []) r.frames)
  | .firstItem, t => begin? (.items [] :: r.frames) t
  | .afterItem read, .comma => some ⟨.items read :: r.frames, .value⟩
  | .afterItem read, .closeArray => some (complete (.array read.reverse) r.frames)
  | .firstKey, .closeObject => some (complete (.object []) r.frames)
  | .firstKey, .string key => some { r with expecting := .colon [] key }
  | .key read, .string key => some { r with expecting := .colon read key }
  | .colon read key, .colon => some ⟨.member read key :: r.frames, .value⟩
  | .afterMember read, .comma => some { r with expecting := .key read }
  | .afterMember read, .closeObject => some (complete (.object (gather read.reverse)) r.frames)
  | _, _ => none

def finish? (r : Reader) : Option Value :=
  match r.expecting with
  | .done v => some v
  | _ => none

end Reader

def ofTokens? (gather : List (String × Value) → Record) (tokens : List Token) : Option Value :=
  (tokens.foldlM (Reader.step gather) Reader.start).bind Reader.finish?

def read? (t : List Char) : Option Value :=
  (Token.ofText? t).bind (ofTokens? Record.ofList)

/-- The value that a text spells, with all members of its objects as they are written. -/
def readAsWritten? (t : List Char) : Option Value :=
  (Token.ofText? t).bind (ofTokens? id)

def ofString? (s : String) : Option Value := read? s.toList

end FieldRules.Json
