import FieldRules.Json.Skipped
import FieldRules.Rule.Spec
import FieldRules.Schema.Compile

/-!
# Rule files

A rule file names the fields of a record in order and gives each of them its rules, as one string or
as a list of tokens, and may ask for strict compilation. This module holds the file's content and
reads it from JSON; the YAML form is read in a module of its own.
-/

namespace FieldRules

inductive RuleSource
  | pipe (text : String)
  | list (tokens : List String)
  deriving DecidableEq, Repr

def RuleSource.toSpec : RuleSource → Spec
  | pipe text => .pipe text
  | list tokens => .ofTokens tokens

def RuleSource.isBlank : RuleSource → Bool
  | pipe text => Text.trimmed text == ""
  | list tokens => tokens.all fun t => Text.trimmed t == ""

/-- The content of a rule file. Each field stands once. -/
structure RuleFile where
  strict : Bool
  fields : List (String × RuleSource)
  deriving DecidableEq, Repr

inductive RuleFileError
  | notJson
  | notYaml
  | blankNames (count : Nat)
  deriving DecidableEq, Repr

def RuleFileError.message : RuleFileError → String
  | notJson => "Invalid JSON rule configuration"
  | notYaml => "Invalid YAML rule configuration"
  | blankNames count =>
    "Rule configuration is invalid:\n"
      ++ String.intercalate "\n" (List.replicate count "A field has an empty name.")

namespace RuleFile

def empty : RuleFile := ⟨false, []⟩

/-- The rules of a field set: in its place if it has rules already, and at the end otherwise. -/
def setField (name : String) (source : RuleSource) :
    List (String × RuleSource) → List (String × RuleSource)
  | [] => [(name, source)]
  | (n, s) :: rest =>
    if n = name then (n, source) :: rest else (n, s) :: setField name source rest

def gatherFields (fields : List (String × RuleSource)) : List (String × RuleSource) :=
  fields.foldl (fun known f => setField f.1 f.2 known) []

def checked (file : RuleFile) : Except RuleFileError RuleFile :=
  match file.fields.filter fun f => Text.trimmed f.1 == "" with
  | [] => .ok file
  | blank => .error (.blankNames blank.length)

def specs (file : RuleFile) : List (String × Spec) :=
  file.fields.map fun f => (f.1, f.2.toSpec)

/-- The files state the same rules: the order of the fields does not count. -/
def same (a b : RuleFile) : Bool :=
  a.strict == b.strict && a.fields.length == b.fields.length
    && a.fields.all fun f => b.fields.lookup f.1 == some f.2

def compile (file : RuleFile) : Except SchemaError Schema :=
  compileSchema file.strict file.specs

section Json

def tokenOf? : Value → Option String
  | .string s => some s
  | _ => none

def sourceOf? : Value → Option RuleSource
  | .string s => some (.pipe s)
  | .array items => (items.mapM tokenOf?).map .list
  | _ => none

def strictOf? : Value → Option Bool
  | .bool b => some b
  | _ => none

def fieldsOf? : Value → Option (List (String × RuleSource))
  | .object members => do
    return gatherFields (← members.mapM fun m => do return (m.1, ← sourceOf? m.2))
  | _ => none

/-- The value of a key that an object holds at most once. -/
def single? (members : List (String × Value)) (key : String) : Option (Option Value) :=
  match members.filter fun m => m.1 == key with
  | [] => some none
  | [m] => some (some m.2)
  | _ => none

def part? {α : Type} (read : Value → Option α) (absent : α) : Option Value → Option α
  | none => some absent
  | some v => read v

/-- The content of a document: an object, whose further keys do not count, or an array of the two
parts in order. -/
def ofValue? : Value → Option RuleFile
  | .object members => do
    let strict ← single? members "strict"
    let fields ← single? members "fields"
    return ⟨← part? strictOf? false strict, ← part? fieldsOf? [] fields⟩
  | .array items =>
    if items.length ≤ 2 then do
      return ⟨← part? strictOf? false items[0]?, ← part? fieldsOf? [] items[1]?⟩
    else none
  | _ => none

/-- The content of a text in JSON, whatever names its fields have. -/
def readJson (text : String) : Except RuleFileError RuleFile :=
  let text := Json.withoutFurther ["strict", "fields"] text.toList
  match (Json.readAsWritten? text).bind ofValue? with
  | some file => .ok file
  | none => .error .notJson

def ofJson (text : String) : Except RuleFileError RuleFile := (readJson text).bind checked

end Json
end RuleFile
end FieldRules
