import FieldRules.RuleFile
import FieldRules.Yaml.Node
import FieldRules.Yaml.Plain

/-!
# Rule files in YAML

The content of a rule file written in YAML. The keys of mappings may be any scalars. A rule must be
a scalar that stands for a text, so a plain one may not spell a number, a truth value or null; tags
of the standard types override the spelling. An empty document says nothing, and a value that is
left out is an empty mapping.
-/

namespace FieldRules.RuleFile

open Yaml (Node Style)

def standardTag (name : String) : List Char := ("tag:yaml.org,2002:" ++ name).toList

def scalarText? (tag : Option (List Char)) (style : Style) (text : String) : Option String :=
  match tag with
  | some tag =>
    let isOther := ["bool", "int", "float", "null"].any fun name => tag = standardTag name
    if isOther || tag.head? = some '!' then none else some text
  | none => if style = .plain && !Yaml.Plain.isText text then none else some text

/-- The text of a key: any scalar, whatever it spells. -/
def keyText? (labelled : List Node) (n : Node) : Option String :=
  match n.target? labelled with
  | some (.scalar _ _ _ text) => some text
  | _ => none

def itemText? (labelled : List Node) (n : Node) : Option String :=
  match n.target? labelled with
  | some (.scalar _ tag style text) => scalarText? tag style text
  | _ => none

/-- The rules that a node gives. Tags of one's own are not admitted on lists either. -/
def nodeSource? (labelled : List Node) (n : Node) : Option RuleSource :=
  match n.target? labelled with
  | some (.scalar _ tag style text) => (scalarText? tag style text).map .pipe
  | some (.sequence _ tag items) =>
    if (tag.bind List.head?) = some '!' then none
    else (items.mapM (itemText? labelled)).map .list
  | _ => none

def nodeMembers? (labelled : List Node) (n : Node) : Option (List (String × Node)) :=
  match n.target? labelled with
  | some (.mapping _ members) => members.mapM fun m => (keyText? labelled m.1).map fun k => (k, m.2)
  | some (.scalar _ _ .plain "") => some []
  | _ => none

def nodeStrict? (labelled : List Node) (n : Node) : Option Bool :=
  match n.target? labelled with
  | some (.scalar _ _ .plain text) => Yaml.Plain.truth? text
  | some (.scalar _ tag .literal text) =>
    if tag = some (standardTag "bool") then Yaml.Plain.truth? text else none
  | _ => none

def nodeFields? (labelled : List Node) (n : Node) : Option (List (String × RuleSource)) := do
  let members ← nodeMembers? labelled n
  return gatherFields (← members.mapM fun m => (nodeSource? labelled m.2).map fun s => (m.1, s))

def member? {α : Type} (members : List (String × Node)) (key : String) (absent : α)
    (read : Node → Option α) : Option α :=
  match members.filter fun m => m.1 == key with
  | [] => some absent
  | [m] => read m.2
  | _ => none

def ofNode? (root : Node) : Option RuleFile := do
  let labelled := root.labelled
  let members ← nodeMembers? labelled root
  let strict ← member? members "strict" false (nodeStrict? labelled)
  let fields ← member? members "fields" [] (nodeFields? labelled)
  return ⟨strict, fields⟩

def readYaml (text : String) : Except RuleFileError RuleFile :=
  match Node.ofText? text.toList with
  | some none => .ok empty
  | some (some root) => match ofNode? root with
    | some file => .ok file
    | none => .error .notYaml
  | none => .error .notYaml

def ofYaml (text : String) : Except RuleFileError RuleFile := (readYaml text).bind checked

end FieldRules.RuleFile
