import FieldRules.RuleFile.Yaml
import FieldRules.Text.Pieces

/-!
# Rule files by path

How a rule file is written follows from the path it is read from: a name that ends in `.json`, in
any case, means JSON, and every other name YAML.
-/

namespace FieldRules.RuleFile

def fileName (path : List Char) : List Char :=
  (path.reverse.takeWhile (· ≠ '/')).reverse

/-- What follows the last dot of the file name. A dot at its beginning does not count. -/
def extension? (path : List Char) : Option (List Char) :=
  match Text.cutFirst '.' (fileName path).reverse with
  | some (after, before) => if before.isEmpty then none else some after.reverse
  | none => none

def isJsonPath (path : String) : Bool :=
  (extension? path.toList).any fun e => e.map Char.toLower = ['j', 's', 'o', 'n']

def readFrom (path text : String) : Except RuleFileError RuleFile :=
  if isJsonPath path then readJson text else readYaml text

def ofFile (path text : String) : Except RuleFileError RuleFile := (readFrom path text).bind checked

end FieldRules.RuleFile
