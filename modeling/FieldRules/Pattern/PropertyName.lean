import FieldRules.Text.Property
import FieldRules.Text.Script

/-!
# Names of properties

The sets that `\p{…}` names: properties, general categories and scripts, by full name or
abbreviation. Names are compared without regard to case, spaces, hyphens, underscores and a leading
`is`.
-/

namespace FieldRules.Pattern.PropertyName

open Text

/-- A name without the letters that make no difference. -/
def normalize (name : List Char) : String :=
  let isPrefixed := match name with
    | i :: s :: _ => i.toLower == 'i' && s.toLower == 's'
    | _ => false
  let kept := (if isPrefixed then name.drop 2 else name).filter fun c =>
    c.toNat < 0x80 && c != ' ' && c != '_' && c != '-'
  String.ofList (kept.map Char.toLower)

def categoryName : Category → String
  | .uppercaseLetter => "uppercaseletter"
  | .lowercaseLetter => "lowercaseletter"
  | .titlecaseLetter => "titlecaseletter"
  | .modifierLetter => "modifierletter"
  | .otherLetter => "otherletter"
  | .nonspacingMark => "nonspacingmark"
  | .spacingMark => "spacingmark"
  | .enclosingMark => "enclosingmark"
  | .decimalNumber => "decimalnumber"
  | .letterNumber => "letternumber"
  | .otherNumber => "othernumber"
  | .connectorPunctuation => "connectorpunctuation"
  | .dashPunctuation => "dashpunctuation"
  | .openPunctuation => "openpunctuation"
  | .closePunctuation => "closepunctuation"
  | .initialPunctuation => "initialpunctuation"
  | .finalPunctuation => "finalpunctuation"
  | .otherPunctuation => "otherpunctuation"
  | .mathSymbol => "mathsymbol"
  | .currencySymbol => "currencysymbol"
  | .modifierSymbol => "modifiersymbol"
  | .otherSymbol => "othersymbol"
  | .spaceSeparator => "spaceseparator"
  | .lineSeparator => "lineseparator"
  | .paragraphSeparator => "paragraphseparator"
  | .control => "control"
  | .format => "format"
  | .privateUse => "privateuse"

def category? (name : String) : Option CodeSet :=
  match name with
  | "any" => some .full
  | "assigned" => some unassigned.complement
  | "ascii" => some ⟨[(0, 0x7F)]⟩
  | "l" | "letter" => some (Category.major 'L')
  | "lc" | "casedletter" =>
    some (.unionAll [uppercaseLetters, lowercaseLetters, titlecaseLetters])
  | "m" | "mark" | "combiningmark" => some (Category.major 'M')
  | "n" | "number" => some (Category.major 'N')
  | "p" | "punctuation" | "punct" => some (Category.major 'P')
  | "s" | "symbol" => some (Category.major 'S')
  | "z" | "separator" => some (Category.major 'Z')
  | "c" | "other" => some ((Category.major 'C').union unassigned)
  | "cn" | "unassigned" => some unassigned
  | "digit" => some decimalNumbers
  | "cntrl" => some controls
  | _ =>
    let isNamed := fun k =>
      k.abbreviation.toList.map Char.toLower == name.toList || categoryName k == name
    (Category.all.find? isNamed).map Category.set

def script? (name : String) : Option CodeSet :=
  match name with
  | "qaac" => (Script.find? "copt").map Script.set
  | "qaai" => (Script.find? "zinh").map Script.set
  | _ => (Script.find? name).map Script.set

def property? (name : String) : Option CodeSet :=
  match name with
  | "alphabetic" | "alpha" => some alphabetic
  | "lowercase" | "lower" => some lowercase
  | "uppercase" | "upper" => some uppercase
  | "cased" => some cased
  | "whitespace" | "wspace" | "space" => some whiteSpace
  | "hexdigit" | "hex" => some hexDigits
  | "asciihexdigit" | "ahex" => some asciiHexDigits
  | "dash" => some dashes
  | "quotationmark" | "qmark" => some quotationMarks
  | "ideographic" | "ideo" => some ideographic
  | "unifiedideograph" | "uideo" => some unifiedIdeographs
  | "joincontrol" | "joinc" => some joinControls
  | "math" => some math
  | "diacritic" | "dia" => some diacritics
  | "extender" | "ext" => some extenders
  | "emoji" => some emoji
  | "emojipresentation" | "epres" => some emojiPresentation
  | "emojimodifier" | "emod" => some emojiModifiers
  | "emojimodifierbase" | "ebase" => some emojiModifierBases
  | "emojicomponent" | "ecomp" => some emojiComponents
  | "extendedpictographic" | "extpict" => some pictographs
  | "regionalindicator" | "ri" => some regionalIndicators
  | "variationselector" | "vs" => some variationSelectors
  | "defaultignorablecodepoint" | "di" => some defaultIgnorable
  | "noncharactercodepoint" | "nchar" => some noncharacters
  | "patternwhitespace" | "patws" => some patternWhiteSpace
  | "sentenceterminal" | "sterm" => some sentenceTerminals
  | "terminalpunctuation" | "term" => some terminalPunctuation
  | "softdotted" | "sd" => some softDotted
  | "graphemeextend" | "grext" => some graphemeExtend
  | "idstart" | "ids" => some idStart
  | "idcontinue" | "idc" => some idContinue
  | _ => none

/-- The set of a name that stands alone: a property, else a category, else a script. -/
def find? (name : List Char) : Option CodeSet :=
  let name := normalize name
  property? name <|> category? name <|> script? name

def findValue? (name value : List Char) : Option CodeSet :=
  match normalize name with
  | "gc" | "generalcategory" => category? (normalize value)
  | "sc" | "script" => script? (normalize value)
  | _ => none

def cutAt (mark : List Char) : List Char → Option (List Char × List Char)
  | [] => none
  | c :: t =>
    if mark.isPrefixOf (c :: t) then some ([], (c :: t).drop mark.length)
    else (cutAt mark t).map fun p => (c :: p.1, p.2)

def read? (content : List Char) : Option CodeSet :=
  match cutAt ['!', '='] content <|> cutAt [':'] content <|> cutAt ['='] content with
  | some (name, value) => findValue? name value
  | none => find? content

end FieldRules.Pattern.PropertyName
