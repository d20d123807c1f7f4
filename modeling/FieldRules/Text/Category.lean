import FieldRules.Text.Digit
import FieldRules.Text.Letter
import FieldRules.Text.Mark
import FieldRules.Text.Sign

/-!
# General categories

`Category.set` gives the characters of each category. The categories whose abbreviations begin with
the same letter form a major class.
-/

namespace FieldRules.Text

def spaceSeparators : CodeSet := ⟨[
  (0x20, 0x20), (0xA0, 0xA0), (0x1680, 0x1680), (0x2000, 0x200A), (0x202F, 0x202F),
  (0x205F, 0x205F), (0x3000, 0x3000)]⟩

def controls : CodeSet := ⟨[
  (0x0, 0x1F), (0x7F, 0x9F)]⟩

def formats : CodeSet := ⟨[
  (0xAD, 0xAD), (0x600, 0x605), (0x61C, 0x61C), (0x6DD, 0x6DD), (0x70F, 0x70F), (0x890, 0x891),
  (0x8E2, 0x8E2), (0x180E, 0x180E), (0x200B, 0x200F), (0x202A, 0x202E), (0x2060, 0x2064),
  (0x2066, 0x206F), (0xFEFF, 0xFEFF), (0xFFF9, 0xFFFB), (0x110BD, 0x110BD), (0x110CD, 0x110CD),
  (0x13430, 0x1343F), (0x1BCA0, 0x1BCA3), (0x1D173, 0x1D17A), (0xE0001, 0xE0001),
  (0xE0020, 0xE007F)]⟩

def privateUseSigns : CodeSet := ⟨[
  (0xE000, 0xF8FF), (0xF0000, 0xFFFFD), (0x100000, 0x10FFFD)]⟩

def decimalNumbers : CodeSet := .ofRanges (zeros.map fun z => (z, z + 9))

inductive Category
  | uppercaseLetter
  | lowercaseLetter
  | titlecaseLetter
  | modifierLetter
  | otherLetter
  | nonspacingMark
  | spacingMark
  | enclosingMark
  | decimalNumber
  | letterNumber
  | otherNumber
  | connectorPunctuation
  | dashPunctuation
  | openPunctuation
  | closePunctuation
  | initialPunctuation
  | finalPunctuation
  | otherPunctuation
  | mathSymbol
  | currencySymbol
  | modifierSymbol
  | otherSymbol
  | spaceSeparator
  | lineSeparator
  | paragraphSeparator
  | control
  | format
  | privateUse
  deriving DecidableEq, Repr

namespace Category

def abbreviation : Category → String
  | uppercaseLetter => "Lu"
  | lowercaseLetter => "Ll"
  | titlecaseLetter => "Lt"
  | modifierLetter => "Lm"
  | otherLetter => "Lo"
  | nonspacingMark => "Mn"
  | spacingMark => "Mc"
  | enclosingMark => "Me"
  | decimalNumber => "Nd"
  | letterNumber => "Nl"
  | otherNumber => "No"
  | connectorPunctuation => "Pc"
  | dashPunctuation => "Pd"
  | openPunctuation => "Ps"
  | closePunctuation => "Pe"
  | initialPunctuation => "Pi"
  | finalPunctuation => "Pf"
  | otherPunctuation => "Po"
  | mathSymbol => "Sm"
  | currencySymbol => "Sc"
  | modifierSymbol => "Sk"
  | otherSymbol => "So"
  | spaceSeparator => "Zs"
  | lineSeparator => "Zl"
  | paragraphSeparator => "Zp"
  | control => "Cc"
  | format => "Cf"
  | privateUse => "Co"

def set : Category → CodeSet
  | uppercaseLetter => uppercaseLetters
  | lowercaseLetter => lowercaseLetters
  | titlecaseLetter => titlecaseLetters
  | modifierLetter => modifierLetters
  | otherLetter => otherLetters
  | nonspacingMark => nonspacingMarks
  | spacingMark => spacingMarks
  | enclosingMark => enclosingMarks
  | decimalNumber => decimalNumbers
  | letterNumber => letterNumbers
  | otherNumber => otherNumbers
  | connectorPunctuation => connectorSigns
  | dashPunctuation => dashSigns
  | openPunctuation => openingSigns
  | closePunctuation => closingSigns
  | initialPunctuation => initialSigns
  | finalPunctuation => finalSigns
  | otherPunctuation => otherSigns
  | mathSymbol => mathSymbols
  | currencySymbol => currencySymbols
  | modifierSymbol => modifierSymbols
  | otherSymbol => otherSymbols
  | spaceSeparator => spaceSeparators
  | lineSeparator => .single 0x2028
  | paragraphSeparator => .single 0x2029
  | control => controls
  | format => formats
  | privateUse => privateUseSigns

def all : List Category :=
  [uppercaseLetter, lowercaseLetter, titlecaseLetter, modifierLetter,
    otherLetter, nonspacingMark, spacingMark, enclosingMark, decimalNumber,
    letterNumber, otherNumber, connectorPunctuation, dashPunctuation,
    openPunctuation, closePunctuation, initialPunctuation, finalPunctuation,
    otherPunctuation, mathSymbol, currencySymbol, modifierSymbol,
    otherSymbol, spaceSeparator, lineSeparator, paragraphSeparator,
    control, format, privateUse]

theorem mem_all (k : Category) : k ∈ all := by cases k <;> decide

def major (initial : Char) : CodeSet :=
  .unionAll ((all.filter fun k => k.abbreviation.startsWith initial).map set)

end Category

def surrogates : CodeSet := ⟨[(0xD800, 0xDFFF)]⟩

def unassigned : CodeSet :=
  (CodeSet.unionAll (surrogates :: Category.all.map Category.set)).complement

end FieldRules.Text
