import SourceMark.Unicode.Age
import SourceMark.Unicode.Trait
import SourceMark.Unicode.Extension

/-!
# Properties

Sets of characters are asked for by one name, or by the name of a property and
one of its values.  `namedMembers?` and `valueMembers?` answer such questions;
both take names in their loose form.
-/

namespace SourceMark

namespace Unicode

/-- The general categories and their groups. -/
def categoryGroups : List NamedSet :=
  let group := fun names categories => ⟨names, categories, [], []⟩
  [group ["Lu", "Uppercase_Letter"] [.uppercaseLetter],
    group ["Ll", "Lowercase_Letter"] [.lowercaseLetter],
    group ["Lt", "Titlecase_Letter"] [.titlecaseLetter],
    group ["LC", "Cased_Letter"] Category.casedLetters,
    group ["Lm", "Modifier_Letter"] [.modifierLetter],
    group ["Lo", "Other_Letter"] [.otherLetter],
    group ["L", "Letter"] Category.letters,
    group ["Mn", "Nonspacing_Mark"] [.nonspacingMark],
    group ["Mc", "Spacing_Mark"] [.spacingMark],
    group ["Me", "Enclosing_Mark"] [.enclosingMark],
    group ["M", "Mark", "Combining_Mark"] Category.marks,
    group ["Nd", "Decimal_Number", "digit"] [.decimalNumber],
    group ["Nl", "Letter_Number"] [.letterNumber],
    group ["No", "Other_Number"] [.otherNumber],
    group ["N", "Number"] Category.numbers,
    group ["Pc", "Connector_Punctuation"] [.connectorPunctuation],
    group ["Pd", "Dash_Punctuation"] [.dashPunctuation],
    group ["Ps", "Open_Punctuation"] [.openPunctuation],
    group ["Pe", "Close_Punctuation"] [.closePunctuation],
    group ["Pi", "Initial_Punctuation"] [.initialPunctuation],
    group ["Pf", "Final_Punctuation"] [.finalPunctuation],
    group ["Po", "Other_Punctuation"] [.otherPunctuation],
    group ["P", "Punctuation", "punct"] Category.punctuation,
    group ["Sm", "Math_Symbol"] [.mathSymbol],
    group ["Sc", "Currency_Symbol"] [.currencySymbol],
    group ["Sk", "Modifier_Symbol"] [.modifierSymbol],
    group ["So", "Other_Symbol"] [.otherSymbol],
    group ["S", "Symbol"] Category.symbols,
    group ["Zs", "Space_Separator"] [.spaceSeparator],
    group ["Zl", "Line_Separator"] [.lineSeparator],
    group ["Zp", "Paragraph_Separator"] [.paragraphSeparator],
    group ["Z", "Separator"] Category.separators,
    group ["Cc", "Control", "cntrl"] [.control],
    group ["Cf", "Format"] [.format],
    group ["Co", "Private_Use"] [.privateUse],
    group ["Assigned"] Category.every]

/-- The characters of a general category or of a group of them.  What has no
category is unassigned. -/
def categoryMembers? (loose : String) : Option CharSet :=
  match loose with
  | "any" => some .all
  | "ascii" => some .ascii
  | "cn" | "unassigned" => some (Category.membersOf Category.every).complement
  | "c" | "other" => some (Category.membersOf Category.proper).complement
  | _ => NamedSet.find? loose categoryGroups

/-- The script with that code or name. -/
def script? (loose : String) : Option Script :=
  let further := Script.furtherCodes.find? fun codes =>
    isSpelling loose codes.1
  match further with
  | some (_, code) => Script.withCode? code
  | none =>
      Script.every.find? fun script =>
        isSpelling loose script.code || isSpelling loose script.name

/-- The characters that came up to a version. -/
def ageMembers? (loose : String) : Option CharSet :=
  Age.upTo? (fun age =>
    isSpelling loose age.version || isSpelling loose age.valueName) Age.every

/-- Names that belong to a category although a property has them as well. -/
def isCategoryName (loose : String) : Bool :=
  loose == "cf" || loose == "sc" || loose == "lc"

/-- The members of the trait, the category or the script with that name. -/
def namedMembers? (loose : String) : Option CharSet :=
  let trait? :=
    if isCategoryName loose then none else NamedSet.find? loose traits
  match trait? with
  | some members => some members
  | none =>
      match categoryMembers? loose with
      | some members => some members
      | none => (script? loose).map Script.members

/-- The characters for which a property has a value. -/
def valueMembers? (property value : String) : Option CharSet :=
  match property with
  | "gc" | "generalcategory" => categoryMembers? value
  | "sc" | "script" => (script? value).map Script.members
  | "scx" | "scriptextensions" => (script? value).map Script.extendedMembers
  | "age" => ageMembers? value
  | "gcb" | "graphemeclusterbreak" => NamedSet.find? value graphemeBreaks
  | "sb" | "sentencebreak" => NamedSet.find? value sentenceBreaks
  | "wb" | "wordbreak" => NamedSet.find? value wordBreaks
  | _ => none

end Unicode

end SourceMark
