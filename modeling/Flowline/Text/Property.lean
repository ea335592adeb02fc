import Flowline.Text.CodePoints.Algebra
import Flowline.Text.GeneralCategoryTable
import Flowline.Text.PropertyTable
import Flowline.Text.ScriptTable

/-!
Unicode properties by name, in lower case and without separators: general categories, scripts,
script extensions and binary properties. Where the standard computes a property from others, so do
the definitions here. They are those of Unicode 16, by which patterns go; case conversion and the
letters and numbers in texts go by Unicode 17.
-/

namespace Flowline.Text

namespace Property

/-- The code points of the row that has `name` among its names. -/
def row? (rows : List (String × String)) (name : String) : Option CodePoints :=
  (rows.find? fun row => (words row.1).contains name).map fun row => .read row.2

/-! General categories. -/

def category (name : String) : CodePoints := (row? generalCategoryRows name).getD .empty

def categories (names : List String) : CodePoints := .unions (names.map category)

def surrogates : CodePoints := .read "D800-DFFF"

def unassigned : CodePoints :=
  (CodePoints.unions (generalCategoryRows.map fun row => .read row.2)).complement

/-- Categories that are made up of others. -/
def categoryGroup? (name : String) : Option CodePoints :=
  if name = "l" ∨ name = "letter" then some (categories ["lu", "ll", "lt", "lm", "lo"])
  else if name = "lc" ∨ name = "casedletter" then some (categories ["lu", "ll", "lt"])
  else if name = "m" ∨ name = "mark" ∨ name = "combiningmark" then
    some (categories ["mn", "mc", "me"])
  else if name = "n" ∨ name = "number" then some (categories ["nd", "nl", "no"])
  else if name = "p" ∨ name = "punctuation" ∨ name = "punct" then
    some (categories ["pc", "pd", "ps", "pe", "pi", "pf", "po"])
  else if name = "s" ∨ name = "symbol" then some (categories ["sm", "sc", "sk", "so"])
  else if name = "z" ∨ name = "separator" then some (categories ["zs", "zl", "zp"])
  else if name = "c" ∨ name = "other" then
    some (.unions [categories ["cc", "cf", "co"], surrogates, unassigned])
  else if name = "cn" ∨ name = "unassigned" then some unassigned
  else if name = "assigned" then some unassigned.complement
  else if name = "any" then some (CodePoints.empty.complement)
  else if name = "ascii" then some ⟨#[(0, 0x7F)]⟩
  else none

def category? (name : String) : Option CodePoints :=
  (row? generalCategoryRows name).or (categoryGroup? name)

/-! Scripts. -/

def script? (name : String) : Option CodePoints := row? scriptRows name

/-- A script together with the code points that are used in it as well. -/
def scriptExtension? (name : String) : Option CodePoints :=
  (scriptRows.find? fun row => (words row.1).contains name).map fun row =>
    let change := scriptExtensionRows.find? fun extension =>
      (words row.1).contains extension.1
    match change with
    | none => .read row.2
    | some change => (CodePoints.read row.2).symmetricDifference (.read change.2)

/-! Binary properties. -/

/-- A property that is listed as it stands. -/
def listed (name : String) : CodePoints := (row? propertyRows name).getD .empty

def lowercase : CodePoints := (category "ll").union (listed "olower")

def uppercase : CodePoints := (category "lu").union (listed "oupper")

def alphabetic : CodePoints :=
  .unions [lowercase, uppercase, categories ["lt", "lm", "lo", "nl"], listed "oalpha"]

def graphemeExtend : CodePoints := (categories ["mn", "me"]).union (listed "ogrext")

def defaultIgnorable : CodePoints :=
  (CodePoints.unions [listed "odi", category "cf", listed "vs"])
    |>.difference (.unions [listed "wspace", listed "pcm", .read "FFF9-FFFB 13430-13440"])

/-- Characters with a syntactic use do not occur in identifiers. -/
def withoutSyntax (set : CodePoints) : CodePoints :=
  set.difference ((listed "patsyn").union (listed "patws"))

def idStart : CodePoints :=
  withoutSyntax (.unions [categories ["lu", "ll", "lt", "lm", "lo", "nl"], listed "oids"])

def idContinue : CodePoints :=
  withoutSyntax (.unions [idStart, categories ["mn", "mc", "nd", "pc"], listed "oidc"])

/-- Identifier characters that some normal form takes apart. -/
def unstableContinue : CodePoints :=
  .read "37A 309B-309C FC5E-FC63 FDFA-FDFB FE70 FE72 FE74 FE76 FE78 FE7A FE7C FE7E"

def unstableStart : CodePoints := unstableContinue.union (.read "E33 EB3 FF9E-FF9F")

/-- Properties that are computed from others. -/
def derived? (name : String) : Option CodePoints :=
  if name = "lower" ∨ name = "lowercase" then some lowercase
  else if name = "upper" ∨ name = "uppercase" then some uppercase
  else if name = "alpha" ∨ name = "alphabetic" then some alphabetic
  else if name = "cased" then some (.unions [lowercase, uppercase, category "lt"])
  else if name = "cwcm" ∨ name = "changeswhencasemapped" then
    some (.unions [listed "cwl", listed "cwt", listed "cwu"])
  else if name = "math" then some ((category "sm").union (listed "omath"))
  else if name = "grext" ∨ name = "graphemeextend" then some graphemeExtend
  else if name = "grbase" ∨ name = "graphemebase" then
    some (CodePoints.unions
      [categories ["cc", "cf", "co", "zl", "zp"], surrogates, unassigned,
        graphemeExtend]).complement
  else if name = "di" ∨ name = "defaultignorablecodepoint" then some defaultIgnorable
  else if name = "ids" ∨ name = "idstart" then some idStart
  else if name = "idc" ∨ name = "idcontinue" then some idContinue
  else if name = "xids" ∨ name = "xidstart" then some (idStart.difference unstableStart)
  else if name = "xidc" ∨ name = "xidcontinue" then some (idContinue.difference unstableContinue)
  else none

def binary? (name : String) : Option CodePoints := (row? propertyRows name).or (derived? name)

/-- Characters of words: letters, marks, decimal digits, connectors and joiners. -/
def word : CodePoints :=
  .unions [alphabetic, categories ["mn", "mc", "me", "nd", "pc"], listed "joinc"]

def decimalDigit : CodePoints := category "nd"

def whiteSpace : CodePoints := listed "wspace"

end Property

end Flowline.Text
