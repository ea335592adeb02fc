import Flowline.Text.Age
import Flowline.Text.Segmentation

/-!
Properties as they are asked for, by a single name or by the name of a property and a value. Names
are compared without regard to case, blanks, hyphens, underscores and a leading `is`. Of some
properties and values no more than the names are known.
-/

namespace Flowline.Text

inductive PropertyError where
  | unknownProperty
  | unknownValue
deriving DecidableEq

namespace Property

def dropIs : List Char → Bool × List Char
  | 'i' :: 's' :: rest | 'i' :: 'S' :: rest
  | 'I' :: 's' :: rest | 'I' :: 'S' :: rest => (true, rest)
  | chars => (false, chars)

/-- The name in lower case without separators; `isc` is a name of its own. -/
def normalizedName (name : String) : String :=
  let (droppedIs, chars) := dropIs name.toList
  let kept := chars.filter fun c => decide (c.toNat < 0x80) && c != ' ' && c != '_' && c != '-'
  let lowered := String.ofList (kept.map Char.toLower)
  if droppedIs && lowered == "c" then "isc" else lowered

/-- Properties that are not binary, and binary ones whose characters are not listed. -/
def otherProperties : List String :=
  words
    "age bc bidiclass bidimirroringglyph bidipairedbracket bidipairedbrackettype blk block bmg bpb
    bpt canonicalcombiningclass casefolding ccc ce cf changeswhennfkccasefolded
    cjkaccountingnumeric cjkcompatibilityvariant cjkiicore cjkirggsource cjkirghsource
    cjkirgjsource cjkirgkpsource cjkirgksource cjkirgmsource cjkirgssource cjkirgtsource
    cjkirguksource cjkirgusource cjkirgvsource cjkothernumeric cjkprimarynumeric cjkrsunicode
    compex compositionexclusion cwkcf decompositionmapping decompositiontype dm dt ea
    eastasianwidth equideo equivalentunifiedideograph expandsonnfc expandsonnfd expandsonnfkc
    expandsonnfkd fcnfkc fcnfkcclosure fullcompositionexclusion gc gcb generalcategory
    graphemeclusterbreak hangulsyllabletype hst incb indicconjunctbreak indicpositionalcategory
    indicsyllabiccategory inpc insc isc jamoshortname jg joininggroup joiningtype jsn jt
    kaccountingnumeric kcompatibilityvariant kehcat kehdesc kehhg kehifao kehjsesh kehnomirror
    kehnorotate kiicore kirggsource kirghsource kirgjsource kirgkpsource kirgksource kirgmsource
    kirgssource kirgtsource kirguksource kirgusource kirgvsource kothernumeric kprimarynumeric
    krsunicode lb lc linebreak lowercasemapping na na1 name namealias nfcqc nfcquickcheck nfdqc
    nfdquickcheck nfkccasefold nfkccf nfkcqc nfkcquickcheck nfkcscf nfkcsimplecasefold nfkdqc
    nfkdquickcheck nt numerictype numericvalue nv ocomment sb sc scf script scriptextensions scx
    sentencebreak sfc simplecasefolding simplelowercasemapping simpletitlecasemapping
    simpleuppercasemapping slc stc suc tc titlecasemapping uc unicode1name unicoderadicalstroke
    uppercasemapping urs verticalorientation vo wb wordbreak xonfc xonfd xonfkc xonfkd"

/-- Categories and scripts whose characters are not listed. -/
def otherValues : List String :=
  ["cs", "surrogate", "hrkt", "katakanaorhiragana", "unknown", "zzzz"]

def known (error : PropertyError) (set? : Option CodePoints) : Except PropertyError CodePoints :=
  match set? with
  | some set => .ok set
  | none => .error error

/-- What a single name stands for; the names `cf`, `sc` and `lc` are categories. -/
def named (name : String) : Except PropertyError CodePoints :=
  let name := normalizedName name
  let isCategory := ["cf", "sc", "lc"].contains name
  let property := if isCategory then none else binary? name
  match property.or ((category? name).or (script? name)) with
  | some set => .ok set
  | none => .error (if otherValues.contains name then .unknownValue else .unknownProperty)

/-- The code points for which a property has a value. -/
def withValue (property value : String) : Except PropertyError CodePoints :=
  let property := normalizedName property
  let value := normalizedName value
  if property = "gc" ∨ property = "generalcategory" then known .unknownValue (category? value)
  else if property = "sc" ∨ property = "script" then known .unknownValue (script? value)
  else if property = "scx" ∨ property = "scriptextensions" then
    known .unknownValue (scriptExtension? value)
  else if property = "age" then known .unknownValue (age? value)
  else if property = "gcb" ∨ property = "graphemeclusterbreak" then
    known .unknownValue (graphemeBreak? value)
  else if property = "wb" ∨ property = "wordbreak" then known .unknownValue (wordBreak? value)
  else if property = "sb" ∨ property = "sentencebreak" then
    known .unknownValue (sentenceBreak? value)
  else if (binary? property).isSome || otherProperties.contains property then
    .error .unknownValue
  else .error .unknownProperty

end Property

end Flowline.Text
