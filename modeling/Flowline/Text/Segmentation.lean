import Flowline.Text.BreakTable
import Flowline.Text.Property

/-!
The properties by which texts are divided into grapheme clusters, words and sentences. Each gives
the code points that have a value of the property.
-/

namespace Flowline.Text

namespace Property

/-! Grapheme clusters. -/

def firstSyllable : Nat := 0xAC00

def lastSyllable : Nat := 0xD7A3

/-- Hangul syllables without a final consonant. They come first in rows of 28. -/
def openSyllables : CodePoints :=
  .ofRanges <|
    (List.range ((lastSyllable - firstSyllable) / 28 + 1)).map fun row =>
      (firstSyllable + 28 * row, firstSyllable + 28 * row)

def closedSyllables : CodePoints :=
  CodePoints.difference ⟨#[(firstSyllable, lastSyllable)]⟩ openSyllables

def graphemeControl : CodePoints :=
  (CodePoints.unions
    [categories ["zl", "zp", "cc", "cf"], unassigned.inter defaultIgnorable])
    |>.difference
      (.unions [.read "A D 200C-200D", listed "pcm", graphemeExtend])

def graphemeBreak? (value : String) : Option CodePoints :=
  if value = "lv" then some openSyllables
  else if value = "lvt" then some closedSyllables
  else if value = "cn" ∨ value = "control" then some graphemeControl
  else if value = "ex" ∨ value = "extend" then some (graphemeExtend.union (listed "emod"))
  else row? graphemeBreakRows value

/-! Words. -/

/-- Characters that extend the one before them, in words and in sentences. -/
def markExtend : CodePoints := graphemeExtend.union (category "mc")

/-- Decimal digits and what stands with them. -/
def numeric : CodePoints :=
  (category "nd").union (.read "600-605 66B 6DD 890-891 8E2 19DA 110BD 110CD")

/-- Letters of scripts that divide words by something else than blanks, or not at all. -/
def undividedLetters : CodePoints :=
  .unions <|
    ["thai", "laoo", "mymr", "khmr", "tale", "talu", "lana", "ahom", "tavt", "hira"].filterMap
      script?

def wordLetter : CodePoints :=
  let letters := alphabetic.union
    (.read
      "2C2-2C5 2D2-2D7 2DE-2DF 2E5-2EB 2ED 2EF-2FF 55A-55C 55E 58A 5F3 70F A708-A716 A720-A721
        A789-A78A AB5B")
  let others := ["hl", "ka"].filterMap (row? wordBreakRows)
  letters.difference (.unions ([listed "ideo", undividedLetters, markExtend] ++ others))

def wordBreak? (value : String) : Option CodePoints :=
  if value = "le" ∨ value = "aletter" then some wordLetter
  else if value = "nu" ∨ value = "numeric" then some numeric
  else if value = "extend" then some (markExtend.union (listed "emod"))
  else row? wordBreakRows value

/-! Sentences. Georgian letters have case, but no sentence begins by it. -/

def sentenceExtend : CodePoints := markExtend.union (listed "joinc")

def sentenceLower : CodePoints :=
  lowercase.difference (sentenceExtend.union (.read "10D0-10FA 10FD-10FF"))

def sentenceUpper : CodePoints :=
  (uppercase.union (category "lt")).difference (.read "1C90-1CBA 1CBD-1CBF")

def sentenceLetter : CodePoints :=
  (alphabetic.union (.single 0x5F3))
    |>.difference (.unions [sentenceExtend, sentenceLower, sentenceUpper])

def sentenceEnd : CodePoints :=
  (listed "sterm").difference ((row? sentenceBreakRows "aterm").getD .empty)

def sentenceSpace : CodePoints := whiteSpace.difference (.read "A D 85 2028-2029")

def sentenceBreak? (value : String) : Option CodePoints :=
  if value = "ex" ∨ value = "extend" then some sentenceExtend
  else if value = "lo" ∨ value = "lower" then some sentenceLower
  else if value = "up" ∨ value = "upper" then some sentenceUpper
  else if value = "le" ∨ value = "oletter" then some sentenceLetter
  else if value = "nu" ∨ value = "numeric" then some (numeric.union (.single 0x66C))
  else if value = "st" ∨ value = "sterm" then some sentenceEnd
  else if value = "sp" then some sentenceSpace
  else row? sentenceBreakRows value

end Property

end Flowline.Text
