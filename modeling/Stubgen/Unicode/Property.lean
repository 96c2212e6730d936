import Stubgen.Unicode.Age
import Stubgen.Unicode.Binary
import Stubgen.Unicode.Category
import Stubgen.Unicode.Script
import Stubgen.Unicode.Segmentation

/-!
# Character properties by name

Names of properties and of their values are compared loosely: case, spaces,
hyphens and underscores do not matter, nor does a leading `is`.
-/

namespace Stubgen.CharProperty

/-- A name as it is compared: without a leading `is`, in lower case, and without
separators and characters outside ASCII. -/
def looseName (name : Text) : Text :=
  let body :=
    match name with
    | i :: s :: rest =>
      if i.toLower = 'i' && s.toLower = 's' then rest else name
    | _ => name
  let kept :=
    (body.filter fun c =>
      c.toNat < 0x80 && c ≠ ' ' && c ≠ '_' && c ≠ '-').map Char.toLower
  if body.length < name.length && kept = ['c'] then "isc".toList else kept

/-- The class cited by one name: a binary property, a general category or a
script. -/
def named? (name : Text) : Option CodeSet :=
  let name := looseName name
  Binary.named? name <|> Category.named? name <|> Script.named? name

/-- The class of the characters that have `value` for `property`. -/
def valued? (property value : Text) : Option CodeSet :=
  let property := looseName property
  let value := looseName value
  let cites (names : List String) : Bool := names.any (·.toList = property)
  if cites ["gc", "generalcategory", "category"] then Category.named? value
  else if cites ["sc", "script"] then Script.named? value
  else if cites ["scx", "scriptextensions"] then Script.extensionNamed? value
  else if cites ["age"] then Age.named? value
  else if cites ["gcb", "graphemeclusterbreak"] then
    Segmentation.named? Segmentation.graphemes Segmentation.graphemesNames value
  else if cites ["wb", "wordbreak"] then
    Segmentation.named? Segmentation.words Segmentation.wordsNames value
  else if cites ["sb", "sentencebreak"] then
    Segmentation.named? Segmentation.sentences Segmentation.sentencesNames value
  else none

/-- The binary property `name`, empty if there is none of that name. -/
def binary (name : String) : CodeSet :=
  (Binary.named? name.toList).getD CodeSet.empty

def digits : CodeSet := Category.having ["Nd"]

def spaces : CodeSet := binary "whitespace"

def alphabetic : CodeSet := binary "alphabetic"

def alphanumeric : CodeSet :=
  alphabetic.union (Category.having ["Nd", "Nl", "No"])

/-- The characters of words: letters, marks, decimal digits, connecting
punctuation and the two joiners. -/
def wordCharacters : CodeSet :=
  CodeSet.unionAll
    [alphabetic, Category.having ["Mn", "Mc", "Me", "Nd", "Pc"],
      binary "joincontrol"]

/-- The characters that a quotation shows as they are: all but control, format
and private characters, unassigned code points, grapheme extenders, and
separators other than the space. -/
def printable : CodeSet :=
  (CodeSet.singleton 0x20).union <|
    ((Category.having ["Cc", "Cf", "Cs", "Co", "Cn", "Zl", "Zp", "Zs"]).union
      (binary "graphemeextend")).compl

end Stubgen.CharProperty
