import Emend.Unicode.Category
import Emend.Unicode.Script
import Emend.Unicode.Property
import Emend.Unicode.Segment
import Emend.Unicode.Newer

/-! # Looking up characters by property

A query names a binary property, a general category or a script, or a property with
a value. Names are compared without regard to case, separators and a leading `is`.
-/

namespace Emend.Unicode

/-- Why a query has no answer. -/
inductive QueryError where
  /-- No property, category or script has the name. -/
  | propertyNotFound
  /-- The property has no characters for the value. -/
  | valueNotFound
  deriving Repr, DecidableEq

namespace Query

/-- The form in which names are compared: ASCII lower case without blanks, dashes,
underscores and a leading `is`. The name `isc` is one of its own. -/
def normalize (name : String) : String :=
  let letters := name.toList
  let hasIs := match letters with
    | i :: s :: _ => (i == 'i' || i == 'I') && (s == 's' || s == 'S')
    | _ => false
  let kept := (if hasIs then letters.drop 2 else letters).filter fun c =>
    c != ' ' && c != '_' && c != '-' && c.toNat < 128
  let lower := kept.map Char.toLower
  if hasIs && lower == ['c'] then "isc" else String.ofList lower

/-- Properties whose values are not just yes and no, in normal form and under every
name. Only some of them can be asked for by value. -/
def valuedProperties : List String := [
  "age", "bc", "bidiclass", "bidimirroringglyph", "bidipairedbracket",
  "bidipairedbrackettype", "blk", "block", "bmg", "bpb", "bpt", "canonicalcombiningclass",
  "casefolding", "ccc", "cf", "cjkaccountingnumeric", "cjkcompatibilityvariant",
  "cjkiicore", "cjkirggsource", "cjkirghsource", "cjkirgjsource", "cjkirgkpsource",
  "cjkirgksource", "cjkirgmsource", "cjkirgssource", "cjkirgtsource", "cjkirguksource",
  "cjkirgusource", "cjkirgvsource", "cjkothernumeric", "cjkprimarynumeric", "cjkrsunicode",
  "decompositionmapping", "decompositiontype", "dm", "dt", "ea", "eastasianwidth",
  "equideo", "equivalentunifiedideograph", "fcnfkc", "fcnfkcclosure", "gc", "gcb",
  "generalcategory", "graphemeclusterbreak", "hangulsyllabletype", "hst", "incb",
  "indicconjunctbreak", "indicpositionalcategory", "indicsyllabiccategory", "inpc",
  "insc", "isc", "isocomment", "jamoshortname", "jg", "joininggroup", "joiningtype",
  "jsn", "jt", "kaccountingnumeric", "kcompatibilityvariant", "kiicore", "kirggsource",
  "kirghsource", "kirgjsource", "kirgkpsource", "kirgksource", "kirgmsource",
  "kirgssource", "kirgtsource", "kirguksource", "kirgusource", "kirgvsource",
  "kothernumeric", "kprimarynumeric", "krsunicode", "lb", "lc", "linebreak",
  "lowercasemapping", "na", "na1", "name", "namealias", "nfcqc", "nfcquickcheck", "nfdqc",
  "nfdquickcheck", "nfkccasefold", "nfkccf", "nfkcqc", "nfkcquickcheck", "nfkcscf",
  "nfkcsimplecasefold", "nfkdqc", "nfkdquickcheck", "nt", "numerictype", "numericvalue",
  "nv", "sb", "sc", "scf", "script", "scriptextensions", "scx", "sentencebreak", "sfc",
  "simplecasefolding", "simplelowercasemapping", "simpletitlecasemapping",
  "simpleuppercasemapping", "slc", "stc", "suc", "tc", "titlecasemapping", "uc",
  "unicode1name", "unicoderadicalstroke", "uppercasemapping", "urs",
  "verticalorientation", "vo", "wb", "wordbreak"]

/-- Binary properties that have a name but no table, in normal form and under every name. -/
def namedOnlyProperties : List String := [
  "ce", "changeswhennfkccasefolded", "compex", "compositionexclusion", "cwkcf",
  "expandsonnfc", "expandsonnfd", "expandsonnfkc", "expandsonnfkd",
  "fullcompositionexclusion", "xonfc", "xonfd", "xonfkc", "xonfkd"]

/-- The long name of a binary property with a table. -/
def binary? (name : String) : Option String :=
  let long := (Property.aliases.lookup name).getD name
  if (Property.tables.lookup long).isSome then some long else none

def isProperty (name : String) : Bool :=
  (binary? name).isSome || valuedProperties.contains name || namedOnlyProperties.contains name

/-- The characters of a general category by any of its names in normal form: none if
there is no such category, and no set if it has no characters. -/
def category? (name : String) : Option (Option CharSet) :=
  if name == "any" then some (some CharSet.empty.complement)
  else if name == "ascii" then some (some (CharSet.ofRanges [(0, 127)]))
  else if name == "assigned" then
    some ((Category.byShortName? "cn").map CharSet.complement)
  else
    let short := (Category.aliases.lookup name).getD name
    match Category.byShortName? short with
    | some set => some (some set)
    | none => if short == "cs" then some none else none

/-- The answer to a set that may be missing. -/
def found (missing : QueryError) : Option CharSet → Except QueryError CharSet
  | some set => .ok set
  | none => .error missing

/-- The characters that a bare name stands for. Three names belong to a category even
though a property has them too. -/
def byName (name : String) : Except QueryError CharSet :=
  let name := normalize name
  if name != "cf" && name != "sc" && name != "lc" && isProperty name then
    found .propertyNotFound ((binary? name).bind Property.byLongName?)
  else
    match category? name with
    | some set => found .valueNotFound set
    | none =>
        match Script.canonical? name with
        | some short => found .valueNotFound (Script.byShortName? short)
        | none => .error .propertyNotFound

/-- The version that a value in normal form stands for: `v` stands before digits of
which the last belongs behind a point. -/
def version (value : String) : String :=
  match value.toList with
  | 'v' :: digits => String.ofList (digits.dropLast ++ '.' :: digits.getLast?.toList)
  | _ => value

def byValue (name value : String) : Except QueryError CharSet :=
  let name := normalize name
  let value := normalize value
  if !isProperty name then .error .propertyNotFound
  else if name == "gc" || name == "generalcategory" then
    found .valueNotFound ((category? value).bind id)
  else if name == "sc" || name == "script" then
    found .valueNotFound ((Script.canonical? value).bind Script.byShortName?)
  else if name == "scx" || name == "scriptextensions" then
    found .valueNotFound ((Script.canonical? value).bind Script.extensionByShortName?)
  else if name == "age" then
    found .valueNotFound (Segment.assignedBy? (version value))
  else if name == "gcb" || name == "graphemeclusterbreak" then
    found .valueNotFound (Segment.classOf? Segment.graphemes Segment.graphemesAliases value)
  else if name == "wb" || name == "wordbreak" then
    found .valueNotFound (Segment.classOf? Segment.words Segment.wordsAliases value)
  else if name == "sb" || name == "sentencebreak" then
    found .valueNotFound (Segment.classOf? Segment.sentences Segment.sentencesAliases value)
  else .error .valueNotFound

end Query

def digits : CharSet := Category.single "nd"

def spaces : CharSet := Property.get "whitespace"

/-- The characters that words are made of: letters, marks, decimal digits, connecting
punctuation and join controls. -/
def wordChars : CharSet :=
  CharSet.ofRanges <| List.flatten <| List.map CharSet.ranges
    [Property.get "alphabetic", (Category.byShortName? "m").getD .empty, digits,
      Category.single "pc", Property.get "joincontrol"]

/-- Letters and other characters with the property Alphabetic, the newest included. -/
def alphabetic : CharSet := (Property.get "alphabetic").union Newer.letters

/-- Letters and numbers, the newest included. -/
def alphanumeric : CharSet :=
  CharSet.ofRanges <| List.flatten <| List.map CharSet.ranges
    [alphabetic, (Category.byShortName? "n").getD .empty, Newer.numbers]

def isWordChar (c : Char) : Bool :=
  if c.toNat < 128 then c.isAlphanum || c == '_' else wordChars.contains c

/-- The characters without a visible form of their own beyond ASCII: control, format,
private, unassigned and separating characters, fillers, and marks that extend the
character before them. -/
def unprintable : CharSet :=
  let extenders := (Property.get "graphemeextend").inter ((Category.byShortName? "m").getD .empty)
  let formless := CharSet.ofRanges <| List.flatten <| List.map CharSet.ranges <|
    extenders :: Property.get "defaultignorablecodepoint" ::
      ["cc", "cf", "co", "cn", "zs", "zl", "zp"].map Category.single
  formless.diff Newer.visible

/-- Whether a character is shown by its number in quoted text. The blank is not. -/
def isUnprintable (c : Char) : Bool :=
  if c.toNat < 128 then c.toNat < 32 || c.toNat == 127 else unprintable.contains c

end Emend.Unicode
