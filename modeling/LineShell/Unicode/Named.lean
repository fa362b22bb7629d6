import LineShell.Unicode.Age
import LineShell.Unicode.Break
import LineShell.Unicode.Property
import LineShell.Unicode.Script

/-!
# Sets of characters by name

The sets that a pattern can name. A single name is looked for among the binary properties, then
among the general categories, then among the scripts; a name with a value asks for one value of a
property. A name that no property has and a value that the property does not have are different
faults.
-/

namespace LineShell

namespace Category

/-- The categories and the groups of categories, with their names. -/
def groups : List (List String × List Category) :=
  [(["C", "Other"], [cc, cf, co, cn]), (["Cc", "Control", "cntrl"], [cc]), (["Cf", "Format"], [cf]),
    (["Cn", "Unassigned"], [cn]), (["Co", "Private_Use"], [co]), (["L", "Letter"], letters),
    (["LC", "Cased_Letter"], [lu, ll, lt]), (["Ll", "Lowercase_Letter"], [ll]),
    (["Lm", "Modifier_Letter"], [lm]), (["Lo", "Other_Letter"], [lo]),
    (["Lt", "Titlecase_Letter"], [lt]), (["Lu", "Uppercase_Letter"], [lu]),
    (["M", "Mark", "Combining_Mark"], marks), (["Mc", "Spacing_Mark"], [mc]),
    (["Me", "Enclosing_Mark"], [me]), (["Mn", "Nonspacing_Mark"], [mn]), (["N", "Number"], numbers),
    (["Nd", "Decimal_Number", "digit"], [nd]), (["Nl", "Letter_Number"], [nl]),
    (["No", "Other_Number"], [no]), (["P", "Punctuation", "punct"], [pc, pd, ps, pe, pi, pf, po]),
    (["Pc", "Connector_Punctuation"], [pc]), (["Pd", "Dash_Punctuation"], [pd]),
    (["Pe", "Close_Punctuation"], [pe]), (["Pf", "Final_Punctuation"], [pf]),
    (["Pi", "Initial_Punctuation"], [pi]), (["Po", "Other_Punctuation"], [po]),
    (["Ps", "Open_Punctuation"], [ps]), (["S", "Symbol"], [sm, sc, sk, so]),
    (["Sc", "Currency_Symbol"], [sc]), (["Sk", "Modifier_Symbol"], [sk]),
    (["Sm", "Math_Symbol"], [sm]), (["So", "Other_Symbol"], [so]),
    (["Z", "Separator"], [zs, zl, zp]),
    (["Zl", "Line_Separator"], [zl]), (["Zp", "Paragraph_Separator"], [zp]),
    (["Zs", "Space_Separator"], [zs])]

end Category

namespace CharSet

/-- Why a name stands for no set of characters. -/
inductive NameFault where
  | noProperty
  | noValue
  deriving DecidableEq, Repr

/-- Whether one of the names is the given one, in the loose form. -/
def isNamed (name : Text) (names : List String) : Bool :=
  names.any fun n ↦ looseName n.toList == name

/-- The names of surrogates, which are no characters. -/
def surrogateNames : List String := ["Cs", "Surrogate"]

/-- The set of a general category, or of a group of them, by its loose name; nothing for a name that
is not one. -/
def ofCategory? (name : Text) : Option (Except NameFault CharSet) :=
  if name = "any".toList then some (.ok univ)
  else if name = "assigned".toList then some (.ok (Category.set [.cn]).compl)
  else if name = "ascii".toList then some (.ok (ofRanges [(0, 0x7F)]))
  else if isNamed name surrogateNames then some (.error .noValue)
  else (Category.groups.find? fun g ↦ isNamed name g.1).map fun g ↦ .ok (Category.set g.2)

/-- The set of one value of a property that gives every code point one value. -/
def ofPartition? (p : Partition) (set : Text → CharSet) (value : Text) :
    Option (Except NameFault CharSet) :=
  (p.code? value).map fun code ↦ if p.isListed code then .ok (set code) else .error .noValue

/-- The names that mean a general category although a property has them too. -/
def ambiguousNames : List String := ["cf", "lc", "sc"]

/-- The set with the given name. -/
def ofName (name : Text) : Except NameFault CharSet :=
  let name := looseName name
  let property := if isNamed name ambiguousNames then none else binaryProperty? name
  match property, ofCategory? name, ofPartition? .script Partition.script.set name with
  | some set, _, _ => .ok set
  | none, some answer, _ => answer
  | none, none, some answer => answer
  | none, none, none => .error .noProperty

/-- The names of the properties that have no sets, in their loose form; that of `ISO_Comment` begins
behind what looks like an `is` in front. -/
def otherProperties : List String :=
  ["bc", "bidiclass", "bidimirroringglyph", "bidipairedbracket", "bidipairedbrackettype", "blk",
    "block", "bmg", "bpb", "bpt", "canonicalcombiningclass", "casefolding", "ccc", "ce", "cf",
    "changeswhennfkccasefolded", "cwkcf", "compex", "compositionexclusion",
    "decompositionmapping", "decompositiontype", "dm", "dt", "ea", "eastasianwidth", "equideo",
    "equivalentunifiedideograph", "expandsonnfc", "expandsonnfd", "expandsonnfkc",
    "expandsonnfkd", "fcnfkc", "fcnfkcclosure", "fullcompositionexclusion", "hangulsyllabletype",
    "hst", "incb", "indicconjunctbreak", "indicpositionalcategory", "indicsyllabiccategory",
    "inpc", "insc", "isc", "ocomment", "jamoshortname", "jg", "joininggroup", "joiningtype",
    "jsn", "jt", "lb", "lc", "linebreak", "lowercasemapping", "na", "na1", "name", "namealias",
    "nfcqc", "nfcquickcheck", "nfdqc", "nfdquickcheck", "nfkccasefold", "nfkccf", "nfkcqc",
    "nfkcquickcheck", "nfkcscf", "nfkcsimplecasefold", "nfkdqc", "nfkdquickcheck", "nt",
    "numerictype", "numericvalue", "nv", "scf", "sfc", "simplecasefolding",
    "simplelowercasemapping", "simpletitlecasemapping", "simpleuppercasemapping", "slc", "stc",
    "suc", "tc", "titlecasemapping", "uc", "unicode1name", "unicoderadicalstroke",
    "uppercasemapping", "urs", "verticalorientation", "vo", "xonfc", "xonfd", "xonfkc", "xonfkd",
    "cjkaccountingnumeric", "cjkcompatibilityvariant", "cjkiicore", "cjkirggsource",
    "cjkirghsource", "cjkirgjsource", "cjkirgkpsource", "cjkirgksource", "cjkirgmsource",
    "cjkirgssource", "cjkirgtsource", "cjkirguksource", "cjkirgusource", "cjkirgvsource",
    "cjkothernumeric", "cjkprimarynumeric", "cjkrsunicode", "kaccountingnumeric",
    "kcompatibilityvariant", "kehcat", "kehdesc", "kehhg", "kehifao", "kehjsesh", "kehnomirror",
    "kehnorotate", "kiicore", "kirggsource", "kirghsource", "kirgjsource", "kirgkpsource",
    "kirgksource", "kirgmsource", "kirgssource", "kirgtsource", "kirguksource", "kirgusource",
    "kirgvsource", "kothernumeric", "kprimarynumeric", "krsunicode"]

/-- Whether a property whose values have no sets has the loose name. -/
def isProperty (name : Text) : Bool :=
  otherProperties.any (·.toList == name) || (binaryProperty? name).isSome

/-- The properties whose values have sets: their names, and the set of a value. -/
def valuedProperties : List (List String × (Text → Option (Except NameFault CharSet))) :=
  [(["gc", "generalcategory"], ofCategory?),
    (Partition.script.names, ofPartition? .script Partition.script.set),
    (["scx", "scriptextensions"], ofPartition? .script Partition.usedInScript),
    (Partition.age.names, ofPartition? .age Partition.assignedBy),
    (Partition.graphemeBreak.names, ofPartition? .graphemeBreak Partition.graphemeBreak.set),
    (Partition.wordBreak.names, ofPartition? .wordBreak Partition.wordBreak.set),
    (Partition.sentenceBreak.names, ofPartition? .sentenceBreak Partition.sentenceBreak.set)]

/-- The set of the characters for which the property of the given name has the given value. -/
def ofValue (name value : Text) : Except NameFault CharSet :=
  let name := looseName name
  match valuedProperties.find? fun p ↦ p.1.any (·.toList == name) with
  | some p => (p.2 (looseName value)).getD (.error .noValue)
  | none => .error (if isProperty name then .noValue else .noProperty)

end CharSet

end LineShell
