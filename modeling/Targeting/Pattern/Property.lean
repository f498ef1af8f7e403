import Targeting.Pattern.Basic
import Targeting.Pattern.CharSet
import Targeting.Pattern.Error
/-!
# Properties by name

The set of characters that a property in a pattern stands for. Names are
compared without regard to case, spaces, hyphens and underscores, and may have
`is` in front. A name on its own is a property that holds or does not, a general
category or a script.
-/

namespace Targeting.Pattern

open Unicode

/-- A name as it is compared. The abbreviation `isc` is a name of its own and
does not stand for `c`. -/
def plainName (name : String) : String :=
  let cs := name.toList
  let (marked, rest) := match cs with
    | a :: b :: rest => if a.toLower = 'i' ∧ b.toLower = 's' then (true, rest) else (false, cs)
    | _ => (false, cs)
  let kept := rest.filter fun c => c != ' ' && c != '_' && c != '-' && c.toNat < 128
  let plain := kept.map Char.toLower
  if marked && plain == ['c'] then "isc" else String.ofList plain

def findNamed {α : Type} (name : String) (table : List (List String × α)) : Option α :=
  (table.find? fun entry => entry.1.any fun n => plainName n == name).map (·.2)

/-! ## General categories -/

def categories : List (List String × List GeneralCategory) := [
  (["Lu", "Uppercase_Letter"], [.uppercaseLetter]),
  (["Ll", "Lowercase_Letter"], [.lowercaseLetter]),
  (["Lt", "Titlecase_Letter"], [.titlecaseLetter]),
  (["LC", "Cased_Letter"], [.uppercaseLetter, .lowercaseLetter, .titlecaseLetter]),
  (["Lm", "Modifier_Letter"], [.modifierLetter]),
  (["Lo", "Other_Letter"], [.otherLetter]),
  (["L", "Letter"],
    [.uppercaseLetter, .lowercaseLetter, .titlecaseLetter, .modifierLetter, .otherLetter]),
  (["Mn", "Nonspacing_Mark"], [.nonspacingMark]),
  (["Mc", "Spacing_Mark"], [.spacingMark]),
  (["Me", "Enclosing_Mark"], [.enclosingMark]),
  (["M", "Mark", "Combining_Mark"], [.nonspacingMark, .spacingMark, .enclosingMark]),
  (["Nd", "Decimal_Number", "digit"], [.decimalNumber]),
  (["Nl", "Letter_Number"], [.letterNumber]),
  (["No", "Other_Number"], [.otherNumber]),
  (["N", "Number"], [.decimalNumber, .letterNumber, .otherNumber]),
  (["Pc", "Connector_Punctuation"], [.connectorPunctuation]),
  (["Pd", "Dash_Punctuation"], [.dashPunctuation]),
  (["Ps", "Open_Punctuation"], [.openPunctuation]),
  (["Pe", "Close_Punctuation"], [.closePunctuation]),
  (["Pi", "Initial_Punctuation"], [.initialPunctuation]),
  (["Pf", "Final_Punctuation"], [.finalPunctuation]),
  (["Po", "Other_Punctuation"], [.otherPunctuation]),
  (["P", "Punctuation", "punct"],
    [.connectorPunctuation, .dashPunctuation, .openPunctuation, .closePunctuation,
      .initialPunctuation, .finalPunctuation, .otherPunctuation]),
  (["Sm", "Math_Symbol"], [.mathSymbol]),
  (["Sc", "Currency_Symbol"], [.currencySymbol]),
  (["Sk", "Modifier_Symbol"], [.modifierSymbol]),
  (["So", "Other_Symbol"], [.otherSymbol]),
  (["S", "Symbol"], [.mathSymbol, .currencySymbol, .modifierSymbol, .otherSymbol]),
  (["Zs", "Space_Separator"], [.spaceSeparator]),
  (["Zl", "Line_Separator"], [.lineSeparator]),
  (["Zp", "Paragraph_Separator"], [.paragraphSeparator]),
  (["Z", "Separator"], [.spaceSeparator, .lineSeparator, .paragraphSeparator]),
  (["Cc", "Control", "cntrl"], [.control]),
  (["Cf", "Format"], [.format]),
  (["Co", "Private_Use"], [.privateUse]),
  (["Cn", "Unassigned"], [.unassigned]),
  (["C", "Other"], [.control, .format, .privateUse, .unassigned])]

/-- The characters of a category, or of one of three classes named like one. No
character is a surrogate, and that category has no set. -/
def categorySet? (name : String) : Option (Except PatternError CharSet) :=
  match name with
  | "any" => some (.ok .all)
  | "assigned" => some (.ok (.complement (.category [.unassigned])))
  | "ascii" => some (.ok (.range '\x00' '\x7f'))
  | "cs" | "surrogate" => some (.error .unknownPropertyValue)
  | _ => (findNamed name categories).map fun cs => .ok (.category cs)

/-! ## Scripts -/

/-- The abbreviation of the script of a name. -/
def scriptCode? (name : String) : Option String :=
  match Script.names.find? fun s => plainName s.1 == name || plainName s.2 == name with
  | some s => some s.1
  | none => (Script.otherAbbreviations.find? fun s => plainName s.1 == name).map (·.2)

/-- The characters of a script. The one of unassigned code points has no set. -/
def scriptSet? (name : String) : Option (Except PatternError CharSet) :=
  (scriptCode? name).map fun code =>
    if code = "Zzzz" then .error .unknownPropertyValue else .ok (.script code)

/-- The characters that are used in a script. -/
def scriptExtensionSet? (name : String) : Option (Except PatternError CharSet) :=
  (scriptCode? name).map fun code =>
    if code = "Zzzz" then .error .unknownPropertyValue
    else match Script.extensions code with
      | some ranges => .ok (.table (.decode ranges))
      | none => .ok (.script code)

/-! ## Queries -/

/-- Further properties whose values have names. -/
def otherValuedProperties : List String :=
  ["Age", "Block", "blk", "Grapheme_Cluster_Break", "GCB", "Word_Break", "WB", "Sentence_Break",
    "SB", "Line_Break", "lb", "Bidi_Class", "bc", "Canonical_Combining_Class", "ccc",
    "East_Asian_Width", "ea", "Numeric_Type", "nt", "Numeric_Value", "nv", "Name", "na"]

/-- Three abbreviations of properties mean the general category. -/
def namedSet (name : String) : Except PatternError CharSet :=
  let property := if name = "cf" ∨ name = "sc" ∨ name = "lc" then none
    else (findNamed name properties).map fun s => .ok (.table s)
  ((property.or (categorySet? name)).or (scriptSet? name)).getD (.error .unknownProperty)

def valuedSet (name value : String) : Except PatternError CharSet :=
  if name = "gc" ∨ name = "generalcategory" then
    (categorySet? value).getD (.error .unknownPropertyValue)
  else if name = "sc" ∨ name = "script" then
    (scriptSet? value).getD (.error .unknownPropertyValue)
  else if name = "scx" ∨ name = "scriptextensions" then
    (scriptExtensionSet? value).getD (.error .unknownPropertyValue)
  else if (findNamed name properties).isSome ∨ otherValuedProperties.any (plainName · == name) then
    .error .unknownPropertyValue
  else .error .unknownProperty

/-- The characters that have the property asked for. -/
def PropertyQuery.set : PropertyQuery → Except PatternError CharSet
  | .named name => namedSet (plainName name)
  | .valued name value => valuedSet (plainName name) (plainName value)

end Targeting.Pattern
