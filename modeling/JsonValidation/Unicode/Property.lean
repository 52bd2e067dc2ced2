import JsonValidation.Unicode.Binary
import JsonValidation.Unicode.Category
import JsonValidation.Unicode.Script

/-!
# Properties of characters by name

A property is named by a general category, a script or a binary property, or by a category or script
together with what it is a value of. Case, blanks, hyphens, underscores and a leading `is` do not count
in names.

* `Property.ofName?`, `Property.ofNameAndValue?`: the property with a name.
* `Property.contains`: the characters that have a property.
-/

namespace JsonValidation.Unicode

/-- A property of characters. -/
inductive Property where
  | any
  | ascii
  | assigned
  | category (oneOf : List Category)
  | script (code : String)
  | scriptExtension (code : String)
  | binary (set : Boundaries)

namespace Property

/-- Whether a character has a property. -/
def contains : Property → Char → Bool
  | any, _ => true
  | ascii, c => c.toNat < 0x80
  | assigned, c => Category.ofChar c != .unassigned
  | category oneOf, c => oneOf.contains (Category.ofChar c)
  | script code, c => Script.ofChar c == code
  | scriptExtension code, c => (Script.extensionsOfChar c).contains code
  | binary set, c => set.contains c.toNat

/-! ## Names -/

/-- What counts in a name. A name that is `isc` keeps its first letters. -/
def normalize (name : String) : String :=
  let kept := name.toList.filterMap fun c =>
    if c == ' ' || c == '_' || c == '-' || c.toNat ≥ 0x80 then none else some c.toLower
  let withoutIs := match name.toList.map Char.toLower, kept with
    | 'i' :: 's' :: _, 'i' :: 's' :: rest => if rest == ['c'] then kept else rest
    | _, _ => kept
  String.ofList withoutIs

/-- The general categories and groups of them, with their names. -/
def categoryNames : List (List String × List Category) :=
  [(["cc", "control", "cntrl"], [.control]),
    (["cf", "format"], [.format]),
    (["cn", "unassigned"], [.unassigned]),
    (["co", "privateuse"], [.privateUse]),
    (["cs", "surrogate"], [.surrogate]),
    (["ll", "lowercaseletter"], [.lowercaseLetter]),
    (["lm", "modifierletter"], [.modifierLetter]),
    (["lo", "otherletter"], [.otherLetter]),
    (["lt", "titlecaseletter"], [.titlecaseLetter]),
    (["lu", "uppercaseletter"], [.uppercaseLetter]),
    (["mc", "spacingmark"], [.spacingMark]),
    (["me", "enclosingmark"], [.enclosingMark]),
    (["mn", "nonspacingmark"], [.nonspacingMark]),
    (["nd", "decimalnumber", "digit"], [.decimalNumber]),
    (["nl", "letternumber"], [.letterNumber]),
    (["no", "othernumber"], [.otherNumber]),
    (["pc", "connectorpunctuation"], [.connectorPunctuation]),
    (["pd", "dashpunctuation"], [.dashPunctuation]),
    (["pe", "closepunctuation"], [.closePunctuation]),
    (["pf", "finalpunctuation"], [.finalPunctuation]),
    (["pi", "initialpunctuation"], [.initialPunctuation]),
    (["po", "otherpunctuation"], [.otherPunctuation]),
    (["ps", "openpunctuation"], [.openPunctuation]),
    (["sc", "currencysymbol"], [.currencySymbol]),
    (["sk", "modifiersymbol"], [.modifierSymbol]),
    (["sm", "mathsymbol"], [.mathSymbol]),
    (["so", "othersymbol"], [.otherSymbol]),
    (["zl", "lineseparator"], [.lineSeparator]),
    (["zp", "paragraphseparator"], [.paragraphSeparator]),
    (["zs", "spaceseparator"], [.spaceSeparator]),
    (["c", "other"], [.control, .format, .unassigned, .privateUse, .surrogate]),
    (["l", "letter"],
      [.lowercaseLetter, .modifierLetter, .otherLetter, .titlecaseLetter, .uppercaseLetter]),
    (["lc", "casedletter"], [.lowercaseLetter, .titlecaseLetter, .uppercaseLetter]),
    (["m", "mark", "combiningmark"], [.spacingMark, .enclosingMark, .nonspacingMark]),
    (["n", "number"], [.decimalNumber, .letterNumber, .otherNumber]),
    (["p", "punctuation", "punct"],
      [.connectorPunctuation, .dashPunctuation, .closePunctuation, .finalPunctuation,
        .initialPunctuation, .otherPunctuation, .openPunctuation]),
    (["s", "symbol"], [.currencySymbol, .modifierSymbol, .mathSymbol, .otherSymbol]),
    (["z", "separator"], [.lineSeparator, .paragraphSeparator, .spaceSeparator])]

/-- The category, or group of categories, with a normalized name. -/
def ofCategoryName? (name : String) : Option Property :=
  match name with
  | "any" => some any
  | "ascii" => some ascii
  | "assigned" => some assigned
  | _ => (categoryNames.find? fun entry => entry.1.contains name).map fun entry => category entry.2

/-- The letters of the script with a normalized name. -/
def scriptCode? (name : String) : Option String :=
  (Script.names.find? fun names => names.any fun other => normalize other == name).bind List.head?

/-- The binary property with a normalized name. -/
def ofBinaryName? (name : String) : Option Property :=
  (Binary.sets.find? fun entry => entry.1.any fun other => normalize other == name).map
    fun entry => binary entry.2

/-- The property with a name of its own: a binary property, a category or a script. -/
def ofName? (name : String) : Option Property :=
  let name := normalize name
  (ofBinaryName? name).or ((ofCategoryName? name).or ((scriptCode? name).map script))

/-- The property that is a value of categories, of scripts or of script extensions. -/
def ofNameAndValue? (name value : String) : Option Property :=
  let value := normalize value
  match normalize name with
  | "gc" | "generalcategory" => ofCategoryName? value
  | "sc" | "script" => (scriptCode? value).map script
  | "scx" | "scriptextensions" => (scriptCode? value).map scriptExtension
  | _ => none

/-! ## The classes of patterns -/

/-- Characters that are part of words. -/
def isWord (c : Char) : Bool :=
  Binary.alphabetic.contains c.toNat || Binary.joinControl.contains c.toNat ||
    (match Category.ofChar c with
      | .spacingMark | .enclosingMark | .nonspacingMark => true
      | .decimalNumber | .connectorPunctuation => true
      | _ => false)

/-- Decimal digits. -/
def isDigit (c : Char) : Bool := Category.ofChar c == .decimalNumber

/-- Blanks. -/
def isSpace (c : Char) : Bool := Binary.whiteSpace.contains c.toNat

end Property

end JsonValidation.Unicode
