/-
Looking up properties of characters by name.  Names are compared without case, separators and
a leading `is`.
-/
import Amend.Unicode.Age
import Amend.Unicode.ScriptExtension
import Amend.Unicode.Segmentation

namespace Amend
namespace Unicode

/-- The ASCII characters of a name in lowercase, without separators. -/
def plainName (name : List Char) : List Char :=
  (name.filter fun c => decide (c.toNat < 128) && c != ' ' && c != '_' && c != '-').map
    Char.toLower

/-- A name as it is compared, less a leading `is`.  The name `isc` keeps it, since it stands for
a property of its own. -/
def normalName (name : String) : String :=
  String.ofList (match name.toList with
    | i :: s :: rest =>
      if i.toLower = 'i' ∧ s.toLower = 's' then
        if plainName rest = ['c'] then ['i', 's', 'c'] else plainName rest
      else plainName (i :: s :: rest)
    | short => plainName short)

/-- The general categories with their names. -/
def categories : List (List String × Ranges) :=
  [(["any"], Ranges.all),
    (["assigned"], Category.assigned),
    (["ascii"], [(0, 127)]),
    (["l", "letter"], Category.letter),
    (["lc", "casedletter"],
      .unionAll [Category.uppercaseLetter, Category.lowercaseLetter, Category.titlecaseLetter]),
    (["lu", "uppercaseletter"], Category.uppercaseLetter),
    (["ll", "lowercaseletter"], Category.lowercaseLetter),
    (["lt", "titlecaseletter"], Category.titlecaseLetter),
    (["lm", "modifierletter"], Category.modifierLetter),
    (["lo", "otherletter"], Category.otherLetter),
    (["m", "mark", "combiningmark"], Category.mark),
    (["mn", "nonspacingmark"], Category.nonspacingMark),
    (["mc", "spacingmark"], Category.spacingMark),
    (["me", "enclosingmark"], Category.enclosingMark),
    (["n", "number"], Category.number),
    (["nd", "decimalnumber", "digit"], Category.decimalNumber),
    (["nl", "letternumber"], Category.letterNumber),
    (["no", "othernumber"], Category.otherNumber),
    (["p", "punctuation", "punct"], Category.punctuation),
    (["pc", "connectorpunctuation"], Category.connectorPunctuation),
    (["pd", "dashpunctuation"], Category.dashPunctuation),
    (["ps", "openpunctuation"], Category.openPunctuation),
    (["pe", "closepunctuation"], Category.closePunctuation),
    (["pi", "initialpunctuation"], Category.initialPunctuation),
    (["pf", "finalpunctuation"], Category.finalPunctuation),
    (["po", "otherpunctuation"], Category.otherPunctuation),
    (["s", "symbol"], Category.symbol),
    (["sm", "mathsymbol"], Category.mathSymbol),
    (["sc", "currencysymbol"], Category.currencySymbol),
    (["sk", "modifiersymbol"], Category.modifierSymbol),
    (["so", "othersymbol"], Category.otherSymbol),
    (["z", "separator"], Category.separator),
    (["zs", "spaceseparator"], Category.spaceSeparator),
    (["zl", "lineseparator"], Category.lineSeparator),
    (["zp", "paragraphseparator"], Category.paragraphSeparator),
    (["c", "other"], Category.other),
    (["cc", "control", "cntrl"], Category.control),
    (["cf", "format"], Category.format),
    (["co", "privateuse"], Category.privateUse),
    (["cn", "unassigned"], Category.unassigned)]

/-- The characters of a row of a table, by one of the names of the row. -/
def row? (table : List (List String × Ranges)) (name : String) : Option Ranges :=
  (table.find? fun row => row.1.contains name).map Prod.snd

/-- Other names of scripts. -/
def scriptAliases : List (String × String) := [("qaac", "copt"), ("qaai", "zinh")]

/-- The row of a script, by its short or its long name. -/
def scriptRow? (name : String) : Option (String × String × Ranges) :=
  let name := (scriptAliases.lookup name).getD name
  scripts.find? fun row => normalName row.1 = name || normalName row.2.1 = name

def script? (name : String) : Option Ranges := (scriptRow? name).map fun row => row.2.2

/-- The characters that a script uses. -/
def scriptExtension? (name : String) : Option Ranges :=
  (scriptRow? name).map fun (short, _, own) => usedBy (normalName short) own

/-- The characters of a property named alone: a yes-or-no property, a category or a script. -/
def property? (name : String) : Option Ranges :=
  let name := normalName name
  (row? binaryProperties name).or ((row? categories name).or (script? name))

/-- The properties with values, by short and long name, each with its values by name. -/
def valuedProperties : List (List String × (String → Option Ranges)) :=
  [(["gc", "generalcategory"], row? categories),
    (["sc", "script"], script?),
    (["scx", "scriptextensions"], scriptExtension?),
    (["age"], age?),
    (["gcb", "graphemeclusterbreak"], row? Grapheme.classes),
    (["wb", "wordbreak"], row? Word.classes),
    (["sb", "sentencebreak"], row? Sentence.classes)]

/-- The characters for which a property has a value. -/
def propertyValue? (name value : String) : Option Ranges :=
  let name := normalName name
  (valuedProperties.find? fun row => row.1.contains name).bind fun row =>
    row.2 (normalName value)

end Unicode
end Amend
