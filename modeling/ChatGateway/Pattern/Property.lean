import ChatGateway.Pattern.CharSet

/-!
# Properties of characters by name

The sets of characters that Unicode gives a name to, as far as patterns can ask for
them: general categories, their groups, and a few properties.  In a name neither case
nor blanks, hyphens and underscores matter.
-/

namespace ChatGateway.Pattern

/-- A name without what does not matter in it. -/
def looseName (s : String) : String :=
  let name := (s.toList.filter fun c => !(c == ' ' || c == '_' || c == '-')).map Char.toLower
  match name with
  | 'i' :: 's' :: rest => String.ofList (if rest == ['c'] then name else rest)
  | _ => String.ofList name

/-- The names of the general categories and their groups. -/
def namedCategories : List (List String × List Text.Category) := [
  (["lu", "uppercaseletter"], [.uppercaseLetter]),
  (["ll", "lowercaseletter"], [.lowercaseLetter]),
  (["lt", "titlecaseletter"], [.titlecaseLetter]),
  (["lc", "casedletter"], [.uppercaseLetter, .lowercaseLetter, .titlecaseLetter]),
  (["lm", "modifierletter"], [.modifierLetter]),
  (["lo", "otherletter"], [.otherLetter]),
  (["l", "letter"],
    [.uppercaseLetter, .lowercaseLetter, .titlecaseLetter, .modifierLetter, .otherLetter]),
  (["mn", "nonspacingmark"], [.nonspacingMark]),
  (["mc", "spacingmark"], [.spacingMark]),
  (["me", "enclosingmark"], [.enclosingMark]),
  (["m", "mark", "combiningmark"], [.nonspacingMark, .spacingMark, .enclosingMark]),
  (["nd", "decimalnumber", "digit"], [.decimalNumber]),
  (["nl", "letternumber"], [.letterNumber]),
  (["no", "othernumber"], [.otherNumber]),
  (["n", "number"], [.decimalNumber, .letterNumber, .otherNumber]),
  (["pc", "connectorpunctuation"], [.connectorPunctuation]),
  (["pd", "dashpunctuation"], [.dashPunctuation]),
  (["ps", "openpunctuation"], [.openPunctuation]),
  (["pe", "closepunctuation"], [.closePunctuation]),
  (["pi", "initialpunctuation"], [.initialPunctuation]),
  (["pf", "finalpunctuation"], [.finalPunctuation]),
  (["po", "otherpunctuation"], [.otherPunctuation]),
  (["p", "punctuation", "punct"],
    [.connectorPunctuation, .dashPunctuation, .openPunctuation, .closePunctuation,
      .initialPunctuation, .finalPunctuation, .otherPunctuation]),
  (["sm", "mathsymbol"], [.mathSymbol]),
  (["sc", "currencysymbol"], [.currencySymbol]),
  (["sk", "modifiersymbol"], [.modifierSymbol]),
  (["so", "othersymbol"], [.otherSymbol]),
  (["s", "symbol"], [.mathSymbol, .currencySymbol, .modifierSymbol, .otherSymbol]),
  (["zs", "spaceseparator"], [.spaceSeparator]),
  (["zl", "lineseparator"], [.lineSeparator]),
  (["zp", "paragraphseparator"], [.paragraphSeparator]),
  (["z", "separator"], [.spaceSeparator, .lineSeparator, .paragraphSeparator]),
  (["cc", "control", "cntrl"], [.control]),
  (["cf", "format"], [.format]),
  (["co", "privateuse"], [.privateUse]),
  (["cn", "unassigned"], [.unassigned]),
  (["c", "other"], [.control, .format, .privateUse, .unassigned])]

/-- The set that a general category's name stands for. -/
def categorySet? (name : String) : Option CharSet :=
  match name with
  | "any" => some .any
  | "assigned" => some (.compl (.category .unassigned))
  | "ascii" => some .ascii
  | _ => (namedCategories.find? (·.1.contains name)).map fun (_, ks) => .categories ks

/-- Capital letters, also those among numbers and symbols. -/
def uppercase : CharSet :=
  .union (.category .uppercaseLetter) <| .ranges [('\u2160', '\u216f'), ('\u24b6', '\u24cf'),
    (Char.ofNat 0x1F130, Char.ofNat 0x1F149), (Char.ofNat 0x1F150, Char.ofNat 0x1F169),
    (Char.ofNat 0x1F170, Char.ofNat 0x1F189)]

/-- The set that the name of a property stands for, or the name of a category that is no
property's. -/
def propertySet? (name : String) : Option CharSet :=
  match looseName name with
  | "alphabetic" | "alpha" => some .alphabetic
  | "whitespace" | "wspace" | "space" => some .blank
  | "uppercase" | "upper" => some uppercase
  | name => categorySet? name

/-- The set of the characters for which a property has a value. -/
def valueSet? (property value : String) : Option CharSet :=
  if ["generalcategory", "gc"].contains (looseName property) then categorySet? (looseName value)
  else none

/-- The class that a text in braces stands for: a name, or a property and its value with
`=`, `:` or `!=` between. -/
def bracedSet? (text : String) : Option CharSet :=
  match text.splitOn "!=" with
  | property :: value :: more =>
    (valueSet? property (String.intercalate "!=" (value :: more))).map .compl
  | _ =>
    let mark := if text.contains ':' then ":" else "="
    match text.splitOn mark with
    | property :: value :: more => valueSet? property (String.intercalate mark (value :: more))
    | _ => propertySet? text

/-- The classes of ASCII that a set in brackets can name. -/
def asciiSet? : String → Option CharSet
  | "alnum" => some (.ranges [('0', '9'), ('A', 'Z'), ('a', 'z')])
  | "alpha" => some (.ranges [('A', 'Z'), ('a', 'z')])
  | "ascii" => some .ascii
  | "blank" => some (.ranges [('\t', '\t'), (' ', ' ')])
  | "cntrl" => some (.ranges [('\x00', '\x1f'), ('\x7f', '\x7f')])
  | "digit" => some .asciiDigit
  | "graph" => some (.range '!' '~')
  | "lower" => some (.range 'a' 'z')
  | "print" => some (.range ' ' '~')
  | "punct" => some (.ranges [('!', '/'), (':', '@'), ('[', '\x60'), ('\x7b', '~')])
  | "space" => some .asciiBlank
  | "upper" => some (.range 'A' 'Z')
  | "word" => some .asciiWord
  | "xdigit" => some (.ranges [('0', '9'), ('A', 'F'), ('a', 'f')])
  | _ => none

end ChatGateway.Pattern
