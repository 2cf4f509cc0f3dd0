import DocQuery.Text.Age
import DocQuery.Text.Property.Break
import DocQuery.Text.Property.Table

/-!
# Named Sets

Patterns name sets of characters in two ways.  Bracket expressions know the classes of ASCII,
such as `[:alpha:]`.  Everywhere else a name stands for a property of the Unicode character
database, or `kind=value` for one value of a property with several: a general category, a
script, the extensions of a script, an age, or a class for breaks.

Property names are looked up regardless of case, spaces, hyphens and low lines.

## Main definitions

- `posix?`: the sets of bracket expressions
- `property?`: the sets of the character database
-/

namespace DocQuery

open DocQuery.Text

namespace NamedSet

/-! ## Classes of ASCII -/

/-- Digits of ASCII. -/
def asciiDigit : CodePointSet := .interval 48 58

/-- Capital letters of ASCII. -/
def asciiUpper : CodePointSet := .interval 65 91

/-- Small letters of ASCII. -/
def asciiLower : CodePointSet := .interval 97 123

/-- Letters of ASCII. -/
def asciiAlpha : CodePointSet := asciiUpper.union asciiLower

/-- Letters and digits of ASCII. -/
def asciiAlnum : CodePointSet := asciiAlpha.union asciiDigit

/-- Letters, digits and the low line. -/
def asciiWord : CodePointSet := asciiAlnum.union (.single '_')

/-- White space of ASCII. -/
def asciiSpace : CodePointSet := (CodePointSet.single ' ').union (.interval 9 14)

/-- The set that a bracket expression names `name`. -/
def posix? (name : String) : Option CodePointSet :=
  match name with
  | "alnum" => some asciiAlnum
  | "alpha" => some asciiAlpha
  | "ascii" => some (.interval 0 128)
  | "blank" => some ((CodePointSet.single '\t').union (.single ' '))
  | "cntrl" => some ((CodePointSet.interval 0 32).union (.single '\x7f'))
  | "digit" => some asciiDigit
  | "graph" => some (.interval 33 127)
  | "lower" => some asciiLower
  | "print" => some (.interval 32 127)
  | "punct" => some ((CodePointSet.interval 33 127).diff asciiAlnum)
  | "space" => some asciiSpace
  | "upper" => some asciiUpper
  | "word" => some asciiWord
  | "xdigit" => some Property.asciiHexDigit
  | _ => none

/-! ## Names of properties -/

/-- The letters of a name that count: those of ASCII, made small, without spaces, hyphens and
low lines. -/
def lettersOf (name : List Char) : List Char :=
  (name.filter fun c => c != ' ' && c != '-' && c != '_' && c.toNat < 128).map Char.toLower

/-- The form in which names are compared.  A leading `is` does not count, unless only a `c` is
left. -/
def plainName (name : List Char) : String :=
  match name with
  | i :: s :: rest =>
    if i.toLower = 'i' ∧ s.toLower = 's' then
      let letters := lettersOf rest
      String.ofList (if letters = ['c'] then ['i', 's', 'c'] else letters)
    else String.ofList (lettersOf name)
  | _ => String.ofList (lettersOf name)

/-- The general categories and their groups. -/
def category? (name : String) : Option CodePointSet :=
  match name with
  | "any" => some .all
  | "ascii" => some (.interval 0 128)
  | "assigned" => some (ofCategories (· != .cn))
  | "l" | "letter" => some (ofCategories Category.isLetter)
  | "lc" | "casedletter" => some (ofCategories ([.lu, .ll, .lt].contains ·))
  | "lu" | "uppercaseletter" => some (ofCategory .lu)
  | "ll" | "lowercaseletter" => some (ofCategory .ll)
  | "lt" | "titlecaseletter" => some (ofCategory .lt)
  | "lm" | "modifierletter" => some (ofCategory .lm)
  | "lo" | "otherletter" => some (ofCategory .lo)
  | "m" | "mark" | "combiningmark" => some (ofCategories Category.isMark)
  | "mn" | "nonspacingmark" => some (ofCategory .mn)
  | "mc" | "spacingmark" => some (ofCategory .mc)
  | "me" | "enclosingmark" => some (ofCategory .me)
  | "n" | "number" => some (ofCategories Category.isNumber)
  | "nd" | "decimalnumber" | "digit" => some (ofCategory .nd)
  | "nl" | "letternumber" => some (ofCategory .nl)
  | "no" | "othernumber" => some (ofCategory .no)
  | "p" | "punctuation" | "punct" => some (ofCategories Category.isPunctuation)
  | "pc" | "connectorpunctuation" => some (ofCategory .pc)
  | "pd" | "dashpunctuation" => some (ofCategory .pd)
  | "ps" | "openpunctuation" => some (ofCategory .ps)
  | "pe" | "closepunctuation" => some (ofCategory .pe)
  | "pi" | "initialpunctuation" => some (ofCategory .pi)
  | "pf" | "finalpunctuation" => some (ofCategory .pf)
  | "po" | "otherpunctuation" => some (ofCategory .po)
  | "s" | "symbol" => some (ofCategories Category.isSymbol)
  | "sm" | "mathsymbol" => some (ofCategory .sm)
  | "sc" | "currencysymbol" => some (ofCategory .sc)
  | "sk" | "modifiersymbol" => some (ofCategory .sk)
  | "so" | "othersymbol" => some (ofCategory .so)
  | "z" | "separator" => some (ofCategories Category.isSeparator)
  | "zs" | "spaceseparator" => some (ofCategory .zs)
  | "zl" | "lineseparator" => some (ofCategory .zl)
  | "zp" | "paragraphseparator" => some (ofCategory .zp)
  | "c" | "other" => some (ofCategories Category.isOther)
  | "cc" | "control" | "cntrl" => some (ofCategory .cc)
  | "cf" | "format" => some (ofCategory .cf)
  | "co" | "privateuse" => some (ofCategory .co)
  | "cn" | "unassigned" => some (ofCategory .cn)
  | _ => none

/-- The characters of a script. -/
def script? (name : String) : Option CodePointSet :=
  (Script.named? name).map Script.characters

/-- The characters that are used with a script. -/
def extensions? (name : String) : Option CodePointSet :=
  (Script.named? name).map Script.extensions

/-- How editions are named: with a point, or with a `v` and without a point. -/
def editionNames (edition : Nat) : List String :=
  [s!"{edition / 10}.{edition % 10}", s!"v{edition}"]

/-- The characters that an edition lists. -/
def age? (name : String) : Option CodePointSet :=
  (editions.find? fun e => (editionNames e).contains name).map listedBy

/-- The class with the given name. -/
def classOf? (classes : List (List String × CodePointSet)) (name : String) :
    Option CodePointSet :=
  (classes.find? (·.1.contains name)).map Prod.snd

/-- One value of a property with several. -/
def valueOf? (kind value : String) : Option CodePointSet :=
  match kind with
  | "generalcategory" | "gc" => category? value
  | "script" | "sc" => script? value
  | "scriptextensions" | "scx" => extensions? value
  | "age" => age? value
  | "graphemeclusterbreak" | "gcb" => classOf? Property.clusterClasses value
  | "wordbreak" | "wb" => classOf? Property.wordClasses value
  | "sentencebreak" | "sb" => classOf? Property.sentenceClasses value
  | _ => none

/-- The set with the given name: a property, a category or a script; or, for a name of the
form `kind=value`, one value of the property `kind`. -/
def property? (name : List Char) : Option CodePointSet :=
  let isPlain (c : Char) : Bool := c != '!' && c != ':' && c != '='
  let kind := plainName (name.takeWhile isPlain)
  match name.dropWhile isPlain with
  | '!' :: '=' :: value => (valueOf? kind (plainName value)).map CodePointSet.compl
  | ':' :: value | '=' :: value => valueOf? kind (plainName value)
  | _ =>
    let plain := plainName name
    (Property.named? plain).or ((category? plain).or (script? plain))

end NamedSet

end DocQuery
