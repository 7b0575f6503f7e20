import Workflow.Text.Age
import Workflow.Text.Search
import Workflow.Text.Segment

/-!
# Names of character sets

The sets that a pattern can name: the ASCII classes between colons, and in a property escape the
general categories, scripts, ages, properties, and roles in characters, words and sentences. Case,
blanks, hyphens and underscores do not count in the name of a property.

## Main definitions

* `Workflow.Pattern.asciiClass?` — the class of a name between colons.
* `Workflow.Pattern.named?` — the set of a name in a property escape.
-/

namespace Workflow.Pattern

open Text (CharSet Category)

/-- The ASCII sets that are written between colons. -/
def asciiClass? : String → Option CharSet
  | "alnum" => some (.ofText ["30-39 41-5A 61-7A"])
  | "alpha" => some (.ofText ["41-5A 61-7A"])
  | "ascii" => some (.ofText ["0-7F"])
  | "blank" => some (.ofText ["9 20"])
  | "cntrl" => some (.ofText ["0-1F 7F"])
  | "digit" => some (.ofText ["30-39"])
  | "graph" => some (.ofText ["21-7E"])
  | "lower" => some (.ofText ["61-7A"])
  | "print" => some (.ofText ["20-7E"])
  | "punct" => some (.ofText ["21-2F 3A-40 5B-60 7B-7E"])
  | "space" => some (.ofText ["9-D 20"])
  | "upper" => some (.ofText ["41-5A"])
  | "word" => some (.ofText ["30-39 41-5A 5F 61-7A"])
  | "xdigit" => some (.ofText ["30-39 41-46 61-66"])
  | _ => none

/-- The long names of the general categories, and the beginnings of their abbreviations. -/
def categoryNames : List (String × String) :=
  [("letter", "L"), ("uppercaseletter", "Lu"), ("lowercaseletter", "Ll"),
   ("titlecaseletter", "Lt"), ("modifierletter", "Lm"), ("otherletter", "Lo"), ("mark", "M"),
   ("combiningmark", "M"), ("nonspacingmark", "Mn"), ("spacingmark", "Mc"),
   ("enclosingmark", "Me"), ("number", "N"), ("decimalnumber", "Nd"), ("digit", "Nd"),
   ("letternumber", "Nl"), ("othernumber", "No"), ("punctuation", "P"), ("punct", "P"),
   ("connectorpunctuation", "Pc"), ("dashpunctuation", "Pd"), ("openpunctuation", "Ps"),
   ("closepunctuation", "Pe"), ("initialpunctuation", "Pi"), ("finalpunctuation", "Pf"),
   ("otherpunctuation", "Po"), ("symbol", "S"), ("mathsymbol", "Sm"), ("currencysymbol", "Sc"),
   ("modifiersymbol", "Sk"), ("othersymbol", "So"), ("separator", "Z"), ("spaceseparator", "Zs"),
   ("lineseparator", "Zl"), ("paragraphseparator", "Zp"), ("other", "C"), ("control", "Cc"),
   ("cntrl", "Cc"), ("format", "Cf"), ("privateuse", "Co"), ("unassigned", "Cn")]

/-- A name in lower case and without the characters that do not count. A leading `is` does not count
either, but the name `isc` is kept. -/
def plainName (s : String) : String :=
  let (marked, cs) := match s.toList with
    | i :: s :: rest =>
      if i.toLower = 'i' ∧ s.toLower = 's' then (true, rest) else (false, i :: s :: rest)
    | cs => (false, cs)
  let plain := cs.filter fun c => c != ' ' && c != '-' && c != '_' && c.toNat < 0x80
  let name := String.ofList (plain.map Char.toLower)
  if marked && name = "c" then "isc" else name

/-- The characters whose category has an abbreviation that begins in some way. -/
def categoriesFrom (start : String) : CharSet :=
  Text.ofCategories (Category.all.filter fun c => Text.startsWith c.abbreviation start)

/-- The set of a general category or of a group of categories, by an abbreviation or a long name.
There is none for the surrogates, which are no characters. -/
def generalCategory? (name : String) : Option CharSet :=
  if name = "any" then some .any
  else if name = "assigned" then some (Text.ofCategories [.unassigned]).complement
  else if name = "ascii" then some (.range 0 0x7F)
  else if name = "lc" ∨ name = "casedletter" then
    some (Text.ofCategories [.uppercaseLetter, .lowercaseLetter, .titlecaseLetter])
  else
    (categoryNames.find? fun entry => entry.1 = name || plainName entry.2 = name).map fun entry =>
      categoriesFrom entry.2

/-- The set of a script. -/
def script? (name : String) : Option CharSet := (Text.Script.ofName? name).map Text.Script.set

/-- The set of a single name: a property, a category or a script. Of the names that stand for a
category and for something else, three mean the category. -/
def single? (name : String) : Option CharSet :=
  let property :=
    if name = "cf" ∨ name = "sc" ∨ name = "lc" then none else Text.Property.ofName? name
  (property.map Text.Property.set).or ((generalCategory? name).or (script? name))

/-- The set of a version, with or without its point. -/
def age? (name : String) : Option CharSet :=
  let version := Text.newInVersion.find? fun v =>
    v.1 = name || "v" ++ String.ofList (v.1.toList.filter (· != '.')) = name
  version.bind fun v => Text.assignedIn v.1

/-- The set of a kind of property and one of its values. -/
def valued? (kind value : String) : Option CharSet :=
  match kind with
  | "gc" | "generalcategory" => generalCategory? value
  | "sc" | "script" => script? value
  | "scx" | "scriptextensions" => (Text.Script.ofName? value).map Text.Script.extended
  | "age" => age? value
  | "gcb" | "graphemeclusterbreak" => Text.graphemeRole? value
  | "wb" | "wordbreak" => Text.wordRole? value
  | "sb" | "sentencebreak" => Text.sentenceRole? value
  | _ => none

/-- The set of a name in a property escape, and whether its complement is meant: a kind and a value
are parted by `!=`, which asks for the complement, or by a colon or an equals sign. -/
def named? (text : String) : Option (Bool × CharSet) :=
  let parted (separator : String) : Option (String × String) :=
    match Text.pieces text separator with
    | kind :: value :: rest =>
      some (plainName kind, plainName (separator.intercalate (value :: rest)))
    | _ => none
  match parted "!=" with
  | some (kind, value) => (valued? kind value).map fun s => (true, s)
  | none =>
    match (parted ":").or (parted "=") with
    | some (kind, value) => (valued? kind value).map fun s => (false, s)
    | none => (single? (plainName text)).map fun s => (false, s)

end Workflow.Pattern
