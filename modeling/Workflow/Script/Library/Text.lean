import Workflow.Script.Library.Number

/-!
# Functions on texts

Functions on texts and on characters. Lengths and places count characters.

## Main definitions

* `Workflow.Script.textFunction?`, `Workflow.Script.charFunction?` — functions by name.
* `Workflow.Script.sliceOf`, `Workflow.Script.withSlice` — a part of a text by a range.
-/

namespace Workflow.Script

open Effect Datum

/-- A text of characters. -/
def ofChars (cs : List Char) : Datum := .text (String.ofList cs)

/-- The place of characters within others, from a place on. -/
def indexIn (pattern : List Char) : Nat → List Char → Int64
  | n, [] => if pattern = [] then Int64.ofNat n else -1
  | n, c :: cs => if pattern.isPrefixOf (c :: cs) then Int64.ofNat n else indexIn pattern (n + 1) cs

/-- The characters of a text or of a character. -/
def charsOf? : Datum → Option (List Char)
  | text s => some s.toList
  | char c => some [c]
  | _ => none

/-- The words of a text between white space. -/
def wordsOf (cs : List Char) : List Datum :=
  ((cs.splitBy fun a b => Text.isBlank a == Text.isBlank b).filter fun w => !w.all Text.isBlank).map
    ofChars

/-- The pieces of a text, no more than a number; the last one holds all that is left. -/
def limitedPieces (s separator : String) (limit : Nat) : List String :=
  let all := Text.pieces s separator
  let first := all.take (limit - 1)
  let rest := all.drop (limit - 1)
  if rest = [] then first else first ++ [separator.intercalate rest]

/-- A text backwards. -/
def backwards (s : String) : String := String.ofList s.toList.reverse

/-- The pieces of a text found from its end on, the last one first. -/
def piecesBackwards (s separator : String) : List String :=
  (Text.pieces (backwards s) (backwards separator)).map backwards

/-- The pieces of a text found from its end on, no more than a number. -/
def limitedBackwards (s separator : String) (limit : Nat) : List String :=
  (limitedPieces (backwards s) (backwards separator) limit).map backwards

/-- A list of texts. -/
def ofTexts (texts : List String) : Datum := .array (texts.map .text)

/-- A text filled up to a length by characters over and over. -/
def filledUp (cs pattern : List Char) (length : Nat) : List Char :=
  if pattern = [] then cs
  else
    let missing := length - cs.length
    let times := (missing + pattern.length - 1) / pattern.length
    cs ++ (List.replicate times pattern).flatten.take missing

/-- The place of a pattern in a text from a place on. -/
def placeFrom (cs pattern : List Char) (start : Int64) : Int64 :=
  if cs = [] ∨ (cs.length : Int) ≤ start.toInt ∧ 0 < start then -1
  else
    let i := cutPlace cs.length start
    indexIn pattern i (cs.drop i)

/-- The characters of a text within a range. -/
def sliceOf (cs : List Char) (first last : Int64) (inclusive : Bool) : List Char :=
  let (start, length) := spanOf cs.length first last inclusive
  cutOut cs start length

/-- A text with the characters within a range replaced. -/
def withSlice (cs : List Char) (first last : Int64) (inclusive : Bool) (others : List Char) :
    List Char :=
  let (start, length) := spanOf cs.length first last inclusive
  spliced cs start length others

/-- A character in capitals, if that is one character. -/
def capital (c : Char) : Char :=
  match Text.upperChars c with
  | [d] => d
  | _ => c

/-- A character in small letters, if that is one character. -/
def small (c : Char) : Char :=
  match (Text.lower (String.singleton c)).toList with
  | [d] => d
  | _ => c

/-- Functions on a text without further arguments. -/
def textPlain? (s : String) (name : String) : Answer :=
  let cs := s.toList
  match name with
  | "len" => gives (.int (Int64.ofNat cs.length))
  | "bytes" => gives (.int (Int64.ofNat s.utf8ByteSize))
  | "is_empty" => gives (.bool (cs = []))
  | "trim" => turns (ofChars (Text.trimList cs))
  | "to_upper" => gives (.text (Text.upper s))
  | "to_lower" => gives (.text (Text.lower s))
  | "make_upper" => turns (.text (Text.upper s))
  | "make_lower" => turns (.text (Text.lower s))
  | "clear" => turns (.text "")
  | "chars" => gives (.stream (.characters cs))
  | "to_chars" => gives (.array (cs.map .char))
  | "to_blob" => gives (.blob s.toUTF8.toList)
  | "split" => gives (.array (wordsOf cs))
  | "pop" =>
    match cs.getLast? with
    | some c => givesAndTurns (.char c) (ofChars cs.dropLast)
    | none => gives .unit
  | "parse_int" => parsedInt s 10
  | "parse_float" => parsedFloat s
  | _ => none

/-- Functions on a text with another text. -/
def textText? (s : String) (name : String) (other : String) : Answer :=
  match name with
  | "starts_with" => gives (.bool (Text.startsWith s other))
  | "ends_with" => gives (.bool (Text.endsWith s other))
  | "max" => gives (.text (if s < other then other else s))
  | "min" => gives (.text (if other < s then other else s))
  | _ => none

/-- Functions on a text with another text or a character. -/
def textPattern? (s : String) (name : String) (pattern : List Char) : Answer :=
  let cs := s.toList
  let other := String.ofList pattern
  match name with
  | "contains" => gives (.bool (Text.occursIn pattern cs))
  | "index_of" => gives (.int (placeFrom cs pattern 0))
  | "split" => gives (ofTexts (Text.pieces s other))
  | "split_rev" => gives (ofTexts (piecesBackwards s other))
  | "remove" => turns (.text (if pattern = [] then s else Text.substitute s other ""))
  | _ => none

/-- Functions on a text with a whole number. -/
def textInt? (s : String) (name : String) (n : Int64) : Answer :=
  let cs := s.toList
  let start := cutPlace cs.length n
  match name with
  | "sub_string" => gives (ofChars (cs.drop start))
  | "chars" => gives (.stream (.characters (cs.drop start)))
  | "crop" => turns (ofChars (cs.drop start))
  | "truncate" => turns (ofChars (cs.take (lengthOf n)))
  | "get" => givesOr .unit ((place? cs.length n).bind fun i => cs[i]?.map .char)
  | "split" => gives (.array [ofChars (cs.take start), ofChars (cs.drop start)])
  | "pop" =>
    let kept := cs.length - lengthOf n
    givesAndTurns (ofChars (cs.drop kept)) (ofChars (cs.take kept))
  | "parse_int" => parsedInt s n
  | _ => none

/-- Functions on a text with other arguments. -/
def textMany? (s : String) (name : String) (args : List Datum) : Answer :=
  let cs := s.toList
  match name, args with
  | "chars", [int n, int m] =>
    gives (.stream (.characters (cutOut cs (cutPlace cs.length n) (lengthOf m))))
  | "chars", [range a b i] => gives (.stream (.characters (sliceOf cs a b i)))
  | "sub_string", [int n, int m] => gives (ofChars (cutOut cs (cutPlace cs.length n) (lengthOf m)))
  | "sub_string", [range a b i] => gives (ofChars (sliceOf cs a b i))
  | "crop", [int n, int m] => turns (ofChars (cutOut cs (cutPlace cs.length n) (lengthOf m)))
  | "crop", [range a b i] => turns (ofChars (sliceOf cs a b i))
  | "index_of", [d, int n] =>
    (charsOf? d).bind fun pattern => gives (.int (placeFrom cs pattern n))
  | "set", [int n, char c] =>
    match place? cs.length n with
    | some i => turns (ofChars (cs.set i c))
    | none => gives .unit
  | "replace", [d, e] =>
    match charsOf? d, charsOf? e with
    | some pattern, some by_ =>
      turns (.text (Text.substitute s (String.ofList pattern) (String.ofList by_)))
    | _, _ => none
  | "split", [d, int n] =>
    (charsOf? d).bind fun pattern =>
      gives (ofTexts (limitedPieces s (String.ofList pattern) (max 1 (lengthOf n))))
  | "split_rev", [d, int n] =>
    (charsOf? d).bind fun pattern =>
      gives (ofTexts (limitedBackwards s (String.ofList pattern) (max 1 (lengthOf n))))
  | "pad", [int n, d] =>
    (charsOf? d).bind fun pattern => turns (ofChars (filledUp cs pattern (lengthOf n)))
  | "append", [d] => (into? .add (.text s) d).bind turns
  | _, _ => none

/-- Functions on a text. -/
def textFunction? (s : String) (name : String) (args : List Datum) : Answer :=
  match args with
  | [] => textPlain? s name
  | [int n] => (textInt? s name n).or (textMany? s name args)
  | [text t] =>
    ((textText? s name t).or (textPattern? s name t.toList)).or (textMany? s name args)
  | [char c] => (textPattern? s name [c]).or (textMany? s name args)
  | args => textMany? s name args

/-- The functions that change a text. -/
def textChanges : List String :=
  ["trim", "make_upper", "make_lower", "clear", "pop", "remove", "crop", "truncate", "set",
   "replace", "pad", "append"]

/-- Functions on a character. -/
def charFunction? (c : Char) (name : String) (args : List Datum) : Answer :=
  match name, args with
  | "to_upper", [] => gives (.char (capital c))
  | "to_lower", [] => gives (.char (small c))
  | "make_upper", [] => turns (.char (capital c))
  | "make_lower", [] => turns (.char (small c))
  | "to_int", [] => gives (.int (Int64.ofNat c.toNat))
  | "max", [char d] => gives (.char (if c < d then d else c))
  | "min", [char d] => gives (.char (if d < c then d else c))
  | _, _ => none

/-- The functions that change a character. -/
def charChanges : List String := ["make_upper", "make_lower"]

end Workflow.Script
