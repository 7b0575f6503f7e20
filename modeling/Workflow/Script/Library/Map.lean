import Workflow.Script.Library.Effect

/-!
# Functions on maps and ranges

## Main definitions

* `Workflow.Script.mapFunction?`, `Workflow.Script.rangeFunction?` — functions by name.
* `Workflow.Script.documentText` — the text of a map in the notation of documents.
-/

namespace Workflow.Script

open Effect Datum

mutual

/-- The text of a datum in the notation of documents: of maps, and of what they are bound to. -/
def documentText : Datum → String
  | map fields => "\x7b" ++ ",".intercalate (documentFields fields) ++ "\x7d"
  | unit => "null"
  | d => quoted d

/-- The texts of fields in the notation of documents. -/
def documentFields : List (String × Datum) → List String
  | [] => []
  | (k, d) :: rest => (Text.quoted k ++ ":" ++ documentText d) :: documentFields rest

end

/-- Functions on a map. -/
def mapFunction? (fields : List (String × Datum)) (name : String) (args : List Datum) : Answer :=
  match name, args with
  | "len", [] => gives (.int (Int64.ofNat fields.length))
  | "is_empty", [] => gives (.bool fields.isEmpty)
  | "clear", [] => turns (.map [])
  | "keys", [] => gives (.array (fields.map fun e => .text e.1))
  | "values", [] => gives (.array (fields.map fun e => e.2))
  | "to_json", [] => gives (.text (documentText (.map fields)))
  | "contains", [text k] => gives (.bool (fields.any (·.1 == k)))
  | "get", [text k] => givesOr .unit (fields.lookup k)
  | "set", [text k, d] => turns (.map (insert fields k d))
  | "remove", [text k] =>
    match fields.lookup k with
    | some d => givesAndTurns d (.map (fields.filter (·.1 != k)))
    | none => gives .unit
  | "mixin", [map others] => turns (.map (merged fields others))
  | "fill_with", [map others] => turns (.map (merged others fields))
  | _, _ => none

/-- The functions that change a map. -/
def mapChanges : List String :=
  ["clear", "set", "remove", "mixin", "fill_with", "drain", "retain"]

/-- Functions on a range. -/
def rangeFunction? (first last : Int64) (inclusive : Bool) (name : String) (args : List Datum) :
    Answer :=
  match name, args with
  | "start", [] => gives (.int first)
  | "end", [] => gives (.int last)
  | "is_inclusive", [] => gives (.bool inclusive)
  | "is_exclusive", [] => gives (.bool !inclusive)
  | "is_empty", [] => gives (.bool (rangeLength first last inclusive = 0))
  | "contains", [int n] =>
    gives (.bool (first ≤ n && (if inclusive then n ≤ last else n < last)))
  | "range", [int step] =>
    if inclusive then none
    else match Stream.steps? first last step with
      | some s => gives (.stream s)
      | none =>
        some (.error (.inCall "range" (.plain (.arithmetic "step value cannot be zero") none) none))
  | _, _ => none

end Workflow.Script
