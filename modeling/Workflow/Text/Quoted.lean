import Workflow.Text.Property.Basic

/-!
# Quoted texts

A text between double quotes in one line: quotes and backslashes have a backslash before them, line
ends, tabs and the null character have short forms, and what shows nothing of its own is written by
its number.
-/

namespace Workflow.Text

/-- The character shows something of its own, or is the space. -/
def isVisible (c : Char) : Bool :=
  c = ' ' ||
    match category c with
    | .control => false
    | .format => false
    | .unassigned => false
    | .privateUse => false
    | .surrogate => false
    | .lineSeparator => false
    | .paragraphSeparator => false
    | .spaceSeparator => false
    | _ => true

/-- A character as it is written within quotes. -/
def quotedChar (c : Char) : List Char :=
  if c = '"' then ['\\', '"']
  else if c = '\\' then ['\\', '\\']
  else if c = '\n' then ['\\', 'n']
  else if c = '\r' then ['\\', 'r']
  else if c = '\t' then ['\\', 't']
  else if c = '\x00' then ['\\', '0']
  else if c.toNat < 128 && isVisible c then [c]
  else if graphemeExtend.mem c || !isVisible c then
    ['\\', 'u', '\x7b'] ++ Nat.toDigits 16 c.toNat ++ ['\x7d']
  else [c]

/-- A text between quotes. -/
def quoted (s : String) : String :=
  String.ofList ('"' :: s.toList.flatMap quotedChar ++ ['"'])

end Workflow.Text
