/-!
# White space

The characters with the property *White_Space*, and trimming by it. The property has twenty-five
code points, in ten closed ranges; it contains every character that `Char.isWhitespace` accepts.

## Main definitions

* `Workflow.Text.isBlank` — the property.
* `Workflow.Text.trim` — a text without the blank characters at its two ends.
-/

namespace Workflow.Text

/-- The ranges of the property *White_Space*, ascending and apart. -/
def blankRanges : List (Nat × Nat) :=
  [(0x09, 0x0D), (0x20, 0x20), (0x85, 0x85), (0xA0, 0xA0), (0x1680, 0x1680), (0x2000, 0x200A),
   (0x2028, 0x2029), (0x202F, 0x202F), (0x205F, 0x205F), (0x3000, 0x3000)]

/-- A code point lies in one of the ranges. -/
def inRanges (ranges : List (Nat × Nat)) (n : Nat) : Bool :=
  ranges.any fun r => r.1 ≤ n && n ≤ r.2

/-- The character is white space. -/
def isBlank (c : Char) : Bool := inRanges blankRanges c.toNat

/-- Every character that core calls white space is blank. -/
theorem isBlank_of_isWhitespace (c : Char) (h : c.isWhitespace = true) : isBlank c = true := by
  simp [Char.isWhitespace] at h
  rcases h with ((h | h) | h) | h <;> subst h <;> decide

/-- The characters without the blank ones at the front. -/
def trimFront (cs : List Char) : List Char := cs.dropWhile isBlank

/-- The characters without the blank ones at the back. -/
def trimBack (cs : List Char) : List Char := (cs.reverse.dropWhile isBlank).reverse

/-- The characters without the blank ones at either end. -/
def trimList (cs : List Char) : List Char := trimBack (trimFront cs)

/-- A text without the blank characters at either end. -/
def trim (s : String) : String := String.ofList (trimList s.toList)

/-- A text of blank characters only. -/
def allBlank (s : String) : Bool := s.toList.all isBlank

end Workflow.Text
