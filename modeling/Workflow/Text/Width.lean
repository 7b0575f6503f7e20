import Workflow.Text.Property.Basic

/-!
# Widths on a screen

How many columns a text takes where every character takes one column, except that marks and other
characters without a form of their own take none and the wide ones of East Asia and the emoji take
two (version 17 of the character database).

What a character takes may depend on what stands behind it: a selector asks for its form as emoji or
as text, emoji are joined into one, and in several scripts some neighbours share one column. So a
text is measured from its end: `Workflow.Text.widthStep` measures one character before what has been
measured, and tells what the characters measured so far are for the next one.

## Main definitions

* `Workflow.Text.charWidth` — the columns of a character on its own.
* `Workflow.Text.Behind` — what stands behind a character.
* `Workflow.Text.width` — the columns of a text.
-/

namespace Workflow.Text

/-! ### Characters on their own -/

/-- The wide characters; marks among them take no column all the same. -/
def wide : CharSet :=
  .ofText
    ["1100-115F 231A-231B 2329-232A 23E9-23EC 23F0 23F3 25FD-25FE 2614-2615 2630-2637 2648-2653",
     "267F 268A-268F 2693 26A1 26AA-26AB 26BD-26BE 26C4-26C5 26CE 26D4 26EA 26F2-26F3 26F5 26FA",
     "26FD 2705 270A-270B 2728 274C 274E 2753-2755 2757 2795-2797 27B0 27BF 2B1B-2B1C 2B50 2B55",
     "2E80-2E99 2E9B-2EF3 2F00-2FD5 2FF0-303E 3041-3096 309B-30FF 3105-312F 3131-318E 3190-31E5",
     "31EF-321E 3220-3247 3250-A48C A490-A4C6 A960-A97C AC00-D7A3 F900-FAFF FE10-FE19 FE30-FE52",
     "FE54-FE66 FE68-FE6B FF01-FF60 FFE0-FFE6 16FE0-16FE3 16FF0-16FF6 17000-18CD5 18CFF-18D1E",
     "18D80-18DF2 1AFF0-1AFF3 1AFF5-1AFFB 1AFFD-1AFFE 1B000-1B122 1B132 1B150-1B152 1B155",
     "1B164-1B167 1B170-1B2FB 1D300-1D356 1D360-1D376 1F004 1F0CF 1F18E 1F191-1F19A 1F200-1F202",
     "1F210-1F23B 1F240-1F248 1F250-1F251 1F260-1F265 1F300-1F320 1F32D-1F335 1F337-1F37C",
     "1F37E-1F393 1F3A0-1F3CA 1F3CF-1F3D3 1F3E0-1F3F0 1F3F4 1F3F8-1F43E 1F440 1F442-1F4FC",
     "1F4FF-1F53D 1F54B-1F54E 1F550-1F567 1F57A 1F595-1F596 1F5A4 1F5FB-1F64F 1F680-1F6C5 1F6CC",
     "1F6D0-1F6D2 1F6D5-1F6D8 1F6DC-1F6DF 1F6EB-1F6EC 1F6F4-1F6FC 1F7E0-1F7EB 1F7F0 1F90C-1F93A",
     "1F93C-1F945 1F947-1F9FF 1FA70-1FA7C 1FA80-1FA8A 1FA8E-1FAC6 1FAC8 1FACD-1FADC 1FADF-1FAEA",
     "1FAEF-1FAF8 20000-2FFFD 30000-3FFFD"]

/-- The marks that are new in version 17. -/
def newMarks : CharSet :=
  .ofText ["1ACF-1ADD 1AE0-1AEB 10EFA-10EFB 11B60 11B62-11B64 11B66 1E6E3 1E6E6 1E6EE-1E6EF 1E6F5"]

/-- The vowels and final consonants of Hangul, which share the columns of the syllable that they
are part of. -/
def syllableParts : CharSet := .ofText ["1160-11FF D7B0-D7C6 D7CB-D7FB"]

/-- The marks that reach over or under the digits behind them. -/
def spanningMarks : CharSet := .ofText ["605 70F 890-891 8E2 A8FA"]

/-- The characters that take no column. -/
def hidden : CharSet :=
  (CharSet.unions [graphemeExtend, defaultIgnorable, newMarks, syllableParts, spanningMarks]).diff
    (.ofText ["115F 2D7F"])

/-- The columns of a character on its own: three for one sign of Khmer that stands for a phrase. -/
def charWidth (c : Char) : Nat :=
  if c.toNat ≤ 0xA0 then 1
  else if c = '\u17D8' then 3
  else if hidden.mem c then 0
  else if c = '\u17A4' || wide.mem c then 2
  else 1

/-! ### Emoji and ligatures -/

/-- The characters that are emoji without a selector. -/
def emojiByDefault : CharSet :=
  emojiPresentation.union (.ofText ["1F6D8 1FA8A 1FA8E 1FAC8 1FACD 1FAEA 1FAEF"])

/-- The characters whose form as emoji or as text a selector can ask for: the emoji that are text by
default, those among the first 65536 characters, and some of the others. -/
def selectable : CharSet :=
  .unions [emoji.diff emojiPresentation, emojiPresentation.inter (.range 0 0xFFFF),
    .ofText
      ["1F004 1F21A 1F22F 1F30D-1F30F 1F315 1F31C 1F378 1F393 1F3A7 1F3AC-1F3AE 1F3C2 1F3C4 1F3C6",
       "1F3CA 1F3E0 1F3ED 1F408 1F415 1F41F 1F426 1F442 1F446-1F449 1F44D-1F44E 1F453 1F46A 1F47D",
       "1F4A3 1F4B0 1F4B3 1F4BB 1F4BF 1F4CB 1F4DA 1F4DF 1F4E4-1F4E6 1F4EA-1F4ED 1F4F7 1F4F9-1F4FB",
       "1F508 1F50D 1F512-1F513 1F550-1F567 1F610 1F687 1F68D 1F691 1F694 1F698 1F6AD 1F6B2",
       "1F6B9-1F6BA 1F6BC"]]

/-- The characters that are emoji by default and become narrow as text; squared ideographs stay
wide. -/
def narrowAsText : CharSet :=
  (selectable.inter emojiPresentation).diff (.ofText ["1F200-1F2FF"])

/-- The marks without a form of their own, which ligatures reach across. -/
def ligatureTransparent : CharSet :=
  .ofText ["34F 17B4-17B5 180B-180D 180F FE00-FE0F E0100-E01EF"]

/-- The characters without a column across which Arabic letters join. -/
def arabicTransparent : CharSet :=
  (hidden.inter ((ofCategories [.nonspacingMark, .enclosingMark, .format]).union newMarks)).diff
    (.ofText ["600-605 6DD 890-891 8E2 180E 200C-200D 2066-2069 110BD 110CD"])

/-- The letters lam of Arabic. -/
def lams : CharSet := .ofText ["644 6B5-6B8 76A 8A6 8C7"]

/-- The letters alef of Arabic. -/
def alefs : CharSet := .ofText ["622-623 625 627 671-673 675 773-774 870-882"]

/-- The consonants of Tifinagh. -/
def tifinaghConsonants : CharSet := .ofText ["2D31-2D65 2D6F"]

/-- The letters of Khmer that go below the letter before them. -/
def khmerSubscripts : CharSet :=
  .ofText
    ["1780-1782 1784-1787 1789-178C 178E-1793 1795-1798 179B-179D 17A0 17A2 17A7 17AB-17AC 17AF"]

/-- What joins its neighbours. -/
def joiner : Char := '\u200D'

/-- The end of a possible ligature. -/
inductive LigatureEnd where
  | hebrewLamed
  | bugineseYa
  | bugineseVowelYa
  | tifinaghConsonant
  | tifinaghJoined
  | lisuTone
  | turkicI
  | khmerSubscript
  | kiratVowelE
  | kiratVowelAi
deriving DecidableEq, Repr

/-- What stands behind a character, as far as it matters for its columns. Behind a joiner there is
an emoji, or the rest of a sequence that makes one together with what is before it. -/
inductive Follower where
  | nothing
  | lineFeed
  | skinTone
  | region
  | regions
  | emoji
  | joined
  | joinedKeycap
  | joinedRegion
  | joinedEvenRegions
  | joinedOddRegions
  /-- The end of a flag of a subdivision, with a number of letters read. -/
  | joinedLetters (n : Nat)
  /-- The end of a flag of a subdivision, with a number of digits read. -/
  | joinedDigits (n : Nat)
  | alef
  /-- The end of a ligature, and whether a joiner stands before it. -/
  | ligature (l : LigatureEnd) (joined : Bool)
deriving DecidableEq, Repr

/-- A selector of the form of the character before it. -/
inductive Selector where
  | emoji
  | text
  | wide
deriving DecidableEq, Repr

/-- What stands behind a character: a selector, and what stands behind that. -/
structure Behind where
  follower : Follower
  selector : Option Selector

/-- Nothing of importance. -/
def Behind.nothing : Behind := ⟨.nothing, none⟩

/-- A follower that is still there when a character has no use for the selector before it. -/
def Follower.outlastsSelector : Follower → Bool
  | alef => true
  | ligature _ _ => true
  | _ => false

/-- Puts a selector in front. -/
def Behind.select (b : Behind) (s : Selector) : Behind :=
  let keeps := b.follower.outlastsSelector ||
    (s = .emoji && (b.follower = .joined || b.follower = .joinedKeycap))
  ⟨if keeps then b.follower else .nothing, some s⟩

/-- The follower that a character is for the one before it, and its columns, when nothing behind it
matters. -/
def alone (c : Char) : Int × Follower :=
  let columns : Int := charWidth c
  if 0x1F3FB ≤ c.toNat && c.toNat ≤ 0x1F3FF then (2, .skinTone)
  else if 0x1F1E6 ≤ c.toNat && c.toNat ≤ 0x1F1FF then (1, .region)
  else if emojiByDefault.mem c then (2, .emoji)
  else if alefs.mem c then (1, .alef)
  else if tifinaghConsonants.mem c then (1, .ligature .tifinaghConsonant false)
  else if khmerSubscripts.mem c then (1, .ligature .khmerSubscript false)
  else
    match c with
    | '\u05DC' => (1, .ligature .hebrewLamed false)
    | '\u1A10' => (1, .ligature .bugineseYa false)
    | '\uA4FC' => (1, .ligature .lisuTone false)
    | '\uA4FD' => (1, .ligature .lisuTone false)
    | c =>
      match c.toNat with
      | 0x10C03 => (1, .ligature .turkicI false)
      | 0x16D67 => (1, .ligature .kiratVowelE false)
      | 0x16D68 => (1, .ligature .kiratVowelAi false)
      | _ => (columns, .nothing)

/-- A character that makes one sequence with what is behind it: its columns, which may take back
columns of those behind, and what both are for the character before. -/
def together? (c : Char) (f : Follower) : Option (Int × Follower) :=
  let n := c.toNat
  let isRegion := 0x1F1E6 ≤ n && n ≤ 0x1F1FF
  let isSkinTone := 0x1F3FB ≤ n && n ≤ 0x1F3FF
  let isLetterTag := 0xE0061 ≤ n && n ≤ 0xE007A
  let isDigitTag := 0xE0030 ≤ n && n ≤ 0xE0039
  let isFlag := n = 0x1F3F4
  match f with
  | .alef =>
    if lams.mem c then some (0, .nothing)
    else if arabicTransparent.mem c then some (0, .alef)
    else none
  | .ligature .hebrewLamed true => if n = 0x5D0 then some (0, .nothing) else none
  | .ligature .khmerSubscript _ => if n = 0x17D2 then some (-1, .nothing) else none
  | .ligature .bugineseYa true =>
    if n = 0x1A17 then some (0, .ligature .bugineseVowelYa true) else none
  | .ligature .bugineseVowelYa _ => if n = 0x1A15 then some (0, .nothing) else none
  | .ligature .tifinaghConsonant joined =>
    if n = 0x2D7F then some (1, .ligature .tifinaghJoined true)
    else if joined && tifinaghConsonants.mem c then some (0, .nothing)
    else none
  | .ligature .tifinaghJoined _ => if tifinaghConsonants.mem c then some (-1, .nothing) else none
  | .ligature .lisuTone _ => if 0xA4F8 ≤ n && n ≤ 0xA4FB then some (0, .nothing) else none
  | .ligature .turkicI true => if n = 0x10C32 then some (0, .nothing) else none
  | .ligature .kiratVowelE _ =>
    if n = 0x16D63 || n = 0x16D69 then some (0, .nothing)
    else if n = 0x16D67 then some (0, .ligature .kiratVowelAi false)
    else if n = 0x16D68 then some (1, .ligature .kiratVowelE false)
    else none
  | .ligature .kiratVowelAi _ => if n = 0x16D63 then some (0, .nothing) else none
  | .skinTone =>
    if emojiModifierBase.mem c then some (0, .emoji)
    else if c = joiner then some (0, .joined)
    else none
  | .region => if isRegion then some (1, .regions) else none
  | .regions =>
    if isRegion then some (1, .regions) else if c = joiner then some (0, .joined) else none
  | .emoji => if c = joiner then some (0, .joined) else none
  | .joined =>
    if n = 0x20E3 then some (0, .joinedKeycap)
    else if isRegion then some (1, .joinedRegion)
    else if isSkinTone then some (0, .skinTone)
    else if n = 0xE007F then some (0, .joinedLetters 0)
    else if emojiByDefault.mem c then some (0, .emoji)
    else none
  | .joinedRegion => if isRegion then some (-1, .joinedEvenRegions) else none
  | .joinedEvenRegions =>
    if isRegion then some (3, .joinedOddRegions)
    else if c = joiner then some (0, .joined)
    else none
  | .joinedOddRegions =>
    if isRegion then some (-1, .joinedEvenRegions)
    else if c = joiner then some (0, .joined)
    else none
  | .joinedLetters k =>
    if isLetterTag && k < 6 then some (0, .joinedLetters (k + 1))
    else if isDigitTag && k < 5 then some (0, .joinedDigits 1)
    else if isFlag && 3 ≤ k then some (0, .emoji)
    else none
  | .joinedDigits k =>
    if isDigitTag && k < 3 then some (0, .joinedDigits (k + 1))
    else if isFlag && k = 3 then some (0, .emoji)
    else none
  | _ => none

/-- The columns of a character before what is behind it, when no selector is right before it, and
what both are for the character before them. -/
def unselected (c : Char) (f : Follower) : Int × Behind :=
  let plain (r : Int × Follower) : Int × Behind := (r.1, ⟨r.2, none⟩)
  if c.toNat ≤ 0xA0 then
    if c = '\n' then (1, ⟨.lineFeed, none⟩)
    else if c = '\r' ∧ f = .lineFeed then (0, .nothing)
    else (1, .nothing)
  else if c = '\uFE0F' then (0, (⟨f, none⟩ : Behind).select .emoji)
  else if c = '\uFE0E' then (0, (⟨f, none⟩ : Behind).select .text)
  else if c = '\uFE01' then (0, (⟨f, none⟩ : Behind).select .wide)
  else
    match f with
    | .ligature l joined =>
      if c = joiner then (0, ⟨.ligature l true, none⟩)
      else if ligatureTransparent.mem c then (0, ⟨.ligature l joined, none⟩)
      else plain ((together? c f).getD (alone c))
    | _ => plain ((together? c f).getD (alone c))

/-- The follower behind a selector that a character has no use for. -/
def Behind.unselect (b : Behind) : Follower :=
  if b.follower.outlastsSelector then b.follower else .nothing

/-- The columns of a character before what is behind it, and what both are for the character before
them. A quotation mark before its selector is wide. -/
def widthStep (c : Char) (b : Behind) : Int × Behind :=
  match b.selector with
  | none => unselected c b.follower
  | some .emoji =>
    if selectable.mem c then
      (if b.follower = .joined ∨ b.follower = .joinedKeycap then 0 else 2, ⟨.emoji, none⟩)
    else unselected c b.unselect
  | some .text =>
    if narrowAsText.mem c then (1, .nothing) else unselected c b.unselect
  | some .wide =>
    if c = '\u2018' ∨ c = '\u2019' ∨ c = '\u201C' ∨ c = '\u201D' then (2, .nothing)
    else unselected c b.unselect

/-- The columns of characters, and what they are for a character before them. -/
def widthBefore : List Char → Int × Behind
  | [] => (0, .nothing)
  | c :: rest =>
    let (columns, behind) := widthBefore rest
    let (more, behind) := widthStep c behind
    (columns + more, behind)

/-- The columns of a text. -/
def width (s : String) : Nat := (widthBefore s.toList).1.toNat

end Workflow.Text
