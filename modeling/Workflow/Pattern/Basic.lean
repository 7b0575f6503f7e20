import Workflow.Text.Property.Basic

/-!
# Patterns

Regular expressions over characters, with assertions on the place between two characters. A pattern
is matched by its partial derivatives: what is left to match after one character. Both the
derivative and the question whether a pattern accepts the empty text depend on the characters around
a place, through the assertions, so both are given the place. A counted repetition stays counted:
its derivative counts down.

## Main definitions

* `Workflow.Pattern` — the patterns.
* `Workflow.Pattern.acceptsEmpty`, `Workflow.Pattern.after` — the empty text and the derivatives.
* `Workflow.Pattern.occursIn` — a pattern matches somewhere in a text.
-/

namespace Workflow

/-- A condition on the place between two characters. Lines end in a line feed alone, or with
`returns` also in a carriage return, before a line feed or alone. Words are made of word characters
of any script, or with `ascii` of ASCII ones. -/
inductive Assertion where
  | textStart
  | textEnd
  | lineStart (returns : Bool)
  | lineEnd (returns : Bool)
  | wordBoundary (ascii : Bool)
  | noWordBoundary (ascii : Bool)
  | wordStart (ascii : Bool)
  | wordEnd (ascii : Bool)
  | noWordBefore (ascii : Bool)
  | noWordBehind (ascii : Bool)
deriving DecidableEq, Repr

/-- A pattern. -/
inductive Pattern where
  | empty
  | oneOf (set : Text.CharSet)
  | holds (a : Assertion)
  | seq (p q : Pattern)
  | alt (p q : Pattern)
  /-- At least `least` times and at most `most` times, or any number of times above. -/
  | times (p : Pattern) (least : Nat) (most : Option Nat)
  /-- A pattern whose match is remembered. -/
  | group (p : Pattern)
deriving DecidableEq, Repr

/-- A place in a text: the characters before and behind it. -/
structure Place where
  before : Option Char
  behind : Option Char

namespace Assertion

/-- The side of a place is inside a word. -/
def isWord (ascii : Bool) (c : Option Char) : Bool :=
  c.any fun c => if ascii then c.isAlphanum || c == '_' else Text.wordCharacters.mem c

/-- The condition is met at a place. -/
def met (place : Place) : Assertion → Bool
  | textStart => place.before.isNone
  | textEnd => place.behind.isNone
  | lineStart returns =>
    place.before.all (· == '\n') ||
      returns && place.before == some '\r' && place.behind != some '\n'
  | lineEnd returns =>
    place.behind.isNone || returns && place.behind == some '\r' ||
      place.behind == some '\n' && !(returns && place.before == some '\r')
  | wordBoundary a => isWord a place.before != isWord a place.behind
  | noWordBoundary a => isWord a place.before == isWord a place.behind
  | wordStart a => !isWord a place.before && isWord a place.behind
  | wordEnd a => isWord a place.before && !isWord a place.behind
  | noWordBefore a => !isWord a place.before
  | noWordBehind a => !isWord a place.behind

end Assertion

namespace Pattern

/-- One pattern behind another; the empty pattern leaves the other as it is. -/
def followedBy : Pattern → Pattern → Pattern
  | empty, q => q
  | p, q => seq p q

/-- A pattern a number of times, where no times at all leave the empty pattern. -/
def repeated (p : Pattern) (least : Nat) (most : Option Nat) : Pattern :=
  if most = some 0 then empty else times p least most

/-- The pattern accepts the empty text at a place. -/
def acceptsEmpty (place : Place) : Pattern → Bool
  | empty => true
  | oneOf _ => false
  | holds a => a.met place
  | seq p q => p.acceptsEmpty place && q.acceptsEmpty place
  | alt p q => p.acceptsEmpty place || q.acceptsEmpty place
  | times p least _ => least = 0 || p.acceptsEmpty place
  | group p => p.acceptsEmpty place

/-- What may be left of the pattern after it has taken the character behind a place. In a repetition
whose pattern accepts the empty text at the place, all times that are asked for may pass there. -/
def after (place : Place) (c : Char) : Pattern → List Pattern
  | empty => []
  | oneOf set => if set.mem c then [empty] else []
  | holds _ => []
  | seq p q =>
    (p.after place c).map (·.followedBy q) ++ if p.acceptsEmpty place then q.after place c else []
  | alt p q => p.after place c ++ q.after place c
  | times p least most =>
    if most = some 0 then []
    else
      let least := if p.acceptsEmpty place then 0 else least - 1
      (p.after place c).map (·.followedBy (p.repeated least (most.map (· - 1))))
  | group p => p.after place c

/-- Adds patterns to a list without repetition. -/
def addNew (known : List Pattern) (ps : List Pattern) : List Pattern :=
  ps.foldl (fun known p => if known.contains p then known else p :: known) known

/-- Some match of the pattern ends in the characters left, when `live` are the patterns left of the
matches that have begun before the place. -/
def search (p : Pattern) : List Pattern → Option Char → List Char → Bool
  | live, before, [] => (p :: live).any (acceptsEmpty ⟨before, none⟩)
  | live, before, c :: rest =>
    let place : Place := ⟨before, some c⟩
    let live := addNew live [p]
    live.any (acceptsEmpty place) ||
      search p (addNew [] (live.flatMap (after place c))) (some c) rest

/-- The pattern matches somewhere in a text. -/
def occursIn (p : Pattern) (s : String) : Bool := search p [] none s.toList

/-- One of several patterns. -/
def choice : List Pattern → Pattern
  | [] => empty
  | [p] => p
  | p :: rest => alt p (choice rest)

end Pattern

end Workflow
