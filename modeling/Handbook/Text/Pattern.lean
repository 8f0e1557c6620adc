import Handbook.Text.Basic

/-!
# Patterns

A pattern tells which stretches of a text match, and which parts of a match are
marked. A match is tried at every character from the left; of several ways to
match there the first counts, in the order of the choices, and what is repeated
is repeated as often as possible, or as seldom where the pattern says so. The
search goes on behind a match.
-/

namespace Handbook.Text

/-- A stretch of a text, from one character up to another. -/
structure Mark where
  start : Nat
  stop : Nat
  deriving DecidableEq, Repr

/-- A pattern of characters. -/
inductive Pattern
  /-- One character. -/
  | one (accepts : Char → Bool)
  /-- Nothing, between two characters or at an end of the text. -/
  | between (holds : Option Char → Option Char → Bool)
  /-- A part of the match that is marked. -/
  | marked (inner : Pattern)
  /-- One pattern and then another. -/
  | sequence (first second : Pattern)
  /-- One pattern or else another. -/
  | choice (first second : Pattern)
  /-- A pattern several times over, without a limit if there is no `most`. -/
  | repeated (eager : Bool) (least : Nat) (most : Option Nat) (inner : Pattern)

namespace Pattern

/-- Where a search stands: the character before, the number of characters before, and the
characters to come. -/
structure Place where
  before : Option Char
  passed : Nat
  rest : Text

/-- What has been found: where the match ends, and its marks. -/
abbrev Found := Place × List Mark

/-- A way to go on from a place. -/
abbrev Continuation := Place → List Mark → Option Found

/-- Repetition of a step; `eager` tells whether one more is tried before going on. -/
def repeatStep
    (step : Continuation → Continuation)
    (eager : Bool)
    (next : Continuation) : Nat → Nat → Continuation
  | least, 0 => fun place marks => if least = 0 then next place marks else none
  | least, most + 1 => fun place marks =>
      let more := fun (_ : Unit) => step (repeatStep step eager next (least - 1) most) place marks
      let done := fun (_ : Unit) => if least = 0 then next place marks else none
      if eager then (more ()).orElse done else (done ()).orElse more

/-- The first way to match a pattern from a place on that lets the search go on. -/
def run : Pattern → Continuation → Continuation
  | one accepts, next => fun place marks =>
      match place.rest with
      | [] => none
      | character :: rest =>
          if accepts character then next ⟨some character, place.passed + 1, rest⟩ marks else none
  | between holds, next => fun place marks =>
      if holds place.before place.rest.head? then next place marks else none
  | marked inner, next => fun place marks =>
      run inner (fun after found => next after (found ++ [⟨place.passed, after.passed⟩])) place marks
  | sequence first second, next => run first (run second next)
  | choice first second, next => fun place marks =>
      (run first next place marks).orElse fun _ => run second next place marks
  | repeated eager least most inner, next => fun place marks =>
      repeatStep (run inner) eager next least (most.getD place.rest.length) place marks

/-- The marks of all matches from a place on, the first `skipped` characters being part of a
match already. -/
def marksFrom (pattern : Pattern) (skipped : Nat) (before : Option Char) (passed : Nat) :
    Text → List Mark
  | [] => []
  | character :: rest =>
      if 0 < skipped then marksFrom pattern (skipped - 1) (some character) (passed + 1) rest
      else
        match run pattern (fun place marks => some (place, marks))
            ⟨before, passed, character :: rest⟩ [] with
        | none => marksFrom pattern 0 (some character) (passed + 1) rest
        | some (after, marks) =>
            marks ++
              marksFrom pattern (after.passed - passed - 1) (some character) (passed + 1) rest

/-- The marks of all matches in a text; an empty stretch is not marked. -/
def marks (pattern : Pattern) (text : Text) : List Mark :=
  (marksFrom pattern 0 none 0 text).filter fun mark => mark.start < mark.stop

/-- A given character. -/
def exactly (character : Char) : Pattern :=
  one (· == character)

/-- Nothing at all. -/
def nothing : Pattern :=
  between fun _ _ => true

/-- Several patterns, one after the other. -/
def inOrder : List Pattern → Pattern
  | [] => nothing
  | [last] => last
  | first :: rest => sequence first (inOrder rest)

/-- The first of several patterns that matches. -/
def firstOf : List Pattern → Pattern
  | [] => one fun _ => false
  | [last] => last
  | first :: rest => choice first (firstOf rest)

/-- A given text. -/
def spelled (text : Text) : Pattern :=
  inOrder (text.map exactly)

/-- A pattern or nothing, the pattern if possible. -/
def optional (inner : Pattern) : Pattern :=
  repeated true 0 (some 1) inner

/-- A pattern any number of times, as often as possible. -/
def many (inner : Pattern) : Pattern :=
  repeated true 0 none inner

/-- A pattern at least once, as often as possible. -/
def oneOrMore (inner : Pattern) : Pattern :=
  repeated true 1 none inner

end Pattern
end Handbook.Text
