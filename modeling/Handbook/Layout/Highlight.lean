import Handbook.Layout.StyledText
import Handbook.Text.Cluster
import Handbook.Text.Pattern
import Handbook.Text.WordCharacter

/-!
# Highlights

A console sets off what it recognizes in the text of a record: numbers, truth
values, quoted texts, addresses, paths, calls, fields, tags, brackets, and the
names of requests. No look is chosen here; what counts is that each of them is a
part of its own.
-/

namespace Handbook.Layout

open Text Text.Pattern

/-- Whether a character is a hexadecimal digit of ASCII. -/
def isHexDigit (character : Char) : Bool :=
  character.isDigit || ('a' ≤ character && character ≤ 'f') ||
    ('A' ≤ character && character ≤ 'F')

/-- A digit of ASCII. -/
def digit : Pattern :=
  one Char.isDigit

/-- A hexadecimal digit of ASCII. -/
def hexDigit : Pattern :=
  one isHexDigit

/-- A pattern a given number of times. -/
def times (least most : Nat) (inner : Pattern) : Pattern :=
  repeated true least (some most) inner

/-- A character of a list. -/
def oneOf (characters : String) : Pattern :=
  one characters.toList.contains

/-- A word character, or one of a list. -/
def wordOr (characters : String) : Pattern :=
  one fun character => isWordCharacter character || characters.toList.contains character

/-- Whether there is a word character. -/
def isWord (character : Option Char) : Bool :=
  character.any isWordCharacter

/-- The border of a word. -/
def border : Pattern :=
  between fun before after => isWord before != isWord after

/-- A place that is no border of a word. -/
def noBorder : Pattern :=
  between fun before after => isWord before == isWord after

/-- A place behind no word character. -/
def notBehindWord : Pattern :=
  between fun before _ => !isWord before

/-- A place behind no backslash. -/
def notBehindBackslash : Pattern :=
  between fun before _ => before != some '\\'

/-- A tag: its brackets, its name and its contents. -/
def tag : Pattern :=
  inOrder
    [marked (exactly '<'), marked (many (wordOr "-.:|")), marked (many (one fun _ => true)),
      marked (exactly '>')]

/-- A field: its name and its value. -/
def field : Pattern :=
  inOrder
    [marked (times 1 50 (wordOr "")), exactly '=',
      optional (marked (inOrder
        [optional (exactly '"'), oneOrMore (wordOr ""), optional (exactly '"')]))]

/-- A bracket. -/
def bracket : Pattern :=
  marked (oneOf "][\x7b\x7d()")

/-- A host address of four numbers. -/
def fourNumbers : Pattern :=
  let number := times 1 3 digit
  let dot := exactly '.'
  marked (inOrder [number, dot, number, dot, number, dot, number])

/-- A host address of hexadecimal groups. -/
def hexGroups : Pattern :=
  let group := times 1 4 hexDigit
  marked (inOrder
    [times 1 7 (inOrder [group, exactly ':', optional (exactly ':')]), group])

/-- A device address, of a number of pairs or of a number of groups of four. -/
def deviceAddress (pairs groups : Nat) : Pattern :=
  let pair := times 1 2 hexDigit
  let four := times 4 4 hexDigit
  let joined := fun (count : Nat) (group : Pattern) (mark : Char) =>
    sequence (times (count - 1) (count - 1) (sequence group (exactly mark))) group
  marked (firstOf [joined pairs pair '-', joined pairs pair ':', joined groups four '.'])

/-- A unique identifier. -/
def uniqueIdentifier : Pattern :=
  let group := fun (count : Nat) => times count count hexDigit
  let dash := exactly '-'
  marked (inOrder
    [group 8, dash, group 4, dash, group 4, dash, group 4, dash, group 12])

/-- The name in front of an opening bracket. -/
def call : Pattern :=
  sequence (marked (repeated false 0 none (wordOr "."))) (exactly '(')

/-- A word that stands alone. -/
def alone (word : String) : Pattern :=
  inOrder [border, marked (spelled word), border]

/-- A power of ten behind a number, its digits as few or as many as possible. -/
def powerOfTen (eager : Bool) : Pattern :=
  inOrder
    [exactly 'e', optional (oneOf "-+"), repeated eager 1 none (one isDecimalDigit)]

/-- The digits of a number, with a point. -/
def decimal : Pattern :=
  inOrder [oneOrMore digit, optional (exactly '.'), many digit]

/-- A complex number. -/
def complexNumber : Pattern :=
  marked (inOrder
    [notBehindWord, optional (exactly '-'), decimal, optional (powerOfTen false),
      optional (inOrder [oneOf "-+", decimal, optional (powerOfTen true)]), exactly 'j'])

/-- A number, decimal or hexadecimal. -/
def number : Pattern :=
  marked (choice
    (inOrder
      [notBehindWord, optional (exactly '-'), decimal, optional (powerOfTen false), border])
    (inOrder [exactly '0', exactly 'x', many hexDigit]))

/-- A path, and the name of the file at its end. -/
def path : Pattern :=
  let name := wordOr "-._+"
  sequence
    (marked (inOrder [noBorder, many (sequence (exactly '/') (oneOrMore name)), exactly '/']))
    (optional (marked (many name)))

/-- A text between marks. -/
def quotedBetween (mark : Text) : Pattern :=
  inOrder
    [optional (exactly 'b'), spelled mark, repeated false 0 none (one (· != '\n')),
      notBehindBackslash, spelled mark]

/-- A quoted text. -/
def quotation : Pattern :=
  sequence
    (between fun before _ => !isWord before && before != some '\\')
    (marked (firstOf
      [quotedBetween "\x27\x27\x27", quotedBetween "\x27", quotedBetween "\"\"\"",
        quotedBetween "\""]))

/-- The schemes with which the address of a resource begins. -/
def resourceSchemes : List String :=
  ["file", "https", "http", "ws", "wss"]

/-- The address of a resource. -/
def resource : Pattern :=
  marked (inOrder
    [firstOf (resourceSchemes.map fun scheme => spelled scheme.toList),
      spelled "://",
      many (one fun character =>
        character.isAlphanum || "-$_+!\x60(),.?/;:&=%#~@".toList.contains character)])

/-- What is looked for from one place on, in this order. -/
def literals : Pattern :=
  firstOf
    [fourNumbers, hexGroups, deviceAddress 8 4, deviceAddress 6 3, uniqueIdentifier, call,
      alone "True", alone "False", alone "None", marked (spelled "..."), complexNumber, number,
      path, quotation, resource]

/-- The names of requests. -/
def requestNames : List String :=
  ["GET", "POST", "HEAD", "PUT", "DELETE", "OPTIONS", "TRACE", "PATCH"]

/-- The name of a request. -/
def requestName : Pattern :=
  marked (firstOf (requestNames.map fun name => spelled name.toList))

/-- Whether a text holds a character that reaches over to its neighbours. Only then does it
matter into which parts the text falls. -/
def hasTies (text : Text) : Bool :=
  text.any fun character => character = joiner || character = wideSelector

/-- A text with what a console sets off in it. -/
def highlighted (text : Text) : StyledText :=
  let styled := StyledText.ofText text
  if hasTies styled.plain then
    let found := [tag, field, bracket, literals, requestName].flatMap fun pattern =>
      pattern.marks styled.plain
    { styled with spans := found.map fun mark => ⟨mark.start, mark.stop, .str []⟩ }
  else styled

end Handbook.Layout
