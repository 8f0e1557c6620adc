import Handbook.Text.CaseTable

/-!
# Title case

A text in title case: a cased character that follows no cased one is turned to
title case, every other one to lower case. A sigma at the end of a word takes its
final form, where characters that case rules look through do not count.
-/

namespace Handbook.Text

/-- Whether a character has case. -/
def isCased (character : Char) : Bool :=
  inRanges casedRanges character.toNat

/-- Whether the rule for a final sigma looks through a character. -/
def isCaseIgnorable (character : Char) : Bool :=
  inRanges caseIgnorableRanges character.toNat

/-- A case mapping given by its shifts and its expansions. -/
def mapCase
    (shifts : Array CaseShift)
    (expansions : Array (Nat × List Nat))
    (character : Char) : Text :=
  match expansions.find? fun entry => entry.1 == character.toNat with
  | some entry => entry.2.map Char.ofNat
  | none =>
      match shifts.find? fun run => run.holds character.toNat with
      | some run => [Char.ofNat (character.toNat + run.shift).toNat]
      | none => [character]

/-- The title case of a character. -/
def titleCharacter : Char → Text :=
  mapCase titleShifts titleExpansions

/-- The lower case of a character that is no capital sigma at the end of a word. -/
def lowerCharacter : Char → Text :=
  mapCase lowerShifts lowerExpansions

/-- A text in lower case, character by character. -/
def lowerCase (text : Text) : Text :=
  text.flatMap lowerCharacter

/-- Whether the first character that case rules do not look through is cased. -/
def meetsCased (text : Text) : Bool :=
  match text.find? fun character => !isCaseIgnorable character with
  | some character => isCased character
  | none => false

/-- Lower case in context: a capital sigma after a cased character and before none is final. -/
def lowerInContext (before : Text) (character : Char) (after : Text) : Text :=
  if character.toNat = 0x3A3 then
    if meetsCased before && !meetsCased after then [Char.ofNat 0x3C2] else [Char.ofNat 0x3C3]
  else
    lowerCharacter character

/-- Title case of a text; `before` holds the characters already passed, the last one first. -/
def titleCaseAfter (before : Text) : Text → Text
  | [] => []
  | character :: rest =>
      let turned :=
        if (before.head?.map isCased).getD false then lowerInContext before character rest
        else titleCharacter character
      turned ++ titleCaseAfter (character :: before) rest

/-- A text in title case. -/
def titleCase (text : Text) : Text :=
  titleCaseAfter [] text

end Handbook.Text
