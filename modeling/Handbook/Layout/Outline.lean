import Handbook.Layout.Panel

/-!
# Outlines

A nested record is shown on one line if it fits the page. Otherwise its members
stand below its opening, each on a line of its own or opened in the same way,
and a guide runs down the left for every record that is open.
-/

namespace Handbook.Layout

/-- A record to be shown: one text, or members between an opening and a closing. -/
inductive Outline
  | leaf (text : Text)
  | branch (opening : Text) (members : List Outline) (closing : Text)
  deriving Inhabited

namespace Outline

/-- What stands between two members on one line. -/
def separator : Text := ", "

mutual

/-- The outline on one line. -/
def written : Outline → Text
  | leaf text => text
  | branch opening members closing => opening ++ writtenMembers members ++ closing

/-- Members on one line. -/
def writtenMembers : List Outline → Text
  | [] => []
  | [member] => written member
  | member :: rest => written member ++ separator ++ writtenMembers rest

end

/-- The guides before a line inside a number of open records. -/
def guides : Nat → Text
  | 0 => []
  | depth + 1 => "│   " ++ guides depth

/-- Whether a line fits the page; every member must leave room for a separator. -/
def fits (depth : Nat) (line : Text) : Bool :=
  let reserved := if depth = 0 then 0 else separator.length
  4 * depth + Text.cells line + reserved ≤ pageWidth

mutual

/-- The lines of an outline inside a number of open records; `mark` ends the last of them. -/
def lines (depth : Nat) (mark : Text) : Outline → List Text
  | leaf text => [guides depth ++ text ++ mark]
  | branch opening members closing =>
      let whole := written (branch opening members closing)
      if members.isEmpty || fits depth whole then
        [guides depth ++ whole ++ mark]
      else
        (guides depth ++ opening) :: memberLines (depth + 1) members ++
          [guides depth ++ closing ++ mark]

/-- The lines of members, a comma after each but the last. -/
def memberLines (depth : Nat) : List Outline → List Text
  | [] => []
  | [member] => lines depth [] member
  | member :: rest => lines depth [','] member ++ memberLines depth rest

end

/-- The text of an outline. -/
def text (outline : Outline) : Text :=
  (lines 0 [] outline).flatMap fun line => line ++ ['\n']

end Outline
end Handbook.Layout
