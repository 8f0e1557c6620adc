import Handbook.Text.Basic

/-!
# Blanks

The white space that is trimmed from the ends of names, and that words of a
broken line carry to their right. It is the white space of the Unicode standard
together with the four separator controls; no other space, such as the zero
width ones, belongs to it.
-/

namespace Handbook.Text

/-- White space of the Unicode standard, the separator controls included. -/
def isBlank (character : Char) : Bool :=
  let code := character.toNat
  (0x09 ≤ code && code ≤ 0x0D) || (0x1C ≤ code && code ≤ 0x20) ||
    code == 0x85 || code == 0xA0 || code == 0x1680 ||
    (0x2000 ≤ code && code ≤ 0x200A) || code == 0x2028 || code == 0x2029 ||
    code == 0x202F || code == 0x205F || code == 0x3000

/-- A text without its leading blanks. -/
def trimLeft (text : Text) : Text :=
  text.dropWhile isBlank

/-- A text without its trailing blanks. -/
def trimRight (text : Text) : Text :=
  (text.reverse.dropWhile isBlank).reverse

/-- A text without the blanks at its two ends. -/
def trim (text : Text) : Text :=
  trimRight (trimLeft text)

/-- The trailing blanks that `trimRight` takes away, counted. -/
def trailingBlanks (text : Text) : Nat :=
  (text.reverse.takeWhile isBlank).length

@[simp] theorem trim_nil : trim [] = [] := rfl

end Handbook.Text
