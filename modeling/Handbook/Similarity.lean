import Handbook.Text.Basic

/-!
# Similarity of words

Two words are as similar as the share of their characters that lie in common
blocks: the longest common block is taken out first, the earliest one if there
are several, and the same is done with what lies before it and with what lies
after it. In a long second word the characters that are very frequent start no
block, though they may extend one.
-/

namespace Handbook.Similarity

/-- A common block: where it starts in either word, and its size. -/
structure Block where
  first : Nat
  second : Nat
  size : Nat
  deriving DecidableEq, Repr

/-- The length above which a word has frequent characters. -/
def longWord : Nat := 200

/-- A word to be compared: its letters, each a character or a mark that is like none. -/
abbrev Word := List (Option Char)

/-- The characters of a long word that are too frequent to start a block. -/
def frequent (word : Word) : Text :=
  if word.length < longWord then []
  else
    (word.filterMap id).eraseDups.filter fun character =>
      word.length / 100 + 1 < word.count (some character)

/-- The lengths of the common runs that end at each place of a word, one character of the other
word further on. -/
def nextRow (excluded : Text) (character : Char) (word : Word) (row : List Nat) : List Nat :=
  List.zipWith
    (fun other length =>
      if other = some character && !excluded.contains character then length + 1 else 0)
    word (0 :: row)

/-- The better of a block and those that end at the given place of the first word; an earlier
block is kept among equals. -/
def improve (place : Nat) (best : Block) (row : List Nat) : Block :=
  row.zipIdx.foldl
    (fun best entry =>
      if best.size < entry.1 then
        ⟨place + 1 - entry.1, entry.2 + 1 - entry.1, entry.1⟩
      else best)
    best

/-- The search for the longest block that frequent characters do not start. -/
def searchBlock (excluded : Text) (second : Word) (place : Nat) (best : Block) (row : List Nat) :
    Text → Block
  | [] => best
  | character :: rest =>
      let next := nextRow excluded character second row
      searchBlock excluded second (place + 1) (improve place best next) next rest

/-- The number of characters with which a text and a word begin alike. -/
def commonStart : Text → Word → Nat
  | first :: rest, letter :: letters =>
      if letter = some first then commonStart rest letters + 1 else 0
  | _, _ => 0

/-- A block extended to both sides over characters that are alike. -/
def extend (first : Text) (second : Word) (block : Block) : Block :=
  let before :=
    commonStart (first.take block.first).reverse (second.take block.second).reverse
  let after :=
    commonStart (first.drop (block.first + block.size))
      (second.drop (block.second + block.size))
  ⟨block.first - before, block.second - before, before + block.size + after⟩

/-- The longest common block that frequent characters do not start. -/
def longestPlainBlock (excluded first : Text) (second : Word) : Block :=
  searchBlock excluded second 0 ⟨0, 0, 0⟩ (List.replicate second.length 0) first

/-- The longest common block of two words. -/
def longestBlock (excluded first : Text) (second : Word) : Block :=
  extend first second (longestPlainBlock excluded first second)

/-- The number of characters in common blocks. A block lies inside the first word, so each
side of it is shorter. -/
def matching (excluded first : Text) (second : Word) : Nat :=
  match longestBlock excluded first second with
  | ⟨start, start', size⟩ =>
      if _inside : 0 < size ∧ start + size ≤ first.length then
        matching excluded (first.take start) (second.take start') + size +
          matching excluded (first.drop (start + size)) (second.drop (start' + size))
      else
        0
termination_by first.length
decreasing_by
  · simp only [List.length_take]; omega
  · simp only [List.length_drop]; omega

/-- A ratio of natural numbers; the denominator is positive. -/
structure Ratio where
  numerator : Nat
  denominator : Nat
  deriving DecidableEq, Repr

/-- The order of ratios, by cross multiplication. -/
def Ratio.isLess (left right : Ratio) : Bool :=
  left.numerator * right.denominator < right.numerator * left.denominator

/-- The similarity of a symbol and a word; two empty ones are alike. -/
def ratio (symbol : Text) (word : Word) : Ratio :=
  let total := symbol.length + word.length
  if total = 0 then ⟨1, 1⟩
  else ⟨2 * matching (frequent word) symbol word, total⟩

/-- The least similarity worth a suggestion. -/
def threshold : Ratio := ⟨3, 5⟩

/-- Whether a symbol is similar enough to a word to be suggested. -/
def isClose (symbol : Text) (word : Word) : Bool :=
  !(ratio symbol word).isLess threshold

/-- Whether a symbol is a worse suggestion than another: less similar, or as similar and
earlier in the order of texts. -/
def isWorse (word : Word) (symbol other : Text) : Bool :=
  let mine := ratio symbol word
  let its := ratio other word
  mine.isLess its || (!its.isLess mine && symbol < other)

/-- The better of a suggestion at hand and a symbol. -/
def better (word : Word) : Option Text → Text → Option Text
  | none, symbol => if isClose symbol word then some symbol else none
  | some best, symbol =>
      if isClose symbol word && isWorse word best symbol then some symbol else some best

/-- The symbol to suggest for a word: the most similar one, the last in order among equals. -/
def closest? (symbols : List Text) (word : Word) : Option Text :=
  symbols.foldl (better word) none

/-- The number of letters that a symbol and a word have in common, wherever they stand. -/
def shared (symbol : Text) (word : Word) : Nat :=
  symbol.eraseDups.foldl
    (fun total character => total + min (symbol.count character) (word.count (some character))) 0

/-- Whether a symbol has enough letters in common with a word to be compared block by block. -/
def isWorthComparing (symbol : Text) (word : Word) : Bool :=
  let total := symbol.length + word.length
  total = 0 || !(Ratio.mk (2 * shared symbol word) total).isLess threshold

/-- The place of the first letter of a word that is looked up by its place when a symbol is
compared with it: next to the longest block, if the block ends in neither. -/
def lookedUp? (symbol : Text) (word : Word) : Option Nat :=
  let block := longestPlainBlock (frequent word) symbol word
  if 0 < block.first && 0 < block.second then some (block.second - 1)
  else if block.first + block.size < symbol.length && block.second + block.size < word.length then
    some (block.second + block.size)
  else none

/-- The place of the first letter of a word that is looked up by its place in the search for the
closest symbol, if there is one. -/
def firstLookedUp? (symbols : List Text) (word : Word) : Option Nat :=
  (symbols.filter fun symbol => isWorthComparing symbol word).findSome? fun symbol =>
    lookedUp? symbol word

end Handbook.Similarity
