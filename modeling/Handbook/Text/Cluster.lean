import Handbook.Text.CellWidth

/-!
# Clusters

A cluster is a run of characters that a terminal shows as one: a character with
the marks that sit on it, a pictograph with the selector that widens it, or
several pictographs tied by joiners. A text is as wide as its clusters are, and
no line is broken inside one.
-/

namespace Handbook.Text

/-- The character that ties the next character to the cluster before it. -/
def joiner : Char := '\u200d'

/-- The character that asks for the wide form of the one before it. -/
def wideSelector : Char := '\ufe0f'

/-- The characters of one cell that have a wide form. -/
def widenedRanges : Array (Nat × Nat) := #[
  (0x23, 0x23), (0x2A, 0x2A), (0x30, 0x39), (0xA9, 0xA9), (0xAE, 0xAE), (0x203C, 0x203C),
  (0x2049, 0x2049), (0x2122, 0x2122), (0x2139, 0x2139), (0x2194, 0x2199), (0x21A9, 0x21AA),
  (0x2328, 0x2328), (0x23CF, 0x23CF), (0x23ED, 0x23EF), (0x23F1, 0x23F2), (0x23F8, 0x23FA),
  (0x24C2, 0x24C2), (0x25AA, 0x25AB), (0x25B6, 0x25B6), (0x25C0, 0x25C0), (0x25FB, 0x25FC),
  (0x2600, 0x2604), (0x260E, 0x260E), (0x2611, 0x2611), (0x2618, 0x2618), (0x261D, 0x261D),
  (0x2620, 0x2620), (0x2622, 0x2623), (0x2626, 0x2626), (0x262A, 0x262A), (0x262E, 0x262F),
  (0x2638, 0x263A), (0x2640, 0x2640), (0x2642, 0x2642), (0x265F, 0x2660), (0x2663, 0x2663),
  (0x2665, 0x2666), (0x2668, 0x2668), (0x267B, 0x267B), (0x267E, 0x267E), (0x2692, 0x2692),
  (0x2694, 0x2697), (0x2699, 0x2699), (0x269B, 0x269C), (0x26A0, 0x26A0), (0x26A7, 0x26A7),
  (0x26B0, 0x26B1), (0x26C8, 0x26C8), (0x26CF, 0x26CF), (0x26D1, 0x26D1), (0x26D3, 0x26D3),
  (0x26E9, 0x26E9), (0x26F0, 0x26F1), (0x26F4, 0x26F4), (0x26F7, 0x26F9), (0x2702, 0x2702),
  (0x2708, 0x2709), (0x270C, 0x270D), (0x270F, 0x270F), (0x2712, 0x2712), (0x2714, 0x2714),
  (0x2716, 0x2716), (0x271D, 0x271D), (0x2721, 0x2721), (0x2733, 0x2734), (0x2744, 0x2744),
  (0x2747, 0x2747), (0x2763, 0x2764), (0x27A1, 0x27A1), (0x2934, 0x2935), (0x2B05, 0x2B07),
  (0x1F170, 0x1F171), (0x1F17E, 0x1F17F), (0x1F321, 0x1F321), (0x1F324, 0x1F32C),
  (0x1F336, 0x1F336), (0x1F37D, 0x1F37D), (0x1F396, 0x1F397), (0x1F399, 0x1F39B),
  (0x1F39E, 0x1F39F), (0x1F3CB, 0x1F3CE), (0x1F3D4, 0x1F3DF), (0x1F3F3, 0x1F3F3),
  (0x1F3F5, 0x1F3F5), (0x1F3F7, 0x1F3F7), (0x1F43F, 0x1F43F), (0x1F441, 0x1F441),
  (0x1F4FD, 0x1F4FD), (0x1F549, 0x1F54A), (0x1F56F, 0x1F570), (0x1F573, 0x1F579),
  (0x1F587, 0x1F587), (0x1F58A, 0x1F58D), (0x1F590, 0x1F590), (0x1F5A5, 0x1F5A5),
  (0x1F5A8, 0x1F5A8), (0x1F5B1, 0x1F5B2), (0x1F5BC, 0x1F5BC), (0x1F5C2, 0x1F5C4),
  (0x1F5D1, 0x1F5D3), (0x1F5DC, 0x1F5DE), (0x1F5E1, 0x1F5E1), (0x1F5E3, 0x1F5E3),
  (0x1F5E8, 0x1F5E8), (0x1F5EF, 0x1F5EF), (0x1F5F3, 0x1F5F3), (0x1F5FA, 0x1F5FA),
  (0x1F6CB, 0x1F6CB), (0x1F6CD, 0x1F6CF), (0x1F6E0, 0x1F6E5), (0x1F6E9, 0x1F6E9),
  (0x1F6F0, 0x1F6F0), (0x1F6F3, 0x1F6F3)]

/-- Whether a character takes one more cell in its wide form. -/
def isWidened (character : Char) : Bool :=
  inRanges widenedRanges character.toNat

/-- The number of cells of the rest of a text. `joined` tells whether a joiner came last, and
`last` is the character that a selector would widen. -/
def cellsFrom (joined : Bool) (last : Option Char) : Text → Nat
  | [] => 0
  | character :: rest =>
      if joined then cellsFrom false last rest
      else if character = joiner then cellsFrom true last rest
      else if character = wideSelector then
        (if last.any isWidened then 1 else 0) + cellsFrom false none rest
      else
        let width := cellWidth character
        width + cellsFrom false (if width = 0 then last else some character) rest

/-- The number of cells of a text. -/
def cells (text : Text) : Nat :=
  cellsFrom false none text

@[simp] theorem cells_nil : cells [] = 0 := rfl

/-- Without joiners and selectors a text is as wide as its characters are. -/
theorem cellsFrom_eq_foldr
    {text : Text}
    (plain : ∀ character ∈ text, character ≠ joiner ∧ character ≠ wideSelector)
    (last : Option Char) :
    cellsFrom false last text =
      text.foldr (fun character total => cellWidth character + total) 0 := by
  induction text generalizing last with
  | nil => rfl
  | cons character rest hypothesis =>
      obtain ⟨notJoiner, notSelector⟩ := plain character List.mem_cons_self
      have restPlain : ∀ other ∈ rest, other ≠ joiner ∧ other ≠ wideSelector :=
        fun other member => plain other (List.mem_cons_of_mem character member)
      simp [cellsFrom, notJoiner, notSelector, hypothesis restPlain]

/-- A run of characters shown as one, and its number of cells. -/
structure Cluster where
  text : Text
  width : Nat
  deriving DecidableEq, Repr

namespace Cluster

/-- The cluster with a character added that takes no cell of its own. -/
def extend (cluster : Cluster) (character : Char) : Cluster :=
  { cluster with text := cluster.text ++ [character] }

/-- The cluster with a selector added; the character before it may take one more cell. -/
def select (cluster : Cluster) (last : Option Char) (selector : Char) : Cluster :=
  { text := cluster.text ++ [selector]
    width := cluster.width + (if last.any isWidened then 1 else 0) }

end Cluster

/-- The clusters from an open one on. -/
def clustersFrom (current : Cluster) (joined : Bool) (last : Option Char) : Text → List Cluster
  | [] => [current]
  | character :: rest =>
      if joined then clustersFrom (current.extend character) false last rest
      else if character = joiner then clustersFrom (current.extend character) true last rest
      else if character = wideSelector then
        clustersFrom (current.select last character) false
          (if last.any isWidened then none else last) rest
      else
        let width := cellWidth character
        if width = 0 then clustersFrom (current.extend character) false last rest
        else current :: clustersFrom ⟨[character], width⟩ false (some character) rest

/-- The clusters of a text. A mark, a joiner or a selector at its start is a cluster without
cells. -/
def clusters : Text → List Cluster
  | [] => []
  | character :: rest =>
      let width :=
        if character = joiner || character = wideSelector then 0 else cellWidth character
      clustersFrom ⟨[character], width⟩ false (if width = 0 then none else some character) rest

theorem flatten_clustersFrom
    (current : Cluster)
    (joined : Bool)
    (last : Option Char)
    (rest : Text) :
    ((clustersFrom current joined last rest).map Cluster.text).flatten = current.text ++ rest := by
  induction rest generalizing current joined last with
  | nil => simp [clustersFrom]
  | cons character rest hypothesis =>
      unfold clustersFrom
      split
      · simp [hypothesis, Cluster.extend]
      · split
        · simp [hypothesis, Cluster.extend]
        · split
          · simp [hypothesis, Cluster.select]
          · dsimp only
            split <;> simp [hypothesis, Cluster.extend]

/-- No character is lost: the clusters joined are the text. -/
theorem flatten_clusters (text : Text) :
    ((clusters text).map Cluster.text).flatten = text := by
  cases text with
  | nil => rfl
  | cons character rest => simp [clusters, flatten_clustersFrom]

end Handbook.Text
