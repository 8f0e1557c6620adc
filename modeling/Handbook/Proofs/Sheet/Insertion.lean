import Handbook.Proofs.Text.Sorting
import Handbook.Sheet.Basic

/-!
# Insertion by name

The place of a parameter in a list is sought by halving, which is right only in a
list that is ordered by format name. There it is the place to which a walk from
the front comes: behind all parameters that are not greater, so that equal ones
stay in the order of their insertion. An insertion keeps the order, hence every
place in a run of insertions is right.
-/

namespace Handbook

/-- Parameters in order of their format names. -/
def OrderedByName (parameters : List Parameter) : Prop :=
  parameters.Pairwise fun first second => ¬ second.formatName < first.formatName

/-- A place in a list behind which all format names are greater than a name, and in front of which
none is. -/
structure IsPlaceAfter (name : Text) (parameters : List Parameter) (place : Nat) : Prop where
  within : place ≤ parameters.length
  notGreater : ∀ parameter ∈ parameters.take place, ¬ name < parameter.formatName
  greater : ∀ parameter ∈ parameters.drop place, name < parameter.formatName

namespace OrderedByName

variable {name : Text} {parameters : List Parameter} {middle : Nat}

/-- In an ordered list, a format name is not less than those in front of it. -/
theorem not_lt_getElem
    (ordered : OrderedByName parameters)
    {first second : Nat}
    (inside : second < parameters.length)
    (inOrder : first ≤ second) :
    ¬ parameters[second].formatName < parameters[first].formatName := by
  rcases Nat.lt_or_eq_of_le inOrder with before | rfl
  · exact List.pairwise_iff_getElem.mp ordered first second _ inside before
  · exact List.lt_irrefl _

/-- Where a format name is not greater than a name, none in front of it is. -/
theorem not_lt_of_mem_take
    (ordered : OrderedByName parameters)
    (inside : middle < parameters.length)
    (notGreater : ¬ name < parameters[middle].formatName) :
    ∀ parameter ∈ parameters.take (middle + 1), ¬ name < parameter.formatName := by
  intro parameter member
  obtain ⟨index, bound, rfl⟩ := List.mem_take_iff_getElem.mp member
  have inOrder : index ≤ middle := Nat.le_of_lt_succ (Nat.lt_min.mp bound).1
  exact Text.not_lt_trans (ordered.not_lt_getElem inside inOrder) notGreater

/-- Where a format name is greater than a name, all behind it are. -/
theorem lt_of_mem_drop
    (ordered : OrderedByName parameters)
    (present : middle < parameters.length)
    (greater : name < parameters[middle].formatName) :
    ∀ parameter ∈ parameters.drop middle, name < parameter.formatName := by
  intro parameter member
  obtain ⟨offset, bound, rfl⟩ := List.mem_drop_iff_getElem.mp member
  have inside : middle + offset < parameters.length := by omega
  have notBelow := ordered.not_lt_getElem inside (Nat.le_add_right middle offset)
  by_contra notGreater
  exact Text.not_lt_trans notBelow notGreater greater

/-- Halving what lies between two places of an ordered list ends at the place of the name, if that
lies between them. -/
theorem isPlaceAfter_placeAfter
    (ordered : OrderedByName parameters)
    {low high : Nat}
    {within : high ≤ parameters.length}
    (proper : low ≤ high)
    (notGreater : ∀ parameter ∈ parameters.take low, ¬ name < parameter.formatName)
    (greater : ∀ parameter ∈ parameters.drop high, name < parameter.formatName) :
    IsPlaceAfter name parameters (placeAfter name parameters low high within) := by
  induction low, high, within using placeAfter.induct name parameters with
  | case1 low high within between inside below hypothesis =>
      rw [placeAfter, dif_pos between, if_pos below]
      exact hypothesis (by omega) notGreater (ordered.lt_of_mem_drop inside below)
  | case2 low high within between inside notBelow hypothesis =>
      rw [placeAfter, dif_pos between, if_neg notBelow]
      exact hypothesis (by omega) (ordered.not_lt_of_mem_take inside notBelow) greater
  | case3 low high within closed =>
      have same : low = high := by omega
      rw [placeAfter, dif_neg closed]
      exact ⟨Nat.le_trans proper within, notGreater, same ▸ greater⟩

end OrderedByName

/-- Insert a parameter into a list before the first one of a greater format name. -/
def insertByName (parameter : Parameter) : List Parameter → List Parameter
  | [] => [parameter]
  | first :: rest =>
      if parameter.formatName < first.formatName then parameter :: first :: rest
      else first :: insertByName parameter rest

@[simp] theorem insertByName_nil (parameter : Parameter) :
    insertByName parameter [] = [parameter] := rfl

/-- Nothing is lost or doubled by an insertion. -/
theorem insertByName_perm (parameter : Parameter) (parameters : List Parameter) :
    (insertByName parameter parameters).Perm (parameter :: parameters) := by
  induction parameters with
  | nil => exact List.Perm.refl _
  | cons first rest hypothesis =>
      unfold insertByName
      split
      · exact List.Perm.refl _
      · exact (hypothesis.cons first).trans (List.Perm.swap parameter first rest)

/-- An insertion at the place of a name is one before the first that is greater. -/
theorem IsPlaceAfter.insertIdx_eq
    {parameter : Parameter}
    {parameters : List Parameter}
    {place : Nat}
    (isPlace : IsPlaceAfter parameter.formatName parameters place) :
    parameters.insertIdx place parameter = insertByName parameter parameters := by
  induction parameters generalizing place with
  | nil =>
      have front : place = 0 := Nat.le_zero.mp isPlace.within
      subst front
      rfl
  | cons first rest hypothesis =>
      unfold insertByName
      cases place with
      | zero =>
          rw [if_pos (isPlace.greater first List.mem_cons_self)]
          rfl
      | succ place =>
          rw [if_neg (isPlace.notGreater first List.mem_cons_self), List.insertIdx_succ_cons,
            hypothesis]
          exact
            { within := Nat.le_of_succ_le_succ isPlace.within
              notGreater := fun parameter member =>
                isPlace.notGreater parameter (List.mem_cons_of_mem first member)
              greater := isPlace.greater }

namespace OrderedByName

variable {parameters : List Parameter}

/-- In an ordered list, the place that is sought by halving is the one that a walk from the front
comes to. -/
theorem insertAtPlace_eq
    (ordered : OrderedByName parameters)
    (parameter : Parameter) :
    insertAtPlace parameter parameters = insertByName parameter parameters := by
  apply IsPlaceAfter.insertIdx_eq
  apply ordered.isPlaceAfter_placeAfter (Nat.zero_le _) <;> simp

/-- An insertion by name keeps a list ordered. -/
theorem insertByName
    (ordered : OrderedByName parameters)
    (parameter : Parameter) :
    OrderedByName (insertByName parameter parameters) := by
  induction parameters with
  | nil => exact List.pairwise_singleton _ _
  | cons first rest hypothesis =>
      obtain ⟨least, restOrdered⟩ := List.pairwise_cons.mp ordered
      unfold Handbook.insertByName
      split
      · next smaller =>
          refine List.pairwise_cons.mpr ⟨?_, ordered⟩
          intro other member
          rcases List.mem_cons.mp member with rfl | behind
          · exact List.lt_asymm smaller
          · exact Text.not_lt_trans (List.lt_asymm smaller) (least other behind)
      · next notSmaller =>
          refine List.pairwise_cons.mpr ⟨?_, hypothesis restOrdered⟩
          intro other member
          rcases List.mem_cons.mp ((insertByName_perm parameter rest).mem_iff.mp member) with
            rfl | behind
          · exact notSmaller
          · exact least other behind

end OrderedByName

/-- Insert parameters into an ordered list, one after another. -/
def insertAllByName (named parameters : List Parameter) : List Parameter :=
  parameters.foldl (fun inserted parameter => insertByName parameter inserted) named

@[simp] theorem insertAllByName_nil (named : List Parameter) : insertAllByName named [] = named :=
  rfl

@[simp] theorem insertAllByName_cons
    (named : List Parameter)
    (parameter : Parameter)
    (rest : List Parameter) :
    insertAllByName named (parameter :: rest) =
      insertAllByName (insertByName parameter named) rest := rfl

/-- Nothing is lost or doubled by inserting several parameters. -/
theorem insertAllByName_perm (named parameters : List Parameter) :
    (insertAllByName named parameters).Perm (parameters ++ named) := by
  induction parameters generalizing named with
  | nil => exact List.Perm.refl _
  | cons parameter rest hypothesis =>
      have inserted : (rest ++ insertByName parameter named).Perm (rest ++ parameter :: named) :=
        (insertByName_perm parameter named).append_left rest
      exact ((hypothesis _).trans inserted).trans List.perm_middle

/-- Parameters that are inserted one after another into an ordered list leave it ordered. -/
theorem OrderedByName.insertAllByName
    {named : List Parameter}
    (ordered : OrderedByName named)
    (parameters : List Parameter) :
    OrderedByName (insertAllByName named parameters) := by
  induction parameters generalizing named with
  | nil => exact ordered
  | cons parameter rest hypothesis => exact hypothesis (ordered.insertByName parameter)

end Handbook
