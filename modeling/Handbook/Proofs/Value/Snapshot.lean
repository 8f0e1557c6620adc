import Handbook.Decimal.Nearest
import Handbook.Proofs.Checks
import Handbook.Proofs.Value.Parts

/-!
# Snapshots of values

A snapshot has the shape of the value it was taken of, with lists for sequences of any
kind and sets for frozen sets; the keys of dictionaries are kept as they are, whatever
their kind. A value has none exactly when there is a set within it whose member would
become a list or a set. A snapshot taken of a snapshot is alike to it.
-/

namespace Handbook.Value

variable {value copy again : Value}

/-! ## The copies of several values -/

/-- The copy of a member of a set, unless a set cannot hold it. -/
def memberSnapshot (member : Value) : Except Text Value := do
  let copy ← member.snapshot
  match copy.unhashableKind? with
  | some kind => .error kind
  | Option.none => .ok copy

theorem snapshotItems_eq_mapM (items : List Value) : snapshotItems items = items.mapM snapshot := by
  induction items with
  | nil => rw [snapshotItems]; rfl
  | cons item rest hypothesis =>
      rw [snapshotItems, hypothesis, List.mapM_cons]
      cases item.snapshot with
      | error kind => rfl
      | ok copy => cases rest.mapM snapshot <;> rfl

theorem snapshotEntries_eq_mapM (entries : List (Value × Value)) :
    snapshotEntries entries = entries.mapM fun entry => entry.2.snapshot.map (entry.1, ·) := by
  induction entries with
  | nil => rw [snapshotEntries]; rfl
  | cons entry rest hypothesis =>
      obtain ⟨key, value⟩ := entry
      rw [snapshotEntries, hypothesis, List.mapM_cons]
      cases value.snapshot with
      | error kind => rfl
      | ok copy =>
          cases rest.mapM fun entry => entry.2.snapshot.map (entry.1, ·) <;> rfl

theorem snapshotMembers_eq_mapM (members : List Value) :
    snapshotMembers members = members.mapM memberSnapshot := by
  induction members with
  | nil => rw [snapshotMembers]; rfl
  | cons member rest hypothesis =>
      rw [snapshotMembers, hypothesis, List.mapM_cons, memberSnapshot]
      cases member.snapshot with
      | error kind => rfl
      | ok copy =>
          dsimp only [bind, Except.bind]
          cases copy.unhashableKind? with
          | some kind => rfl
          | none => cases rest.mapM memberSnapshot <;> rfl

/-- Items of which some break a check are refused, and otherwise each has its result. -/
theorem mapM_cases
    {Item Result : Type}
    {check : Item → Except Text Result}
    {breaks : Item → Prop}
    {related : Item → Result → Prop}
    {items : List Item}
    (each : ∀ item ∈ items,
      (breaks item ∧ ∃ kind, check item = .error kind) ∨
        ¬ breaks item ∧ ∃ result, check item = .ok result ∧ related item result) :
    ((∃ item ∈ items, breaks item) ∧ ∃ kind, items.mapM check = .error kind) ∨
      (∀ item ∈ items, ¬ breaks item) ∧
        ∃ results, items.mapM check = .ok results ∧ List.Forall₂ related items results := by
  induction items with
  | nil => exact .inr ⟨by simp, [], rfl, .nil⟩
  | cons item rest hypothesis =>
      obtain ⟨here, others⟩ := List.forall_mem_cons.mp each
      rw [List.mapM_cons]
      rcases here with ⟨broken, kind, refused⟩ | ⟨whole, result, passed, isRelated⟩
      · exact .inl ⟨⟨item, List.mem_cons_self, broken⟩, kind, by rw [refused]; rfl⟩
      · rw [passed]
        rcases hypothesis others with
          ⟨⟨other, member, broken⟩, kind, refused⟩ | ⟨unbroken, results, checked, areRelated⟩
        · exact .inl
            ⟨⟨other, List.mem_cons_of_mem _ member, broken⟩, kind, by rw [refused]; rfl⟩
        · exact .inr ⟨List.forall_mem_cons.mpr ⟨whole, unbroken⟩, result :: results,
            by rw [checked]; rfl, .cons isRelated areRelated⟩

/-! ## Values and their snapshots -/

/-- What a reader gets of a value: a list of copies for a list, a dictionary of copies under the
same keys, a set of copies for a set of either kind, in an order of its own, the list of its
integers for a byte string, a byte array or a range, and any other value itself. -/
inductive Mirrors : Value → Value → Prop
  | list
      {items copies : List Value}
      (each : List.Forall₂ Mirrors items copies) : Mirrors (.list items) (.list copies)
  | dict
      {entries copies : List (Value × Value)}
      (keys : entries.map (·.1) = copies.map (·.1))
      (each : List.Forall₂ Mirrors (entries.map (·.2)) (copies.map (·.2))) :
      Mirrors (.dict entries) (.dict copies)
  | set
      {members images copies : List Value}
      (each : List.Forall₂ Mirrors members images)
      (ordered : copies.Perm images) : Mirrors (.set members) (.set copies)
  | frozenset
      {members images copies : List Value}
      (each : List.Forall₂ Mirrors members images)
      (ordered : copies.Perm images) : Mirrors (.frozenset members) (.set copies)
  | bytes (items : List UInt8) :
      Mirrors (.bytes items) (.list (items.map fun byte => .int byte.toNat))
  | bytearray (items : List UInt8) :
      Mirrors (.bytearray items) (.list (items.map fun byte => .int byte.toNat))
  | range (start stop step : Int) :
      Mirrors (.range start stop step) (.list ((rangeItems start stop step).map .int))
  | shared
      {value : Value}
      (whole : value.isShared = true) : Mirrors value value

/-- The members of a set of either kind. -/
def setMembers : Value → List Value
  | .set members => members
  | .frozenset members => members
  | _ => []

/-- A value in which sets hold what a set can hold. -/
def Fit (value : Value) : Prop :=
  value.Throughout fun inner => ∀ member ∈ inner.setMembers, member.unhashableKind? = Option.none

/-- A value that a set can hold, but not the copy of: a byte string, a range or a frozen set. -/
def Melts : Value → Prop
  | .bytes _ => True
  | .range .. => True
  | .frozenset _ => True
  | _ => False

/-- A value with a set within it that holds a member which melts. -/
def HoldsMelting (value : Value) : Prop :=
  ∃ holder, Within holder value ∧ ∃ member ∈ holder.setMembers, member.Melts

/-- A value that is no byte string, byte array, range or frozen set. -/
def IsThawed : Value → Prop
  | .bytes _ => False
  | .bytearray _ => False
  | .range .. => False
  | .frozenset _ => False
  | _ => True

theorem fit_iff :
    value.Fit ↔
      (∀ member ∈ value.setMembers, member.unhashableKind? = Option.none) ∧
        ∀ part ∈ value.parts, part.Fit :=
  throughout_iff

theorem fit_of_parts_eq_nil (partless : value.parts = []) : value.Fit := by
  have memberless : value.setMembers = [] := by
    cases value <;> first | exact partless | rfl
  rw [fit_iff, partless, memberless]
  exact ⟨nofun, nofun⟩

theorem holdsMelting_iff :
    value.HoldsMelting ↔
      (∃ member ∈ value.setMembers, member.Melts) ∨ ∃ part ∈ value.parts, part.HoldsMelting := by
  constructor
  · rintro ⟨holder, within, melting⟩
    rcases within_iff.mp within with rfl | ⟨part, inside, within⟩
    · exact .inl melting
    · exact .inr ⟨part, inside, holder, within, melting⟩
  · rintro (melting | ⟨part, inside, holder, within, melting⟩)
    · exact ⟨value, .whole value, melting⟩
    · exact ⟨holder, .inside inside within, melting⟩

/-- A value that is shared with its readers has no parts for them. -/
theorem parts_of_isShared (whole : value.isShared = true) :
    value.parts = [] ∧ value.setMembers = [] ∧ value.IsThawed := by
  cases value with
  | list | dict | set | frozenset | bytes | bytearray | range => cases whole
  | _ => exact ⟨rfl, rfl, trivial⟩

theorem not_holdsMelting_of_isShared (whole : value.isShared = true) : ¬ value.HoldsMelting := by
  obtain ⟨partless, memberless, _⟩ := parts_of_isShared whole
  rw [holdsMelting_iff, partless, memberless]
  simp

/-- What a set holds and does not melt is shared. -/
theorem isShared_of_not_melts
    (hashable : value.unhashableKind? = Option.none)
    (firm : ¬ value.Melts) :
    value.isShared = true := by
  cases value with
  | list | dict | set | bytearray => cases hashable
  | frozenset | bytes | range => exact absurd trivial firm
  | _ => rfl

theorem snapshot_of_isShared (whole : value.isShared = true) : value.snapshot = .ok value := by
  cases value with
  | list | dict | set | frozenset | bytes | bytearray | range => cases whole
  | _ => simp only [snapshot]

/-- The copy of a member of a set is refused when the member melts; any other member is kept. -/
theorem memberSnapshot_cases (hashable : value.unhashableKind? = Option.none) :
    (value.Melts ∧ ∃ kind, value.memberSnapshot = .error kind) ∨
      ¬ value.Melts ∧ ∃ copy, value.memberSnapshot = .ok copy ∧ Mirrors value copy := by
  by_cases melts : value.Melts
  · refine .inl ⟨melts, ?_⟩
    unfold memberSnapshot
    cases value with
    | bytes items => exact ⟨"list", by rw [snapshot]; rfl⟩
    | range start stop step => exact ⟨"list", by rw [snapshot]; rfl⟩
    | frozenset members =>
        rw [snapshot]
        cases snapshotMembers members with
        | error kind => exact ⟨kind, rfl⟩
        | ok copies => exact ⟨"set", rfl⟩
    | _ => cases melts
  · have whole := isShared_of_not_melts hashable melts
    refine .inr ⟨melts, value, ?_, .shared whole⟩
    rw [memberSnapshot, snapshot_of_isShared whole]
    dsimp only [bind, Except.bind]
    rw [hashable]

/-! ## Taking a snapshot -/

/-- A set of either kind is copied unless a member melts. -/
theorem snapshotMembers_cases
    {members : List Value}
    (hashable : ∀ member ∈ members, member.unhashableKind? = Option.none) :
    ((∃ member ∈ members, member.Melts) ∧ ∃ kind, snapshotMembers members = .error kind) ∨
      (∀ member ∈ members, ¬ member.Melts) ∧
        ∃ copies, snapshotMembers members = .ok copies ∧ List.Forall₂ Mirrors members copies := by
  rw [snapshotMembers_eq_mapM]
  exact mapM_cases fun member inside => memberSnapshot_cases (hashable member inside)

/-- Where no member of a set melts and nothing in the parts does, nothing melts at all. -/
theorem not_holdsMelting
    (hashable : ∀ member ∈ value.setMembers, member.unhashableKind? = Option.none)
    (firm : ∀ member ∈ value.setMembers, ¬ member.Melts)
    (firmParts : ∀ part ∈ value.parts, part ∉ value.setMembers → ¬ part.HoldsMelting) :
    ¬ value.HoldsMelting := by
  rw [holdsMelting_iff]
  rintro (⟨member, inside, melts⟩ | ⟨part, inside, melting⟩)
  · exact firm member inside melts
  · by_cases isMember : part ∈ value.setMembers
    · exact not_holdsMelting_of_isShared
        (isShared_of_not_melts (hashable part isMember) (firm part isMember)) melting
    · exact firmParts part inside isMember melting

/-- A value has a snapshot that mirrors it, unless a set within it holds a member which melts. -/
theorem snapshot_cases (value : Value) (fit : value.Fit) :
    (value.HoldsMelting ∧ ∃ kind, value.snapshot = .error kind) ∨
      ¬ value.HoldsMelting ∧ ∃ copy, value.snapshot = .ok copy ∧ Mirrors value copy := by
  induction value using induction_on_parts with
  | step value hypothesis =>
  obtain ⟨hashable, fitParts⟩ := fit_iff.mp fit
  cases value with
  | list items =>
      have each : ∀ item ∈ items, _ := fun item inside =>
        hypothesis item inside (fitParts item inside)
      rw [snapshot, snapshotItems_eq_mapM]
      rcases mapM_cases each with ⟨melting, kind, refused⟩ | ⟨firm, copies, copied, areMirrored⟩
      · exact .inl ⟨holdsMelting_iff.mpr (.inr melting), kind, by rw [refused]; rfl⟩
      · exact .inr ⟨not_holdsMelting nofun nofun fun item inside _ => firm item inside,
          .list copies, by rw [copied]; rfl, .list areMirrored⟩
  | dict entries =>
      have each : ∀ entry ∈ entries, (entry.2.HoldsMelting ∧
          ∃ kind, entry.2.snapshot.map (entry.1, ·) = .error kind) ∨
          ¬ entry.2.HoldsMelting ∧ ∃ copy : Value × Value,
            entry.2.snapshot.map (entry.1, ·) = .ok copy ∧
              entry.1 = copy.1 ∧ Mirrors entry.2 copy.2 := by
        intro entry inside
        have part : entry.2 ∈ (dict entries).parts := List.mem_map_of_mem inside
        rcases hypothesis entry.2 part (fitParts entry.2 part) with
          ⟨melting, kind, refused⟩ | ⟨firm, copy, copied, isMirrored⟩
        · exact .inl ⟨melting, kind, by rw [refused]; rfl⟩
        · exact .inr ⟨firm, (entry.1, copy), by rw [copied]; rfl, rfl, isMirrored⟩
      rw [snapshot, snapshotEntries_eq_mapM]
      rcases mapM_cases each with
        ⟨⟨entry, inside, melting⟩, kind, refused⟩ | ⟨firm, copies, copied, areMirrored⟩
      · have inParts : (dict entries).HoldsMelting := holdsMelting_iff.mpr
          (.inr ⟨entry.2, List.mem_map_of_mem inside, melting⟩)
        exact .inl ⟨inParts, kind, by rw [refused]; rfl⟩
      · have firmParts : ∀ part ∈ (dict entries).parts, ¬ part.HoldsMelting := by
          intro part inside
          obtain ⟨entry, held, rfl⟩ := List.mem_map.mp inside
          exact firm entry held
        obtain ⟨keys, values⟩ := forall₂_entries_iff.mp areMirrored
        exact .inr ⟨not_holdsMelting nofun nofun fun part inside _ => firmParts part inside,
          .dict copies, by rw [copied]; rfl, .dict keys values⟩
  | set members =>
      rw [snapshot]
      rcases snapshotMembers_cases hashable with
        ⟨melting, kind, refused⟩ | ⟨firm, copies, copied, areMirrored⟩
      · exact .inl ⟨holdsMelting_iff.mpr (.inl melting), kind, congrArg _ refused⟩
      · exact .inr ⟨not_holdsMelting hashable firm fun part inside other => absurd inside other,
          .set (placed copies), congrArg _ copied, .set areMirrored (placed_perm copies)⟩
  | frozenset members =>
      rw [snapshot]
      rcases snapshotMembers_cases hashable with
        ⟨melting, kind, refused⟩ | ⟨firm, copies, copied, areMirrored⟩
      · exact .inl ⟨holdsMelting_iff.mpr (.inl melting), kind, congrArg _ refused⟩
      · exact .inr ⟨not_holdsMelting hashable firm fun part inside other => absurd inside other,
          .set (placed copies), congrArg _ copied, .frozenset areMirrored (placed_perm copies)⟩
  | bytes items =>
      exact .inr ⟨not_holdsMelting nofun nofun nofun, _, by rw [snapshot], .bytes items⟩
  | bytearray items =>
      exact .inr ⟨not_holdsMelting nofun nofun nofun, _, by rw [snapshot], .bytearray items⟩
  | range start stop step =>
      exact .inr
        ⟨not_holdsMelting nofun nofun nofun, _, by rw [snapshot], .range start stop step⟩
  | _ =>
      exact .inr
        ⟨not_holdsMelting_of_isShared rfl, _, snapshot_of_isShared rfl, .shared rfl⟩

/-! ## Taking a snapshot of a snapshot -/

/-- A value as a snapshot has it: not one that is turned into another kind, and with members, if it
is a set, that a set can hold and that do not melt. -/
def IsSettled (value : Value) : Prop :=
  value.IsThawed ∧
    ∀ member ∈ value.setMembers, member.unhashableKind? = Option.none ∧ ¬ member.Melts

theorem settled_of_isShared (whole : value.isShared = true) : value.Throughout IsSettled := by
  obtain ⟨partless, memberless, thawed⟩ := parts_of_isShared whole
  rw [throughout_iff, IsSettled, partless, memberless]
  exact ⟨⟨thawed, nofun⟩, nofun⟩

/-- A shared value is its only mirror image. -/
theorem Mirrors.eq_of_isShared (mirrors : Mirrors value copy) (whole : value.isShared = true) :
    copy = value := by
  cases mirrors with
  | shared => rfl
  | _ => cases whole

theorem eq_of_forall₂_mirrors
    {members images : List Value}
    (each : List.Forall₂ Mirrors members images)
    (whole : ∀ member ∈ members, member.isShared = true) :
    images = members := by
  have same : List.Forall₂ (· = ·) members images :=
    forall₂_imp_of_mem each fun member inside image mirrors =>
      (mirrors.eq_of_isShared (whole member inside)).symm
  rw [List.forall₂_eq_eq_eq] at same
  exact same.symm

/-- Each item on the right of a relation item by item has a related one on the left. -/
theorem exists_of_mem_right
    {related : Value → Value → Prop}
    {items others : List Value}
    {other : Value}
    (each : List.Forall₂ related items others)
    (member : other ∈ others) :
    ∃ item ∈ items, related item other := by
  induction each with
  | nil => cases member
  | cons here _ hypothesis =>
      rcases List.mem_cons.mp member with rfl | member
      · exact ⟨_, List.mem_cons_self, here⟩
      · obtain ⟨item, inside, isRelated⟩ := hypothesis member
        exact ⟨item, List.mem_cons_of_mem _ inside, isRelated⟩

/-- Sets of members that neither change in place nor melt are settled. -/
theorem settled_set
    {members images copies : List Value}
    (hashable : ∀ member ∈ members, member.unhashableKind? = Option.none)
    (firm : ∀ member ∈ members, ¬ member.Melts)
    (each : List.Forall₂ Mirrors members images)
    (ordered : copies.Perm images) :
    (set copies).Throughout IsSettled := by
  have whole : ∀ member ∈ members, member.isShared = true := fun member inside =>
    isShared_of_not_melts (hashable member inside) (firm member inside)
  rw [eq_of_forall₂_mirrors each whole] at ordered
  have inside : ∀ copy ∈ copies, copy ∈ members := fun copy => ordered.mem_iff.mp
  refine throughout_iff.mpr ⟨⟨trivial, fun copy member => ?_⟩, fun copy member => ?_⟩
  · exact ⟨hashable copy (inside copy member), firm copy (inside copy member)⟩
  · exact settled_of_isShared (whole copy (inside copy member))

/-- Lists of integers are settled. -/
theorem settled_list_of_ints
    {items : List Value}
    (ints : ∀ item ∈ items, ∃ number, item = .int number) :
    (list items).Throughout IsSettled := by
  refine throughout_iff.mpr ⟨⟨trivial, nofun⟩, fun item inside => ?_⟩
  obtain ⟨number, rfl⟩ := ints item inside
  exact settled_of_isShared rfl

/-- What mirrors a value in which nothing melts is settled throughout. -/
theorem Mirrors.settled
    (mirrors : Mirrors value copy)
    (fit : value.Fit)
    (firm : ¬ value.HoldsMelting) :
    copy.Throughout IsSettled := by
  induction value using induction_on_parts generalizing copy with
  | step value hypothesis =>
  obtain ⟨hashable, fitParts⟩ := fit_iff.mp fit
  rw [holdsMelting_iff, not_or] at firm
  obtain ⟨firmMembers, firmParts⟩ := firm
  have below : ∀ copies, List.Forall₂ Mirrors value.parts copies →
      ∀ copy ∈ copies, copy.Throughout IsSettled := by
    intro copies each copy inside
    obtain ⟨part, isPart, mirrors⟩ := exists_of_mem_right each inside
    exact hypothesis part isPart mirrors (fitParts part isPart)
      fun melting => firmParts ⟨part, isPart, melting⟩
  cases mirrors with
  | list each => exact throughout_iff.mpr ⟨⟨trivial, nofun⟩, below _ each⟩
  | dict keys each => exact throughout_iff.mpr ⟨⟨trivial, nofun⟩, below _ each⟩
  | set each ordered =>
      exact settled_set hashable (fun member inside melts => firmMembers ⟨member, inside, melts⟩)
        each ordered
  | frozenset each ordered =>
      exact settled_set hashable (fun member inside melts => firmMembers ⟨member, inside, melts⟩)
        each ordered
  | bytes | bytearray | range => exact settled_list_of_ints (by simp)
  | shared whole => exact settled_of_isShared whole

/-- What mirrors a settled value is alike to it. -/
theorem Mirrors.alike
    (mirrors : Mirrors value copy)
    (settled : value.Throughout IsSettled) :
    Alike value copy := by
  induction value using induction_on_parts generalizing copy with
  | step value hypothesis =>
  obtain ⟨⟨thawed, members⟩, settledParts⟩ := throughout_iff.mp settled
  cases mirrors with
  | list each =>
      exact .list (forall₂_imp_of_mem each fun item inside copy mirrors =>
        hypothesis item inside mirrors (settledParts item inside))
  | dict keys each =>
      exact .dict keys (forall₂_imp_of_mem each fun item inside copy mirrors =>
        hypothesis item inside mirrors (settledParts item inside))
  | set each ordered =>
      rw [eq_of_forall₂_mirrors each fun member inside =>
        isShared_of_not_melts (members member inside).1 (members member inside).2] at ordered
      exact .set ordered.symm
  | frozenset | bytes | bytearray | range => cases thawed
  | shared => exact .same value

/-- A settled value is fit for snapshots, and nothing in it melts. -/
theorem fit_of_settled (settled : value.Throughout IsSettled) :
    value.Fit ∧ ¬ value.HoldsMelting := by
  constructor
  · intro inner within member inside
    exact ((settled inner within).2 member inside).1
  · rintro ⟨holder, within, member, inside, melts⟩
    exact ((settled holder within).2 member inside).2 melts

/-- A reader of a value whose sets hold what sets can hold is refused exactly when a set within the
value, not in a tuple or a key, holds a byte string, a range or a frozen set. Any other reader gets
a copy of the same shape with the same keys, in which no byte string, byte array, range or frozen
set is left but in tuples and keys, and which is read once more as a value that is alike to it and
equal to the same values. It is equal to the copy itself, unless the copy is not equal to itself
because of a float that is no number. -/
theorem read_mirrors (value : Value) (fit : value.Fit) :
    ((∃ error, value.read = .error error) ↔
        ∃ holder, Within holder value ∧ ∃ member ∈ holder.setMembers, member.Melts) ∧
      (∀ error, value.read = .error error → error.kind = .wrongKind) ∧
      ((¬ ∃ holder, Within holder value ∧ ∃ member ∈ holder.setMembers, member.Melts) →
        ∃ copy, value.read = .ok copy ∧ Mirrors value copy ∧ copy.Throughout IsThawed ∧
          ∃ again, copy.read = .ok again ∧ Alike copy again ∧ Indistinct copy again ∧
            (¬ copy.HoldsNaN → copy.equals again = true)) := by
  rcases snapshot_cases value fit with ⟨melting, kind, refused⟩ | ⟨firm, copy, copied, mirrors⟩
  · have isRefused : value.read = .error (.unhashable kind) := by rw [read, refused]
    refine ⟨⟨fun _ => melting, fun _ => ⟨_, isRefused⟩⟩, fun error failed => ?_, absurd melting⟩
    rw [isRefused] at failed
    cases failed
    rfl
  · have isRead : value.read = .ok copy := by rw [read, copied]
    have unrefused : ∀ error, value.read ≠ .error error := by
      intro error failed
      rw [isRead] at failed
      cases failed
    refine ⟨⟨?_, fun melting => absurd melting firm⟩,
      fun error failed => absurd failed (unrefused error), fun _ => ?_⟩
    · rintro ⟨error, failed⟩
      exact absurd failed (unrefused error)
    have settled := mirrors.settled fit firm
    obtain ⟨fitCopy, firmCopy⟩ := fit_of_settled settled
    obtain ⟨again, copiedAgain, mirrorsAgain⟩ :=
      ((snapshot_cases copy fitCopy).resolve_left fun melts => firmCopy melts.1).2
    have alike := mirrorsAgain.alike settled
    refine ⟨copy, isRead, mirrors, fun inner within => (settled inner within).1, again,
      by rw [read, copiedAgain], alike, alike.indistinct, fun numbers => ?_⟩
    exact (alike.indistinct copy).1.symm.trans (equals_self copy numbers)

/-- A list of a byte string, a dictionary that keeps a frozen set under a byte string, a tuple and a
set. -/
theorem read_mirrors_of_nested_value :
    let value : Value :=
      .list
        [.bytes [1, 2], .dict [(.bytes [107], .frozenset [.int 3, .tuple [.bytes [4]]])],
          .tuple [.range 0 2 1], .set [.str "a"]]
    let copy : Value :=
      .list
        [.list [.int 1, .int 2], .dict [(.bytes [107], .set [.int 3, .tuple [.bytes [4]]])],
          .tuple [.range 0 2 1], .set [.str "a"]]
    value.Fit ∧ value.read = .ok copy ∧ Mirrors value copy ∧ copy.Throughout IsThawed ∧
      (Value.set [.frozenset [.int 3]]).read = .error (.unhashable "set") := by
  intro value copy
  have frozenFit : (frozenset [.int 3, .tuple [.bytes [4]]]).Fit :=
    fit_iff.mpr ⟨by simp [setMembers, unhashableKind?, unhashableKind?.unhashableItem?],
      List.forall_mem_cons.mpr ⟨fit_of_parts_eq_nil rfl,
        List.forall_mem_singleton.mpr (fit_of_parts_eq_nil rfl)⟩⟩
  have setFit : (set [.str "a"]).Fit :=
    fit_iff.mpr ⟨by simp [setMembers, unhashableKind?],
      List.forall_mem_singleton.mpr (fit_of_parts_eq_nil rfl)⟩
  have fit : value.Fit :=
    fit_iff.mpr ⟨nofun, List.forall_mem_cons.mpr ⟨fit_of_parts_eq_nil rfl,
      List.forall_mem_cons.mpr ⟨fit_iff.mpr ⟨nofun, List.forall_mem_singleton.mpr frozenFit⟩,
        List.forall_mem_cons.mpr ⟨fit_of_parts_eq_nil rfl,
          List.forall_mem_singleton.mpr setFit⟩⟩⟩⟩
  have isRead : value.read = .ok copy := rfl
  obtain ⟨refused_iff, _, mirrored⟩ := read_mirrors value fit
  have unrefused : ¬ ∃ error, value.read = .error error := by
    rintro ⟨error, failed⟩
    rw [isRead] at failed
    cases failed
  obtain ⟨own, ownRead, mirrors, thawed, _⟩ := mirrored (refused_iff.not.mp unrefused)
  rw [isRead] at ownRead
  cases ownRead
  exact ⟨fit, isRead, mirrors, thawed, rfl⟩

/-- A key is no part of a dictionary: a byte string stays one, and a frozen set that holds a byte
string does not keep its reader from a copy. A float that is no number is read as itself, and is
not even equal to that. -/
theorem read_of_frozen_keys :
    let key : Value := .frozenset [.bytes [120]]
    let filed : Value := .dict [(key, .int 0)]
    let coded : Value := .dict [(.bytes [107], .int 1)]
    let noNumber : Value := .float Binary64.notANumber
    (key.unhashableKind? = Option.none ∧ ∃ member ∈ key.setMembers, member.Melts) ∧
      filed.read = .ok filed ∧
      coded.read = .ok coded ∧
      noNumber.read = .ok noNumber ∧ noNumber.equals noNumber = false := by
  intro key filed coded noNumber
  exact ⟨⟨rfl, .bytes [120], List.mem_singleton_self _, trivial⟩, rfl, rfl, rfl, by decide +kernel⟩

end Handbook.Value
