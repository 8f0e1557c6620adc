import Handbook.Proofs.Descriptor.Built
import Handbook.Proofs.Offers

/-!
# Calls that fill an option table

A table is filled by calls that declare an option in place or append one that has
been constructed before. Whether several calls are all accepted is a question
about each option and about pairs of them that does not ask which came first, so
it has one answer for every order of the calls.
-/

namespace Handbook

/-- An option that has been constructed, by an accepted declaration. -/
structure ConstructedOption where
  descriptor : Descriptor
  declared : ∃ declaration : Declaration, declaration.check = .ok descriptor

/-- A call that offers an option to a table: one that is declared by the call, or one that has been
constructed before. -/
inductive OptionCall
  | add (declaration : Declaration)
  | append (option : ConstructedOption)

namespace OptionCall

/-- The option that a call offers, if it can be constructed. -/
def option : OptionCall → Except Error Descriptor
  | add declaration => declaration.check
  | append option => .ok option.descriptor

/-- No name of an option that one call offers is a name of an option that the other offers. -/
def Distinct (first second : OptionCall) : Prop :=
  ∀ descriptor other, first.option = .ok descriptor → second.option = .ok other →
    descriptor.Distinct other

theorem Distinct.symm {first second : OptionCall} (distinct : first.Distinct second) :
    second.Distinct first :=
  fun descriptor other offered otherOffered =>
    (distinct other descriptor otherOffered offered).symm

/-- An option that a call offers has been declared. -/
theorem exists_check_of_option
    {call : OptionCall}
    {descriptor : Descriptor}
    (offered : call.option = .ok descriptor) :
    ∃ declaration : Declaration, declaration.check = .ok descriptor := by
  cases call with
  | add declaration => exact ⟨declaration, offered⟩
  | append option =>
      cases offered
      exact option.declared

end OptionCall

namespace OptionTable

variable {table after : OptionTable} {descriptor : Descriptor} {calls : List OptionCall}

/-- The table after a call, unless it is refused. -/
def call (table : OptionTable) : OptionCall → Except Error OptionTable
  | .add declaration => table.add (.declared declaration)
  | .append option => table.append (.item option.descriptor)

/-! ## One call -/

/-- A call inserts the option that it offers. -/
theorem call_eq_bind (table : OptionTable) (offer : OptionCall) :
    table.call offer = offer.option.bind table.insert := by
  cases offer with
  | append option => rfl
  | add declaration =>
      have added : table.call (.add declaration) =
          (declaration.check.map Offered.item).bind table.append := rfl
      rw [added, OptionCall.option]
      cases declaration.check <;> rfl

theorem insert_eq_ok_iff :
    table.insert descriptor = .ok after ↔
      checkNames descriptor table.items = .ok () ∧ after = ⟨table.items ++ [descriptor]⟩ := by
  unfold insert
  cases checkNames descriptor table.items <;> simp [Except.map, eq_comm]

/-- A table to which an option is added that has been declared is built. -/
theorem Built.insert
    (built : Built table)
    (declared : ∃ declaration : Declaration, declaration.check = .ok descriptor)
    (inserted : table.insert descriptor = .ok after) :
    Built after := by
  obtain ⟨declaration, accepted⟩ := declared
  have added : table.add (.declared declaration) = .ok after := by
    rw [← inserted, OptionTable.add, OptionEntry.check, accepted]
    rfl
  exact built.add added

/-- A call to a built table is accepted when its option can be constructed and shares no name with
those that are held, behind which it is put. -/
theorem Built.call_eq_ok_iff (built : Built table) (offer : OptionCall) :
    table.call offer = .ok after ↔
      ∃ descriptor, offer.option = .ok descriptor ∧
        (∀ held ∈ table.items, descriptor.Distinct held) ∧
        after = ⟨table.items ++ [descriptor]⟩ := by
  rw [call_eq_bind]
  cases offered : offer.option with
  | error error => simp [Except.bind]
  | ok descriptor =>
      obtain ⟨declaration, declared⟩ := OptionCall.exists_check_of_option offered
      have checked := Declaration.checked_of_check declared
      have inserted : table.insert descriptor = .ok after ↔
          (∀ held ∈ table.items, descriptor.Distinct held) ∧
            after = ⟨table.items ++ [descriptor]⟩ := by
        rw [insert_eq_ok_iff, checkNames_eq_ok_iff checked built.checked]
      simpa [Except.bind] using inserted

theorem Built.call
    {offer : OptionCall}
    (built : Built table)
    (accepted : table.call offer = .ok after) :
    Built after := by
  rw [call_eq_bind] at accepted
  obtain ⟨descriptor, offered, inserted⟩ := exists_of_bind_eq_ok accepted
  exact built.insert (OptionCall.exists_check_of_option offered) inserted

/-! ## Several calls -/

/-- A table is built by calls, whichever of them are refused. -/
theorem built_attemptAll (built : Built table) (calls : List OptionCall) :
    Built (attemptAll call table calls) :=
  attemptAll_keeps built (fun _ _ _ before accepted => before.call accepted) calls

/-- The options of the accepted calls follow those that were held before. -/
theorem map_option_acceptedAmong (built : Built table) (calls : List OptionCall) :
    table.items.map .ok ++ (acceptedAmong OptionTable.call table calls).map OptionCall.option =
      (attemptAll OptionTable.call table calls).items.map .ok := by
  induction calls generalizing table with
  | nil => simp
  | cons offer rest hypothesis =>
      rw [attemptAll_cons]
      cases outcome : table.call offer with
      | error error =>
          rw [acceptedAmong_cons_of_error outcome, attempt_of_error outcome]
          exact hypothesis built
      | ok after =>
          rw [acceptedAmong_cons_of_ok outcome, attempt_of_ok outcome,
            ← hypothesis (built.call outcome)]
          obtain ⟨descriptor, offered, _, rfl⟩ := (built.call_eq_ok_iff offer).mp outcome
          simp [offered]

/-- Calls are accepted one after another when each of them offers an option that shares no name with
those that are held, and no two of them offer options that share one. -/
theorem Built.exists_foldlM_call_iff (built : Built table) :
    (∃ after, calls.foldlM OptionTable.call table = .ok after) ↔
      (∀ offer ∈ calls, ∃ descriptor, offer.option = .ok descriptor ∧
          ∀ held ∈ table.items, descriptor.Distinct held) ∧
        calls.Pairwise OptionCall.Distinct := by
  induction calls generalizing table with
  | nil => simp [pure, Except.pure]
  | cons offer rest hypothesis =>
      -- An accepted option joins those that are held, over which the induction is general.
      rw [List.forall_mem_cons, List.pairwise_cons, List.foldlM_cons]
      constructor
      · rintro ⟨after, accepted⟩
        obtain ⟨next, called, following⟩ := exists_of_bind_eq_ok accepted
        have others := (hypothesis (built.call called)).mp ⟨after, following⟩
        obtain ⟨descriptor, offered, free, rfl⟩ := (built.call_eq_ok_iff offer).mp called
        simp only [List.forall_mem_append, List.forall_mem_singleton] at others
        refine ⟨⟨⟨descriptor, offered, free⟩, ?_⟩, ?_, others.2⟩
        · intro later member
          obtain ⟨other, otherOffered, held, _⟩ := others.1 later member
          exact ⟨other, otherOffered, held⟩
        · intro later member first second firstOffered secondOffered
          obtain ⟨other, otherOffered, _, distinct⟩ := others.1 later member
          cases offered.symm.trans firstOffered
          cases otherOffered.symm.trans secondOffered
          exact distinct.symm
      · rintro ⟨⟨⟨descriptor, offered, free⟩, others⟩, apart, pairwise⟩
        have called := (built.call_eq_ok_iff offer).mpr ⟨descriptor, offered, free, rfl⟩
        rw [called]
        apply (hypothesis (built.call called)).mpr
        refine ⟨?_, pairwise⟩
        intro later member
        obtain ⟨other, otherOffered, held⟩ := others later member
        refine ⟨other, otherOffered, List.forall_mem_append.mpr ⟨held, ?_⟩⟩
        rw [List.forall_mem_singleton]
        exact (apart later member descriptor other offered otherOffered).symm

/-- Calls that are all accepted in one order are all accepted in any other. -/
theorem acceptedAmong_eq_self_of_perm
    {others : List OptionCall}
    (permuted : calls.Perm others)
    (whole : acceptedAmong OptionTable.call {} calls = calls) :
    acceptedAmong OptionTable.call {} others = others := by
  rw [acceptedAmong_eq_self_iff, Built.empty.exists_foldlM_call_iff] at whole ⊢
  obtain ⟨constructed, distinct⟩ := whole
  refine ⟨?_, distinct.perm permuted OptionCall.Distinct.symm⟩
  intro offer member
  exact constructed offer (permuted.mem_iff.mpr member)

/-- Two descriptors of a built table have different long names and different short names, unless
these are empty. -/
theorem Built.pairwise_names_ne (built : Built table) :
    table.items.Pairwise fun first second =>
      (first.longName ≠ .str [] → first.longName ≠ second.longName) ∧
        (first.shortName ≠ .str [] → first.shortName ≠ second.shortName) := by
  refine built.distinct.imp_of_mem ?_
  rintro first second member otherMember ⟨long, short⟩
  have checked := built.checked first member
  have otherChecked := built.checked second otherMember
  rw [checked.longName_eq, checked.shortName_eq, otherChecked.longName_eq,
    otherChecked.shortName_eq]
  simpa using And.intro long short

/-- After any calls, some accepted and some refused, a table holds the options of the accepted ones
in the order of the calls. A call that is refused leaves it as it is, and names that are not empty
are not shared by two of its options. Calls that are all accepted are all accepted in any other
order. -/
theorem items_of_calls (calls : List OptionCall) :
    let table := attemptAll call {} calls
    (acceptedAmong call {} calls).map OptionCall.option = table.items.map .ok ∧
      (∀ offer error, table.call offer = .error error →
        attemptAll call {} (calls ++ [offer]) = table) ∧
      (table.items.Pairwise fun first second =>
        (first.longName ≠ .str [] → first.longName ≠ second.longName) ∧
          (first.shortName ≠ .str [] → first.shortName ≠ second.shortName)) ∧
      ∀ others, calls.Perm others → acceptedAmong call {} calls = calls →
        acceptedAmong call {} others = others := by
  intro table
  refine ⟨map_option_acceptedAmong .empty calls, ?_, ?_, ?_⟩
  · intro offer error refused
    exact attemptAll_concat_of_error refused
  · exact (built_attemptAll .empty calls).pairwise_names_ne
  · intro others permuted whole
    exact acceptedAmong_eq_self_of_perm permuted whole

/-- An option that is declared in place and one that is appended, each accepted before and behind
the other; a second option with the short name of the first one is refused. -/
theorem items_of_calls_of_shared_short_name :
    let first : Declaration := { names := .str ['a', ',', 'f'] }
    let clashing : Declaration := { names := .str ['c', ',', 'f'] }
    let appended : ConstructedOption :=
      ⟨⟨.str ['b'], .str [], .str [], .toggle, .unset, .bool false⟩,
        { names := .str ['b'] }, by cbv⟩
    let calls : List OptionCall := [.add first, .append appended]
    let table := attemptAll call {} calls
    table.items.map (·.longName) = [.str ['a'], .str ['b']] ∧
      attemptAll call {} (calls ++ [.add clashing]) = table ∧
      acceptedAmong call {} [.append appended, .add first] = [.append appended, .add first] := by
  intro first clashing appended calls table
  obtain ⟨_, refusals, _, reordered⟩ := items_of_calls calls
  have whole : acceptedAmong call {} calls = calls := by
    apply acceptedAmong_eq_self_iff.mpr
    exact ⟨table, by with_unfolding_all rfl⟩
  have refused : table.call (.add clashing) = .error (.shortNameInUse (.str ['f'])) := by
    with_unfolding_all rfl
  exact ⟨by with_unfolding_all rfl, refusals _ _ refused, reordered _ (List.Perm.swap _ _ _) whole⟩

end OptionTable
end Handbook
