import Handbook.Proofs.Checks

/-!
# Offers

A state to which items are offered one after another, some of them accepted and
some refused. A refused item leaves the state as it was, so a sequence of offers
leads to the same state as the accepted ones among them do alone.
-/

namespace Handbook

variable {State Item Error : Type} {accept : State → Item → Except Error State}
variable {state after : State} {offer : Item} {offers rest : List Item}

/-- The state after an offer; what is refused leaves it as it was. -/
def attempt (accept : State → Item → Except Error State) (state : State) (offer : Item) : State :=
  (accept state offer).toOption.getD state

/-- The state after several offers, the refused ones among them. -/
def attemptAll
    (accept : State → Item → Except Error State)
    (state : State)
    (offers : List Item) : State :=
  offers.foldl (attempt accept) state

/-- The offers that are accepted, each by the state that those before it have led to. -/
def acceptedAmong
    (accept : State → Item → Except Error State)
    (state : State) : List Item → List Item
  | [] => []
  | offer :: rest =>
      match accept state offer with
      | .ok after => offer :: acceptedAmong accept after rest
      | .error _ => acceptedAmong accept state rest

theorem attempt_of_ok (accepted : accept state offer = .ok after) :
    attempt accept state offer = after := by
  simp [attempt, accepted, Except.toOption]

theorem attempt_of_error
    {error : Error}
    (refused : accept state offer = .error error) :
    attempt accept state offer = state := by
  simp [attempt, refused, Except.toOption]

@[simp] theorem attemptAll_nil : attemptAll accept state [] = state := rfl

@[simp] theorem attemptAll_cons :
    attemptAll accept state (offer :: rest) =
      attemptAll accept (attempt accept state offer) rest := rfl

theorem attemptAll_append :
    attemptAll accept state (offers ++ rest) =
      attemptAll accept (attemptAll accept state offers) rest :=
  List.foldl_append

@[simp] theorem acceptedAmong_nil : acceptedAmong accept state [] = [] := rfl

theorem acceptedAmong_cons_of_ok (accepted : accept state offer = .ok after) :
    acceptedAmong accept state (offer :: rest) = offer :: acceptedAmong accept after rest := by
  simp [acceptedAmong, accepted]

theorem acceptedAmong_cons_of_error
    {error : Error}
    (refused : accept state offer = .error error) :
    acceptedAmong accept state (offer :: rest) = acceptedAmong accept state rest := by
  simp [acceptedAmong, refused]

/-- An offer that is refused at the end leaves the state as it was. -/
theorem attemptAll_concat_of_error
    {error : Error}
    (refused : accept (attemptAll accept state offers) offer = .error error) :
    attemptAll accept state (offers ++ [offer]) = attemptAll accept state offers := by
  rw [attemptAll_append, attemptAll_cons, attempt_of_error refused, attemptAll_nil]

/-- The accepted offers lead alone to the state that all offers lead to, and none of them is refused
on the way. -/
theorem foldlM_acceptedAmong
    (accept : State → Item → Except Error State)
    (state : State)
    (offers : List Item) :
    (acceptedAmong accept state offers).foldlM accept state =
      .ok (attemptAll accept state offers) := by
  induction offers generalizing state with
  | nil => rfl
  | cons offer rest hypothesis =>
      rw [attemptAll_cons]
      cases outcome : accept state offer with
      | ok after =>
          rw [acceptedAmong_cons_of_ok outcome, attempt_of_ok outcome, List.foldlM_cons, outcome]
          exact hypothesis after
      | error error =>
          rw [acceptedAmong_cons_of_error outcome, attempt_of_error outcome]
          exact hypothesis state

/-- What every accepted offer keeps holds after any number of offers. -/
theorem attemptAll_keeps
    {holds : State → Prop}
    (start : holds state)
    (kept : ∀ state offer after, holds state → accept state offer = .ok after → holds after)
    (offers : List Item) :
    holds (attemptAll accept state offers) :=
  foldlM_keeps start kept (foldlM_acceptedAmong accept state offers)

/-- All offers are accepted when they can be made without the first refusal ending them. -/
theorem acceptedAmong_eq_self_iff :
    acceptedAmong accept state offers = offers ↔
      ∃ after, offers.foldlM accept state = .ok after := by
  constructor
  · intro whole
    have reached := foldlM_acceptedAmong accept state offers
    rw [whole] at reached
    exact ⟨_, reached⟩
  · rintro ⟨after, reached⟩
    induction offers generalizing state with
    | nil => rfl
    | cons offer rest hypothesis =>
        rw [List.foldlM_cons] at reached
        obtain ⟨next, accepted, following⟩ := exists_of_bind_eq_ok reached
        rw [acceptedAmong_cons_of_ok accepted, hypothesis following]

end Handbook
