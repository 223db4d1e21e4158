import FrameStream.Relay.Script.Lemmas

/-!
# What a script hands over

A run of a script ends in one of the states that the script names (`state_run`), whatever the sink refuses.  The
sink is offered the pushes up to the first one it refuses, that one included; so a list of envelopes is pushed as a
whole, and the script goes on, or the run ends at one of them (`run_pushAll_cases`).
-/

namespace FrameStream.Script

variable {σ α β : Type} {P : σ → Prop}

/-! ### Changed results -/

theorem map_noteAll (f : α → β) (ns : List Notice) (s : Script σ α) :
    (noteAll ns s).map f = noteAll ns (s.map f) := by
  induction ns with
  | nil => rfl
  | cons n ns ih => exact congrArg (note n) ih

theorem map_pushAll (f : α → β) (es : List Envelope) (refused s : Script σ α) :
    (pushAll es refused s).map f = pushAll es (refused.map f) (s.map f) := by
  induction es with
  | nil => rfl
  | cons e es ih => exact congrArg (push e (refused.map f)) ih

/-! ### States -/

/-- Every state that a run of the script can end in has the property. -/
def Leaves (P : σ → Prop) : Script σ α → Prop
  | done _ state => P state
  | push _ refused next => refused.Leaves P ∧ next.Leaves P
  | note _ next => next.Leaves P

theorem state_run {s : Script σ α} (h : s.Leaves P) (accepts : Nat → Bool) (attempt : Nat) :
    P (s.run accepts attempt).state := by
  induction s generalizing attempt with
  | done => exact h
  | push e refused next stopped ih =>
    rw [run]
    split
    · exact ih h.2 (attempt + 1)
    · exact stopped h.1 (attempt + 1)
  | note n next ih => exact ih h attempt

theorem leaves_noteAll {ns : List Notice} {s : Script σ α} (h : s.Leaves P) : (noteAll ns s).Leaves P := by
  induction ns with
  | nil => exact h
  | cons n ns ih => exact ih

theorem leaves_sinkClosed {state : σ} (h : P state) : (sinkClosed state : Script σ α).Leaves P := h

theorem leaves_pushAll {es : List Envelope} {refused s : Script σ α} (stop : refused.Leaves P) (h : s.Leaves P) :
    (pushAll es refused s).Leaves P := by
  induction es with
  | nil => exact h
  | cons e es ih => exact ⟨stop, ih⟩

theorem leaves_map (f : α → β) {s : Script σ α} (h : s.Leaves P) : (s.map f).Leaves P := by
  induction s with
  | done => exact h
  | push e refused next stopped ih => exact ⟨stopped h.1, ih h.2⟩
  | note n next ih => exact ih h

/-! ### Offers -/

/-- The envelopes that the sink is offered, whether it takes them or not. -/
def offered (accepts : Nat → Bool) : (attempt : Nat) → Script σ α → List Envelope
  | _, done _ _ => []
  | attempt, push e refused next =>
    e :: if accepts attempt then next.offered accepts (attempt + 1) else refused.offered accepts (attempt + 1)
  | attempt, note _ next => next.offered accepts attempt

theorem offered_noteAll (accepts : Nat → Bool) (attempt : Nat) (ns : List Notice) (s : Script σ α) :
    (noteAll ns s).offered accepts attempt = s.offered accepts attempt := by
  induction ns with
  | nil => rfl
  | cons n ns ih => exact ih

/-- What the sink takes it was offered. -/
theorem pushed_subset_offered (accepts : Nat → Bool) (attempt : Nat) (s : Script σ α) :
    (s.run accepts attempt).pushed ⊆ s.offered accepts attempt := by
  induction s generalizing attempt with
  | done result state => exact List.nil_subset _
  | note n next ih => exact ih attempt
  | push e refused next stopped ih =>
    rw [run, offered]
    split
    · exact List.cons_subset_cons e (ih (attempt + 1))
    · exact List.subset_cons_of_subset e (stopped (attempt + 1))

/-- Either the sink takes all of the envelopes, and the script goes on, or it refuses one of them, and the step
ends. -/
theorem run_pushAll_cases (accepts : Nat → Bool) (attempt : Nat) (es : List Envelope) (state : σ)
    (s : Script σ α) :
    ((pushAll es (sinkClosed state) s).run accepts attempt =
        { s.run accepts (attempt + es.length) with
          pushed := es ++ (s.run accepts (attempt + es.length)).pushed } ∧
      (pushAll es (sinkClosed state) s).offered accepts attempt = es ++ s.offered accepts (attempt + es.length)) ∨
    ∃ n, n < es.length ∧ accepts (attempt + n) = false ∧
      (pushAll es (sinkClosed state) s).run accepts attempt = ⟨.error .sinkClosed, state, es.take n, []⟩ ∧
      (pushAll es (sinkClosed state) s).offered accepts attempt = es.take (n + 1) := by
  induction es generalizing attempt with
  | nil => exact .inl ⟨rfl, rfl⟩
  | cons e es ih =>
    rw [pushAll_cons, run, offered]
    by_cases taken : accepts attempt
    · rw [if_pos taken, if_pos taken, List.length_cons,
        show attempt + (es.length + 1) = attempt + 1 + es.length by omega]
      rcases ih (attempt + 1) with ⟨went, offers⟩ | ⟨n, h, shut, went, offers⟩
      · left
        rw [went, offers]
        exact ⟨rfl, rfl⟩
      · right
        refine ⟨n + 1, by omega, by rw [← shut]; congr 1; omega, ?_, ?_⟩
        · rw [went]
          rfl
        · rw [offers]
          rfl
    · rw [if_neg taken, if_neg taken]
      exact .inr ⟨0, Nat.succ_pos _, Bool.eq_false_iff.2 taken, rfl, rfl⟩

end FrameStream.Script
