import FrameStream.Relay.Script

/-!
# Running scripts

What a run makes of the parts of a script.  Pushes that the sink takes all come first in what it got, and a sink that
takes everything gets whatever the script pushes on its way without a refusal.
-/

namespace FrameStream

namespace Script

variable {σ α β : Type}

/-! ### Notices -/

@[simp] theorem noteAll_nil (s : Script σ α) : noteAll [] s = s := rfl

@[simp] theorem noteAll_cons (n : Notice) (ns : List Notice) (s : Script σ α) :
    noteAll (n :: ns) s = note n (noteAll ns s) := rfl

theorem run_noteAll (accepts : Nat → Bool) (attempt : Nat) (ns : List Notice) (s : Script σ α) :
    (noteAll ns s).run accepts attempt =
      { s.run accepts attempt with notices := ns ++ (s.run accepts attempt).notices } := by
  induction ns with
  | nil => rfl
  | cons n ns ih => simp [run, ih]

/-! ### Pushes -/

@[simp] theorem pushAll_nil (refused s : Script σ α) : pushAll [] refused s = s := rfl

@[simp] theorem pushAll_cons (e : Envelope) (es : List Envelope) (refused s : Script σ α) :
    pushAll (e :: es) refused s = push e refused (pushAll es refused s) := rfl

/-- Pushes that are all taken. -/
theorem run_pushAll {accepts : Nat → Bool} {attempt : Nat} {es : List Envelope}
    (refused s : Script σ α) (h : ∀ i < es.length, accepts (attempt + i)) :
    (pushAll es refused s).run accepts attempt =
      { s.run accepts (attempt + es.length) with
        pushed := es ++ (s.run accepts (attempt + es.length)).pushed } := by
  induction es generalizing attempt with
  | nil => rfl
  | cons e es ih =>
    have head : accepts attempt := h 0 (by simp)
    have tail : ∀ i < es.length, accepts (attempt + 1 + i) := fun i hi => by
      have := h (i + 1) (by simp; omega)
      rwa [← Nat.add_assoc, Nat.add_right_comm] at this
    have place : attempt + 1 + es.length = attempt + (es.length + 1) := by omega
    simp [run, head, ih tail, place]

/-! ### Open sinks -/

@[simp] theorem runOpen_done (result : Except Refusal α) (state : σ) :
    (done result state).runOpen = ⟨result, state, [], []⟩ := rfl

theorem runOpen_noteAll (ns : List Notice) (s : Script σ α) :
    (noteAll ns s).runOpen = { s.runOpen with notices := ns ++ s.runOpen.notices } :=
  run_noteAll _ _ _ _

/-- An open sink does not count. -/
theorem run_open (attempt : Nat) (s : Script σ α) : s.run (fun _ => true) attempt = s.runOpen := by
  unfold runOpen
  induction s generalizing attempt with
  | done => rfl
  | push e refused next _ ih => simp [run, ih (attempt + 1), ih (0 + 1)]
  | note n next ih => simp [run, ih attempt]

theorem runOpen_pushAll (es : List Envelope) (refused s : Script σ α) :
    (pushAll es refused s).runOpen = { s.runOpen with pushed := es ++ s.runOpen.pushed } := by
  have h : (pushAll es refused s).run (fun _ => true) 0 = _ := run_pushAll refused s fun _ _ => rfl
  rw [run_open, run_open] at h
  exact h

/-! ### Changed results -/

theorem run_map (f : α → β) (accepts : Nat → Bool) (attempt : Nat) (s : Script σ α) :
    (s.map f).run accepts attempt =
      ⟨f <$> (s.run accepts attempt).result, (s.run accepts attempt).state,
        (s.run accepts attempt).pushed, (s.run accepts attempt).notices⟩ := by
  induction s generalizing attempt with
  | done => rfl
  | push e refused next stopped ih =>
    simp only [map, run]
    split
    · rw [ih]
    · rw [stopped]
  | note n next ih => simp only [map, run, ih]

end Script

end FrameStream
