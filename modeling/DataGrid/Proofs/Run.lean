/-!
# Runs of a step function

What is true of the runs of any step function: a fact that holds after a run and not before it comes
about at one of the steps (`exists_step`), and steps that use up what no step brings back are one at
most (`count_le`, `count_le_one`).
-/

namespace DataGrid.Run

variable {σ ε : Type} (step : σ → ε → σ) {s : σ} {es : List ε}

/-- How many steps of a run pass a test with the state they start from. -/
def count (test : σ → ε → Bool) (s : σ) : List ε → Nat
  | [] => 0
  | e :: es => (if test s e then 1 else 0) + count test (step s e) es

theorem exists_step {P : σ → Prop} (before : ¬ P s) (after : P (es.foldl step s)) :
    ∃ pre e post, es = pre ++ e :: post ∧ ¬ P (pre.foldl step s) ∧
      P (step (pre.foldl step s) e) := by
  induction es generalizing s with
  | nil => exact absurd after before
  | cons e es ih =>
    by_cases now : P (step s e)
    · exact ⟨[], e, es, rfl, before, now⟩
    · obtain ⟨pre, f, post, rfl, no, yes⟩ := ih now after
      exact ⟨e :: pre, f, post, rfl, no, yes⟩

/-- Under an invariant, steps that use up what no step brings back: one at most, and none when it is
used up. -/
theorem count_le {test : σ → ε → Bool} {I F : σ → Prop} (keeps : ∀ s e, I s → I (step s e))
    (uses : ∀ s e, I s → test s e = true → F s ∧ ¬ F (step s e))
    (spent : ∀ s e, I s → ¬ F s → ¬ F (step s e)) {s : σ} (h : I s) (es : List ε) :
    count step test s es ≤ 1 ∧ (¬ F s → count step test s es = 0) := by
  have none (s : σ) (es : List ε) (h : I s) (used : ¬ F s) : count step test s es = 0 := by
    induction es generalizing s with
    | nil => rfl
    | cons e es ih =>
      have fails : test s e ≠ true := fun passes => used (uses s e h passes).1
      simp [count, fails, ih _ (keeps s e h) (spent s e h used)]
  refine ⟨?_, none s es h⟩
  induction es generalizing s with
  | nil => exact Nat.zero_le 1
  | cons e es ih =>
    by_cases passes : test s e = true
    · simp [count, passes, none _ es (keeps s e h) (uses s e h passes).2]
    · simpa [count, passes] using ih (keeps s e h)

theorem count_le_one {test : σ → ε → Bool} {F : σ → Prop}
    (uses : ∀ s e, test s e = true → F s ∧ ¬ F (step s e))
    (spent : ∀ s e, ¬ F s → ¬ F (step s e)) (s : σ) (es : List ε) :
    count step test s es ≤ 1 :=
  (count_le step (I := fun _ => True) (fun _ _ _ => trivial) (fun s e _ => uses s e)
    (fun s e _ => spent s e) trivial es).1

end DataGrid.Run
