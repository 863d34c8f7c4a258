import UsbRepeater.Lib.Schedule

/-! Two runs of one system that a view of its states cannot tell apart. A view of the states and
one of the actions are respected if a step, seen through them, is the step of what is seen; then
schedules that look alike lead from states that look alike to states that look alike. -/
namespace UsbRepeater.TwoRuns

open Schedule

variable {σ α : Type*} {step : σ → α → Option σ} {view : σ → σ} {input : α → α}

/-- The step of the viewed state, under the viewed action, looks like the step itself. -/
def Respects (step : σ → α → Option σ) (view : σ → σ) (input : α → α) (s : σ) (a : α) : Prop :=
  (step (view s) (input a)).map view = (step s a).map view

theorem Respects.step_eq {s s' : σ} {a a' : α} (h : Respects step view input s a)
    (h' : Respects step view input s' a') (hview : view s = view s')
    (hinput : input a = input a') : (step s a).map view = (step s' a').map view := by
  rw [Respects, hview, hinput] at h
  exact h.symm.trans h'

/-- The rule for two runs: they are refused together, or end in states that look alike. -/
theorem exec_eq {I : σ → Prop} {P : σ → α → Prop}
    (hinv : ∀ s a t, I s → step s a = some t → I t)
    (hstep : ∀ s a, I s → P s a → Respects step view input s a) {s s' : σ} {as as' : List α}
    (hI : I s) (hI' : I s') (hview : view s = view s') (hinput : as.map input = as'.map input)
    (hP : Always step P s as) (hP' : Always step P s' as') :
    (exec step s as).map view = (exec step s' as').map view := by
  induction as generalizing s s' as' with
  | nil =>
    cases as' with
    | nil => exact congrArg some hview
    | cons a' as' => cases hinput
  | cons a as ih =>
    cases as' with
    | nil => cases hinput
    | cons a' as' =>
      obtain ⟨hhead, htail⟩ := List.cons.inj hinput
      have hone := (hstep s a hI hP.1).step_eq (hstep s' a' hI' hP'.1) hview hhead
      simp only [exec]
      cases hs : step s a with
      | none =>
        rw [hs, Option.map_none] at hone
        rw [Option.map_eq_none_iff.1 hone.symm]
        rfl
      | some t =>
        rw [hs, Option.map_some] at hone
        obtain ⟨t', hs', hview'⟩ := Option.map_eq_some_iff.1 hone.symm
        rw [hs', Option.bind_some, Option.bind_some]
        exact ih (hinv s a t hI hs) (hinv s' a' t' hI' hs') hview'.symm htail (hP.2 t hs)
          (hP'.2 t' hs')

end UsbRepeater.TwoRuns
