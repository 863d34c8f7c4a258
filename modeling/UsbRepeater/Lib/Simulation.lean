import UsbRepeater.Lib.Schedule

/-! Forward simulation between two labelled systems. A step of the concrete system is matched by a
schedule of the abstract one, which may be empty or have many steps; whole runs are matched then,
and what the matching steps meet, the matching run meets throughout. -/
namespace UsbRepeater.Schedule

variable {σ τ α β : Type*} {step : σ → α → Option σ} {next : τ → β → Option τ}

/-- `R` relates the states, `P` is assumed of the steps and `Q` proved of those that match them. -/
def Simulates (step : σ → α → Option σ) (next : τ → β → Option τ) (R : σ → τ → Prop)
    (P : σ → α → Prop) (Q : τ → β → Prop) : Prop :=
  ∀ s a t u, R s u → P s a → step s a = some t →
    ∃ bs v, exec next u bs = some v ∧ Always next Q u bs ∧ R t v

theorem Simulates.exec {R : σ → τ → Prop} {P : σ → α → Prop} {Q : τ → β → Prop}
    (hsim : Simulates step next R P Q) {s t : σ} {u : τ} {as : List α} (hR : R s u)
    (hP : Always step P s as) (h : exec step s as = some t) :
    ∃ bs v, Schedule.exec next u bs = some v ∧ Always next Q u bs ∧ R t v := by
  induction as generalizing s u with
  | nil =>
    obtain rfl : s = t := by simpa using h
    exact ⟨[], u, exec_nil u, trivial, hR⟩
  | cons a as ih =>
    obtain ⟨s', hs', hrest⟩ := exec_cons.1 h
    obtain ⟨bs, v, hv, hQ, hR'⟩ := hsim s a s' u hR hP.1 hs'
    obtain ⟨cs, w, hw, hQ', hR''⟩ := ih hR' (hP.2 s' hs') hrest
    exact ⟨bs ++ cs, w, exec_append.2 ⟨v, hv, hw⟩, hQ.append hv hQ', hR''⟩

section Match

variable {R : σ → τ → Prop} {Q : τ → β → Prop} {t : σ} {u v : τ}

theorem exists_exec_none (hR : R t u) :
    ∃ bs v, Schedule.exec next u bs = some v ∧ Always next Q u bs ∧ R t v :=
  ⟨[], u, exec_nil u, trivial, hR⟩

theorem exists_exec_one {b : β} (h : next u b = some v) (hQ : Q u b) (hR : R t v) :
    ∃ bs v, Schedule.exec next u bs = some v ∧ Always next Q u bs ∧ R t v :=
  ⟨[b], v, exec_cons.2 ⟨v, h, exec_nil v⟩, ⟨hQ, fun _ _ => trivial⟩, hR⟩

end Match

end UsbRepeater.Schedule
