import Mathlib

/-! Schedules of a labelled system whose step function refuses disabled actions.
The system is a parameter: states, actions and the step function are arbitrary,
and one action of a schedule is one atomic step of one of its tasks. -/
namespace UsbRepeater.Schedule

variable {σ α τ : Type*}

/-- Run a schedule. A refused action refuses the whole schedule. -/
def exec (step : σ → α → Option σ) : σ → List α → Option σ
  | s, [] => some s
  | s, a :: as => (step s a).bind fun t => exec step t as

/-- Every action of the schedule meets `P` in the state it is taken from. -/
def Always (step : σ → α → Option σ) (P : σ → α → Prop) : σ → List α → Prop
  | _, [] => True
  | s, a :: as => P s a ∧ ∀ t, step s a = some t → Always step P t as

variable {step : σ → α → Option σ} {P Q : σ → α → Prop}

def decideAlways [∀ s a, Decidable (P s a)] :
    ∀ (s : σ) (as : List α), Decidable (Always step P s as)
  | _, [] => isTrue trivial
  | s, a :: as =>
    match h : step s a with
    | none => decidable_of_iff (P s a) (by simp [Always, h])
    | some t =>
      have : Decidable (Always step P t as) := decideAlways t as
      decidable_of_iff (P s a ∧ Always step P t as) (by simp [Always, h])

instance [∀ s a, Decidable (P s a)] (s : σ) (as : List α) : Decidable (Always step P s as) :=
  decideAlways s as

@[simp] theorem exec_nil (s : σ) : exec step s [] = some s := rfl

theorem exec_cons {s u : σ} {a : α} {as : List α} :
    exec step s (a :: as) = some u ↔ ∃ t, step s a = some t ∧ exec step t as = some u := by
  simp [exec, Option.bind_eq_some_iff]

theorem exec_append {s u : σ} {as bs : List α} :
    exec step s (as ++ bs) = some u ↔
      ∃ t, exec step s as = some t ∧ exec step t bs = some u := by
  induction as generalizing s with
  | nil => simp
  | cons a as ih =>
    simp only [List.cons_append, exec_cons, ih]
    constructor
    · rintro ⟨t, ha, v, hv, hu⟩
      exact ⟨v, ⟨t, ha, hv⟩, hu⟩
    · rintro ⟨v, ⟨t, ha, hv⟩, hu⟩
      exact ⟨t, ha, v, hv, hu⟩

theorem exec_check {p : σ → σ → Bool} {s : σ} {as bs : List α}
    (h : ((exec step s as).bind fun t => (exec step t bs).map (p t)) = some true) :
    ∃ t u, exec step s as = some t ∧ exec step t bs = some u ∧ p t u = true := by
  obtain ⟨t, ht, hmap⟩ := Option.bind_eq_some_iff.1 h
  obtain ⟨u, hu, hp⟩ := Option.map_eq_some_iff.1 hmap
  exact ⟨t, u, ht, hu, hp⟩

theorem Always.mono {s : σ} {as : List α} (hPQ : ∀ s a, P s a → Q s a)
    (h : Always step P s as) : Always step Q s as := by
  induction as generalizing s with
  | nil => trivial
  | cons a as ih => exact ⟨hPQ s a h.1, fun t ht => ih (h.2 t ht)⟩

theorem Always.and {s : σ} {as : List α} (hP : Always step P s as)
    (hQ : Always step Q s as) : Always step (fun s a => P s a ∧ Q s a) s as := by
  induction as generalizing s with
  | nil => trivial
  | cons a as ih => exact ⟨⟨hP.1, hQ.1⟩, fun t ht => ih (hP.2 t ht) (hQ.2 t ht)⟩

theorem Always.of_forall_mem {s : σ} {as : List α} (h : ∀ a ∈ as, ∀ s, P s a) :
    Always step P s as := by
  induction as generalizing s with
  | nil => trivial
  | cons a as ih =>
    exact ⟨h a List.mem_cons_self s, fun t _ => ih fun b hb => h b (List.mem_cons_of_mem a hb)⟩

theorem Always.of_forall (h : ∀ s a, P s a) (s : σ) (as : List α) : Always step P s as :=
  .of_forall_mem fun a _ s => h s a

theorem Always.append {s t : σ} {as bs : List α} (ha : Always step P s as)
    (he : exec step s as = some t) (hb : Always step P t bs) : Always step P s (as ++ bs) := by
  induction as generalizing s with
  | nil => simp only [exec_nil, Option.some.injEq] at he; subst t; exact hb
  | cons a as ih =>
    obtain ⟨u, hu, hrest⟩ := exec_cons.1 he
    refine ⟨ha.1, fun v hv => ?_⟩
    rw [hu, Option.some.injEq] at hv
    subst v
    exact ih (ha.2 u hu) hrest

theorem Always.left {s : σ} {as bs : List α} (h : Always step P s (as ++ bs)) :
    Always step P s as := by
  induction as generalizing s with
  | nil => trivial
  | cons a as ih => exact ⟨h.1, fun t ht => ih (h.2 t ht)⟩

theorem Always.right {s t : σ} {as bs : List α} (h : Always step P s (as ++ bs))
    (he : exec step s as = some t) : Always step P t bs := by
  induction as generalizing s with
  | nil =>
    obtain rfl : s = t := by simpa using he
    exact h
  | cons a as ih =>
    obtain ⟨u, hu, hrest⟩ := exec_cons.1 he
    exact ih (h.2 u hu) hrest

/-- A run that is not admitted has a first part, and then a step that is not. -/
theorem exists_of_not_always {s t : σ} {as : List α} (h : ¬ Always step P s as)
    (he : exec step s as = some t) : ∃ pre a post u v, exec step s pre = some u ∧ ¬ P u a ∧
      step u a = some v ∧ exec step v post = some t := by
  induction as generalizing s with
  | nil => exact absurd trivial h
  | cons a as ih =>
    obtain ⟨u, hu, hrest⟩ := exec_cons.1 he
    by_cases hp : P s a
    · have htail : ¬ Always step P u as := by
        intro hall
        refine h ⟨hp, fun v hv => ?_⟩
        obtain rfl : u = v := Option.some.inj (hu.symm.trans hv)
        exact hall
      obtain ⟨pre, b, post, v, w, hpre, hrest⟩ := ih htail hrest
      exact ⟨a :: pre, b, post, v, w, exec_cons.2 ⟨u, hu, hpre⟩, hrest⟩
    · exact ⟨[], a, as, s, u, exec_nil s, hp, hu, hrest⟩

/-- The induction rule: what each admitted step keeps, each admitted run keeps. -/
theorem exec_invariant {I : σ → Prop}
    (hstep : ∀ s a t, I s → P s a → step s a = some t → I t)
    {s t : σ} {as : List α} (hI : I s) (hP : Always step P s as)
    (he : exec step s as = some t) : I t := by
  induction as generalizing s with
  | nil => simp only [exec_nil, Option.some.injEq] at he; exact he ▸ hI
  | cons a as ih =>
    obtain ⟨u, hu, hrest⟩ := exec_cons.1 he
    exact ih (hstep s a u hI hP.1 hu) (hP.2 u hu) hrest

/-- A run is admitted, or it ends where a step that is not admitted leads and admitted steps of
another kind do not leave. -/
theorem always_or_lost {D : σ → Prop} (hlost : ∀ s a t, ¬ P s a → step s a = some t → D t)
    (hkeep : ∀ s a t, D s → Q s a → step s a = some t → D t)
    {s t : σ} {as : List α} (hQ : Always step Q s as) (he : exec step s as = some t) :
    Always step P s as ∨ D t := by
  induction as generalizing s with
  | nil => exact .inl trivial
  | cons a as ih =>
    obtain ⟨u, hu, hrest⟩ := exec_cons.1 he
    by_cases hp : P s a
    · refine (ih (hQ.2 u hu) hrest).imp_left fun hall => ⟨hp, fun v hv => ?_⟩
      obtain rfl : u = v := Option.some.inj (hu.symm.trans hv)
      exact hall
    · exact .inr (exec_invariant hkeep (hlost s a u hp hu) (hQ.2 u hu) hrest)

theorem exec_invariant_all {I : σ → Prop} (hstep : ∀ s a t, I s → step s a = some t → I t)
    {s t : σ} {as : List α} (hI : I s) (he : exec step s as = some t) : I t :=
  exec_invariant (P := fun _ _ => True) (fun s a t h _ => hstep s a t h) hI
    (Always.of_forall (fun _ _ => trivial) s as) he

/-- A proved invariant may be assumed of every state a schedule passes through. -/
theorem Always.with_invariant {I : σ → Prop}
    (hstep : ∀ s a t, I s → P s a → step s a = some t → I t)
    {s : σ} {as : List α} (hI : I s) (hP : Always step P s as) :
    Always step (fun s a => I s ∧ P s a) s as := by
  induction as generalizing s with
  | nil => trivial
  | cons a as ih =>
    exact ⟨⟨hI, hP.1⟩, fun t ht => ih (hstep s a t hI hP.1 ht) (hP.2 t ht)⟩

theorem Always.of_taken {I : σ → Prop}
    (hinv : ∀ s a t, I s → P s a → step s a = some t → I t)
    (htaken : ∀ s a t, I s → P s a → step s a = some t → Q s a)
    {s t : σ} {as : List α} (hI : I s) (hP : Always step P s as)
    (he : exec step s as = some t) : Always step Q s as := by
  induction as generalizing s with
  | nil => trivial
  | cons a as ih =>
    obtain ⟨u, hu, hrest⟩ := exec_cons.1 he
    refine ⟨htaken s a u hI hP.1 hu, fun v hv => ?_⟩
    obtain rfl : u = v := Option.some.inj (hu.symm.trans hv)
    exact ih (hinv s a u hI hP.1 hu) (hP.2 u hu) hrest

/-- A quantity that never decreases, and that grows at exactly the steps that miss `P`,
ends where it started exactly when every step of the run meets `P`. -/
theorem always_iff_of_monotone {I : σ → Prop} {m : σ → ℕ}
    (hinv : ∀ s a t, I s → step s a = some t → I t)
    (hgood : ∀ s a t, I s → step s a = some t → P s a → m t = m s)
    (hbad : ∀ s a t, I s → step s a = some t → ¬ P s a → m s < m t)
    {s t : σ} {as : List α} (hI : I s) (he : exec step s as = some t) :
    Always step P s as ↔ m t = m s := by
  have hle : ∀ s a t, I s → step s a = some t → m s ≤ m t := fun s a t hs h => by
    by_cases hp : P s a
    · exact (hgood s a t hs h hp).ge
    · exact (hbad s a t hs h hp).le
  have hrun : ∀ {s t : σ} {as : List α}, I s → exec step s as = some t → m s ≤ m t := by
    intro s t as hs h
    have hboth := exec_invariant_all (I := fun u => I u ∧ m s ≤ m u)
      (fun u a v hu huv => ⟨hinv u a v hu.1 huv, hu.2.trans (hle u a v hu.1 huv)⟩)
      ⟨hs, le_rfl⟩ h
    exact hboth.2
  induction as generalizing s with
  | nil => simp only [exec_nil, Option.some.injEq] at he; subst t; simp [Always]
  | cons a as ih =>
    obtain ⟨u, hu, hrest⟩ := exec_cons.1 he
    have hone : Always step P s (a :: as) ↔ P s a ∧ Always step P u as := by
      simp [Always, hu]
    have hIu := hinv s a u hI hu
    have htail : Always step P u as ↔ m t = m u := ih hIu hrest
    rw [hone, htail]
    constructor
    · rintro ⟨hp, h⟩
      rw [h, hgood s a u hI hu hp]
    · intro h
      have hut := hrun hIu hrest
      by_cases hp : P s a
      · exact ⟨hp, by rw [h, hgood s a u hI hu hp]⟩
      · have := hbad s a u hI hu hp
        omega

end UsbRepeater.Schedule
