import UsbRepeater.Lib.Schedule

/-! A history variable beside a labelled system: an observer notes something at every step taken.
It refuses nothing, so the runs of the system are those of the watched one, and what it has noted
may be used in conditions and invariants. -/
namespace UsbRepeater.Schedule

variable {σ α μ : Type*} {step : σ → α → Option σ} {note : σ → α → μ → μ}

/-- The system with its observer. `note` sees the state a step is taken from. -/
def watch (step : σ → α → Option σ) (note : σ → α → μ → μ) (x : σ × μ) (a : α) : Option (σ × μ) :=
  (step x.1 a).map fun t => (t, note x.1 a x.2)

theorem watch_eq_some {x y : σ × μ} {a : α} :
    watch step note x a = some y ↔ step x.1 a = some y.1 ∧ y.2 = note x.1 a x.2 := by
  obtain ⟨t, m⟩ := y
  simp only [watch, Option.map_eq_some_iff, Prod.mk.injEq]
  constructor
  · rintro ⟨u, hu, rfl, rfl⟩
    exact ⟨hu, rfl⟩
  · rintro ⟨hu, rfl⟩
    exact ⟨t, hu, rfl, rfl⟩

theorem exec_of_watch {x y : σ × μ} {as : List α} (h : exec (watch step note) x as = some y) :
    exec step x.1 as = some y.1 := by
  induction as generalizing x with
  | nil =>
    obtain rfl : x = y := by simpa using h
    rfl
  | cons a as ih =>
    obtain ⟨z, hz, hrest⟩ := exec_cons.1 h
    exact exec_cons.2 ⟨z.1, (watch_eq_some.1 hz).1, ih hrest⟩

theorem exists_watch {s t : σ} {as : List α} (h : exec step s as = some t) (m : μ) :
    ∃ m', exec (watch step note) (s, m) as = some (t, m') := by
  induction as generalizing s m with
  | nil =>
    obtain rfl : s = t := by simpa using h
    exact ⟨m, rfl⟩
  | cons a as ih =>
    obtain ⟨u, hu, hrest⟩ := exec_cons.1 h
    obtain ⟨m', hm'⟩ := ih hrest (note s a m)
    exact ⟨m', exec_cons.2 ⟨(u, note s a m), watch_eq_some.2 ⟨hu, rfl⟩, hm'⟩⟩

/-- Two observers of one run may be taken for one. -/
theorem exec_watch_pair {κ : Type*} {other : σ → α → κ → κ} {s t : σ} {m m' : μ} {k k' : κ}
    {as : List α} (h : exec (watch step note) (s, m) as = some (t, m'))
    (h' : exec (watch step other) (s, k) as = some (t, k')) :
    exec (watch step fun s a x => (note s a x.1, other s a x.2)) (s, (m, k)) as =
      some (t, (m', k')) := by
  induction as generalizing s m k with
  | nil =>
    simp only [exec_nil, Option.some.injEq, Prod.mk.injEq] at h h' ⊢
    exact ⟨h.1, h.2, h'.2⟩
  | cons a as ih =>
    obtain ⟨⟨u, n⟩, hu, hrest⟩ := exec_cons.1 h
    obtain ⟨⟨u', n'⟩, hu', hrest'⟩ := exec_cons.1 h'
    obtain ⟨hstep, rfl⟩ := watch_eq_some.1 hu
    obtain ⟨hstep', rfl⟩ := watch_eq_some.1 hu'
    obtain rfl : u = u' := Option.some.inj (hstep.symm.trans hstep')
    exact exec_cons.2 ⟨(u, (note s a m, other s a k)), watch_eq_some.2 ⟨hstep, rfl⟩,
      ih hrest hrest'⟩

theorem Always.watch {P : σ → α → Prop} {x : σ × μ} {as : List α} (h : Always step P x.1 as) :
    Always (watch step note) (fun x a => P x.1 a) x as := by
  induction as generalizing x with
  | nil => trivial
  | cons a as ih => exact ⟨h.1, fun y hy => ih (h.2 y.1 (watch_eq_some.1 hy).1)⟩

/-- The induction rule for a watched run. -/
theorem watch_invariant {I : σ → μ → Prop} {P : σ → α → Prop}
    (hstep : ∀ s m a t, I s m → P s a → step s a = some t → I t (note s a m))
    {s t : σ} {m m' : μ} {as : List α} (hI : I s m) (hP : Always step P s as)
    (h : exec (watch step note) (s, m) as = some (t, m')) : I t m' := by
  refine exec_invariant (I := fun x => I x.1 x.2) ?_ hI (Always.watch (x := (s, m)) hP) h
  rintro ⟨s, m⟩ a ⟨t, m'⟩ hI hP hstep'
  obtain ⟨ht, rfl⟩ := watch_eq_some.1 hstep'
  exact hstep s m a t hI hP ht

end UsbRepeater.Schedule
