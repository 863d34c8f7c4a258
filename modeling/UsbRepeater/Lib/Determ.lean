import UsbRepeater.Lib.Schedule

/-! Deterministic machines and the simulation of a scheduled system by one.
If every admitted step of the system is invisible or is the machine's next step,
two schedules of the system can only differ in how far along one path they are. -/
namespace UsbRepeater.Determ

open Schedule

variable {σ α τ : Type*}

/-- The machine `f` gets from one state to the other in some number of steps. -/
def Leads (f : τ → Option τ) : τ → τ → Prop :=
  Relation.ReflTransGen fun s t => f s = some t

variable {f : τ → Option τ}

theorem Leads.refl (s : τ) : Leads f s s := Relation.ReflTransGen.refl

theorem Leads.trans {s t u : τ} (h : Leads f s t) (g : Leads f t u) : Leads f s u :=
  Relation.ReflTransGen.trans h g

theorem Leads.one {s t : τ} (h : f s = some t) : Leads f s t := Relation.ReflTransGen.single h

theorem Leads.head {s t u : τ} (h : f s = some t) (g : Leads f t u) : Leads f s u :=
  Relation.ReflTransGen.head h g

theorem Leads.total {s a b : τ} (ha : Leads f s a) (hb : Leads f s b) :
    Leads f a b ∨ Leads f b a :=
  Relation.ReflTransGen.total_of_right_unique
    (fun _ _ _ h g => Option.some.inj (h.symm.trans g)) ha hb

theorem Leads.eq_of_stopped {a b : τ} (ha : f a = none) (h : Leads f a b) : a = b := by
  induction h using Relation.ReflTransGen.head_induction_on with
  | refl => rfl
  | head h _ _ => rw [ha] at h; cases h

/-- Every path from a start leads on to the state the machine stops in. -/
theorem Leads.to_stopped {s a b : τ} (ha : Leads f s a) (hb : Leads f s b) (hs : f b = none) :
    Leads f a b := by
  rcases ha.total hb with h | h
  · exact h
  · rw [h.eq_of_stopped hs]; exact Leads.refl _

theorem Leads.stopped_unique {s a b : τ} (ha : Leads f s a) (hb : Leads f s b)
    (hsa : f a = none) (hsb : f b = none) : a = b :=
  (ha.to_stopped hb hsb).eq_of_stopped hsa

theorem Leads.mono {g : τ → Option τ} {s t : τ} (h : Leads g s t)
    (hg : ∀ s t, g s = some t → f s = some t) : Leads f s t :=
  Relation.ReflTransGen.mono hg _ _ h

/-- A machine that refuses some steps of `f` but gets to where `f` stops: every state `f` passes
through lies on its path. -/
theorem Leads.restricted {g : τ → Option τ} (hg : ∀ s t, g s = some t → f s = some t)
    {s a b : τ} (ha : Leads f s a) (hb : Leads g s b) (hs : f b = none) : Leads g a b := by
  induction ha with
  | refl => exact hb
  | tail _ h ih =>
    rcases Relation.ReflTransGen.cases_head ih with rfl | ⟨v, hv, hrest⟩
    · rw [hs] at h
      cases h
    · rwa [← Option.some.inj ((hg _ _ hv).symm.trans h)]

theorem Leads.invariant {I : τ → Prop} (hstep : ∀ s t, I s → f s = some t → I t)
    {s t : τ} (h : Leads f s t) (hI : I s) : I t := by
  induction h with
  | refl => exact hI
  | tail _ h ih => exact hstep _ _ ih h

variable {step : σ → α → Option σ} {P : σ → α → Prop} {abs : σ → τ}

/-- The simulation rule: a run of the system is, seen through `abs`, a path of the machine. -/
theorem leads_of_simulation {I : σ → Prop}
    (hinv : ∀ s a t, I s → P s a → step s a = some t → I t)
    (hsim : ∀ s a t, I s → P s a → step s a = some t →
      abs t = abs s ∨ f (abs s) = some (abs t))
    {s t : σ} {as : List α} (hI : I s) (hP : Always step P s as)
    (he : exec step s as = some t) : Leads f (abs s) (abs t) := by
  induction as generalizing s with
  | nil => simp only [exec_nil, Option.some.injEq] at he; subst t; exact Leads.refl _
  | cons a as ih =>
    obtain ⟨u, hu, hrest⟩ := exec_cons.1 he
    have htail := ih (hinv s a u hI hP.1 hu) (hP.2 u hu) hrest
    rcases hsim s a u hI hP.1 hu with h | h
    · rwa [← h]
    · exact Leads.head h htail

end UsbRepeater.Determ
