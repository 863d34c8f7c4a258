import UsbRepeater.Lib.Watch

/-! Objects that come and go. A program allocates objects, reads and writes parts of them and
frees them; what it does is legal as long as it allocates only what is not there, and touches
only what is there and as far as it goes. -/
namespace UsbRepeater.Memory

open Schedule

variable {ι σ α : Type*}

inductive MemEvent (ι : Type*)
  | alloc (x : ι) (size : ℕ)
  | access (x : ι) (offset length : ℕ)
  | free (x : ι)
  deriving DecidableEq, Repr

/-- The size of each object that is there. -/
abbrev Mem (ι : Type*) := ι → Option ℕ

variable [DecidableEq ι]

def memStep (m : Mem ι) : MemEvent ι → Option (Mem ι)
  | .alloc x size => if m x = none then some (Function.update m x (some size)) else none
  | .access x offset length =>
      match m x with
      | some size => if offset + length ≤ size then some m else none
      | none => none
  | .free x => if m x = none then none else some (Function.update m x none)

/-- No event of the trace is refused. -/
def Legal (m : Mem ι) (es : List (MemEvent ι)) : Prop := (exec memStep m es).isSome = true

instance (m : Mem ι) (es : List (MemEvent ι)) : Decidable (Legal m es) :=
  inferInstanceAs (Decidable (_ = true))

/-- The events are legal exactly if `p` holds, and then lead from `m` to `n`. -/
structure LegalIff (m : Mem ι) (es : List (MemEvent ι)) (n : Mem ι) (p : Prop) : Prop where
  legal : p → exec memStep m es = some n
  fault : ¬ p → exec memStep m es = none

variable {m n k : Mem ι} {es fs : List (MemEvent ι)} {p q : Prop} {x : ι}

theorem LegalIff.legal_iff (h : LegalIff m es n p) : Legal m es ↔ p := by
  unfold Legal
  by_cases hp : p
  · simp [h.legal hp, hp]
  · simp [h.fault hp, hp]

theorem LegalIff.congr (h : LegalIff m es n p) (hpq : p ↔ q) : LegalIff m es n q :=
  ⟨fun hq => h.legal (hpq.2 hq), fun hq => h.fault (mt hpq.1 hq)⟩

theorem LegalIff.nil (m : Mem ι) : LegalIff m [] m True :=
  ⟨fun _ => exec_nil m, fun h => absurd trivial h⟩

theorem LegalIff.append (h : LegalIff m es n p) (g : LegalIff n fs k q) :
    LegalIff m (es ++ fs) k (p ∧ q) := by
  constructor
  · rintro ⟨hp, hq⟩
    exact exec_append.2 ⟨n, h.legal hp, g.legal hq⟩
  · intro hpq
    refine Option.eq_none_iff_forall_ne_some.2 fun k' hk => ?_
    obtain ⟨n', hn, hrest⟩ := exec_append.1 hk
    by_cases hp : p
    · obtain rfl : n = n' := Option.some.inj ((h.legal hp).symm.trans hn)
      rw [g.fault fun hq => hpq ⟨hp, hq⟩] at hrest
      cases hrest
    · rw [h.fault hp] at hn
      cases hn

theorem LegalIff.cons {e : MemEvent ι} (h : LegalIff m [e] n p) (g : LegalIff n es k q) :
    LegalIff m (e :: es) k (p ∧ q) :=
  h.append g

theorem LegalIff.access {size : ℕ} (h : m x = some size) (offset length : ℕ) :
    LegalIff m [.access x offset length] m (offset + length ≤ size) := by
  constructor <;> intro hfit <;> simp [exec, memStep, h, hfit]

theorem LegalIff.inside {size : ℕ} (h : m x = some size) {offset length : ℕ}
    (hle : offset + length ≤ size) : LegalIff m [.access x offset length] m True :=
  (LegalIff.access h offset length).congr (iff_true_intro hle)

theorem LegalIff.dangling (h : m x = none) (offset length : ℕ) :
    LegalIff m [.access x offset length] n False :=
  ⟨False.elim, fun _ => by simp [exec, memStep, h]⟩

theorem LegalIff.alloc (h : m x = none) (size : ℕ) :
    LegalIff m [.alloc x size] (Function.update m x (some size)) True :=
  ⟨fun _ => by simp [exec, memStep, h], fun hp => absurd trivial hp⟩

theorem LegalIff.free {size : ℕ} (h : m x = some size) :
    LegalIff m [.free x] (Function.update m x none) True :=
  ⟨fun _ => by simp [exec, memStep, h], fun hp => absurd trivial hp⟩

theorem LegalIff.forall {β : Type*} {event : β → MemEvent ι} {P : β → Prop} {l : List β}
    (h : ∀ b ∈ l, LegalIff m [event b] m (P b)) : LegalIff m (l.map event) m (∀ b ∈ l, P b) := by
  induction l with
  | nil => exact (LegalIff.nil m).congr (by simp)
  | cons b l ih =>
    have htail := ih fun c hc => h c (List.mem_cons_of_mem b hc)
    exact ((h b List.mem_cons_self).cons htail).congr (by simp)

variable {step : σ → α → Option σ} {events : σ → α → List (MemEvent ι)} {mem : σ → Mem ι}

def noteEvents (events : σ → α → List (MemEvent ι)) (s : σ) (a : α) (es : List (MemEvent ι)) :
    List (MemEvent ι) :=
  es ++ events s a

/-- What is legal step by step is legal throughout, and a step that is not spoils the run. -/
theorem exec_legalIff {I : σ → Prop} {P Q : σ → α → Prop}
    (hinv : ∀ s a t, I s → Q s a → step s a = some t → I t)
    (hstep : ∀ s a t, I s → Q s a → step s a = some t →
      LegalIff (mem s) (events s a) (mem t) (P s a))
    {s t : σ} {as : List α} {es fs : List (MemEvent ι)} (hI : I s) (hQ : Always step Q s as)
    (h : exec (watch step (noteEvents events)) (s, es) as = some (t, fs)) :
    ∃ new, fs = es ++ new ∧ LegalIff (mem s) new (mem t) (Always step P s as) := by
  induction as generalizing s es with
  | nil =>
    obtain ⟨rfl, rfl⟩ : s = t ∧ es = fs := by simpa using h
    exact ⟨[], (List.append_nil es).symm, LegalIff.nil (mem s)⟩
  | cons a as ih =>
    obtain ⟨⟨u, gs⟩, hu, hrest⟩ := exec_cons.1 h
    obtain ⟨hu, rfl⟩ := watch_eq_some.1 hu
    obtain ⟨new, rfl, hnew⟩ := ih (hinv s a u hI hQ.1 hu) (hQ.2 u hu) hrest
    refine ⟨events s a ++ new, List.append_assoc _ _ _,
      ((hstep s a u hI hQ.1 hu).append hnew).congr ?_⟩
    simp [Always, show step s a = some u from hu]

theorem legal_iff_always {I : σ → Prop} {P Q : σ → α → Prop}
    (hinv : ∀ s a t, I s → Q s a → step s a = some t → I t)
    (hstep : ∀ s a t, I s → Q s a → step s a = some t →
      LegalIff (mem s) (events s a) (mem t) (P s a))
    {s t : σ} {as : List α} {es : List (MemEvent ι)} (hI : I s) (hQ : Always step Q s as)
    (h : exec (watch step (noteEvents events)) (s, []) as = some (t, es)) :
    Legal (mem s) es ↔ Always step P s as := by
  obtain ⟨new, rfl, hnew⟩ := exec_legalIff hinv hstep hI hQ h
  exact hnew.legal_iff

end UsbRepeater.Memory
