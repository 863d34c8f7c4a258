import UsbRepeater.Lib.Schedule

/-! Potentials. A quantity that pays for the steps of one task bounds how many of them a run can
hold, whatever the other tasks do, when each step is paid for by what it lowers or by what it
brings in. -/
namespace UsbRepeater.Schedule

variable {σ α : Type*} {step : σ → α → Option σ}

/-- What a run spends it has had at the start or has been given: each step of the kind `cost`
spends one, and each of the kind `income` brings in at most `k`. -/
theorem exec_potential {I : σ → Prop} {P : σ → α → Prop} {cost income : α → Bool} {k : ℕ}
    {m : σ → ℕ} (hinv : ∀ s a t, I s → P s a → step s a = some t → I t)
    (hpay : ∀ s a t, I s → P s a → step s a = some t →
      m t + (cost a).toNat ≤ m s + k * (income a).toNat)
    {s t : σ} {as : List α} (hI : I s) (hP : Always step P s as) (he : exec step s as = some t) :
    m t + as.countP cost ≤ m s + k * as.countP income := by
  have hcount : ∀ (p : α → Bool) (a : α) (as : List α),
      (a :: as).countP p = as.countP p + (p a).toNat := by
    intro p a as
    rw [List.countP_cons]
    cases p a <;> rfl
  induction as generalizing s with
  | nil =>
    obtain rfl : s = t := by simpa using he
    simp
  | cons a as ih =>
    obtain ⟨u, hu, hrest⟩ := exec_cons.1 he
    have hone := hpay s a u hI hP.1 hu
    have htail := ih (hinv s a u hI hP.1 hu) (hP.2 u hu) hrest
    rw [hcount, hcount, Nat.mul_add]
    omega

/-- What a run spends it has had at the start or has earned: `g` is what is earned so far. -/
theorem exec_earned {cost : α → Bool} {m g : σ → ℕ}
    (hpay : ∀ s a t, step s a = some t → m t + (cost a).toNat + g s ≤ m s + g t)
    {s t : σ} {as : List α} (he : exec step s as = some t) :
    m t + as.countP cost + g s ≤ m s + g t := by
  induction as generalizing s with
  | nil =>
    obtain rfl : s = t := by simpa using he
    simp
  | cons a as ih =>
    obtain ⟨u, hu, hrest⟩ := exec_cons.1 he
    have hone := hpay s a u hu
    have htail := ih hrest
    have hcount : (a :: as).countP cost = as.countP cost + (cost a).toNat := by
      rw [List.countP_cons]
      cases cost a <;> rfl
    omega

theorem exec_length_le {I : σ → Prop} {Q : σ → α → Prop} {m : σ → ℕ}
    (hpay : ∀ s a t, I s → Q s a → step s a = some t → I t ∧ m t + 1 ≤ m s)
    {s t : σ} {as : List α} (hI : I s) (hQ : Always step Q s as) (he : exec step s as = some t) :
    m t + as.length ≤ m s := by
  have hcount : m t + as.countP (fun _ => true) ≤ m s + 0 * as.countP fun _ => false :=
    exec_potential (fun s a t hI hQ h => (hpay s a t hI hQ h).1)
      (fun s a t hI hQ h => (hpay s a t hI hQ h).2) hI hQ he
  simpa using hcount

theorem exists_exec_stuck {I : σ → Prop} {Q : σ → α → Prop} {m : σ → ℕ}
    (hpay : ∀ s a t, I s → Q s a → step s a = some t → I t ∧ m t + 1 ≤ m s) {s : σ} (hI : I s) :
    ∃ as t, exec step s as = some t ∧ Always step Q s as ∧ ∀ a, Q t a → step t a = none := by
  induction hm : m s using Nat.strong_induction_on generalizing s with
  | _ n ih =>
    by_cases hstuck : ∀ a, Q s a → step s a = none
    · exact ⟨[], s, exec_nil s, trivial, hstuck⟩
    · push Not at hstuck
      obtain ⟨a, hQ, hne⟩ := hstuck
      obtain ⟨u, hu⟩ := Option.ne_none_iff_exists'.1 hne
      obtain ⟨hIu, hlt⟩ := hpay s a u hI hQ hu
      obtain ⟨as, t, ht, hall, hstuck⟩ := ih (m u) (by omega) hIu rfl
      refine ⟨a :: as, t, exec_cons.2 ⟨u, hu, ht⟩, ⟨hQ, fun v hv => ?_⟩, hstuck⟩
      obtain rfl : u = v := Option.some.inj (hu.symm.trans hv)
      exact hall

/-- A loop whose body can be run again after each round goes on for as long as one likes. -/
theorem exists_exec_of_loop {I : σ → Prop} {P : σ → α → Prop} {cost : α → Bool} {body : List α}
    (hcost : 0 < body.countP cost)
    (hround : ∀ s, I s → ∃ t, exec step s body = some t ∧ Always step P s body ∧ I t)
    {s : σ} (hI : I s) (n : ℕ) :
    ∃ as t, exec step s as = some t ∧ Always step P s as ∧ n ≤ as.countP cost := by
  induction n generalizing s with
  | zero => exact ⟨[], s, exec_nil s, trivial, Nat.zero_le _⟩
  | succ n ih =>
    obtain ⟨t, ht, hP, hIt⟩ := hround s hI
    obtain ⟨as, u, hu, hrest, hn⟩ := ih hIt
    refine ⟨body ++ as, u, exec_append.2 ⟨t, ht, hu⟩, hP.append ht hrest, ?_⟩
    rw [List.countP_append]
    omega

end UsbRepeater.Schedule
