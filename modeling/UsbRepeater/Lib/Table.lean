import Mathlib

/-! A table filled by a loop. Iteration `i` writes the entry `i` or leaves it; the table does not
grow, so a write behind its end is lost here. A loop that stops at a missing entry is a fold in
`Option`. -/
namespace UsbRepeater.Table

variable {α : Type*}

/-- The writes of a loop over the indices below `n`, in order. -/
def loopWrites (f : ℕ → Option α) (n : ℕ) : List (ℕ × α) :=
  (List.range n).filterMap fun i => (f i).map fun v => (i, v)

def write (table : List α) (writes : List (ℕ × α)) : List α :=
  writes.foldl (fun table w => table.set w.1 w.2) table

theorem mem_loopWrites {f : ℕ → Option α} {n : ℕ} {w : ℕ × α} :
    w ∈ loopWrites f n ↔ w.1 < n ∧ f w.1 = some w.2 := by
  simp only [loopWrites, List.mem_filterMap, List.mem_range, Option.map_eq_some_iff]
  constructor
  · rintro ⟨i, hi, v, hv, rfl⟩
    exact ⟨hi, hv⟩
  · rintro ⟨hi, hv⟩
    exact ⟨w.1, hi, w.2, hv, rfl⟩

theorem loopWrites_succ (f : ℕ → Option α) (n : ℕ) :
    loopWrites f (n + 1) = loopWrites f n ++ ((f n).map fun v => (n, v)).toList := by
  rw [loopWrites, List.range_succ, List.filterMap_append]
  cases h : f n <;> simp [loopWrites, h]

@[simp] theorem write_length (table : List α) (writes : List (ℕ × α)) :
    (write table writes).length = table.length := by
  induction writes generalizing table with
  | nil => rfl
  | cons w writes ih =>
    have htail := ih (table.set w.1 w.2)
    rw [List.length_set] at htail
    exact htail

theorem write_append (table : List α) (ws vs : List (ℕ × α)) :
    write table (ws ++ vs) = write (write table ws) vs :=
  List.foldl_append

/-- An entry of the table behind the loop: what its own iteration wrote, or what it held. -/
theorem getElem?_write_loopWrites (f : ℕ → Option α) (n : ℕ) {table : List α} {k : ℕ}
    (hk : k < table.length) : (write table (loopWrites f n))[k]? =
      some ((if k < n then f k else none).getD table[k]) := by
  induction n with
  | zero =>
    rw [if_neg (Nat.not_lt_zero k)]
    exact List.getElem?_eq_getElem hk
  | succ n ih =>
    rw [loopWrites_succ, write_append]
    have hlen : k < (write table (loopWrites f n)).length := by rwa [write_length]
    by_cases hkn : k = n
    · subst hkn
      rw [if_neg (lt_irrefl k)] at ih
      rw [if_pos (Nat.lt_succ_self k)]
      cases hf : f k with
      | none => exact ih
      | some v => exact List.getElem?_set_self hlen
    · have hlt : k < n + 1 ↔ k < n := by omega
      simp only [hlt, ← ih]
      cases hf : f n with
      | none => rfl
      | some v => exact List.getElem?_set_ne (Ne.symm hkn)

theorem write_loopWrites_eq {f : ℕ → Option α} {n : ℕ} (hall : ∀ i < n, (f i).isSome = true)
    {table table' : List α} (h : table.length = n) (h' : table'.length = n) :
    write table (loopWrites f n) = write table' (loopWrites f n) := by
  refine List.ext_getElem? fun k => ?_
  by_cases hk : k < n
  · obtain ⟨v, hv⟩ := Option.isSome_iff_exists.1 (hall k hk)
    rw [getElem?_write_loopWrites f n (h ▸ hk), getElem?_write_loopWrites f n (h' ▸ hk),
      if_pos hk, hv, Option.getD_some, Option.getD_some]
  · rw [List.getElem?_eq_none (by rw [write_length]; omega),
      List.getElem?_eq_none (by rw [write_length]; omega)]

/-- The writes of a loop that stops at the first index it finds nothing for. -/
def writesUntilMissing (f : ℕ → Option α) (n : ℕ) : List (ℕ × α) :=
  ((List.range n).takeWhile fun i => (f i).isSome).filterMap fun i => (f i).map fun v => (i, v)

theorem index_lt_of_mem_writesUntilMissing {f : ℕ → Option α} {n : ℕ} {w : ℕ × α}
    (h : w ∈ writesUntilMissing f n) : w.1 < n := by
  obtain ⟨i, hi, hw⟩ := List.mem_filterMap.1 h
  obtain ⟨v, -, rfl⟩ := Option.map_eq_some_iff.1 hw
  exact List.mem_range.1 ((List.takeWhile_sublist _).subset hi)

theorem writesUntilMissing_eq {f : ℕ → Option α} {n : ℕ} (h : ∀ i < n, (f i).isSome = true) :
    writesUntilMissing f n = loopWrites f n := by
  have hall : (List.range n).takeWhile (fun i => (f i).isSome) = List.range n :=
    List.takeWhile_eq_self_iff.2 fun i hi => h i (List.mem_range.1 hi)
  rw [writesUntilMissing, hall]
  rfl

theorem foldlM_view {β γ ι : Type*} {f : β → ι → Option β} {g : γ → ι → Option γ} (view : β → γ)
    (P : β → Prop) (hstep : ∀ x i, P x → g (view x) i = (f x i).map view)
    (hkeep : ∀ x i y, P x → f x i = some y → P y) (l : List ι) {x : β} (hx : P x) :
    l.foldlM g (view x) = (l.foldlM f x).map view := by
  induction l generalizing x with
  | nil => rfl
  | cons i l ih =>
    rw [List.foldlM_cons, List.foldlM_cons, hstep x i hx]
    cases hfx : f x i with
    | none => rfl
    | some y => exact ih (hkeep x i y hx hfx)

/-- The fold that fails at a missing entry: it has made all writes of the loop if it has not. -/
theorem foldlM_set {f : ℕ → Option α} {n : ℕ} {table table' : List α} :
    (List.range n).foldlM (fun table i => (f i).map fun v => table.set i v) table = some table' ↔
      (∀ i < n, (f i).isSome = true) ∧ table' = write table (loopWrites f n) := by
  induction n generalizing table' with
  | zero =>
    constructor
    · intro h
      exact ⟨nofun, (Option.some.inj h).symm⟩
    · rintro ⟨-, rfl⟩
      rfl
  | succ n ih =>
    rw [List.range_succ, List.foldlM_append, loopWrites_succ, write_append]
    simp only [Option.bind_eq_bind, Option.bind_eq_some_iff, ih, List.foldlM_cons,
      List.foldlM_nil, Option.pure_def, Option.map_eq_some_iff, Nat.forall_lt_succ_right]
    constructor
    · rintro ⟨_, ⟨hall, rfl⟩, _, ⟨v, hv, rfl⟩, hlast⟩
      rw [hv, ← Option.some.inj hlast]
      exact ⟨⟨hall, rfl⟩, rfl⟩
    · rintro ⟨⟨hall, hn⟩, rfl⟩
      obtain ⟨v, hv⟩ := Option.isSome_iff_exists.1 hn
      rw [hv]
      exact ⟨_, ⟨hall, rfl⟩, _, ⟨v, rfl, rfl⟩, rfl⟩

end UsbRepeater.Table
