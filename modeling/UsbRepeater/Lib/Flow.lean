import Mathlib

/-! Items moving through the stages of a pipeline. A state of the pipeline says which items
each stage holds; a step lets one item in, moves one item on, or changes nothing. Nothing is
lost or duplicated: what all stages hold together is what was ever let in. -/
namespace UsbRepeater.Flow

variable {κ ι : Type*} [Fintype κ]

def total (f : κ → Multiset ι) : Multiset ι := ∑ k, f k

theorem stage_le_total (f : κ → Multiset ι) (k : κ) : f k ≤ total f :=
  Finset.single_le_sum (f := f) (fun _ _ => Multiset.zero_le _) (Finset.mem_univ k)

theorem mem_total {f : κ → Multiset ι} {i : ι} : i ∈ total f ↔ ∃ k, i ∈ f k := by
  simp [total, Multiset.mem_sum]

theorem total_eq_sum_of_empty {f : κ → Multiset ι} (S : Finset κ) (h : ∀ k ∉ S, f k = 0) :
    total f = ∑ k ∈ S, f k :=
  (Finset.sum_subset (Finset.subset_univ S) fun k _ hk => h k hk).symm

variable [DecidableEq κ]

theorem pair_le_total (f : κ → Multiset ι) {k l : κ} (h : k ≠ l) : f k + f l ≤ total f := by
  have hpair : f k + f l = ∑ x ∈ {k, l}, f x := by rw [Finset.sum_pair h]
  rw [hpair]
  exact Finset.sum_le_sum_of_subset (Finset.subset_univ _)

/-- Where no item occurs twice, no item is in two stages. -/
theorem stage_unique {f : κ → Multiset ι} (h : (total f).Nodup) {i : ι} {k l : κ}
    (hk : i ∈ f k) (hl : i ∈ f l) : k = l := by
  by_contra hne
  have hle := pair_le_total f hne
  have hd := (Multiset.nodup_add.1 (Multiset.nodup_of_le hle h)).2.2
  exact Multiset.disjoint_left.1 hd hk hl

theorem existsUnique_stage {f : κ → Multiset ι} (h : (total f).Nodup) {i : ι}
    (hi : i ∈ total f) : ∃! k, i ∈ f k := by
  obtain ⟨k, hk⟩ := mem_total.1 hi
  exact ⟨k, hk, fun l hl => stage_unique h hl hk⟩

def put (f : κ → Multiset ι) (k : κ) (i : ι) : κ → Multiset ι :=
  Function.update f k (i ::ₘ f k)

/-- One step of a pipeline; the list holds the items it lets in. -/
inductive Step (f : κ → Multiset ι) : List ι → (κ → Multiset ι) → Prop
  | stay : Step f [] f
  | enter (k : κ) (i : ι) : Step f [i] (put f k i)
  | move (g : κ → Multiset ι) (k l : κ) (i : ι) (h : f = put g k i) : Step f [] (put g l i)

theorem total_put (f : κ → Multiset ι) (k : κ) (i : ι) : total (put f k i) = i ::ₘ total f := by
  have hsplit : total f = f k + ∑ x ∈ Finset.univ \ {k}, f x :=
    Finset.sum_eq_add_sum_sdiff_singleton_of_mem (Finset.mem_univ k) f
  rw [hsplit, total, put, Finset.sum_update_of_mem (Finset.mem_univ k), Multiset.cons_add]

/-- The conservation law of one step. -/
theorem Step.total_eq {f g : κ → Multiset ι} {new : List ι} (h : Step f new g) :
    total g = total f + new := by
  cases h with
  | stay => simp
  | enter k i => rw [total_put, Multiset.coe_singleton, Multiset.add_comm, Multiset.singleton_add]
  | move g k l i h => simp [h, total_put]

variable {α β : Type*}

theorem perm_cons_eraseIdx {l : List α} {i : ℕ} {a : α} (h : l[i]? = some a) :
    l.Perm (a :: l.eraseIdx i) := by
  obtain ⟨hi, rfl⟩ := List.getElem?_eq_some_iff.1 h
  exact (List.getElem_cons_eraseIdx_perm hi).symm

theorem modify_perm {l : List α} {i : ℕ} {a : α} (f : α → α) (h : l[i]? = some a) :
    (l.modify i f).Perm (f a :: l.eraseIdx i) := by
  induction l generalizing i with
  | nil => simp at h
  | cons b l ih =>
    cases i with
    | zero =>
      simp only [List.getElem?_cons_zero, Option.some.injEq] at h
      subst a
      simp
    | succ i =>
      simp only [List.getElem?_cons_succ] at h
      simp only [List.modify_succ_cons, List.eraseIdx_cons_succ]
      exact ((ih h).cons b).trans (List.Perm.swap _ _ _)

theorem coe_map_eraseIdx (f : α → β) {l : List α} {i : ℕ} {a : α} (h : l[i]? = some a) :
    ((l.map f : List β) : Multiset β) = f a ::ₘ ((l.eraseIdx i).map f : List β) := by
  rw [Multiset.cons_coe, Multiset.coe_eq_coe]
  exact (perm_cons_eraseIdx h).map f

theorem coe_filterMap_eraseIdx (f : α → Option β) {l : List α} {i : ℕ} {a : α} {b : β}
    (h : l[i]? = some a) (hb : f a = some b) :
    ((l.filterMap f : List β) : Multiset β) = b ::ₘ ((l.eraseIdx i).filterMap f : List β) := by
  rw [Multiset.cons_coe, Multiset.coe_eq_coe]
  simpa [hb] using (perm_cons_eraseIdx h).filterMap f

theorem coe_filterMap_eraseIdx_none (f : α → Option β) {l : List α} {i : ℕ} {a : α}
    (h : l[i]? = some a) (hb : f a = none) :
    ((l.filterMap f : List β) : Multiset β) = ((l.eraseIdx i).filterMap f : List β) := by
  rw [Multiset.coe_eq_coe]
  simpa [hb] using (perm_cons_eraseIdx h).filterMap f

theorem coe_filterMap_modify (f : α → Option β) (g : α → α) {l : List α} {i : ℕ} {a : α}
    (h : l[i]? = some a) (hg : f (g a) = f a) :
    (((l.modify i g).filterMap f : List β) : Multiset β) = (l.filterMap f : List β) := by
  rw [Multiset.coe_eq_coe]
  have hl := (modify_perm g h).filterMap f
  have hr := (perm_cons_eraseIdx h).filterMap f
  rw [List.filterMap_cons, hg, ← List.filterMap_cons] at hl
  exact hl.trans hr.symm

theorem coe_filterMap_modify_none (f : α → Option β) (g : α → α) {l : List α} {i : ℕ} {a : α}
    (h : l[i]? = some a) (hg : f (g a) = none) :
    (((l.modify i g).filterMap f : List β) : Multiset β) =
      ((l.eraseIdx i).filterMap f : List β) := by
  rw [Multiset.coe_eq_coe]
  simpa [hg] using (modify_perm g h).filterMap f

theorem countP_eraseIdx (p : α → Bool) {l : List α} {i : ℕ} {a : α} (h : l[i]? = some a) :
    l.countP p = (l.eraseIdx i).countP p + if p a then 1 else 0 := by
  rw [(perm_cons_eraseIdx h).countP_eq, List.countP_cons]

theorem countP_modify (p : α → Bool) (g : α → α) {l : List α} {i : ℕ} {a : α}
    (h : l[i]? = some a) :
    (l.modify i g).countP p = (l.eraseIdx i).countP p + if p (g a) then 1 else 0 := by
  rw [(modify_perm g h).countP_eq, List.countP_cons]

theorem mem_modify {l : List α} {i : ℕ} {a x : α} {g : α → α} (h : l[i]? = some a)
    (hx : x ∈ l.modify i g) : x = g a ∨ x ∈ l := by
  rcases List.mem_cons.1 ((modify_perm g h).mem_iff.1 hx) with rfl | hx
  · exact .inl rfl
  · exact .inr (List.mem_of_mem_eraseIdx hx)

end UsbRepeater.Flow
