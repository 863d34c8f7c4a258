import Mathlib

/-! First come, first served. Items arrive in a shared list; every item has a key, and each key has
at most one worker, which takes the items of its key one at a time in the order they came. What
such a line lets through keeps the order of arrival, and lacks exactly what was dropped. -/
namespace UsbRepeater.Fifo

variable {ι κ ω α β : Type*}

/-- A line of customers: those in service leave it served or dropped. -/
structure Line (ι : Type*) where
  arrived : List ι
  waiting : List ι
  working : List ι
  served : List ι
  dropped : List ι

inductive Line.Step (l : Line ι) : Line ι → Prop
  | stay : Step l l
  | arrive (i : ι) :
      Step l { l with arrived := l.arrived ++ [i], waiting := l.waiting ++ [i] }
  | take (i : ι) (waiting : List ι) (hidle : l.working = []) (hw : l.waiting = i :: waiting) :
      Step l { l with waiting := waiting, working := [i] }
  | serve (i : ι) (hw : l.working = [i]) :
      Step l { l with working := [], served := l.served ++ [i] }
  | drop (i : ι) (hw : l.working = [i]) :
      Step l { l with working := [], dropped := l.dropped ++ [i] }

/-- Whoever is still in the line or has been served, from the exit on. -/
def Line.kept (l : Line ι) : List ι := l.served ++ (l.working ++ l.waiting)

/-- The order of arrival is kept, and everybody who came is accounted for. -/
structure Line.Ordered (l : Line ι) : Prop where
  order : l.kept.Sublist l.arrived
  all : (l.kept ++ l.dropped).Perm l.arrived

theorem Line.Step.ordered {l m : Line ι} (h : l.Step m) (hl : l.Ordered) : m.Ordered := by
  obtain ⟨horder, hall⟩ := hl
  cases h with
  | stay => exact ⟨horder, hall⟩
  | arrive i =>
    have hkept : Line.kept { l with arrived := l.arrived ++ [i], waiting := l.waiting ++ [i] } =
        l.kept ++ [i] := by
      simp [Line.kept, List.append_assoc]
    refine ⟨?_, ?_⟩
    · rw [hkept]
      exact horder.append (List.Sublist.refl [i])
    · rw [hkept, List.append_assoc]
      have hswap : (l.kept ++ ([i] ++ l.dropped)).Perm ((l.kept ++ l.dropped) ++ [i]) := by
        rw [List.append_assoc]
        exact List.perm_append_comm.append_left l.kept
      exact hswap.trans (hall.append_right [i])
  | take i waiting hidle hw =>
    have hkept : Line.kept { l with waiting := waiting, working := [i] } = l.kept := by
      simp [Line.kept, hidle, hw]
    exact ⟨by rw [hkept]; exact horder, by rw [hkept]; exact hall⟩
  | serve i hw =>
    have hkept : Line.kept { l with working := [], served := l.served ++ [i] } = l.kept := by
      simp [Line.kept, hw, List.append_assoc]
    exact ⟨by rw [hkept]; exact horder, by rw [hkept]; exact hall⟩
  | drop i hw =>
    have hbefore : l.kept = l.served ++ i :: l.waiting := by simp [Line.kept, hw]
    have hafter : Line.kept { l with working := [], dropped := l.dropped ++ [i] } =
        l.served ++ l.waiting := by
      simp [Line.kept]
    rw [hbefore] at horder hall
    refine ⟨?_, ?_⟩
    · rw [hafter]
      exact ((List.sublist_cons_self i l.waiting).append_left l.served).trans horder
    · rw [hafter]
      have hmove : (l.served ++ l.waiting ++ (l.dropped ++ [i])).Perm
          (l.served ++ i :: l.waiting ++ l.dropped) := by
        have hend : (l.served ++ l.waiting ++ l.dropped ++ [i]).Perm
            (i :: (l.served ++ l.waiting ++ l.dropped)) := List.perm_append_singleton _ _
        rw [← List.append_assoc]
        refine hend.trans ?_
        rw [List.append_assoc, List.append_assoc, List.cons_append]
        exact List.perm_middle.symm
      exact hmove.trans hall

theorem Line.Step.leaving {l m : Line ι} (h : l.Step m) {xs ys : List ι}
    (hserved : m.served = l.served ++ xs) (hdropped : m.dropped = l.dropped ++ ys)
    (harrived : m.arrived = l.arrived) :
    l.working ++ l.waiting = xs ++ ys ++ (m.working ++ m.waiting) := by
  cases h with
  | stay =>
    rw [List.self_eq_append_right.1 hserved, List.self_eq_append_right.1 hdropped]
    rfl
  | arrive i => simp at harrived
  | take i waiting hidle hw =>
    rw [List.self_eq_append_right.1 hserved, List.self_eq_append_right.1 hdropped, hidle, hw]
    rfl
  | serve i hw =>
    rw [← List.append_cancel_left hserved, List.self_eq_append_right.1 hdropped, hw]
    rfl
  | drop i hw =>
    rw [List.self_eq_append_right.1 hserved, ← List.append_cancel_left hdropped, hw]
    rfl

/-- Where nobody comes twice, the line holds those who were not dropped. -/
theorem Line.Ordered.kept_eq [DecidableEq ι] {l : Line ι} (h : l.Ordered)
    (hnodup : l.arrived.Nodup) : l.kept = l.arrived.filter fun i => i ∉ l.dropped := by
  have happ : (l.kept ++ l.dropped).Nodup := h.all.nodup_iff.2 hnodup
  have hself : l.kept.filter (fun i => i ∉ l.dropped) = l.kept := by
    refine List.filter_eq_self.2 fun i hi => decide_eq_true fun hd => ?_
    exact (List.disjoint_of_nodup_append happ) hi hd
  have hnone : l.dropped.filter (fun i => i ∉ l.dropped) = [] := by
    rw [List.filter_eq_nil_iff]
    intro i hi
    simpa using hi
  have hsub : l.kept.Sublist (l.arrived.filter fun i => i ∉ l.dropped) := by
    have hfilter := h.order.filter fun i => decide (i ∉ l.dropped)
    rwa [hself] at hfilter
  refine hsub.eq_of_length ?_
  have hlength := (h.all.filter fun i => decide (i ∉ l.dropped)).length_eq
  rw [List.filter_append, hself, hnone, List.append_nil] at hlength
  exact hlength

theorem exists_split {xs : List α} {i : ℕ} {a : α} (h : xs[i]? = some a) :
    ∃ pre post, xs = pre ++ a :: post ∧ xs.take i = pre ∧ xs.eraseIdx i = pre ++ post ∧
      ∀ g : α → α, xs.modify i g = pre ++ g a :: post := by
  induction xs generalizing i with
  | nil => simp at h
  | cons b xs ih =>
    cases i with
    | zero =>
      obtain rfl : b = a := by simpa using h
      exact ⟨[], xs, rfl, rfl, rfl, fun g => by simp⟩
    | succ i =>
      simp only [List.getElem?_cons_succ] at h
      obtain ⟨pre, post, rfl, htake, herase, hmodify⟩ := ih h
      refine ⟨b :: pre, post, rfl, ?_, ?_, fun g => ?_⟩
      · rw [List.take_succ_cons, htake]
      · rw [List.eraseIdx_cons_succ, herase]
        rfl
      · rw [List.modify_succ_cons, hmodify g]
        rfl

theorem sum_map_modify {f : α → ℕ} {g : α → α} {xs : List α} {i : ℕ} {a : α} (h : xs[i]? = some a) :
    ((xs.modify i g).map f).sum + f a = (xs.map f).sum + f (g a) := by
  obtain ⟨pre, post, rfl, -, -, hmodify⟩ := exists_split h
  rw [hmodify g]
  simp only [List.map_append, List.map_cons, List.sum_append, List.sum_cons]
  omega

theorem sum_map_eraseIdx {f : α → ℕ} {xs : List α} {i : ℕ} {a : α} (h : xs[i]? = some a) :
    ((xs.eraseIdx i).map f).sum + f a = (xs.map f).sum := by
  obtain ⟨pre, post, rfl, -, herase, -⟩ := exists_split h
  rw [herase]
  simp only [List.map_append, List.map_cons, List.sum_append, List.sum_cons]
  omega

theorem exists_eraseIdx_perm {xs ys : List α} {a : α} (h : xs.Perm (a :: ys)) :
    ∃ j, xs[j]? = some a ∧ (xs.eraseIdx j).Perm ys := by
  have hmem : a ∈ xs := h.mem_iff.2 List.mem_cons_self
  obtain ⟨j, hj⟩ := List.getElem?_of_mem hmem
  refine ⟨j, hj, ?_⟩
  obtain ⟨pre, post, rfl, -, herase, -⟩ := exists_split hj
  rw [herase]
  exact (List.perm_middle.symm.trans h).cons_inv

theorem append_perm_cons_eraseIdx {xs ys : List α} {i : ℕ} {a : α}
    (h : ys[i]? = some a) : (xs ++ ys).Perm (a :: (xs ++ ys.eraseIdx i)) := by
  obtain ⟨pre, post, rfl, -, herase, -⟩ := exists_split h
  rw [herase]
  have hmiddle : (xs ++ pre ++ a :: post).Perm (a :: (xs ++ pre ++ post)) := List.perm_middle
  simpa only [List.append_assoc] using hmiddle

theorem filterMap_modify {f : α → Option β} {g : α → α} {xs : List α} {i : ℕ} {a : α}
    (h : xs[i]? = some a) (hg : f (g a) = f a) : (xs.modify i g).filterMap f = xs.filterMap f := by
  obtain ⟨pre, post, rfl, -, -, hmodify⟩ := exists_split h
  rw [hmodify g]
  simp only [List.filterMap_append, List.filterMap_cons, hg]

theorem filterMap_modify_none {f : α → Option β} {g : α → α} {xs : List α} {i : ℕ} {a : α}
    (h : xs[i]? = some a) (hg : f (g a) = none) :
    (xs.modify i g).filterMap f = (xs.eraseIdx i).filterMap f := by
  obtain ⟨pre, post, rfl, -, herase, hmodify⟩ := exists_split h
  rw [hmodify g, herase]
  simp only [List.filterMap_append, List.filterMap_cons, hg]

theorem filterMap_eraseIdx_none {f : α → Option β} {xs : List α} {i : ℕ} {a : α}
    (h : xs[i]? = some a) (hf : f a = none) : (xs.eraseIdx i).filterMap f = xs.filterMap f := by
  obtain ⟨pre, post, rfl, -, herase, -⟩ := exists_split h
  rw [herase]
  simp only [List.filterMap_append, List.filterMap_cons, hf]

variable {key : ι → κ} {place : ω → κ} {item : ω → Option ι} {ws : List ω}

structure Workers (key : ι → κ) (place : ω → κ) (item : ω → Option ι) (ws : List ω) : Prop where
  own : ∀ w i, item w = some i → key i = place w
  single : (ws.map place).Nodup

theorem Workers.eraseIdx (h : Workers key place item ws) (j : ℕ) :
    Workers key place item (ws.eraseIdx j) :=
  ⟨h.own, h.single.sublist ((List.eraseIdx_sublist ws j).map place)⟩

theorem Workers.modify (h : Workers key place item ws) {g : ω → ω} (j : ℕ)
    (hg : ∀ w, place (g w) = place w) : Workers key place item (ws.modify j g) := by
  refine ⟨h.own, ?_⟩
  have hmap : (ws.modify j g).map place = ws.map place := by
    rcases hj : ws[j]? with - | w
    · rw [List.modify_eq_self (List.getElem?_eq_none_iff.1 hj)]
    · obtain ⟨pre, post, rfl, -, -, hmodify⟩ := exists_split hj
      rw [hmodify g]
      simp only [List.map_append, List.map_cons, hg]
  rw [hmap]
  exact h.single

theorem Workers.append (h : Workers key place item ws) {w : ω}
    (hw : ∀ x ∈ ws, place x ≠ place w) : Workers key place item (ws ++ [w]) := by
  refine ⟨h.own, ?_⟩
  rw [List.map_append, List.map_singleton, List.nodup_append]
  refine ⟨h.single, List.nodup_singleton _, fun a ha b hb => ?_⟩
  obtain ⟨x, hx, rfl⟩ := List.mem_map.1 ha
  rw [List.mem_singleton.1 hb]
  exact hw x hx

theorem Workers.others (h : Workers key place item ws) {j : ℕ} {w : ω} (hj : ws[j]? = some w) :
    ∀ x ∈ ws.eraseIdx j, place x ≠ place w := by
  obtain ⟨pre, post, rfl, -, herase, -⟩ := exists_split hj
  have hsingle := h.single
  rw [List.map_append, List.map_cons, List.nodup_middle, List.nodup_cons] at hsingle
  intro x hx heq
  rw [herase] at hx
  refine hsingle.1 ?_
  rw [← List.map_append, ← heq]
  exact List.mem_map_of_mem hx

section Lanes

variable [DecidableEq κ]

/-- The items of one key, in order. -/
def lane (key : ι → κ) (k : κ) (xs : List ι) : List ι := xs.filter fun x => key x = k

@[simp] theorem lane_nil (k : κ) : lane key k [] = [] := rfl

@[simp] theorem lane_append (k : κ) (xs ys : List ι) :
    lane key k (xs ++ ys) = lane key k xs ++ lane key k ys :=
  List.filter_append xs ys

theorem lane_cons_self {k : κ} {x : ι} (h : key x = k) (xs : List ι) :
    lane key k (x :: xs) = x :: lane key k xs :=
  List.filter_cons_of_pos (decide_eq_true h)

theorem lane_cons_of_ne {k : κ} {x : ι} (h : key x ≠ k) (xs : List ι) :
    lane key k (x :: xs) = lane key k xs :=
  List.filter_cons_of_neg (by simpa using h)

@[simp] theorem lane_tagged (k : κ) (a : α) : lane Prod.fst k [(k, a)] = [(k, a)] :=
  lane_cons_self rfl []

theorem lane_tagged_of_ne {k l : κ} (h : l ≠ k) (a : α) : lane Prod.fst k [(l, a)] = [] :=
  lane_cons_of_ne h []

theorem lane_eq_nil {k : κ} {xs : List ι} (h : ∀ x ∈ xs, key x ≠ k) : lane key k xs = [] :=
  List.filter_eq_nil_iff.2 fun x hx => by simpa using h x hx

theorem lane_filter (k : κ) (q : ι → Bool) (xs : List ι) :
    lane key k (xs.filter q) = (lane key k xs).filter q := by
  rw [lane, lane, List.filter_filter, List.filter_filter]
  exact List.filter_congr fun x _ => Bool.and_comm _ _

theorem lane_sublist (k : κ) (xs : List ι) : (lane key k xs).Sublist xs := List.filter_sublist

theorem lane_eraseIdx_self {xs : List ι} {i : ℕ} {a : ι} (h : xs[i]? = some a)
    (hfirst : ∀ x ∈ xs.take i, key x ≠ key a) :
    lane key (key a) xs = a :: lane key (key a) (xs.eraseIdx i) := by
  obtain ⟨pre, post, hxs, rfl, herase, -⟩ := exists_split h
  rw [herase, lane_append, lane_eq_nil hfirst, List.nil_append]
  conv_lhs => rw [hxs]
  rw [lane_append, lane_eq_nil hfirst, List.nil_append, lane_cons_self rfl]

theorem lane_eraseIdx_of_ne {xs : List ι} {i : ℕ} {a : ι} {k : κ} (h : xs[i]? = some a)
    (hne : key a ≠ k) : lane key k (xs.eraseIdx i) = lane key k xs := by
  obtain ⟨pre, post, rfl, -, herase, -⟩ := exists_split h
  rw [herase, lane_append, lane_append, lane_cons_of_ne hne]

theorem Workers.lane_eq_nil (h : Workers key place item ws) {k : κ}
    (hk : ∀ w ∈ ws, place w ≠ k) : lane key k (ws.filterMap item) = [] := by
  refine Fifo.lane_eq_nil fun i hi => ?_
  obtain ⟨w, hw, hitem⟩ := List.mem_filterMap.1 hi
  rw [h.own w i hitem]
  exact hk w hw

theorem Workers.lane_self (h : Workers key place item ws) {j : ℕ} {w : ω} {i : ι}
    (hj : ws[j]? = some w) (hi : item w = some i) :
    lane key (place w) (ws.filterMap item) = [i] := by
  have hothers := h.others hj
  obtain ⟨pre, post, rfl, -, herase, -⟩ := exists_split hj
  rw [herase] at hothers
  have hown := h.own w i hi
  have hnil : ∀ xs : List ω, (∀ x ∈ xs, place x ≠ place w) →
      lane key (place w) (xs.filterMap item) = [] := fun xs hxs =>
    Fifo.lane_eq_nil fun a ha => by
      obtain ⟨x, hx, hitem⟩ := List.mem_filterMap.1 ha
      rw [h.own x a hitem]
      exact hxs x hx
  rw [List.filterMap_append, List.filterMap_cons, hi, lane_append, lane_cons_self hown,
    hnil pre fun x hx => hothers x (List.mem_append_left _ hx),
    hnil post fun x hx => hothers x (List.mem_append_right _ hx)]
  rfl

theorem Workers.lane_eraseIdx_self (h : Workers key place item ws) {j : ℕ} {w : ω}
    (hj : ws[j]? = some w) : lane key (place w) ((ws.eraseIdx j).filterMap item) = [] :=
  (h.eraseIdx j).lane_eq_nil (h.others hj)

theorem Workers.lane_eraseIdx_of_ne (h : Workers key place item ws) {j : ℕ} {w : ω} {k : κ}
    (hj : ws[j]? = some w) (hk : place w ≠ k) :
    lane key k ((ws.eraseIdx j).filterMap item) = lane key k (ws.filterMap item) := by
  obtain ⟨pre, post, rfl, -, herase, -⟩ := exists_split hj
  rw [herase, List.filterMap_append, List.filterMap_append, List.filterMap_cons]
  cases hi : item w with
  | none => rfl
  | some i =>
    have hne : key i ≠ k := by
      rw [h.own w i hi]
      exact hk
    rw [lane_append, lane_append, lane_cons_of_ne hne]

end Lanes

end UsbRepeater.Fifo
