import Mathlib

/-! Packed structures: fields of fixed sizes, one behind the other. A program fills such a
structure in memory by assignments to its fields, in any order and some of them twice; what a
field holds in the end depends on the assignments to that field alone. -/
namespace UsbRepeater.Packed

variable {α F : Type*}

/-- Memory after `data` has been stored from `offset` on. -/
def store (offset : ℕ) (data mem : List α) : List α :=
  mem.take offset ++ (data ++ mem.drop (offset + data.length))

def window (offset n : ℕ) (mem : List α) : List α := (mem.drop offset).take n

theorem store_length {offset : ℕ} {data mem : List α} (h : offset + data.length ≤ mem.length) :
    (store offset data mem).length = mem.length := by
  simp only [store, List.length_append, List.length_take, List.length_drop]
  omega

theorem getElem?_window (offset n : ℕ) (mem : List α) (i : ℕ) :
    (window offset n mem)[i]? = if i < n then mem[offset + i]? else none := by
  rw [window, List.getElem?_take, List.getElem?_drop]

theorem getElem?_store {offset : ℕ} {data mem : List α} (h : offset + data.length ≤ mem.length)
    (i : ℕ) : (store offset data mem)[i]? =
      if offset ≤ i ∧ i < offset + data.length then data[i - offset]? else mem[i]? := by
  have hlen : (mem.take offset).length = offset := by
    rw [List.length_take]
    omega
  rw [store, List.getElem?_append, hlen]
  by_cases hbefore : i < offset
  · rw [if_pos hbefore, if_neg (by omega), List.getElem?_take, if_pos hbefore]
  · rw [if_neg hbefore, List.getElem?_append]
    by_cases hin : i - offset < data.length
    · rw [if_pos hin, if_pos (by omega)]
    · rw [if_neg hin, if_neg (by omega), List.getElem?_drop]
      congr 1
      omega

theorem window_store_of_disjoint {offset start n : ℕ} {data mem : List α}
    (h : offset + data.length ≤ mem.length)
    (hdisjoint : offset + data.length ≤ start ∨ start + n ≤ offset) :
    window start n (store offset data mem) = window start n mem := by
  refine List.ext_getElem? fun i => ?_
  rw [getElem?_window, getElem?_window]
  by_cases hi : i < n
  · rw [if_pos hi, if_pos hi, getElem?_store h, if_neg (by omega)]
  · rw [if_neg hi, if_neg hi]

theorem window_store_self {offset n : ℕ} {data mem : List α} (hdata : data.length ≤ n)
    (h : offset + n ≤ mem.length) :
    window offset n (store offset data mem) = data ++ (window offset n mem).drop data.length := by
  refine List.ext_getElem? fun i => ?_
  rw [getElem?_window, List.getElem?_append, List.getElem?_drop, getElem?_window,
    getElem?_store (by omega)]
  by_cases hin : i < data.length
  · rw [if_pos (by omega), if_pos (by omega), if_pos hin]
    congr 1
    omega
  · have hindex : data.length + (i - data.length) = i := by omega
    have hbehind : ¬ (offset ≤ offset + i ∧ offset + i < offset + data.length) := by omega
    rw [if_neg hin, if_neg hbehind, hindex]

theorem store_append {offset n : ℕ} {front : List α} (h : front.length = offset)
    (data mem : List α) :
    store (offset + n) data (front ++ mem) = front ++ store n data mem := by
  rw [store, store, ← h, List.take_append, List.drop_append, List.take_of_length_le (by omega),
    List.drop_of_length_le (by omega), List.append_assoc, List.nil_append]
  congr 4 <;> omega

theorem store_flatMap {β : Type*} {encode : β → List α} {k : ℕ} (hk : ∀ x, (encode x).length = k)
    (x : β) {table : List β} {n : ℕ} (hn : n < table.length) :
    store (k * n) (encode x) (table.flatMap encode) = (table.set n x).flatMap encode := by
  induction table generalizing n with
  | nil => exact absurd hn (Nat.not_lt_zero n)
  | cons y table ih =>
    cases n with
    | zero =>
      have hrest : (encode y ++ table.flatMap encode).drop k = table.flatMap encode :=
        List.drop_left' (hk y)
      rw [Nat.mul_zero, store, List.take_zero, List.nil_append, Nat.zero_add, hk,
        List.flatMap_cons, hrest, List.set_cons_zero, List.flatMap_cons]
    | succ n =>
      have htail := ih (Nat.lt_of_succ_lt_succ hn)
      rw [Nat.mul_succ, Nat.add_comm, List.flatMap_cons, store_append (hk y), htail,
        List.set_cons_succ, List.flatMap_cons]

/-- The fields of a packed structure in the order of their declaration, with their sizes. -/
structure Layout (F : Type*) where
  fields : List F
  size : F → ℕ
  nodup : fields.Nodup

namespace Layout

variable (L : Layout F)

def extent (fs : List F) : ℕ := (fs.map L.size).sum

/-- `sizeof` the structure. -/
def total : ℕ := L.extent L.fields

@[simp] theorem extent_nil : L.extent [] = 0 := rfl

@[simp] theorem extent_append (fs gs : List F) :
    L.extent (fs ++ gs) = L.extent fs + L.extent gs := by
  simp [extent]

@[simp] theorem extent_cons (f : F) (fs : List F) :
    L.extent (f :: fs) = L.size f + L.extent fs := by
  simp [extent]

variable [DecidableEq F]

def offset (f : F) : ℕ := L.extent (L.fields.takeWhile (· ≠ f))

def read (f : F) (mem : List α) : List α := window (L.offset f) (L.size f) mem

/-- An assignment to a field. Data shorter than the field fill its first bytes. -/
def assign (mem : List α) (a : F × List α) : List α := store (L.offset a.1) a.2 mem

def run (as : List (F × List α)) (mem : List α) : List α := as.foldl L.assign mem

/-- What a sequence of assignments makes of the content of the field `f`. -/
def content (as : List (F × List α)) (f : F) (old : List α) : List α :=
  (as.filter fun a => a.1 = f).foldl (fun old a => a.2 ++ old.drop a.2.length) old

@[simp] theorem content_nil (f : F) (old : List α) : content [] f old = old := rfl

theorem content_cons (a : F × List α) (as : List (F × List α)) (f : F) (old : List α) :
    content (a :: as) f old =
      content as f (if a.1 = f then a.2 ++ old.drop a.2.length else old) := by
  by_cases hsame : a.1 = f
  · rw [if_pos hsame, content, content, List.filter_cons, if_pos (decide_eq_true hsame)]
    rfl
  · rw [if_neg hsame, content, content, List.filter_cons, if_neg (by simpa using hsame)]

def Fits (a : F × List α) : Prop := a.1 ∈ L.fields ∧ a.2.length ≤ L.size a.1

variable {L}

theorem offset_eq {f : F} {pre post : List F} (h : L.fields = pre ++ f :: post) :
    L.offset f = L.extent pre := by
  have hnodup := L.nodup
  rw [h] at hnodup
  have hpre : ∀ g ∈ pre, decide (g ≠ f) = true := by
    intro g hg
    exact decide_eq_true ((List.nodup_append.1 hnodup).2.2 g hg f List.mem_cons_self)
  rw [offset, h, List.takeWhile_append_of_pos hpre, List.takeWhile_cons_of_neg (by simp),
    List.append_nil]

theorem offset_add_size_le {f : F} (hf : f ∈ L.fields) : L.offset f + L.size f ≤ L.total := by
  obtain ⟨pre, post, h⟩ := List.append_of_mem hf
  rw [offset_eq h, total, h, extent_append, extent_cons]
  omega

theorem offset_disjoint {f g : F} (hf : f ∈ L.fields) (hg : g ∈ L.fields) (hne : f ≠ g) :
    L.offset f + L.size f ≤ L.offset g ∨ L.offset g + L.size g ≤ L.offset f := by
  obtain ⟨pre, post, h⟩ := List.append_of_mem hf
  have hmem : g ∈ pre ∨ g ∈ post := by
    rw [h, List.mem_append, List.mem_cons] at hg
    rcases hg with hg | hg | hg
    · exact .inl hg
    · exact absurd hg.symm hne
    · exact .inr hg
  rcases hmem with hmem | hmem
  · obtain ⟨as, bs, rfl⟩ := List.append_of_mem hmem
    have hg' : L.fields = as ++ g :: (bs ++ f :: post) := by
      rw [h, List.append_assoc, List.cons_append]
    right
    rw [offset_eq hg', offset_eq h, extent_append, extent_cons]
    omega
  · obtain ⟨as, bs, rfl⟩ := List.append_of_mem hmem
    have hg' : L.fields = (pre ++ f :: as) ++ g :: bs := by
      rw [h, List.append_assoc, List.cons_append]
    left
    rw [offset_eq hg', offset_eq h, extent_append, extent_cons]
    omega

theorem append_read_drop {f : F} {data : List α} (h : L.size f ≤ data.length) (mem : List α) :
    data ++ (L.read f mem).drop data.length = data := by
  have hshort : (L.read f mem).length ≤ L.size f := List.length_take_le _ _
  rw [List.drop_of_length_le (hshort.trans h), List.append_nil]

omit [DecidableEq F] in
/-- Whether assignments fit is a matter of the sizes of their data. -/
theorem fits_of_sizes (sizes : List (F × ℕ)) {as : List (F × List α)}
    (h : as.map (fun a => (a.1, a.2.length)) = sizes)
    (hsizes : ∀ p ∈ sizes, p.1 ∈ L.fields ∧ p.2 ≤ L.size p.1) : ∀ a ∈ as, L.Fits a := by
  intro a ha
  exact hsizes (a.1, a.2.length) (h ▸ List.mem_map_of_mem ha)

theorem assign_length {mem : List α} {a : F × List α} (ha : L.Fits a)
    (hmem : mem.length = L.total) : (L.assign mem a).length = mem.length := by
  have hend := offset_add_size_le ha.1
  have hsize := ha.2
  exact store_length (by omega)

theorem read_assign {mem : List α} {a : F × List α} {f : F} (ha : L.Fits a)
    (hf : f ∈ L.fields) (hmem : mem.length = L.total) : L.read f (L.assign mem a) =
      if a.1 = f then a.2 ++ (L.read f mem).drop a.2.length else L.read f mem := by
  have hend := offset_add_size_le ha.1
  have hsize := ha.2
  by_cases hsame : a.1 = f
  · rw [if_pos hsame, read, read, assign, ← hsame]
    exact window_store_self hsize (by omega)
  · rw [if_neg hsame]
    have hdisjoint := offset_disjoint ha.1 hf hsame
    exact window_store_of_disjoint (by omega) (by omega)

theorem run_length {as : List (F × List α)} {mem : List α} (has : ∀ a ∈ as, L.Fits a)
    (hmem : mem.length = L.total) : (L.run as mem).length = L.total := by
  induction as generalizing mem with
  | nil => exact hmem
  | cons a as ih =>
    have hone := assign_length (has a List.mem_cons_self) hmem
    exact ih (fun b hb => has b (List.mem_cons_of_mem a hb)) (hone.trans hmem)

/-- The content of a field depends on the assignments to it alone. -/
theorem read_run {as : List (F × List α)} {mem : List α} {f : F} (has : ∀ a ∈ as, L.Fits a)
    (hf : f ∈ L.fields) (hmem : mem.length = L.total) :
    L.read f (L.run as mem) = content as f (L.read f mem) := by
  induction as generalizing mem with
  | nil => rfl
  | cons a as ih =>
    have hone := assign_length (has a List.mem_cons_self) hmem
    have htail := ih (fun b hb => has b (List.mem_cons_of_mem a hb)) (hone.trans hmem)
    rw [read_assign (has a List.mem_cons_self) hf hmem] at htail
    rw [content_cons]
    exact htail

theorem window_eq_flatMap_read {pre fs post : List F} {mem : List α}
    (h : L.fields = pre ++ fs ++ post) :
    window (L.extent pre) (L.extent fs) mem = fs.flatMap fun f => L.read f mem := by
  induction fs generalizing pre with
  | nil => simp [extent, window]
  | cons f fs ih =>
    have hf : L.fields = pre ++ f :: (fs ++ post) := by
      rw [h, List.append_assoc, List.cons_append]
    have htail : L.fields = (pre ++ [f]) ++ fs ++ post := by
      rw [hf]
      simp
    have hrest := ih htail
    rw [extent_append, extent_cons, extent_nil, Nat.add_zero] at hrest
    rw [List.flatMap_cons, ← hrest, extent_cons, read, offset_eq hf, window, window, window,
      List.take_add, List.drop_drop]

theorem eq_flatMap_read {mem : List α} (hmem : mem.length = L.total) :
    mem = L.fields.flatMap fun f => L.read f mem := by
  have hfields : L.fields = [] ++ L.fields ++ [] := by simp
  have hall : window (L.extent []) (L.extent L.fields) mem =
      L.fields.flatMap fun f => L.read f mem := window_eq_flatMap_read hfields
  rw [← hall, window, extent_nil, List.drop_zero]
  exact (List.take_of_length_le hmem.le).symm

end Layout

end UsbRepeater.Packed
