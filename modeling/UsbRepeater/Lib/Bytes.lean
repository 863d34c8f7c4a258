import Mathlib

/-! Byte strings: big-endian words, fixed-size memory regions and C strings.
Reading past the end of a region gives zero bytes, so every reader is total. -/
namespace UsbRepeater

abbrev Bytes := List UInt8

/-- The two bytes of a 16-bit word in network order. -/
def be16 (w : UInt16) : Bytes :=
  [UInt8.ofNat (w.toNat / 256), UInt8.ofNat w.toNat]

def be32 (w : UInt32) : Bytes :=
  [UInt8.ofNat (w.toNat / 16777216), UInt8.ofNat (w.toNat / 65536),
    UInt8.ofNat (w.toNat / 256), UInt8.ofNat w.toNat]

def byteAt (b : Bytes) (i : ℕ) : ℕ := (b[i]?.getD 0).toNat

/-- The 16-bit word a region starts with, read in network order. -/
def ofBe16 (b : Bytes) : UInt16 :=
  UInt16.ofNat (byteAt b 0 * 256 + byteAt b 1)

def ofBe32 (b : Bytes) : UInt32 :=
  UInt32.ofNat (byteAt b 0 * 16777216 + byteAt b 1 * 65536 + byteAt b 2 * 256 + byteAt b 3)

@[simp] theorem be16_length (w : UInt16) : (be16 w).length = 2 := rfl

@[simp] theorem be32_length (w : UInt32) : (be32 w).length = 4 := rfl

@[simp] theorem byteAt_cons_zero (x : UInt8) (b : Bytes) : byteAt (x :: b) 0 = x.toNat := rfl

@[simp] theorem byteAt_cons_succ (x : UInt8) (b : Bytes) (i : ℕ) :
    byteAt (x :: b) (i + 1) = byteAt b i := rfl

@[simp] theorem drop_be16_append (w : UInt16) (rest : Bytes) (n : ℕ) :
    (be16 w ++ rest).drop (n + 2) = rest.drop n := rfl

@[simp] theorem drop_be32_append (w : UInt32) (rest : Bytes) (n : ℕ) :
    (be32 w ++ rest).drop (n + 4) = rest.drop n := rfl

@[simp] theorem ofBe16_be16_append (w : UInt16) (rest : Bytes) :
    ofBe16 (be16 w ++ rest) = w := by
  have hw := w.toNat_lt
  apply UInt16.toNat_inj.1
  simp only [ofBe16, be16, List.cons_append, byteAt_cons_zero, byteAt_cons_succ,
    UInt8.toNat_ofNat', UInt16.toNat_ofNat']
  omega

@[simp] theorem ofBe32_be32_append (w : UInt32) (rest : Bytes) :
    ofBe32 (be32 w ++ rest) = w := by
  have hw := w.toNat_lt
  apply UInt32.toNat_inj.1
  simp only [ofBe32, be32, List.cons_append, byteAt_cons_zero, byteAt_cons_succ,
    UInt8.toNat_ofNat', UInt32.toNat_ofNat']
  omega

@[simp] theorem ofBe16_be16 (w : UInt16) : ofBe16 (be16 w) = w := by
  simpa using ofBe16_be16_append w []

@[simp] theorem ofBe32_be32 (w : UInt32) : ofBe32 (be32 w) = w := by
  simpa using ofBe32_be32_append w []

/-- What a region holds after `data` has been written to its start. -/
def overwrite (data old : Bytes) : Bytes := data ++ old.drop data.length

@[simp] theorem overwrite_take (data old : Bytes) :
    (overwrite data old).take data.length = data := by
  simp [overwrite]

theorem overwrite_nil (data : Bytes) : overwrite data [] = data := by
  simp [overwrite]

theorem overwrite_length (data old : Bytes) (h : data.length ≤ old.length) :
    (overwrite data old).length = old.length := by
  simp only [overwrite, List.length_append, List.length_drop]
  omega

theorem overwrite_drop (data old : Bytes) : (overwrite data old).drop data.length =
    old.drop data.length := by
  simp [overwrite]

theorem overwrite_length_iff (data old : Bytes) :
    (overwrite data old).length = old.length ↔ data.length ≤ old.length := by
  simp only [overwrite, List.length_append, List.length_drop]
  omega

theorem overwrite_full {data old : Bytes} (h : data.length = old.length) :
    overwrite data old = data := by
  rw [overwrite, h, List.drop_length, List.append_nil]

/-- A region of exactly `n` bytes that starts with `content`. -/
def sized (n : ℕ) (content : Bytes) : Bytes := (content ++ List.replicate n 0).take n

@[simp] theorem sized_length (n : ℕ) (content : Bytes) : (sized n content).length = n := by
  simp [sized]

theorem sized_eq_take {n : ℕ} {content : Bytes} (h : n ≤ content.length) :
    sized n content = content.take n := by
  rw [sized, List.take_append_of_le_length h]

theorem sized_append {n : ℕ} {a b : Bytes} (h : n ≤ b.length) (rest : Bytes) :
    sized (a.length + n) (a ++ b ++ rest) = a ++ b.take n := by
  have hlen : a.length + n ≤ (a ++ b).length := by
    rw [List.length_append]
    omega
  have hhead : a.take (a.length + n) = a := List.take_of_length_le (Nat.le_add_right _ _)
  rw [sized, List.append_assoc, List.take_append_of_le_length hlen, List.take_append, hhead,
    Nat.add_sub_cancel_left]

theorem take_sized {m n : ℕ} (h : m ≤ n) (content : Bytes) :
    (sized n content).take m = sized m content := by
  rw [sized, sized, List.take_take, Nat.min_eq_left h, List.take_append, List.take_append,
    List.take_replicate, List.take_replicate]
  congr 2
  omega

theorem sized_take {m n : ℕ} (h : m ≤ n) (content : Bytes) :
    sized m (content.take n) = sized m content := by
  rw [sized, sized, List.take_append, List.take_append, List.take_take, Nat.min_eq_left h,
    List.take_replicate, List.take_replicate, List.length_take]
  congr 2
  omega

/-- Bytes taken from the written part of a buffer do not depend on what lies behind it. -/
theorem sized_of_written {k m n : ℕ} {buffer : Bytes} (hm : k + m ≤ n) (hn : n ≤ buffer.length)
    (behind behind' : Bytes) :
    sized m ((buffer.take n ++ behind').drop k) = sized m ((buffer ++ behind).drop k) := by
  have hlen : (buffer.take n).length = n := by
    rw [List.length_take]
    omega
  have hwritten : ((buffer.take n ++ behind').drop k).take m = (buffer.drop k).take m := by
    rw [List.drop_append_of_le_length (by omega), List.take_append_of_le_length
      (by rw [List.length_drop]; omega), List.drop_take, List.take_take, Nat.min_eq_left (by omega)]
  have hwhole : ((buffer ++ behind).drop k).take m = (buffer.drop k).take m := by
    rw [List.drop_append_of_le_length (by omega), List.take_append_of_le_length
      (by rw [List.length_drop]; omega)]
  rw [sized_eq_take (by rw [List.length_drop, List.length_append]; omega), hwritten,
    sized_eq_take (by rw [List.length_drop, List.length_append]; omega), hwhole]

theorem sized_of_cleared {n : ℕ} {text : Bytes} (h : text.length < n) :
    (text ++ [0]) ++ (List.replicate n 0).drop (text ++ [0]).length = sized n text := by
  have hzeros : [(0 : UInt8)] ++ List.replicate (n - (text.length + 1)) 0 =
      List.replicate (n - text.length) 0 := by
    rw [← List.replicate_one, List.replicate_append_replicate]
    congr 1
    omega
  rw [List.length_append, List.length_singleton, List.drop_replicate, List.append_assoc, hzeros,
    sized, List.take_append, List.take_of_length_le h.le, List.take_replicate,
    Nat.min_eq_left (Nat.sub_le n text.length)]

/-- The text a C string starting here holds: everything before the first zero byte. -/
def cString (mem : Bytes) : Bytes := mem.takeWhile (· ≠ 0)

/-- `strcmp`: the difference at the first byte where the strings differ, 0 when they agree up to
and including the terminator. A region that ends first is read no further. -/
def strcmp : Bytes → Bytes → ℤ
  | a :: as, b :: bs =>
      if a = b then if a = 0 then 0 else strcmp as bs
      else (a.toNat : ℤ) - b.toNat
  | _, _ => 0

theorem strcmp_eq_zero_iff {text mem : Bytes} (ht : ∀ a ∈ text, a ≠ 0)
    (hm : text.length < mem.length) :
    strcmp (text ++ [0]) mem = 0 ↔ cString mem = text := by
  induction text generalizing mem with
  | nil =>
    cases mem with
    | nil => simp at hm
    | cons b bs =>
      by_cases hb : b = 0
      · subst hb; simp [strcmp, cString]
      · have hne : b.toNat ≠ 0 := fun h => hb (UInt8.toNat_inj.1 (by simpa using h))
        simp [strcmp, cString, hb, Ne.symm hb, hne]
  | cons a as ih =>
    cases mem with
    | nil => simp at hm
    | cons b bs =>
      have ha : a ≠ 0 := ht a (by simp)
      have ha' : a.toNat ≠ 0 := fun h => ha (UInt8.toNat_inj.1 (by simpa using h))
      have htail : strcmp (as ++ [0]) bs = 0 ↔ cString bs = as :=
        ih (fun x hx => ht x (by simp [hx])) (by simpa using hm)
      by_cases hab : a = b
      · subst hab
        simp only [cString] at htail
        simp [strcmp, cString, ha, htail]
      · have hne : (a.toNat : ℤ) - b.toNat ≠ 0 := by
          intro h
          exact hab (UInt8.toNat_inj.1 (by omega))
        by_cases hb : b = 0
        · subst hb; simp [strcmp, cString, ha, ha']
        · simp [strcmp, cString, hab, hb, hne, Ne.symm hab]

end UsbRepeater
