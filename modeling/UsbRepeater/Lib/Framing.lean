import Mathlib

/-! Streams of frames with a head of fixed size that tells the length of the body behind it.
A stream written frame by frame is split into the same frames, whatever the heads and bodies
hold. -/
namespace UsbRepeater.Framing

variable {β : Type*}

/-- Read one frame and return it with what is left. A head that is incomplete or unknown, and a
body that is cut off, are rejected. -/
def readFrame (headSize : ℕ) (bodyLength : List β → Option ℕ) (stream : List β) :
    Option ((List β × List β) × List β) :=
  if headSize ≤ stream.length then
    (bodyLength (stream.take headSize)).bind fun n =>
      if headSize + n ≤ stream.length then
        some ((stream.take headSize, (stream.drop headSize).take n), stream.drop (headSize + n))
      else none
  else none

def splitAux (headSize : ℕ) (bodyLength : List β → Option ℕ) :
    ℕ → List β → Option (List (List β × List β))
  | _, [] => some []
  | 0, _ :: _ => none
  | fuel + 1, b :: stream =>
      (readFrame headSize bodyLength (b :: stream)).bind fun r =>
        (splitAux headSize bodyLength fuel r.2).map (r.1 :: ·)

/-- Every frame takes at least one item, so the length of the stream is fuel enough. -/
def split (headSize : ℕ) (bodyLength : List β → Option ℕ) (stream : List β) :
    Option (List (List β × List β)) :=
  splitAux headSize bodyLength stream.length stream

variable {headSize : ℕ} {bodyLength : List β → Option ℕ}

structure Fits (headSize : ℕ) (bodyLength : List β → Option ℕ) (f : List β × List β) : Prop where
  head : f.1.length = headSize
  body : bodyLength f.1 = some f.2.length

theorem readFrame_append {f : List β × List β} (hf : Fits headSize bodyLength f)
    (rest : List β) :
    readFrame headSize bodyLength (f.1 ++ f.2 ++ rest) = some (f, rest) := by
  have htake : (f.1 ++ f.2 ++ rest).take headSize = f.1 := by
    rw [List.append_assoc, List.take_left' hf.head]
  have hdrop : (f.1 ++ f.2 ++ rest).drop headSize = f.2 ++ rest := by
    rw [List.append_assoc, List.drop_left' hf.head]
  have hrest : (f.1 ++ f.2 ++ rest).drop (headSize + f.2.length) = rest := by
    rw [← List.drop_drop, hdrop, List.drop_left]
  have hlen : headSize + f.2.length ≤ (f.1 ++ f.2 ++ rest).length := by
    simp only [List.length_append, hf.head]
    omega
  rw [readFrame, if_pos (by omega), htake, hf.body, Option.bind_some, if_pos hlen, hdrop, hrest,
    List.take_left]

theorem splitAux_cons {f : List β × List β} (hf : Fits headSize bodyLength f)
    (hpos : 0 < headSize) (fuel : ℕ) (rest : List β) :
    splitAux headSize bodyLength (fuel + 1) (f.1 ++ f.2 ++ rest) =
      (splitAux headSize bodyLength fuel rest).map (f :: ·) := by
  have hread := readFrame_append hf rest
  have hhead := hf.head
  cases hs : f.1 ++ f.2 ++ rest with
  | nil =>
    have hempty := congrArg List.length hs
    simp only [List.length_append, List.length_nil] at hempty
    omega
  | cons b bs =>
    rw [hs] at hread
    rw [splitAux, hread, Option.bind_some]

theorem splitAux_flatMap (hpos : 0 < headSize) (frames : List (List β × List β))
    (hf : ∀ f ∈ frames, Fits headSize bodyLength f) (fuel : ℕ) (hfuel : frames.length ≤ fuel) :
    splitAux headSize bodyLength fuel (frames.flatMap fun f => f.1 ++ f.2) = some frames := by
  induction frames generalizing fuel with
  | nil => simp [splitAux]
  | cons f frames ih =>
    cases fuel with
    | zero => simp at hfuel
    | succ fuel =>
      have hrest := ih (fun g hg => hf g (List.mem_cons_of_mem f hg)) fuel (by simpa using hfuel)
      rw [List.flatMap_cons, splitAux_cons (hf f List.mem_cons_self) hpos, hrest]
      rfl

theorem length_le_flatMap (hpos : 0 < headSize) (frames : List (List β × List β))
    (hf : ∀ f ∈ frames, Fits headSize bodyLength f) :
    frames.length ≤ (frames.flatMap fun f => f.1 ++ f.2).length := by
  induction frames with
  | nil => exact le_rfl
  | cons f frames ih =>
    have hrest := ih fun g hg => hf g (List.mem_cons_of_mem f hg)
    have hhead := (hf f List.mem_cons_self).head
    simp only [List.flatMap_cons, List.length_append, List.length_cons]
    omega

/-- The round trip: a stream of frames splits with nothing left over. -/
theorem split_flatMap (hpos : 0 < headSize) (frames : List (List β × List β))
    (hf : ∀ f ∈ frames, Fits headSize bodyLength f) :
    split headSize bodyLength (frames.flatMap fun f => f.1 ++ f.2) = some frames :=
  splitAux_flatMap hpos frames hf _ (length_le_flatMap hpos frames hf)

theorem splitAux_short {rest : List β} (hrest : rest ≠ []) (hshort : rest.length < headSize)
    (fuel : ℕ) : splitAux headSize bodyLength fuel rest = none := by
  obtain ⟨b, bs, rfl⟩ := List.exists_cons_of_ne_nil hrest
  cases fuel with
  | zero => rfl
  | succ fuel =>
    rw [splitAux, readFrame, if_neg (not_le.2 hshort)]
    rfl

/-- Bytes left over behind a frame are noticed. -/
theorem split_append_short {f : List β × List β} (hf : Fits headSize bodyLength f)
    {rest : List β} (hrest : rest ≠ []) (hshort : rest.length < headSize) :
    split headSize bodyLength (f.1 ++ f.2 ++ rest) = none := by
  have hpos : 0 < headSize := by omega
  have hlen : (f.1 ++ f.2 ++ rest).length = (f.1 ++ f.2 ++ rest).length - 1 + 1 := by
    simp only [List.length_append, hf.head]
    omega
  rw [split, hlen, splitAux_cons hf hpos, splitAux_short hrest hshort]
  rfl

theorem take_drop_flatMap {α : Type*} {f : α → List β} {size : ℕ} (hf : ∀ a, (f a).length = size)
    {records : List α} {i : ℕ} {a : α} (h : records[i]? = some a) :
    ((records.flatMap f).drop (size * i)).take size = f a := by
  induction records generalizing i with
  | nil => simp at h
  | cons b records ih =>
    rw [List.flatMap_cons]
    cases i with
    | zero =>
      obtain rfl : b = a := by simpa using h
      exact List.take_left' (hf b)
    | succ i =>
      have hskip : (f b ++ records.flatMap f).drop (size * (i + 1)) =
          (records.flatMap f).drop (size * i) := by
        rw [Nat.mul_succ, Nat.add_comm, ← List.drop_drop, List.drop_left' (hf b)]
      rw [hskip]
      exact ih (by simpa using h)

theorem length_flatMap_eq {α : Type*} {f : α → List β} {size : ℕ} (hf : ∀ a, (f a).length = size)
    (records : List α) : (records.flatMap f).length = size * records.length := by
  induction records with
  | nil => rfl
  | cons b records ih =>
    rw [List.flatMap_cons, List.length_append, hf, ih, List.length_cons, Nat.mul_succ,
      Nat.add_comm]

end UsbRepeater.Framing
