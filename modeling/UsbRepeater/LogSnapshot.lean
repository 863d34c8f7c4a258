import UsbRepeater.Lib.Watch
import UsbRepeater.LogStream

/-! What GET /logs reads in its second critical section, after it has sized its buffer in the
first. Calls of other tasks come in between: the file may have grown, and a `log_clear` may have
emptied it. -/
namespace UsbRepeater

open Schedule

/-- The size that the request has seen last, 0 where `stat` has failed, and what has been stored
since the last `log_clear`. -/
structure LogSeen where
  size : ℕ
  since : Bytes
  deriving DecidableEq, Repr

def noteLog (s : LogServer) (a : LogAction) (m : LogSeen) : LogSeen :=
  match a with
  | .get (.size measured) => { m with size := if measured then s.log.content.length else 0 }
  | .clear _ _ => { m with since := [] }
  | .write i stored =>
      match s.calls[i]? with
      | some (.write f) => { m with since := m.since ++ f.bytes.take stored }
      | _ => m
  | _ => m

def ReopenSucceeds (_ : LogServer) : LogAction → Prop
  | .clear _ reopened => reopened = true
  | _ => True

instance : ∀ (s : LogServer) (a : LogAction), Decidable (ReopenSucceeds s a)
  | _, .clear _ reopened => inferInstanceAs (Decidable (reopened = true))
  | _, .call _ => isTrue trivial
  | _, .timeout _ => isTrue trivial
  | _, .write _ _ => isTrue trivial
  | _, .getSize _ _ => isTrue trivial
  | _, .getBuffer _ _ => isTrue trivial
  | _, .get _ => isTrue trivial

structure LogState.Holds (s : LogState) (text : Bytes) : Prop where
  live : s.live s.logFile = true
  numbered : s.Numbered
  file : s.file = some text
  room : text.length ≤ s.capacity
  capacity : s.capacity = spiffsSize

namespace LogState.Holds

theorem content {s : LogState} {text : Bytes} (h : s.Holds text) : s.content = text := by
  rw [LogState.content, h.file]
  rfl

theorem small {s : LogState} {text : Bytes} (h : s.Holds text) : text.length ≤ spiffsSize :=
  h.capacity ▸ h.room

theorem of_same {s t : LogState} {text : Bytes} (h : s.Holds text) (hsame : s.SameStream t)
    (hfile : t.file = s.file) : t.Holds text where
  live := hsame.live.trans h.live
  numbered := hsame.numbered h.numbered
  file := hfile.trans h.file
  room := hsame.capacity.symm ▸ h.room
  capacity := hsame.capacity.trans h.capacity

theorem append {s t : LogState} {text bytes : Bytes} {stored : ℕ} (h : s.Holds text)
    (happend : s.append bytes stored = some t) : t.Holds (text ++ bytes.take stored) := by
  have hsame := append_sameStream happend
  obtain ⟨⟨hstored, hroom⟩, rfl⟩ := append_eq_some.1 happend
  refine ⟨hsame.live.trans h.live, hsame.numbered h.numbered, ?_, ?_, h.capacity⟩
  · rw [h.live, h.file]
    rfl
  · rw [List.length_append, List.length_take, Nat.min_eq_left hstored, ← h.content]
    exact hroom

theorem write {s t : LogState} {text : Bytes} {f : Formatted} {stored : ℕ} (h : s.Holds text)
    (hwrite : logWrite s f stored = some t) : t.Holds (text ++ f.bytes.take stored) := by
  obtain ⟨u, happend, rfl⟩ := logWrite_eq_some hwrite
  obtain ⟨hlive, hnumbered, hfile, hroom, hcapacity⟩ := h.append happend
  exact ⟨hlive, hnumbered, hfile, hroom, hcapacity⟩

theorem clear {s : LogState} {text : Bytes} (h : s.Holds text) :
    (logClear s true).Holds [] :=
  ⟨LogState.openLog_live _, logClear_numbered h.numbered true, rfl, Nat.zero_le _, h.capacity⟩

theorem getSize {s : LogState} {text : Bytes} (h : s.Holds text) (measured : Bool) :
    (logGetSize s measured).1.Holds text := h.of_same (logGetSize_sameStream s measured) rfl

theorem getBuffer {s t : LogState} {text : Bytes} {bufferSize : UInt32} {r : Option ℕ}
    {fill : BufferFill} (h : s.Holds text) (hread : logGetBuffer s bufferSize r = some (t, fill)) :
    t.Holds text := by
  refine h.of_same (logGetBuffer_sameStream h.numbered hread) ?_
  rcases logGetBuffer_eq_some hread with ⟨-, rfl, -⟩ | ⟨n, -, -, -, rfl, -⟩ <;> rfl

end LogState.Holds

def LogsGet.Carries (size : ℕ) : LogsGet → Prop
  | .sized logSize | .allocated logSize | .reading logSize => logSize = UInt32.ofNat size
  | _ => True

structure LogServer.Snapshot (s : LogServer) (m : LogSeen) : Prop where
  holds : s.log.Holds m.since
  size : m.size ≤ spiffsSize
  carries : s.get.Carries m.size

theorem LogStep.snapshot {s t : LogServer} {a : LogAction} {m : LogSeen} (h : LogStep s a t)
    (hs : s.Snapshot m) (ha : ReopenSucceeds s a) : t.Snapshot (noteLog s a m) := by
  obtain ⟨hholds, hsize, hcarries⟩ := hs
  have hopen : s.log.logFile.isSome = true := LogState.isSome_of_live hholds.live
  cases h with
  | refused c hnull => exact ⟨hholds, hsize, hcarries⟩
  | call c hopen => exact ⟨⟨hholds.live, hholds.numbered, hholds.file, hholds.room,
      hholds.capacity⟩, hsize, hcarries⟩
  | timeout i f hi => exact ⟨hholds, hsize, hcarries⟩
  | write i stored f log hi hlog =>
    rw [noteLog, hi]
    exact ⟨hholds.write hlog, hsize, hcarries⟩
  | clear i reopened hi =>
    obtain rfl : reopened = true := ha
    exact ⟨hholds.clear, hsize, hcarries⟩
  | getSize i measured hi => exact ⟨hholds.getSize measured, hsize, hcarries⟩
  | getBuffer i r bufferSize log fill hi hlog => exact ⟨hholds.getBuffer hlog, hsize, hcarries⟩
  | begin hget =>
    refine ⟨hholds, hsize, ?_⟩
    rw [if_pos hopen]
    trivial
  | size measured hget =>
    cases measured with
    | false => exact ⟨hholds.getSize false, Nat.zero_le _, rfl⟩
    | true =>
      have hseen : s.log.content.length ≤ spiffsSize := hholds.content ▸ hholds.small
      exact ⟨hholds.getSize true, hseen, rfl⟩
  | malloc ok logSize hget =>
    rw [hget] at hcarries
    refine ⟨hholds, hsize, ?_⟩
    dsimp only
    split_ifs
    · trivial
    · exact hcarries
    · trivial
  | enter logSize hget =>
    rw [hget] at hcarries
    refine ⟨hholds, hsize, ?_⟩
    dsimp only
    split_ifs
    · trivial
    · exact hcarries
  | read r logSize log fill hget hlog => exact ⟨hholds.getBuffer hlog, hsize, trivial⟩
  | send response hget => exact ⟨hholds, hsize, trivial⟩

theorem logHandlerInit_snapshot {r : InitResults} {file old : Option Bytes} {log : LogState}
    (h : logHandlerInit r (.boot file old) = some log) :
    (LogServer.start log).Snapshot ⟨0, log.content⟩ := by
  obtain ⟨u, header, hu, happend⟩ := logHandlerInit_opened h
  have hroom : u.content.length ≤ u.capacity :=
    (Nat.le_add_right _ _).trans (append_eq_some.1 happend).1.2
  obtain ⟨old, hold⟩ := Option.isSome_iff_exists.1 hu.file
  have hholds : u.Holds u.content := by
    refine ⟨hu.live, hu.numbered, ?_, hroom, hu.capacity⟩
    rw [LogState.content, hold]
    rfl
  have hlog := hholds.append happend
  exact ⟨hlog.content.symm ▸ hlog, Nat.zero_le _, trivial⟩

theorem toNat_bufferSize {size : ℕ} (hsize : size ≤ spiffsSize) :
    (UInt32.ofNat size + 1).toNat = size + 1 := by
  have hfits : size + 1 < UInt32.size := (Nat.succ_le_succ hsize).trans_lt (by decide)
  have hsum : UInt32.ofNat size + 1 = UInt32.ofNat (size + 1) := (UInt32.ofNat_add size 1).symm
  rw [hsum]
  exact UInt32.toNat_ofNat_of_lt hfits

/-- The comparison of a `long` with a `size_t` is one of numbers. -/
theorem readSize_eq {size : ℕ} {content : Bytes} (hsize : size ≤ spiffsSize)
    (hcontent : content.length ≤ spiffsSize) :
    (readSize (UInt32.ofNat size + 1) content).toNat = min size content.length := by
  have hfits : ∀ n ≤ spiffsSize, (UInt32.ofNat n).toNat = n := fun n hn =>
    UInt32.toNat_ofNat_of_lt (hn.trans_lt (by decide))
  have hsigned : (Int32.ofNat content.length).toUInt32 = UInt32.ofNat content.length := rfl
  simp only [readSize, hsigned, UInt32.add_sub_cancel, UInt32.lt_iff_toNat_lt, hfits _ hsize,
    hfits _ hcontent]
  split_ifs with hlt
  · rw [hfits _ hcontent, Nat.min_eq_right hlt.le]
  · rw [hfits _ hsize, Nat.min_eq_left (not_lt.1 hlt)]

/-- The file is opened, and `fread` returns all the bytes asked for that exist. -/
def readAll (s : LogServer) (logSize : UInt32) : LogAction :=
  .get (.read (some (min (readSize (logSize + 1) s.log.content).toNat s.log.content.length)))

/-- What `log_get_buffer` hands back to the request: as much of the log as it then holds and as
was seen before, all of it stored since the last `log_clear`, in a buffer of one byte more. -/
structure ConsistentCopy (s : LogServer) (m : LogSeen) (bufferSize : UInt32)
    (response : BufferFill) : Prop where
  copy : response.bytes = s.log.content.take (min m.size s.log.content.length)
  since : s.log.content = m.since
  allocated : bufferSize.toNat = m.size + 1
  inside : ∃ k, response.terminator = some k ∧ k < bufferSize.toNat

theorem LogServer.Snapshot.copy {s : LogServer} {m : LogSeen} {logSize : UInt32}
    (hs : s.Snapshot m) (hreading : s.get = .reading logSize) :
    ∃ log response, logGetBuffer s.log (logSize + 1)
        (some (min (readSize (logSize + 1) s.log.content).toNat s.log.content.length)) =
          some (log, response) ∧ ConsistentCopy s m (logSize + 1) response := by
  obtain ⟨hholds, hsize, hcarries⟩ := hs
  rw [hreading] at hcarries
  obtain rfl : logSize = UInt32.ofNat m.size := hcarries
  have hcontent : s.log.content.length ≤ spiffsSize := hholds.content ▸ hholds.small
  have hcount : min (readSize (UInt32.ofNat m.size + 1) s.log.content).toNat s.log.content.length =
      min m.size s.log.content.length := by
    rw [readSize_eq hsize hcontent, Nat.min_assoc, Nat.min_self]
  have hfile : s.log.file.isSome = true := by rw [hholds.file, Option.isSome_some]
  have hread : logGetBuffer s.log (UInt32.ofNat m.size + 1)
      (some (min m.size s.log.content.length)) =
        some ((s.log.use .fflush s.log.logFile).fopen.fclose (some s.log.opened),
          ⟨s.log.content.take (min m.size s.log.content.length),
            some (min m.size s.log.content.length)⟩) :=
    if_pos ⟨hfile, (readSize_eq hsize hcontent).ge, Nat.min_le_right _ _⟩
  have hinside : min m.size s.log.content.length < (UInt32.ofNat m.size + 1).toNat := by
    rw [toNat_bufferSize hsize]
    exact Nat.lt_succ_of_le (Nat.min_le_left _ _)
  rw [hcount]
  exact ⟨_, _, hread, rfl, hholds.content, toNat_bufferSize hsize, _, rfl, hinside⟩

/-- Whatever other calls do between the two critical sections of a GET /logs, its response is a
snapshot. -/
theorem response_consistent {r : InitResults} {file old : Option Bytes} {log : LogState}
    {as : List LogAction} {s : LogServer} {m : LogSeen} {logSize : UInt32}
    (hinit : logHandlerInit r (.boot file old) = some log)
    (hreopens : Always logStep ReopenSucceeds (.start log) as)
    (hrun : exec (watch logStep noteLog) (.start log, ⟨0, log.content⟩) as = some (s, m))
    (hreading : s.get = .reading logSize) :
    ∃ t response, logStep s (readAll s logSize) = some t ∧ t.get = .sending response ∧
      ConsistentCopy s m (logSize + 1) response := by
  have hsnapshot : s.Snapshot m := watch_invariant
    (fun s m a t hs ha hstep => (logStep_cases hstep).snapshot hs ha)
    (logHandlerInit_snapshot hinit) hreopens hrun
  obtain ⟨log', response, hread, hcopy⟩ := hsnapshot.copy hreading
  have hstep : logStep s (readAll s logSize) =
      some { s with log := log', get := .sending response } := by
    simp [readAll, logStep, logsGetStep, hreading, hread]
  exact ⟨_, response, hstep, rfl, hcopy⟩

def clearedBetween : List LogAction :=
  [.call (.write [104, 105] []), .get .begin, .get (.size true), .get (.malloc true), .get .enter,
    .write 0 3, .call .clear, .clear 0 true, .call (.write [104, 105] []), .write 0 3]

theorem response_clearedBetween : ∃ log s m t response,
    logHandlerInit initWorks (.boot none none) = some log ∧
      exec (watch logStep noteLog) (.start log, ⟨0, log.content⟩) clearedBetween = some (s, m) ∧
        logStep s (readAll s 110) = some t ∧ t.get = .sending response ∧
          response.bytes = [104, 105, 10] := by
  have hrun : ((logHandlerInit initWorks (.boot none none)).bind fun log =>
      (exec (watch logStep noteLog) (.start log, ⟨0, log.content⟩) clearedBetween).map fun x =>
        decide (Always logStep ReopenSucceeds (.start log) clearedBetween ∧
          x.1.get = .reading 110 ∧ x.1.log.content = [104, 105, 10] ∧ x.2.size = 110)) =
            some true := by
    decide +kernel
  obtain ⟨log, hinit, hrest⟩ := Option.bind_eq_some_iff.1 hrun
  obtain ⟨⟨s, m⟩, hs, hdecide⟩ := Option.map_eq_some_iff.1 hrest
  obtain ⟨hreopens, hreading, hcontent, hsize⟩ := of_decide_eq_true hdecide
  obtain ⟨t, response, hstep, hget, hcopy⟩ := response_consistent hinit hreopens hs hreading
  have hbytes := hcopy.copy
  rw [hcontent, hsize] at hbytes
  exact ⟨log, s, m, t, response, hinit, hs, hstep, hget, hbytes⟩

end UsbRepeater
