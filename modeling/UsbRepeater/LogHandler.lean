import UsbRepeater.Lib.Schedule
import UsbRepeater.Protocol

/-! The log of log_handler.c and the GET /logs request of http_server.c that reads it. Every call
tests `log_file` before it takes the mutex, so a call that waits for the mutex and its critical
section are two steps; the critical sections of different tasks come in any order. -/
namespace UsbRepeater

def logMaxSize : ℕ := 128 * 1024

/-- The `storage` partition of partitions.csv. -/
def spiffsSize : ℕ := 1024 * 1024

/-- `sizeof(temp_buffer)`. -/
def tempBufferSize : ℕ := 512

def newline : UInt8 := 10

inductive StreamFn
  | fwrite | fflush | fclose
  deriving DecidableEq, Repr

/-- A stream that was passed to a function of stdio, none for NULL, and whether it was open. -/
structure StreamUse where
  fn : StreamFn
  stream : Option ℕ
  live : Bool
  deriving DecidableEq, Repr

/-- The statics of log_handler.c and the two files. A stream is the number of the `fopen` that
returned it. `capacity` is what the file system can hold; `accesses` are the indices at which
calls of `log_write` have accessed their `temp_buffer`. -/
structure LogState where
  logFile : Option ℕ
  bootCount : UInt32
  file : Option Bytes
  old : Option Bytes
  capacity : ℕ
  opened : ℕ
  streams : List ℕ
  uses : List StreamUse
  accesses : List ℕ
  deriving DecidableEq, Repr

namespace LogState

def content (s : LogState) : Bytes := s.file.getD []

def live (s : LogState) (stream : Option ℕ) : Bool := stream.any fun k => k ∈ s.streams

def use (s : LogState) (fn : StreamFn) (stream : Option ℕ) : LogState :=
  { s with uses := s.uses ++ [⟨fn, stream, s.live stream⟩] }

def fopen (s : LogState) : LogState :=
  { s with opened := s.opened + 1, streams := s.opened :: s.streams }

def fclose (s : LogState) (stream : Option ℕ) : LogState :=
  { s.use .fclose stream with streams := s.streams.filter fun k => some k ≠ stream }

/-- `log_file = fopen(LOG_FILE_PATH, "a")`. -/
def openLog (s : LogState) (ok : Bool) : LogState :=
  if ok then { s.fopen with logFile := some s.opened, file := some s.content }
  else { s with logFile := none }

/-- `fwrite` to `log_file` and `fflush`. `stored` bytes get into the file: fewer than given only
when the file system has no room for more. -/
def append (s : LogState) (bytes : Bytes) (stored : ℕ) : Option LogState :=
  if stored ≤ bytes.length ∧ s.content.length + stored ≤ s.capacity then
    some { (s.use .fwrite s.logFile).use .fflush s.logFile with
      file := if s.live s.logFile then s.file.map (· ++ bytes.take stored) else s.file }
  else none

end LogState

inductive ResetReason
  | unknown | poweron | ext | sw | panic | intWdt | taskWdt | wdt | deepsleep | brownout | sdio
  | other
  deriving DecidableEq, Repr

def getResetReasonString : ResetReason → String
  | .unknown => "UNKNOWN"
  | .poweron => "POWER_ON"
  | .ext => "EXTERNAL_PIN"
  | .sw => "SOFTWARE"
  | .panic => "PANIC/EXCEPTION"
  | .intWdt => "INTERRUPT_WATCHDOG"
  | .taskWdt => "TASK_WATCHDOG"
  | .wdt => "OTHER_WATCHDOG"
  | .deepsleep => "DEEP_SLEEP"
  | .brownout => "BROWNOUT"
  | .sdio => "SDIO"
  | .other => "UNDEFINED"

def bootHeader (bootCount : UInt32) (reason : ResetReason) (freeHeap : UInt32) : Bytes :=
  ascii "\n========== BOOT #" ++ ascii (toString bootCount.toInt32.toInt) ++
    ascii " ==========\nReset reason: " ++ ascii (getResetReasonString reason) ++
      ascii "\nFree heap: " ++ ascii (toString freeHeap.toNat) ++
        ascii " bytes\n===============================\n"

/-- What the calls of `log_handler_init` come to. `measured` is whether `stat` succeeds, `stored`
how much of the boot header gets into the file. -/
structure InitResults where
  mutex : Bool
  mounted : Bool
  appended : Bool
  measured : Bool
  reopened : Bool
  reason : ResetReason
  freeHeap : UInt32
  stored : ℕ
  deriving DecidableEq, Repr

/-- The statics before `log_handler_init`, over the files as the last boot left them. -/
def LogState.boot (file old : Option Bytes) : LogState where
  logFile := none
  bootCount := 0
  file := file
  old := old
  capacity := spiffsSize
  opened := 0
  streams := []
  uses := []
  accesses := []

def LogState.rotate (s : LogState) (r : InitResults) : LogState :=
  if r.measured ∧ s.content.length > logMaxSize then
    { s.fclose s.logFile with old := s.file, file := none }.openLog r.reopened
  else s

/-- `log_handler_init`: the state it leaves and whether it returns ESP_OK, which `app_main` does
not look at. -/
def logHandlerInitReturn (r : InitResults) (s : LogState) : Option (LogState × Bool) :=
  if r.mutex ∧ r.mounted then
    let s := { s with bootCount := s.bootCount + 1 }
    if r.appended then
      let s := (s.openLog true).rotate r
      if s.logFile.isSome then
        (s.append (bootHeader s.bootCount r.reason r.freeHeap) r.stored).map fun s => (s, true)
      else some (s, false)
    else some (s.openLog false, false)
  else some (s, false)

def logHandlerInit (r : InitResults) (s : LogState) : Option LogState :=
  (logHandlerInitReturn r s).bind fun x => if x.2 then some x.1 else none

theorem logHandlerInit_eq_some {r : InitResults} {s t : LogState} :
    logHandlerInit r s = some t ↔ logHandlerInitReturn r s = some (t, true) := by
  simp only [logHandlerInit, Option.bind_eq_some_iff, Option.ite_none_right_eq_some,
    Option.some.injEq]
  constructor
  · rintro ⟨⟨u, ok⟩, hu, rfl, rfl⟩
    exact hu
  · intro h
    exact ⟨(t, true), h, rfl, rfl⟩

/-- `len` and the memory from `temp_buffer` on when `log_write` takes the mutex, with the indices
accessed until then. -/
structure Formatted where
  len : ℕ
  buffer : Bytes
  accesses : List ℕ
  deriving DecidableEq, Repr

/-- `log_write` up to the mutex: `text` is what `vsnprintf` formats, `stack` what lies from
`temp_buffer` on. `vsnprintf` stores what fits and returns the length of the whole text. -/
def formatRecord (text stack : Bytes) : Formatted :=
  let buffer := overwrite (text.take (tempBufferSize - 1) ++ [0]) stack
  let accesses := List.range (min text.length (tempBufferSize - 1) + 1) ++ [text.length - 1]
  if (buffer[text.length - 1]?).getD 0 ≠ newline then
    if text.length < tempBufferSize - 1 then
      ⟨text.length + 1, buffer.set text.length newline, accesses ++ [text.length]⟩
    else ⟨text.length, buffer, accesses⟩
  else ⟨text.length, buffer, accesses⟩

def Formatted.bytes (f : Formatted) : Bytes := sized f.len f.buffer

def logWrite (s : LogState) (f : Formatted) (stored : ℕ) : Option LogState :=
  (s.append f.bytes stored).map fun s => { s with accesses := s.accesses ++ List.range f.len }

/-- `remove` leaves neither file. -/
def logClear (s : LogState) (reopened : Bool) : LogState :=
  { { s.fclose s.logFile with file := none, old := none }.openLog reopened with bootCount := 0 }

/-- The result is a `size_t`; it is 0 when `stat` fails. -/
def logGetSize (s : LogState) (measured : Bool) : LogState × UInt32 :=
  (s.use .fflush s.logFile, if measured then UInt32.ofNat s.content.length else 0)

/-- What `log_get_buffer` returns and where it puts the terminating zero, none if it puts none. -/
structure BufferFill where
  bytes : Bytes
  terminator : Option ℕ
  deriving DecidableEq, Repr

/-- `read_size`: `file_size` is a `long`, which the comparison with a `size_t` converts. -/
def readSize (bufferSize : UInt32) (content : Bytes) : UInt32 :=
  let fileSize := Int32.ofNat content.length
  if fileSize.toUInt32 < bufferSize - 1 then fileSize.toUInt32 else bufferSize - 1

/-- `fread` has read `r` bytes; none if the file could not be opened for reading. -/
def logGetBuffer (s : LogState) (bufferSize : UInt32) (r : Option ℕ) :
    Option (LogState × BufferFill) :=
  let s := s.use .fflush s.logFile
  match r with
  | none => some (s, ⟨[], none⟩)
  | some n =>
      if s.file.isSome ∧ n ≤ (readSize bufferSize s.content).toNat ∧ n ≤ s.content.length then
        some (s.fopen.fclose (some s.opened), ⟨s.content.take n, some n⟩)
      else none

/-- A call past its test of `log_file`, up to the end of its critical section. -/
inductive LogCall
  | write (f : Formatted)
  | clear
  | getSize
  | getBuffer (bufferSize : UInt32)
  deriving DecidableEq, Repr

inductive LogRequest
  | write (text stack : Bytes)
  | clear
  | getSize
  | getBuffer (bufferSize : UInt32)
  deriving DecidableEq, Repr

inductive LogsGet
  | idle
  /-- In `log_get_size`, past its test. -/
  | sizing
  | sized (logSize : UInt32)
  /-- `log_buffer` has `log_size + 1` bytes. -/
  | allocated (logSize : UInt32)
  /-- In `log_get_buffer`, past its tests. -/
  | reading (logSize : UInt32)
  | sending (response : BufferFill)
  deriving DecidableEq, Repr

structure LogServer where
  log : LogState
  calls : List LogCall
  get : LogsGet
  deriving DecidableEq, Repr

inductive GetAction
  | begin
  | size (measured : Bool)
  | malloc (ok : Bool)
  | enter
  | read (r : Option ℕ)
  | send
  deriving DecidableEq, Repr

/-- `call` makes a call. The others are a mutex that `log_write` does not get in time, and the
critical sections, with the place of their call among those waiting. -/
inductive LogAction
  | call (c : LogRequest)
  | timeout (i : ℕ)
  | write (i stored : ℕ)
  | clear (i : ℕ) (reopened : Bool)
  | getSize (i : ℕ) (measured : Bool)
  | getBuffer (i : ℕ) (r : Option ℕ)
  | get (a : GetAction)
  deriving DecidableEq, Repr

def noLogs : Bytes := ascii "(No logs)\n"

def noMemory : Bytes := ascii "Error: Failed to allocate memory for logs\n"

def LogRequest.enter : LogRequest → List LogCall × List ℕ
  | .write text stack =>
      if text = [] then ([], [])
      else ([.write (formatRecord text stack)], (formatRecord text stack).accesses)
  | .clear => ([.clear], [])
  | .getSize => ([.getSize], [])
  | .getBuffer bufferSize => (if bufferSize = 0 then [] else [.getBuffer bufferSize], [])

def logsGetStep (s : LogServer) : GetAction → Option LogServer
  | .begin =>
      if s.get = .idle then
        some { s with get := if s.log.logFile.isSome then .sizing else .sized 0 }
      else none
  | .size measured =>
      if s.get = .sizing then
        some { s with
          log := (logGetSize s.log measured).1, get := .sized (logGetSize s.log measured).2 }
      else none
  | .malloc ok =>
      match s.get with
      | .sized logSize =>
          some { s with
            get := if logSize = 0 then .sending ⟨noLogs, none⟩
              else if ok then .allocated logSize else .sending ⟨noMemory, none⟩ }
      | _ => none
  | .enter =>
      match s.get with
      | .allocated logSize =>
          some { s with
            get := if logSize + 1 = 0 ∨ s.log.logFile.isNone then .sending ⟨[], none⟩
              else .reading logSize }
      | _ => none
  | .read r =>
      match s.get with
      | .reading logSize =>
          (logGetBuffer s.log (logSize + 1) r).map fun x =>
            { s with log := x.1, get := .sending x.2 }
      | _ => none
  | .send =>
      match s.get with
      | .sending _ => some { s with get := .idle }
      | _ => none

def logStep (s : LogServer) : LogAction → Option LogServer
  | .call c =>
      some (if s.log.logFile.isSome then
        { s with
          log := { s.log with accesses := s.log.accesses ++ c.enter.2 }
          calls := s.calls ++ c.enter.1 }
      else s)
  | .timeout i =>
      match s.calls[i]? with
      | some (.write _) => some { s with calls := s.calls.eraseIdx i }
      | _ => none
  | .write i stored =>
      match s.calls[i]? with
      | some (.write f) => (logWrite s.log f stored).map fun log =>
          { s with log := log, calls := s.calls.eraseIdx i }
      | _ => none
  | .clear i reopened =>
      match s.calls[i]? with
      | some .clear =>
          some { s with log := logClear s.log reopened, calls := s.calls.eraseIdx i }
      | _ => none
  | .getSize i measured =>
      match s.calls[i]? with
      | some .getSize =>
          some { s with log := (logGetSize s.log measured).1, calls := s.calls.eraseIdx i }
      | _ => none
  | .getBuffer i r =>
      match s.calls[i]? with
      | some (.getBuffer bufferSize) => (logGetBuffer s.log bufferSize r).map fun x =>
          { s with log := x.1, calls := s.calls.eraseIdx i }
      | _ => none
  | .get a => logsGetStep s a

/-- The tasks behind a successful `log_handler_init`. -/
def LogServer.start (log : LogState) : LogServer := ⟨log, [], .idle⟩

inductive LogStep (s : LogServer) : LogAction → LogServer → Prop
  | refused (c : LogRequest) (hnull : s.log.logFile = none) : LogStep s (.call c) s
  | call (c : LogRequest) (hopen : s.log.logFile.isSome = true) :
      LogStep s (.call c) { s with
        log := { s.log with accesses := s.log.accesses ++ c.enter.2 }
        calls := s.calls ++ c.enter.1 }
  | timeout (i : ℕ) (f : Formatted) (hi : s.calls[i]? = some (.write f)) :
      LogStep s (.timeout i) { s with calls := s.calls.eraseIdx i }
  | write (i stored : ℕ) (f : Formatted) (log : LogState) (hi : s.calls[i]? = some (.write f))
      (hlog : logWrite s.log f stored = some log) :
      LogStep s (.write i stored) { s with log := log, calls := s.calls.eraseIdx i }
  | clear (i : ℕ) (reopened : Bool) (hi : s.calls[i]? = some .clear) :
      LogStep s (.clear i reopened)
        { s with log := logClear s.log reopened, calls := s.calls.eraseIdx i }
  | getSize (i : ℕ) (measured : Bool) (hi : s.calls[i]? = some .getSize) :
      LogStep s (.getSize i measured)
        { s with log := (logGetSize s.log measured).1, calls := s.calls.eraseIdx i }
  | getBuffer (i : ℕ) (r : Option ℕ) (bufferSize : UInt32) (log : LogState) (fill : BufferFill)
      (hi : s.calls[i]? = some (.getBuffer bufferSize))
      (hlog : logGetBuffer s.log bufferSize r = some (log, fill)) :
      LogStep s (.getBuffer i r) { s with log := log, calls := s.calls.eraseIdx i }
  | begin (hget : s.get = .idle) :
      LogStep s (.get .begin)
        { s with get := if s.log.logFile.isSome then .sizing else .sized 0 }
  | size (measured : Bool) (hget : s.get = .sizing) :
      LogStep s (.get (.size measured)) { s with
        log := (logGetSize s.log measured).1, get := .sized (logGetSize s.log measured).2 }
  | malloc (ok : Bool) (logSize : UInt32) (hget : s.get = .sized logSize) :
      LogStep s (.get (.malloc ok)) { s with
        get := if logSize = 0 then .sending ⟨noLogs, none⟩
          else if ok then .allocated logSize else .sending ⟨noMemory, none⟩ }
  | enter (logSize : UInt32) (hget : s.get = .allocated logSize) :
      LogStep s (.get .enter) { s with
        get := if logSize + 1 = 0 ∨ s.log.logFile.isNone then .sending ⟨[], none⟩
          else .reading logSize }
  | read (r : Option ℕ) (logSize : UInt32) (log : LogState) (fill : BufferFill)
      (hget : s.get = .reading logSize)
      (hlog : logGetBuffer s.log (logSize + 1) r = some (log, fill)) :
      LogStep s (.get (.read r)) { s with log := log, get := .sending fill }
  | send (response : BufferFill) (hget : s.get = .sending response) :
      LogStep s (.get .send) { s with get := .idle }

theorem logsGetStep_cases {s t : LogServer} {a : GetAction} (h : logsGetStep s a = some t) :
    LogStep s (.get a) t := by
  cases a with
  | begin =>
    simp only [logsGetStep, Option.ite_none_right_eq_some, Option.some.injEq] at h
    obtain ⟨hget, rfl⟩ := h
    exact .begin hget
  | size measured =>
    simp only [logsGetStep, Option.ite_none_right_eq_some, Option.some.injEq] at h
    obtain ⟨hget, rfl⟩ := h
    exact .size measured hget
  | malloc ok =>
    simp only [logsGetStep] at h
    split at h
    · rename_i logSize hget
      obtain rfl := Option.some.inj h
      exact .malloc ok logSize hget
    · cases h
  | enter =>
    simp only [logsGetStep] at h
    split at h
    · rename_i logSize hget
      obtain rfl := Option.some.inj h
      exact .enter logSize hget
    · cases h
  | read r =>
    simp only [logsGetStep] at h
    split at h
    · rename_i logSize hget
      obtain ⟨⟨log, fill⟩, hlog, rfl⟩ := Option.map_eq_some_iff.1 h
      exact .read r logSize log fill hget hlog
    · cases h
  | send =>
    simp only [logsGetStep] at h
    split at h
    · rename_i response hget
      obtain rfl := Option.some.inj h
      exact .send response hget
    · cases h

theorem logStep_cases {s t : LogServer} {a : LogAction} (h : logStep s a = some t) :
    LogStep s a t := by
  cases a with
  | call c =>
    obtain rfl := Option.some.inj h
    split_ifs with hopen
    · exact .call c hopen
    · exact .refused c (by simpa using hopen)
  | timeout i =>
    simp only [logStep] at h
    split at h
    · rename_i f hi
      obtain rfl := Option.some.inj h
      exact .timeout i f hi
    · cases h
  | write i stored =>
    simp only [logStep] at h
    split at h
    · rename_i f hi
      obtain ⟨log, hlog, rfl⟩ := Option.map_eq_some_iff.1 h
      exact .write i stored f log hi hlog
    · cases h
  | clear i reopened =>
    simp only [logStep] at h
    split at h
    · rename_i hi
      obtain rfl := Option.some.inj h
      exact .clear i reopened hi
    · cases h
  | getSize i measured =>
    simp only [logStep] at h
    split at h
    · rename_i hi
      obtain rfl := Option.some.inj h
      exact .getSize i measured hi
    · cases h
  | getBuffer i r =>
    simp only [logStep] at h
    split at h
    · rename_i bufferSize hi
      obtain ⟨⟨log, fill⟩, hlog, rfl⟩ := Option.map_eq_some_iff.1 h
      exact .getBuffer i r bufferSize log fill hi hlog
    · cases h
  | get a => exact logsGetStep_cases h

namespace LogState

/-- Every stream passed to stdio was open. -/
def Sound (s : LogState) : Prop := ∀ u ∈ s.uses, u.live = true

instance (s : LogState) : Decidable s.Sound := inferInstanceAs (Decidable (∀ u ∈ s.uses, _))

def Numbered (s : LogState) : Prop := ∀ k ∈ s.streams, k < s.opened

@[simp] theorem use_sound (s : LogState) (fn : StreamFn) (stream : Option ℕ) :
    (s.use fn stream).Sound ↔ s.Sound ∧ s.live stream = true := by
  simp only [Sound, use, List.mem_append, List.mem_singleton]
  constructor
  · intro h
    exact ⟨fun u hu => h u (.inl hu), h _ (.inr rfl)⟩
  · rintro ⟨hs, hstream⟩ u (hu | rfl)
    · exact hs u hu
    · exact hstream

@[simp] theorem fclose_sound (s : LogState) (stream : Option ℕ) :
    (s.fclose stream).Sound ↔ s.Sound ∧ s.live stream = true := use_sound s .fclose stream

theorem openLog_uses (s : LogState) (ok : Bool) : (s.openLog ok).uses = s.uses := by
  cases ok <;> rfl

theorem live_opened (s : LogState) : s.fopen.live (some s.opened) = true := by
  simp [live, fopen]

theorem openLog_live (s : LogState) : (s.openLog true).live (s.openLog true).logFile = true :=
  s.live_opened

theorem openLog_numbered {s : LogState} (h : s.Numbered) (ok : Bool) : (s.openLog ok).Numbered := by
  cases ok with
  | false => exact h
  | true =>
    intro k hk
    rcases List.mem_cons.1 hk with rfl | hk
    · exact Nat.lt_succ_self _
    · exact (h k hk).trans (Nat.lt_succ_self _)

theorem fclose_numbered {s : LogState} (h : s.Numbered) (stream : Option ℕ) :
    (s.fclose stream).Numbered := fun k hk => h k (List.mem_filter.1 hk).1

theorem fclose_fopen_streams {s : LogState} (h : s.Numbered) :
    (s.fopen.fclose (some s.opened)).streams = s.streams := by
  have hkeep : ∀ k ∈ s.streams, decide (some k ≠ some s.opened) = true := by
    intro k hk
    exact decide_eq_true fun heq => (h k hk).ne (Option.some.inj heq)
  rw [fclose, use, fopen]
  simp only [List.filter_cons_of_neg (a := s.opened), ne_eq, not_true_eq_false, decide_false,
    Bool.false_eq_true, not_false_eq_true]
  exact List.filter_eq_self.2 hkeep

end LogState

end UsbRepeater
