import UsbRepeater.LogHandler

/-! The log stream and its pointer. `log_clear` leaves `log_file` NULL when its `fopen` fails, and a
call that has passed its test by then goes on to use it: the stream is sound in a run exactly when
no such `log_clear` has another call beside it. -/
namespace UsbRepeater

open Schedule

theorem append_eq_some {s t : LogState} {bytes : Bytes} {stored : ℕ} :
    s.append bytes stored = some t ↔
      (stored ≤ bytes.length ∧ s.content.length + stored ≤ s.capacity) ∧
        t = { (s.use .fwrite s.logFile).use .fflush s.logFile with
          file := if s.live s.logFile then s.file.map (· ++ bytes.take stored) else s.file } := by
  rw [LogState.append, Option.ite_none_right_eq_some, Option.some.injEq, eq_comm (a := t)]

theorem append_sound {s t : LogState} {bytes : Bytes} {stored : ℕ}
    (h : s.append bytes stored = some t) : t.Sound ↔ s.Sound ∧ s.live s.logFile = true := by
  obtain ⟨-, rfl⟩ := append_eq_some.1 h
  have hsame : ((s.use .fwrite s.logFile).use .fflush s.logFile).Sound ↔
      (s.Sound ∧ s.live s.logFile = true) ∧ s.live s.logFile = true := by
    rw [LogState.use_sound, LogState.use_sound]
    rfl
  exact hsame.trans (by tauto)

theorem logWrite_eq_some {s t : LogState} {f : Formatted} {stored : ℕ}
    (h : logWrite s f stored = some t) : ∃ u, s.append f.bytes stored = some u ∧
      t = { u with accesses := u.accesses ++ List.range f.len } := by
  obtain ⟨u, hu, rfl⟩ := Option.map_eq_some_iff.1 h
  exact ⟨u, hu, rfl⟩

theorem logWrite_sound {s t : LogState} {f : Formatted} {stored : ℕ}
    (h : logWrite s f stored = some t) : t.Sound ↔ s.Sound ∧ s.live s.logFile = true := by
  obtain ⟨u, hu, rfl⟩ := logWrite_eq_some h
  exact append_sound (t := u) hu

theorem logClear_sound (s : LogState) (reopened : Bool) :
    (logClear s reopened).Sound ↔ s.Sound ∧ s.live s.logFile = true := by
  have hsame : (logClear s reopened).uses = (s.fclose s.logFile).uses :=
    LogState.openLog_uses _ reopened
  rw [LogState.Sound, hsame]
  exact LogState.fclose_sound s s.logFile

theorem logGetSize_sound (s : LogState) (measured : Bool) :
    (logGetSize s measured).1.Sound ↔ s.Sound ∧ s.live s.logFile = true :=
  LogState.use_sound s .fflush s.logFile

theorem logGetBuffer_eq_some {s t : LogState} {bufferSize : UInt32} {r : Option ℕ}
    {fill : BufferFill} (h : logGetBuffer s bufferSize r = some (t, fill)) :
    r = none ∧ t = s.use .fflush s.logFile ∧ fill = ⟨[], none⟩ ∨
      ∃ n, r = some n ∧ n ≤ (readSize bufferSize s.content).toNat ∧ n ≤ s.content.length ∧
        t = (s.use .fflush s.logFile).fopen.fclose (some s.opened) ∧
          fill = ⟨s.content.take n, some n⟩ := by
  cases r with
  | none =>
    obtain ⟨rfl, rfl⟩ := Prod.mk.inj (Option.some.inj h)
    exact .inl ⟨rfl, rfl, rfl⟩
  | some n =>
    simp only [logGetBuffer] at h
    split_ifs at h with hn
    obtain ⟨rfl, rfl⟩ := Prod.mk.inj (Option.some.inj h)
    exact .inr ⟨n, rfl, hn.2.1, hn.2.2, rfl, rfl⟩

theorem logGetBuffer_sound {s t : LogState} {bufferSize : UInt32} {r : Option ℕ}
    {fill : BufferFill} (h : logGetBuffer s bufferSize r = some (t, fill)) :
    t.Sound ↔ s.Sound ∧ s.live s.logFile = true := by
  rcases logGetBuffer_eq_some h with ⟨-, rfl, -⟩ | ⟨n, -, -, -, rfl, -⟩
  · exact LogState.use_sound s .fflush s.logFile
  · have hopened : (s.use .fflush s.logFile).fopen.live (some s.opened) = true :=
      (s.use .fflush s.logFile).live_opened
    have hread : (s.use .fflush s.logFile).fopen.Sound ↔ s.Sound ∧ s.live s.logFile = true :=
      LogState.use_sound s .fflush s.logFile
    rw [LogState.fclose_sound, hread, hopened]
    tauto

theorem LogState.isSome_of_live {s : LogState} {stream : Option ℕ} (h : s.live stream = true) :
    stream.isSome = true := by
  cases stream with
  | none => cases h
  | some k => rfl

def LogsGet.inside : LogsGet → Bool
  | .sizing | .reading _ => true
  | _ => false

/-- Some call is past its test and has not left its critical section. -/
def LogServer.pending (s : LogServer) : Prop := s.calls ≠ [] ∨ s.get.inside = true

theorem pending_of_call {s : LogServer} {i : ℕ} {c : LogCall} (hi : s.calls[i]? = some c) :
    s.pending := by
  refine .inl fun hnone => ?_
  rw [hnone] at hi
  cases hi

theorem LogServer.pending.of_get {s : LogServer} (hp : s.pending) (hget : s.get.inside = false)
    (get : LogsGet) : LogServer.pending { s with get := get } :=
  .inl (hp.resolve_right fun hinside => absurd (hget.symm.trans hinside) (by decide))

/-- A step is a critical section, or it passes nothing to stdio. Only a mutex that is not got in
time ends a call without its critical section. -/
theorem LogStep.sound {s t : LogServer} {a : LogAction} (h : LogStep s a t) :
    s.pending ∧ (t.log.Sound ↔ s.log.Sound ∧ s.log.live s.log.logFile = true) ∨
      t.log.uses = s.log.uses ∧ t.log.logFile = s.log.logFile ∧
        (s.pending → (∀ i, a ≠ .timeout i) → t.pending) := by
  cases h with
  | write i stored f log hi hlog => exact .inl ⟨pending_of_call hi, logWrite_sound hlog⟩
  | clear i reopened hi => exact .inl ⟨pending_of_call hi, logClear_sound s.log reopened⟩
  | getSize i measured hi =>
    exact .inl ⟨pending_of_call hi, logGetSize_sound s.log measured⟩
  | getBuffer i r bufferSize log fill hi hlog =>
    exact .inl ⟨pending_of_call hi, logGetBuffer_sound hlog⟩
  | size measured hget =>
    exact .inl ⟨.inr (by rw [hget]; rfl), logGetSize_sound s.log measured⟩
  | read r logSize log fill hget hlog =>
    exact .inl ⟨.inr (by rw [hget]; rfl), logGetBuffer_sound hlog⟩
  | refused c hnull => exact .inr ⟨rfl, rfl, fun hp _ => hp⟩
  | call c hopen =>
    refine .inr ⟨rfl, rfl, fun hp _ => hp.imp_left fun hcalls => ?_⟩
    exact List.append_ne_nil_of_left_ne_nil hcalls c.enter.1
  | timeout i f hi => exact .inr ⟨rfl, rfl, fun _ ha => absurd rfl (ha i)⟩
  | begin hget => exact .inr ⟨rfl, rfl, fun hp _ => hp.of_get (by rw [hget]; rfl) _⟩
  | malloc ok logSize hget => exact .inr ⟨rfl, rfl, fun hp _ => hp.of_get (by rw [hget]; rfl) _⟩
  | enter logSize hget => exact .inr ⟨rfl, rfl, fun hp _ => hp.of_get (by rw [hget]; rfl) _⟩
  | send response hget => exact .inr ⟨rfl, rfl, fun hp _ => hp.of_get (by rw [hget]; rfl) _⟩

structure LogState.SameStream (s t : LogState) : Prop where
  logFile : t.logFile = s.logFile
  streams : t.streams = s.streams
  opened : s.opened ≤ t.opened
  capacity : t.capacity = s.capacity

theorem LogState.SameStream.live {s t : LogState} (h : s.SameStream t) :
    t.live t.logFile = s.live s.logFile := by
  rw [LogState.live, LogState.live, h.logFile, h.streams]

theorem LogState.SameStream.numbered {s t : LogState} (h : s.SameStream t) (hs : s.Numbered) :
    t.Numbered := by
  intro k hk
  rw [h.streams] at hk
  exact (hs k hk).trans_le h.opened

theorem append_sameStream {s t : LogState} {bytes : Bytes} {stored : ℕ}
    (h : s.append bytes stored = some t) : s.SameStream t := by
  obtain ⟨-, rfl⟩ := append_eq_some.1 h
  exact ⟨rfl, rfl, le_rfl, rfl⟩

theorem logWrite_sameStream {s t : LogState} {f : Formatted} {stored : ℕ}
    (h : logWrite s f stored = some t) : s.SameStream t := by
  obtain ⟨u, hu, rfl⟩ := logWrite_eq_some h
  obtain ⟨hfile, hstreams, hopened, hcapacity⟩ := append_sameStream hu
  exact ⟨hfile, hstreams, hopened, hcapacity⟩

theorem logGetSize_sameStream (s : LogState) (measured : Bool) :
    s.SameStream (logGetSize s measured).1 :=
  ⟨rfl, rfl, le_rfl, rfl⟩

theorem logGetBuffer_sameStream {s t : LogState} {bufferSize : UInt32} {r : Option ℕ}
    {fill : BufferFill} (hs : s.Numbered) (h : logGetBuffer s bufferSize r = some (t, fill)) :
    s.SameStream t := by
  rcases logGetBuffer_eq_some h with ⟨-, rfl, -⟩ | ⟨n, -, -, -, rfl, -⟩
  · exact ⟨rfl, rfl, le_rfl, rfl⟩
  · have hflushed : (s.use .fflush s.logFile).Numbered := hs
    exact ⟨rfl, LogState.fclose_fopen_streams hflushed, Nat.le_succ _, rfl⟩

theorem logClear_numbered {s : LogState} (hs : s.Numbered) (reopened : Bool) :
    (logClear s reopened).Numbered :=
  LogState.openLog_numbered (s := { s.fclose s.logFile with file := none, old := none })
    (LogState.fclose_numbered hs s.logFile) reopened

/-- A `log_clear` whose `fopen` fails has no other call beside it. -/
def ClearsAlone (s : LogServer) : LogAction → Prop
  | .clear _ false => s.calls.length ≤ 1 ∧ s.get.inside = false
  | _ => True

instance : ∀ (s : LogServer) (a : LogAction), Decidable (ClearsAlone s a)
  | s, .clear _ false => inferInstanceAs (Decidable (s.calls.length ≤ 1 ∧ s.get.inside = false))
  | _, .clear _ true => isTrue trivial
  | _, .call _ => isTrue trivial
  | _, .timeout _ => isTrue trivial
  | _, .write _ _ => isTrue trivial
  | _, .getSize _ _ => isTrue trivial
  | _, .getBuffer _ _ => isTrue trivial
  | _, .get _ => isTrue trivial

structure LogServer.Guarded (s : LogServer) : Prop where
  sound : s.log.Sound
  numbered : s.log.Numbered
  usable : s.log.live s.log.logFile = true ∨ s.log.logFile = none ∧ ¬ s.pending

theorem LogServer.Guarded.live {s : LogServer} (hs : s.Guarded) (hp : s.pending) :
    s.log.live s.log.logFile = true :=
  hs.usable.resolve_right fun h => h.2 hp

theorem LogServer.Guarded.of_same {s : LogServer} (hs : s.Guarded) (hp : s.pending)
    {log : LogState} (hsame : s.log.SameStream log) (hsound : log.Sound) (calls : List LogCall)
    (get : LogsGet) : LogServer.Guarded ⟨log, calls, get⟩ :=
  ⟨hsound, hsame.numbered hs.numbered, .inl (hsame.live.trans (hs.live hp))⟩

theorem LogServer.Guarded.of_get {s : LogServer} (hs : s.Guarded) {get : LogsGet}
    (hget : s.log.logFile = none → get.inside = false) :
    LogServer.Guarded { s with get := get } := by
  refine ⟨hs.sound, hs.numbered, hs.usable.imp_right ?_⟩
  rintro ⟨hnull, hidle⟩
  refine ⟨hnull, ?_⟩
  rintro (hcalls | hinside)
  · exact hidle (.inl hcalls)
  · exact absurd ((hget hnull).symm.trans hinside) (by decide)

theorem eraseIdx_eq_nil_iff {s : LogServer} {i : ℕ} {c : LogCall} (hi : s.calls[i]? = some c) :
    s.calls.eraseIdx i = [] ↔ s.calls.length ≤ 1 := by
  obtain ⟨hlt, -⟩ := List.getElem?_eq_some_iff.1 hi
  have hlength := List.length_eraseIdx_add_one hlt
  rw [← List.length_eq_zero_iff]
  omega

theorem LogStep.guarded {s t : LogServer} {a : LogAction} (h : LogStep s a t) (hs : s.Guarded)
    (ha : ClearsAlone s a) : t.Guarded := by
  have hsound : t.log.Sound := by
    rcases h.sound with ⟨hp, hiff⟩ | ⟨huses, -, -⟩
    · exact hiff.2 ⟨hs.sound, hs.live hp⟩
    · rw [LogState.Sound, huses]
      exact hs.sound
  cases h with
  | refused c hnull => exact hs
  | call c hopen =>
    have hlive : s.log.live s.log.logFile = true := by
      refine hs.usable.resolve_right fun hnull => ?_
      rw [hnull.1] at hopen
      cases hopen
    exact ⟨hsound, hs.numbered, .inl hlive⟩
  | timeout i f hi => exact ⟨hsound, hs.numbered, .inl (hs.live (pending_of_call hi))⟩
  | write i stored f log hi hlog =>
    exact hs.of_same (pending_of_call hi) (logWrite_sameStream hlog) hsound _ _
  | clear i reopened hi =>
    refine ⟨hsound, logClear_numbered hs.numbered reopened, ?_⟩
    cases reopened with
    | true => exact .inl (LogState.openLog_live _)
    | false =>
      refine .inr ⟨rfl, ?_⟩
      rintro (hcalls | hinside)
      · exact hcalls ((eraseIdx_eq_nil_iff hi).2 ha.1)
      · exact absurd (ha.2.symm.trans hinside) (by decide)
  | getSize i measured hi =>
    exact hs.of_same (pending_of_call hi) (logGetSize_sameStream s.log measured) hsound _ _
  | getBuffer i r bufferSize log fill hi hlog =>
    exact hs.of_same (pending_of_call hi) (logGetBuffer_sameStream hs.numbered hlog) hsound _ _
  | size measured hget =>
    have hp : s.pending := .inr (by rw [hget]; rfl)
    exact hs.of_same hp (logGetSize_sameStream s.log measured) hsound _ _
  | read r logSize log fill hget hlog =>
    have hp : s.pending := .inr (by rw [hget]; rfl)
    exact hs.of_same hp (logGetBuffer_sameStream hs.numbered hlog) hsound _ _
  | begin hget =>
    refine hs.of_get fun hnull => ?_
    rw [hnull]
    rfl
  | malloc ok logSize hget =>
    refine hs.of_get fun _ => ?_
    split_ifs <;> rfl
  | enter logSize hget =>
    refine hs.of_get fun hnull => ?_
    rw [if_pos (.inr (by rw [hnull]; rfl))]
    rfl
  | send response hget => exact hs.of_get fun _ => rfl

structure LogState.Opened (s : LogState) : Prop where
  sound : s.Sound
  numbered : s.Numbered
  live : s.live s.logFile = true
  file : s.file.isSome = true
  capacity : s.capacity = spiffsSize

theorem LogState.Opened.of_openLog {s : LogState} (hs : s.Sound) (hnumbered : s.Numbered)
    (hcapacity : s.capacity = spiffsSize) : (s.openLog true).Opened where
  sound := by
    rw [LogState.Sound, LogState.openLog_uses]
    exact hs
  numbered := LogState.openLog_numbered hnumbered true
  live := LogState.openLog_live s
  file := rfl
  capacity := hcapacity

theorem LogState.Opened.rotate {s : LogState} (h : s.Opened) {r : InitResults}
    (hopen : (s.rotate r).logFile.isSome = true) : (s.rotate r).Opened := by
  rw [LogState.rotate] at hopen ⊢
  split_ifs at hopen ⊢ with hlarge
  · cases hreopened : r.reopened with
    | false =>
      rw [hreopened] at hopen
      cases hopen
    | true =>
      have hclosed : (s.fclose s.logFile).Sound :=
        (LogState.fclose_sound s s.logFile).2 ⟨h.sound, h.live⟩
      exact .of_openLog (s := { s.fclose s.logFile with old := s.file, file := none })
        hclosed (LogState.fclose_numbered h.numbered s.logFile) h.capacity
  · exact h

theorem logHandlerInit_opened {r : InitResults} {file old : Option Bytes} {log : LogState}
    (h : logHandlerInit r (.boot file old) = some log) :
    ∃ (u : LogState) (header : Bytes), u.Opened ∧ u.append header r.stored = some log := by
  have hboot : (LogState.openLog { LogState.boot file old with bootCount := 0 + 1 } true).Opened :=
    .of_openLog (by intro u hu; cases hu) (by intro k hk; cases hk) rfl
  have hreturn := logHandlerInit_eq_some.1 h
  simp only [logHandlerInitReturn] at hreturn
  split_ifs at hreturn with hmounted happended hopen
  · obtain ⟨u, happend, heq⟩ := Option.map_eq_some_iff.1 hreturn
    obtain ⟨rfl, -⟩ := Prod.mk.inj heq
    exact ⟨_, _, hboot.rotate hopen, happend⟩
  all_goals cases hreturn

theorem logHandlerInit_guarded {r : InitResults} {file old : Option Bytes} {log : LogState}
    (h : logHandlerInit r (.boot file old) = some log) : (LogServer.start log).Guarded := by
  obtain ⟨u, header, hu, happend⟩ := logHandlerInit_opened h
  have hsame := append_sameStream happend
  exact ⟨(append_sound happend).2 ⟨hu.sound, hu.live⟩, hsame.numbered hu.numbered,
    .inl (hsame.live.trans hu.live)⟩

/-- A stream that was not open has been used, or a call will use NULL. -/
def LogServer.Doomed (s : LogServer) : Prop :=
  ¬ s.log.Sound ∨ s.log.logFile = none ∧ s.pending

theorem LogStep.doomed {s t : LogServer} {a : LogAction} (h : LogStep s a t) (hs : s.Doomed)
    (ha : ∀ i, a ≠ .timeout i) : t.Doomed := by
  rcases h.sound with ⟨-, hiff⟩ | ⟨huses, hfile, hpending⟩
  · refine .inl fun ht => ?_
    obtain ⟨hsound, hlive⟩ := hiff.1 ht
    rcases hs with hunsound | ⟨hnull, -⟩
    · exact hunsound hsound
    · rw [hnull] at hlive
      cases hlive
  · rcases hs with hunsound | ⟨hnull, hp⟩
    · refine .inl fun ht => hunsound ?_
      rwa [LogState.Sound, ← huses]
    · exact .inr ⟨hfile.trans hnull, hpending hp ha⟩

theorem LogStep.doomed_of_clear {s t : LogServer} {a : LogAction} (h : LogStep s a t)
    (ha : ¬ ClearsAlone s a) : t.Doomed := by
  cases h with
  | clear i reopened hi =>
    cases reopened with
    | true => exact absurd trivial ha
    | false =>
      refine .inr ⟨rfl, ?_⟩
      by_contra hidle
      obtain ⟨hcalls, hget⟩ := not_or.1 hidle
      exact ha ⟨(eraseIdx_eq_nil_iff hi).1 (not_ne_iff.1 hcalls), Bool.eq_false_iff.2 hget⟩
  | _ => exact absurd trivial ha

/-- Where every call has come to its critical section, no `log_clear` that lost the stream had
another call beside it. -/
theorem clearsAlone_of_sound {s t : LogServer} {as : List LogAction}
    (hrun : exec logStep s as = some t) (hdone : ¬ t.pending) (htimeout : ∀ i, .timeout i ∉ as)
    (hsound : t.log.Sound) : Always logStep ClearsAlone s as := by
  have htaken : Always logStep (fun _ a => ∀ i, a ≠ .timeout i) s as :=
    .of_forall_mem fun a ha _ i heq => htimeout i (heq ▸ ha)
  rcases always_or_lost (fun s a t ha hstep => (logStep_cases hstep).doomed_of_clear ha)
    (fun s a t hs ha hstep => (logStep_cases hstep).doomed hs ha) htaken hrun with hall | hdoomed
  · exact hall
  · rcases hdoomed with hunsound | ⟨-, hp⟩
    · exact absurd hsound hunsound
    · exact absurd hp hdone

/-- Every stream passed to stdio is open in a run whose failing `log_clear` calls have no call
beside them; where all calls have come to their critical sections, in no other run. -/
theorem stream_live_iff_clearsAlone {r : InitResults} {file old : Option Bytes} {log : LogState}
    {as : List LogAction} {t : LogServer}
    (hinit : logHandlerInit r (.boot file old) = some log)
    (hrun : exec logStep (.start log) as = some t) :
    (Always logStep ClearsAlone (.start log) as → t.log.Sound) ∧
      (¬ t.pending → (∀ i, .timeout i ∉ as) →
        (t.log.Sound ↔ Always logStep ClearsAlone (.start log) as)) := by
  have hsound : Always logStep ClearsAlone (.start log) as → t.log.Sound := by
    intro halone
    have hguarded : t.Guarded := exec_invariant
      (fun _ _ _ hs ha hstep => (logStep_cases hstep).guarded hs ha)
      (logHandlerInit_guarded hinit) halone hrun
    exact hguarded.sound
  exact ⟨hsound, fun hdone htimeout => ⟨clearsAlone_of_sound hrun hdone htimeout, hsound⟩⟩

def initWorks : InitResults := ⟨true, true, true, true, true, .poweron, 250000, 110⟩

def lostAlone : List LogAction :=
  [.call (.write [104, 105] []), .write 0 3, .call .clear, .clear 0 false,
    .call (.write [104, 105] []), .get .begin, .get (.malloc true), .get .send]

theorem stream_live_lostAlone : ∃ log t, logHandlerInit initWorks (.boot none none) = some log ∧
    exec logStep (.start log) lostAlone = some t ∧ t.log.Sound ∧ t.log.logFile = none := by
  have hrun : ((logHandlerInit initWorks (.boot none none)).bind fun log =>
      (exec logStep (.start log) lostAlone).map fun t =>
        decide (Always logStep ClearsAlone (.start log) lostAlone ∧ t.log.logFile = none)) =
          some true := by
    decide +kernel
  obtain ⟨log, hinit, hrest⟩ := Option.bind_eq_some_iff.1 hrun
  obtain ⟨t, ht, hdecide⟩ := Option.map_eq_some_iff.1 hrest
  obtain ⟨halone, hnull⟩ := of_decide_eq_true hdecide
  exact ⟨log, t, hinit, ht, (stream_live_iff_clearsAlone hinit ht).1 halone, hnull⟩

def StreamAlwaysLive : Prop :=
  ∀ r file old log as t, logHandlerInit r (.boot file old) = some log →
    exec logStep (.start log) as = some t → t.log.Sound

/-- A `log_write` and a `log_clear` have passed their tests; the `log_clear` comes first, and its
`fopen` fails. -/
def lostBesideWrite : List LogAction :=
  [.call .clear, .call (.write [104, 105] []), .clear 0 false, .write 0 0]

theorem not_streamAlwaysLive : ¬ StreamAlwaysLive := by
  intro hlive
  have hrun : ((logHandlerInit initWorks (.boot none none)).bind fun log =>
      (exec logStep (.start log) lostBesideWrite).map fun t => decide t.log.Sound) =
        some false := by
    decide +kernel
  obtain ⟨log, hinit, hrest⟩ := Option.bind_eq_some_iff.1 hrun
  obtain ⟨t, ht, hunsound⟩ := Option.map_eq_some_iff.1 hrest
  exact of_decide_eq_false hunsound (hlive _ _ _ log _ t hinit ht)

end UsbRepeater
