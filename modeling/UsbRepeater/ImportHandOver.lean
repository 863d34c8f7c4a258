import UsbRepeater.ImportContract

/-! Two readers of one socket. After posting an import, `do_recv` leaves the socket and its
buffer to the handler for as long as it waits; the wait gives up after a hundred polls, whether
or not the handler is done. -/
namespace UsbRepeater

open Schedule

structure TcpTask.Sized (tcp : TcpTask) : Prop where
  devRecv : tcp.devRecv.length = headerCommonSize
  header : tcp.header.length = headerBasicSize
  cmdSubmit : tcp.cmdSubmit.length = cmdHeaderSize
  transferBuffer : tcp.transferBuffer.length = 1024
  cmdUnlink : tcp.cmdUnlink.length = cmdUnlinkSize

theorem TcpTask.Sized.goto {tcp : TcpTask} (h : tcp.Sized) (pc : TcpPc) :
    TcpTask.Sized { tcp with pc := pc } :=
  ⟨h.devRecv, h.header, h.cmdSubmit, h.transferBuffer, h.cmdUnlink⟩

theorem overwrite_sized {data old : Bytes} {n : ℕ} (ho : old.length = n) (hd : data.length ≤ n) :
    (overwrite data old).length = n := by
  rw [overwrite_length _ _ (ho ▸ hd), ho]

theorem TcpTask.Sized.readHeader {tcp : TcpTask} (h : tcp.Sized) (pc : TcpPc) {bytes : Bytes}
    (hb : bytes.length ≤ headerBasicSize) :
    TcpTask.Sized { tcp with pc := pc, header := overwrite bytes tcp.header } :=
  ⟨h.devRecv, overwrite_sized h.header hb, h.cmdSubmit, h.transferBuffer, h.cmdUnlink⟩

def Server.PayloadFits (s : Server) : Prop :=
  s.tcp.pc = .payload → s.cmdSubmit.transferBufferLength.toNat ≤ 1024

theorem submitNext_payload {header : UsbipHeaderBasic} {cmd : UsbipCmdSubmit}
    (h : submitNext header cmd = .payload) :
    header.direction = 0 ∧ cmd.transferBufferLength ≠ 0 ∧
      cmd.transferBufferLength.toNat ≤ 1024 := by
  unfold submitNext at h
  split_ifs at h with hout hlen
  exact ⟨hout.1, hout.2, by omega⟩

/-- A payload is read only for a command that has one, and only one that fits. -/
theorem TcpStep.at_payload {s t : Server} {a : TcpAction} (h : TcpStep s a t)
    (hpc : t.tcp.pc = .payload) :
    t.header.direction = 0 ∧ t.cmdSubmit.transferBufferLength ≠ 0 ∧
      t.cmdSubmit.transferBufferLength.toNat ≤ 1024 := by
  cases h with
  | outer _ | postCommand _ | postCommandFailed _ | importWait n _ =>
    simp only [Server.goto] at hpc
    split_ifs at hpc
  | command r conn bytes =>
    have hne : commandNext s (overwrite bytes s.tcp.devRecv) ≠ .payload :=
      commandNext_elim s _ (by decide) (by decide) (by decide)
    exact absurd hpc hne
  | urbAgain r conn hurb => exact absurd (hurb.symm.trans hpc) (by decide)
  | urbHeader r conn bytes =>
    have hne : urbNext (.ofBytes (overwrite bytes s.tcp.header)) ≠ .payload :=
      urbNext_elim _ (by decide) (by decide) (by decide)
    exact absurd hpc hne
  | submitBody r conn bytes _ hrecv =>
    simp only [Server.setTcp] at hpc
    split_ifs at hpc
    exact submitNext_payload hpc
  | payload r conn bytes _ hrecv =>
    simp only [Server.setTcp] at hpc
    split_ifs at hpc
  | acceptFailed stream hacc => exact absurd (hacc.symm.trans hpc) (by decide)
  | _ => cases hpc

theorem TcpStep.payloadFits {s t : Server} {a : TcpAction} (h : TcpStep s a t) :
    t.PayloadFits := fun hpc => (h.at_payload hpc).2.2

theorem TcpStep.sized {s t : Server} {a : TcpAction} (h : TcpStep s a t) (hs : s.tcp.Sized)
    (hfits : s.PayloadFits) : t.tcp.Sized := by
  have ⟨hdev, hheader, hcmd, hbuffer, hunlink⟩ := hs
  cases h with
  | command r conn bytes hpc hrecv hbytes =>
    exact ⟨overwrite_sized hdev (sockRecv_length_le hrecv), hheader, hcmd, hbuffer, hunlink⟩
  | urbHeader r conn bytes hpc hrecv hbytes =>
    exact hs.readHeader _ (sockRecv_length_le hrecv)
  | submitBody r conn bytes hpc hrecv =>
    exact ⟨hdev, hheader, overwrite_sized hcmd (sockRecv_length_le hrecv), hbuffer, hunlink⟩
  | payload r conn bytes hpc hrecv =>
    have hle := (sockRecv_length_le hrecv).trans (hfits hpc)
    exact ⟨hdev, hheader, hcmd, overwrite_sized hbuffer hle, hunlink⟩
  | unlinkBody r conn bytes hpc hrecv =>
    exact ⟨hdev, hheader, hcmd, hbuffer, overwrite_sized hunlink (sockRecv_length_le hrecv)⟩
  | _ => exact ⟨hdev, hheader, hcmd, hbuffer, hunlink⟩

theorem step_sized {s t : Server} {a : Action} (hs : s.tcp.Sized ∧ s.PayloadFits)
    (h : step s a = some t) : t.tcp.Sized ∧ t.PayloadFits := by
  rcases step_tcp_or_other h with ⟨b, rfl, hstep⟩ | ⟨-, heq⟩
  · exact ⟨hstep.sized hs.1 hs.2, hstep.payloadFits⟩
  · simpa only [Server.PayloadFits, Server.cmdSubmit, heq] using hs

theorem Reachable.sized {s : Server} (h : Reachable s) : s.tcp.Sized ∧ s.PayloadFits := by
  refine h.invariant (fun _ _ _ _ _ _ => ⟨⟨?_, ?_, ?_, ?_, ?_⟩, fun hpc => ?_⟩)
    fun _ _ _ hs => step_sized hs
  · exact sized_length _ _
  · exact sized_length _ _
  · exact sized_length _ _
  · exact sized_length _ _
  · exact sized_length _ _
  · cases hpc

def TcpData.isImport (ev : TcpData) : Bool := ev.eventId == opReqImport

def Handler1.importEvent : Handler1 → Option TcpData
  | .importCopy ev | .importRecv ev _ | .importBuild ev _ | .importSend ev _ _
  | .importBusy ev _ _ => some ev
  | .idle | .devlist _ => none

/-- The imports that have been posted and that the handler is not done with. -/
def Server.pendingImports (s : Server) : List TcpData :=
  s.loop1.handler.importEvent.toList ++ s.loop1.queue.filter TcpData.isImport

/-- How far the handler is with the import `ev`, and what it has of it by then. -/
def Handler1.At (ev : TcpData) (c : Conn) : Handler1 → Prop
  | .idle | .devlist _ | .importCopy _ => c.consumed = ev.offset
  | .importRecv _ devImport =>
      c.consumed = ev.offset ∧ devImport.take headerCommonSize = ev.header
  | .importBuild _ devImport | .importSend _ devImport _ | .importBusy _ devImport _ =>
      c.consumed = ev.offset + 32 ∧ devImport = ev.header ++ (c.stream.drop ev.offset).take 32

structure Server.Waits (s : Server) (ev : TcpData) : Prop where
  pc : ∃ n, s.tcp.pc = .importWait n
  busy : s.deviceBusy = false
  recvBytes : s.history.recvBytes = ev.recvBytes
  header : s.tcp.devRecv.take headerCommonSize = ev.header
  handler : ∃ c, s.conn = some c ∧ s.loop1.handler.At ev c

def TcpPc.commanding : TcpPc → Bool
  | .command | .postCommand => true
  | _ => false

structure Server.HandedOver (s : Server) : Prop where
  pending : s.pendingImports = [] ∨ ∃ ev, s.pendingImports = [ev] ∧ s.Waits ev
  ready : s.tcp.pc.commanding = true → s.deviceBusy = false

/-- The wait does not give up while an import is pending. -/
def KeepsWaiting (s : Server) : Action → Prop
  | .tcp .run =>
      match s.tcp.pc with
      | .importWait n => 100 ≤ n → s.deviceBusy = false → s.pendingImports = []
      | _ => True
  | _ => True

instance (s : Server) (a : Action) : Decidable (KeepsWaiting s a) := by
  unfold KeepsWaiting
  split
  · split <;> infer_instance
  · infer_instance

/-- `do_recv` gets to a command only past the test of `device_busy`. -/
theorem TcpStep.ready {s t : Server} {a : TcpAction} (h : TcpStep s a t)
    (hs : s.tcp.pc.commanding = true → s.deviceBusy = false)
    (hpc : t.tcp.pc.commanding = true) : t.deviceBusy = false := by
  cases h with
  | outer _ =>
    by_cases hbusy : s.deviceBusy = true
    · simp [Server.goto, hbusy, TcpPc.commanding] at hpc
    · exact Bool.eq_false_iff.2 hbusy
  | command r conn bytes hcmd hrecv hbytes => exact hs (by rw [hcmd]; rfl)
  | acceptFailed stream hacc => exact hs hpc
  | clientGone _ => rfl
  | cleanupBusy _ => rfl
  | urbHeader r conn bytes _ hrecv hbytes =>
    have hout : (urbNext (.ofBytes (overwrite bytes s.tcp.header))).commanding = false :=
      urbNext_elim _ rfl rfl rfl
    exact absurd (hout.symm.trans hpc) (by decide)
  | urbAgain => exact hs hpc
  | submitBody r conn bytes _ hrecv =>
    simp only [Server.setTcp] at hpc
    split_ifs at hpc
    · have hout : (submitNext s.header (.ofBytes (overwrite bytes s.tcp.cmdSubmit)
          s.tcp.transferBuffer)).commanding = false := submitNext_elim _ _ rfl rfl rfl
      exact absurd (hout.symm.trans hpc) (by decide)
    · cases hpc
  | payload r conn bytes _ hrecv =>
    simp only [Server.setTcp] at hpc
    split_ifs at hpc <;> cases hpc
  | postCommand _ =>
    simp only [Server.goto] at hpc
    split_ifs at hpc <;> cases hpc
  | postCommandFailed _ =>
    simp only [Server.goto] at hpc
    split_ifs at hpc <;> cases hpc
  | importWait n _ =>
    simp only [Server.goto] at hpc
    split_ifs at hpc <;> cases hpc
  | _ => cases hpc

theorem step_of_importWait {s t : Server} {a : TcpAction} {n : ℕ}
    (h : step s (.tcp a) = some t) (hpc : s.tcp.pc = .importWait n) :
    a = .run ∧ t = s.goto (if s.deviceBusy then .mode
      else if n < 100 then .importWait (n + 1) else .mode) := by
  simp only [step, hpc] at h
  split_ifs at h
  unfold doRecv at h
  rw [hpc] at h
  cases a with
  | run =>
    cases h
    exact ⟨rfl, rfl⟩
  | _ => cases h

theorem importEvent_eq_none {s : Server} (h : s.pendingImports = []) :
    s.loop1.handler.importEvent = none := by
  have hnil := (List.append_eq_nil_iff.1 h).1
  simpa using hnil

theorem pendingImports_of_active {s : Server} {ev e : TcpData}
    (hh : s.loop1.handler.importEvent = some e) (h : s.pendingImports = [ev]) :
    ev = e ∧ s.loop1.queue.filter TcpData.isImport = [] := by
  rw [Server.pendingImports, hh] at h
  simp only [Option.toList_some, List.singleton_append, List.cons.injEq] at h
  exact ⟨h.1.symm, h.2⟩

theorem Handler1.at_of_importEvent_eq_none {h : Handler1} {ev : TcpData} {c : Conn}
    (hh : h.importEvent = none) : h.At ev c ↔ c.consumed = ev.offset := by
  cases h <;> first | exact Iff.rfl | cases hh

theorem TcpStep.pendingImports {s t : Server} {a : TcpAction} (h : TcpStep s a t)
    (hpost : s.tcp.pc = .postCommand → (commandEvent s).eventId ≠ opReqImport) :
    t.pendingImports = s.pendingImports := by
  cases h with
  | postCommand hpc =>
    simp [Server.pendingImports, List.filter_append, TcpData.isImport, hpost hpc]
  | _ => rfl

theorem tcpStep_handedOver {s t : Server} {a : TcpAction} (hsock : s.SocketsOk)
    (hs : s.HandedOver) (ha : KeepsWaiting s (.tcp a)) (h : step s (.tcp a) = some t) :
    t.HandedOver := by
  have hstep := (tcpStep h).2
  refine ⟨?_, hstep.ready hs.ready⟩
  rcases hs.pending with hnone | ⟨ev, hev, hw⟩
  · by_cases hpc : s.tcp.pc = .postCommand
    · cases hstep with
      | postCommand hpc' =>
        by_cases himport : (commandEvent s).eventId = opReqImport
        · right
          refine ⟨commandEvent s, ?_, ?_⟩
          · have hfilter : s.loop1.queue.filter TcpData.isImport = [] :=
              (List.append_eq_nil_iff.1 hnone).2
            simp only [Server.pendingImports, importEvent_eq_none hnone,
              List.filter_append, hfilter, Option.toList_none, List.nil_append]
            simp [TcpData.isImport, himport]
          · obtain ⟨c, hc, -⟩ := hsock.serving (by rw [hpc]; decide)
            refine ⟨⟨0, if_pos himport⟩, hs.ready (by rw [hpc]; rfl), rfl, rfl, c, hc, ?_⟩
            rw [Handler1.at_of_importEvent_eq_none (importEvent_eq_none hnone)]
            simp [commandEvent, hc]
        · left
          rw [(TcpStep.postCommand hpc').pendingImports fun _ => himport, hnone]
      | postCommandFailed hpc' => exact .inl hnone
      | _ => simp_all
    · left
      rw [hstep.pendingImports fun hpost => absurd hpost hpc, hnone]
  · obtain ⟨n, hpc⟩ := hw.pc
    obtain ⟨rfl, rfl⟩ := step_of_importWait h hpc
    have hlt : n < 100 := by
      by_contra hge
      simp only [KeepsWaiting, hpc] at ha
      have hnone := ha (by omega) hw.busy
      rw [hev] at hnone
      cases hnone
    refine .inr ⟨ev, hev, ⟨n + 1, ?_⟩, hw.busy, hw.recvBytes, hw.header, hw.handler⟩
    simp [Server.goto, hw.busy, hlt]

theorem deliver1_importEvent (ev : TcpData) :
    (deliver1 ev).importEvent.toList = [ev].filter TcpData.isImport := by
  by_cases himport : ev.eventId = opReqImport
  · have hne : opReqImport ≠ opReqDevlist := by decide
    simp [deliver1, himport, hne, Handler1.importEvent, TcpData.isImport]
  · by_cases hlist : ev.eventId = opReqDevlist
    · have hne : opReqDevlist ≠ opReqImport := by decide
      simp [deliver1, hlist, hne, Handler1.importEvent, TcpData.isImport]
    · simp [deliver1, himport, hlist, Handler1.importEvent, TcpData.isImport]

theorem Loop1Step.no_import {s t : Server} {a : Loop1Action} (h : Loop1Step s a t)
    (hs : s.pendingImports = []) :
    t.pendingImports = [] ∧ t.deviceBusy = s.deviceBusy ∧ t.conn = s.conn := by
  have hnone := importEvent_eq_none hs
  have hqueue : s.loop1.queue.filter TcpData.isImport = [] := (List.append_eq_nil_iff.1 hs).2
  cases h with
  | dispatch ev queue hh hq =>
    refine ⟨?_, rfl, rfl⟩
    rw [Server.pendingImports, deliver1_importEvent, ← List.filter_append]
    rw [hq] at hqueue
    exact hqueue
  | devlistCrash => exact ⟨hs, rfl, rfl⟩
  | devlistFailed => exact ⟨hqueue, rfl, rfl⟩
  | devlistSent => exact ⟨hqueue, rfl, rfl⟩
  | _ => simp_all [Handler1.importEvent]

theorem step_no_import {s t : Server} {a : Action} (hs : s.pendingImports = [])
    (ha : ∀ b, a ≠ .tcp b) (h : step s a = some t) :
    t.pendingImports = [] ∧ t.conn = s.conn ∧
      (t.deviceBusy = s.deviceBusy ∨ t.deviceBusy = false) := by
  cases a with
  | tcp a => exact absurd rfl (ha a)
  | loop1 a =>
    obtain ⟨hpending, hbusy, hconn⟩ := (loop1Step h).2.no_import hs
    exact ⟨hpending, hconn, .inl hbusy⟩
  | loop2 a =>
    obtain ⟨-, heff⟩ := loop2Step_effect h
    cases heff <;> exact ⟨hs, rfl, .inl rfl⟩
  | host a =>
    obtain ⟨-, heff⟩ := hostStep_effect h
    cases heff <;> exact ⟨hs, rfl, .inl rfl⟩
  | driver a =>
    obtain ⟨-, -, d, e, -, rfl⟩ := driverStep_effect h
    cases e with
    | clearBusy => exact ⟨hs, rfl, .inr rfl⟩
    | _ => exact ⟨hs, rfl, .inl rfl⟩

theorem deliver1_at {ev e : TcpData} {c : Conn} (h : c.consumed = ev.offset) :
    (deliver1 e).At ev c := by
  unfold deliver1
  split_ifs <;> exact h

theorem Server.HandedOver.of_same {s t : Server} (hs : s.HandedOver) (htcp : t.tcp = s.tcp)
    (hpending : t.pendingImports = s.pendingImports)
    (hbusy : s.deviceBusy = false → t.deviceBusy = false)
    (hrecv : t.history.recvBytes = s.history.recvBytes)
    (hat : ∀ ev, s.pendingImports = [ev] → ∀ c, s.conn = some c → s.loop1.handler.At ev c →
      ∃ c', t.conn = some c' ∧ t.loop1.handler.At ev c') : t.HandedOver where
  pending := by
    rcases hs.pending with hnone | ⟨ev, hev, hw⟩
    · exact .inl (hpending.trans hnone)
    · obtain ⟨c, hc, hathere⟩ := hw.handler
      refine .inr ⟨ev, hpending.trans hev, ?_, hbusy hw.busy, hrecv.trans hw.recvBytes, ?_,
        hat ev hev c hc hathere⟩
      · rw [htcp]
        exact hw.pc
      · rw [htcp]
        exact hw.header
  ready hpc := by
    rw [htcp] at hpc
    exact hbusy (hs.ready hpc)

theorem Server.HandedOver.finish {s t : Server} {e : TcpData} (hs : s.HandedOver)
    (htcp : t.tcp = s.tcp) (hh : s.loop1.handler.importEvent = some e)
    (hidle : t.loop1 = { s.loop1 with handler := .idle }) : t.HandedOver := by
  have hpending : t.pendingImports = [] ∧ ∃ n, s.tcp.pc = .importWait n := by
    rcases hs.pending with hnone | ⟨ev, hev, hw⟩
    · rw [importEvent_eq_none hnone] at hh
      cases hh
    · refine ⟨?_, hw.pc⟩
      rw [Server.pendingImports, hidle]
      exact (pendingImports_of_active hh hev).2
  obtain ⟨hnone, n, hpc⟩ := hpending
  refine ⟨.inl hnone, fun hcmd => ?_⟩
  rw [htcp, hpc] at hcmd
  cases hcmd

theorem Loop1Step.handedOver {s t : Server} {a : Loop1Action} (h : Loop1Step s a t)
    (hsize : s.EventsSized) (htcp : s.tcp.Sized) (hs : s.HandedOver) : t.HandedOver := by
  cases h with
  | dispatch ev queue hh hq =>
    refine hs.of_same rfl ?_ id rfl ?_
    · rw [Server.pendingImports, Server.pendingImports, deliver1_importEvent, hh, hq,
        ← List.filter_append]
      rfl
    · intro e he c hc hat
      rw [hh] at hat
      exact ⟨c, hc, deliver1_at hat⟩
  | devlistCrash => exact hs.of_same rfl rfl id rfl fun ev _ c hc hat => ⟨c, hc, hat⟩
  | devlistFailed ev stack frame hh hd =>
    refine hs.of_same rfl ?_ id rfl fun e _ c hc hat => ⟨c, hc, ?_⟩
    · rw [Server.pendingImports, Server.pendingImports, hh]
      rfl
    · rw [hh] at hat
      exact hat
  | devlistSent ev stack frame r d n hh hd hd' hr =>
    refine hs.of_same rfl ?_ id rfl fun e _ c hc hat => ⟨c, hc, ?_⟩
    · rw [Server.pendingImports, Server.pendingImports, hh]
      rfl
    · rw [hh] at hat
      exact hat
  | copy ev hh =>
    -- the header is copied while `do_recv` still leaves its buffer alone
    have hlen : ev.len = headerCommonSize := hsize.handler ev (by rw [hh]; rfl)
    have htake : (s.tcp.devRecv.take headerCommonSize).length = headerCommonSize := by
      rw [List.length_take, htcp.devRecv, min_self]
    rcases hs.pending with hnone | ⟨e, he, hw⟩
    · have hnot := importEvent_eq_none hnone
      rw [hh] at hnot
      cases hnot
    · refine hs.of_same rfl ?_ id rfl fun e' he' c hc hat => ⟨c, hc, ?_⟩
      · rw [Server.pendingImports, Server.pendingImports, hh]
        rfl
      · rw [hh] at hat
        rw [he] at he'
        cases he'
        refine ⟨hat, ?_⟩
        rw [hlen]
        have hcopy := overwrite_take (s.tcp.devRecv.take headerCommonSize)
          (List.replicate opReqImportSize 0)
        rw [htake] at hcopy
        rw [hcopy]
        exact hw.header
  | recv ev devImport r conn bytes hh hrecv hlen =>
    have hwant : ev.len = headerCommonSize := hsize.handler ev (by rw [hh]; rfl)
    rw [hwant] at hrecv hlen
    have h32 : bytes.length = 32 := hlen
    have hne : bytes ≠ [] := by
      intro hnil
      rw [hnil] at h32
      cases h32
    obtain ⟨d, hd, -, -, -, -, hbytes, hconn⟩ := sockRecv_got hrecv hne
    refine hs.of_same rfl ?_ id rfl fun e he c hc hat => ?_
    · rw [Server.pendingImports, Server.pendingImports, hh]
      rfl
    · rw [hh] at hat
      rw [hd] at hc
      cases hc
      obtain ⟨hcons, hheader⟩ := hat
      have hdata : bytes = (d.stream.drop e.offset).take 32 := by
        rw [← hcons]
        rw [h32] at hbytes
        exact hbytes
      refine ⟨_, hconn, by rw [h32, hcons], ?_⟩
      rw [hwant, hheader, hdata]
  | recvFailed ev devImport r conn o hh hrecv => exact hs.finish rfl (by rw [hh]; rfl) rfl
  | buildCrash => exact hs.of_same rfl rfl id rfl fun ev _ c hc hat => ⟨c, hc, hat⟩
  | build ev devImport rep hh hb =>
    refine hs.of_same rfl ?_ id rfl fun e _ c hc hat => ⟨c, hc, ?_⟩
    · rw [Server.pendingImports, Server.pendingImports, hh]
      rfl
    · rw [hh] at hat
      exact hat
  | sendFailed ev devImport rep hh => exact hs.finish rfl (by rw [hh]; rfl) rfl
  | sendShort ev devImport rep d n hh hd => exact hs.finish rfl (by rw [hh]; rfl) rfl
  | send ev devImport rep d hh hd =>
    refine hs.of_same rfl ?_ id rfl fun e _ c hc hat => ⟨c, hc, ?_⟩
    · rw [Server.pendingImports, Server.pendingImports, hh]
      rfl
    · rw [hh] at hat
      exact hat
  | busy ev devImport rep hh => exact hs.finish rfl (by rw [hh]; rfl) rfl

theorem step_handedOver {s t : Server} {a : Action} (hsock : s.SocketsOk)
    (hsize : s.EventsSized) (htcp : s.tcp.Sized) (hs : s.HandedOver) (ha : KeepsWaiting s a)
    (h : step s a = some t) : t.HandedOver := by
  cases a with
  | tcp a => exact tcpStep_handedOver hsock hs ha h
  | loop1 a => exact (loop1Step h).2.handedOver hsize htcp hs
  | loop2 a =>
    obtain ⟨-, heff⟩ := loop2Step_effect h
    cases heff <;> exact hs.of_same rfl rfl id rfl fun ev _ c hc hat => ⟨c, hc, hat⟩
  | host a =>
    obtain ⟨-, heff⟩ := hostStep_effect h
    cases heff <;> exact hs.of_same rfl rfl id rfl fun ev _ c hc hat => ⟨c, hc, hat⟩
  | driver a =>
    obtain ⟨-, -, d, e, -, rfl⟩ := driverStep_effect h
    cases e with
    | clearBusy =>
      exact hs.of_same rfl rfl (fun _ => rfl) rfl fun ev _ c hc hat => ⟨c, hc, hat⟩
    | _ => exact hs.of_same rfl rfl id rfl fun ev _ c hc hat => ⟨c, hc, hat⟩

def Handler1.request : Handler1 → Option Bytes
  | .importBuild _ devImport | .importSend _ devImport _ | .importBusy _ devImport _ =>
      some devImport
  | _ => none

/-- `do_recv` has consumed nothing since it posted the import, the header the event points to is
the posted one, and the handler works on that header and the 32 bytes that followed it. -/
structure Server.ImportIntact (s : Server) (ev : TcpData) : Prop where
  unread : s.history.recvBytes = ev.recvBytes
  header : s.tcp.devRecv.take headerCommonSize = ev.header
  request : ∀ devImport, s.loop1.handler.request = some devImport →
    ∃ c, s.conn = some c ∧ devImport = ev.header ++ (c.stream.drop ev.offset).take 32

theorem Server.HandedOver.importIntact {s : Server} (hs : s.HandedOver) {ev : TcpData}
    (hev : ev ∈ s.pendingImports) : s.ImportIntact ev := by
  rcases hs.pending with hnone | ⟨e, he, hw⟩
  · rw [hnone] at hev
    cases hev
  · rw [he] at hev
    obtain rfl := List.mem_singleton.1 hev
    refine ⟨hw.recvBytes, hw.header, fun devImport hreq => ?_⟩
    obtain ⟨c, hc, hat⟩ := hw.handler
    refine ⟨c, hc, ?_⟩
    cases hh : s.loop1.handler <;> rw [hh] at hreq hat <;> cases hreq
    · exact hat.2
    · exact hat.2
    · exact hat.2

section Boot

variable {lib : HostLib} {devRecv header cmdSubmit transferBuffer cmdUnlink : Bytes}

/-- While an import is pending `do_recv` keeps off its bytes, as long as the wait outlasts the
handler. -/
theorem import_intact_of_keepsWaiting {as : List Action} {t : Server}
    (h : run (.boot lib devRecv header cmdSubmit transferBuffer cmdUnlink) as = some t)
    (hwait : Always step KeepsWaiting
      (.boot lib devRecv header cmdSubmit transferBuffer cmdUnlink) as) :
    ∀ ev ∈ t.pendingImports, t.ImportIntact ev := by
  have hreach : ∀ s, Reachable s → s.SocketsOk ∧ s.EventsSized ∧ s.tcp.Sized :=
    fun s hs => ⟨hs.socketsOk, hs.eventsSized, hs.sized.1⟩
  have hboot : Server.HandedOver
      (.boot lib devRecv header cmdSubmit transferBuffer cmdUnlink) :=
    ⟨.inl rfl, fun hpc => by cases hpc⟩
  have hboth := exec_invariant (I := fun s => Reachable s ∧ s.HandedOver)
    (fun s a u hs ha hu => ⟨hs.1.of_step hu,
      step_handedOver (hreach s hs.1).1 (hreach s hs.1).2.1 (hreach s hs.1).2.2 hs.2 ha hu⟩)
    ⟨.boot lib devRecv header cmdSubmit transferBuffer cmdUnlink, hboot⟩ hwait h
  exact fun ev hev => hboth.2.importIntact hev

end Boot

/-- The event loop is held up for as long as `do_recv` waits; `do_recv` then reads the first
eight bytes of the bus id. -/
def delayedImport : List Action :=
  (importing 3 (importSession []).stream).take 5 ++ List.replicate 103 (.tcp .run) ++
    [.tcp (.recv (.data 8))]

theorem import_bytes_taken :
    ¬ ∀ as t, run coldBoot as = some t → ∀ ev ∈ t.pendingImports, t.ImportIntact ev := by
  intro hall
  let ev : TcpData := ⟨3, 8, opReqImport, requestHeader opReqImport 0, 8, 8⟩
  have hrun : (run coldBoot delayedImport).map
      (fun t => (t.pendingImports, t.history.recvBytes)) = some ([ev], 16) := by
    decide +kernel
  obtain ⟨t, ht, hstate⟩ := Option.map_eq_some_iff.1 hrun
  obtain ⟨hpending, hrecv⟩ := Prod.mk.inj hstate
  have hintact := hall delayedImport t ht ev (by rw [hpending]; exact List.mem_singleton_self ev)
  have hunread := hintact.unread
  rw [hrecv] at hunread
  cases hunread

theorem import_intact_keyboard :
    ∃ t ev, run coldBoot (keyboardEnumeration ++
        (importing 3 (importSession []).stream).take 10) = some t ∧
      t.pendingImports = [ev] ∧ t.ImportIntact ev := by
  let ev : TcpData := ⟨3, 8, opReqImport, requestHeader opReqImport 0, 8, 8⟩
  have hrun : (run coldBoot (keyboardEnumeration ++
      (importing 3 (importSession []).stream).take 10)).map Server.pendingImports =
      some [ev] := by
    decide +kernel
  obtain ⟨t, ht, hpending⟩ := Option.map_eq_some_iff.1 hrun
  have hwait : Always step KeepsWaiting coldBoot (keyboardEnumeration ++
      (importing 3 (importSession []).stream).take 10) := by
    decide +kernel
  exact ⟨t, ev, ht, hpending, import_intact_of_keepsWaiting ht hwait ev
    (by rw [hpending]; exact List.mem_singleton_self ev)⟩

end UsbRepeater
