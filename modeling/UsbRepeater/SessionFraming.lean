import UsbRepeater.Enumeration
import UsbRepeater.Session

/-! The framing of a session. Two tasks read from one socket, and each command has its own length;
still every byte is read by the task it is meant for, URB mode begins right behind the import, and
each CMD_SUBMIT is posted as it was sent. -/
namespace UsbRepeater

open Schedule Determ

def ClientSession.submits (session : ClientSession) : List SubmitCommand :=
  session.commands.filterMap UrbCommand.submitted

def ClientSession.urbOffset (session : ClientSession) : ℕ := 8 * session.devlists.length + 40

/-- `do_recv` starts on a new connection: nothing is queued for the handler, both loops exist, and
a device is enumerated. -/
structure Server.Starts (s : Server) (session : ClientSession) (id number : ℕ) : Prop where
  reachable : Reachable s
  pc : s.tcp.pc = .begin
  conn : s.conn = some ⟨id, number, session.stream, 0⟩
  busy : s.deviceBusy = false
  loop1 : s.loop1 = ⟨[], .idle⟩
  loopHandle : s.loopHandle = true
  loopHandle2 : s.loop2.count ≠ 0
  enumerated : s.driver.enumerated = true

section Start

variable {s : Server} {session : ClientSession} {id number : ℕ}

theorem Server.Starts.handedOver (hs : s.Starts session id number) : s.HandedOver where
  pending := by
    left
    rw [Server.pendingImports, hs.loop1]
    rfl
  ready hpc := by
    rw [hs.pc] at hpc
    cases hpc

theorem Server.Starts.on (hs : s.Starts session id number) :
    s.reader.On .begin false .free ⟨id, number, session.stream, 0⟩ := by
  obtain ⟨k, dev, config, -, hdev, hconfig⟩ := Driver.enumerated_iff.1 hs.enumerated
  have hpc : s.reader.tcp.pc = s.tcp.pc.settle s.deviceBusy := rfl
  obtain ⟨c, hc, hsock⟩ := hs.reachable.socketsOk.serving (by rw [hs.pc]; decide)
  have hnumber : s.tcp.sock = (number : ℤ) := by
    rw [hs.conn] at hc
    cases hc
    exact hsock.symm
  exact ⟨by rw [hpc, hs.pc]; rfl, hs.busy, congrArg Loop1.onImport hs.loop1, hs.conn, hnumber,
    hs.reachable.sized.1.goto _, hs.loopHandle, hs.loopHandle2, rfl,
    fun h => absurd (hdev.symm.trans h) nofun, fun h => absurd (hconfig.symm.trans h) nofun⟩

theorem Server.Starts.proceeds (hs : s.Starts session id number) :
    ∃ v evs, Leads Server.proceed s.reader v ∧
      v.On .urbHeader true .free ⟨id, number, session.stream, session.stream.length⟩ ∧
      v.history.posted = s.history.posted ++ evs ∧
      v.history.urbEntries = s.history.urbEntries ++ [(id, session.urbOffset)] ∧
      List.Forall₂ Submit.Carries evs session.submits := by
  let c : Conn := ⟨id, number, session.stream, 0⟩
  have hunread : c.unread = session.devlists.flatMap (requestHeader opReqDevlist) ++
      (requestHeader opReqImport session.importStatus ++ (session.busField ++
        (session.commands.flatMap UrbCommand.encode ++ []))) := by
    simp only [c, Conn.unread, List.drop_zero, ClientSession.stream, ClientSession.importRequest,
      List.append_assoc, List.append_nil]
  have hlists : (session.devlists.flatMap (requestHeader opReqDevlist)).length =
      8 * session.devlists.length := by
    simp [List.length_flatMap, headerCommonSize, Nat.mul_comm]
  obtain ⟨u₁, h₁, hu₁, hsame₁⟩ := hs.on.begin
  obtain ⟨u₂, h₂, hu₂, hsame₂⟩ := hu₁.devlists hunread
  have hunread₂ := Conn.skip_unread hunread
  rw [hlists] at hunread₂
  obtain ⟨u₃, h₃, hu₃, hposted₃, hentries₃⟩ :=
    hu₂.imported session.busField_length session.busField_text hunread₂
  have hunread₃ : ((c.skip (8 * session.devlists.length)).skip opReqImportSize).unread =
      session.commands.flatMap UrbCommand.encode ++ [] := by
    have hskip := Conn.skip_unread (Conn.skip_unread hunread₂)
    rwa [Conn.skip_skip, session.busField_length] at hskip
  obtain ⟨v, evs, hv, hu₄, hposted₄, hentries₄, hcarries⟩ := hu₃.commands hunread₃
  have hsame := hsame₁.trans hsame₂
  have hend : ((c.skip (8 * session.devlists.length)).skip opReqImportSize).skip
      (session.commands.flatMap UrbCommand.encode).length =
      ⟨id, number, session.stream, session.stream.length⟩ := by
    simp only [Conn.skip, c, Conn.mk.injEq, true_and]
    rw [ClientSession.stream, List.length_append, hlists, List.length_append,
      ClientSession.importRequest, List.length_append, session.busField_length]
    simp only [opReqImportSize, requestHeader_length, headerCommonSize]
    omega
  rw [hend] at hu₄
  refine ⟨v, evs, (Leads.head h₁ h₂).trans (h₃.trans hv), hu₄, ?_, ?_, hcarries⟩
  · rw [hposted₄, hposted₃, hsame.1]
    rfl
  · rw [hentries₄, hentries₃, hsame.2]
    simp [Conn.skip, ClientSession.urbOffset, opReqImportSize, Server.reader, History.read]

theorem proceed_advance {u v : Server} (h : u.proceed = some v) : u.advance = some v := by
  unfold Server.proceed at h
  split_ifs at h
  exact h

theorem Server.On.stopped {u : Server} {c : Conn} (hu : u.On .urbHeader true .free c)
    (hempty : c.unread = []) : u.advance = none := by
  have harriving : u.arriving u.wanted = .data 0 := by
    simp [Server.arriving, hu.conn, hempty]
  have hnext : u.nextAction = .tcp (.recv (.data 0)) := by
    rw [hu.nextAction, ← harriving]
    simp only [Server.nextTcp, hu.pc]
  rw [Server.advance, hnext, step_doRecv hu.running (by rw [hu.pc]; rfl)]
  simp only [doRecv, hu.pc, sockRecv_zero, Option.map_none]

end Start

/-- Receives are whole, sends and posts succeed, the device stays, and the import wait outlasts the
handler. -/
def Unhindered (s : Server) (a : Action) : Prop :=
  Faultless s a ∧ StaysEnumerated s a ∧ KeepsWaiting s a

instance (s : Server) (a : Action) : Decidable (Unhindered s a) := by
  unfold Unhindered
  infer_instance

def TcpPc.attending : TcpPc → Bool
  | .accepting | .urbClosed | .cleanupBusy | .cleanupEp1 | .cleanupEp2 | .cleanupClose => false
  | _ => true

structure Server.Attended (s : Server) : Prop where
  loopHandle : s.loopHandle = true
  place : s.tcp.pc.attending = true
  queue : ∀ ev ∈ s.loop1.queue, ev.sock = s.tcp.sock
  handler : ∀ ev, s.loop1.handler.event = some ev → ev.sock = s.tcp.sock

theorem commandNext_attending {s : Server} (h : s.loopHandle = true) (devRecv : Bytes) :
    (commandNext s devRecv).attending = true := by
  rw [commandNext, if_pos h]
  split_ifs <;> rfl

theorem TcpStep.attending {s t : Server} {a : TcpAction} (h : TcpStep s a t)
    (hs : s.Attended) (ha : Faultless s (.tcp a)) : t.tcp.pc.attending = true := by
  have hplace := hs.place
  cases h with
  | acceptFailed stream hpc | accept number stream hpc | clientGone hpc | cleanupBusy hpc
  | cleanupEp1 hpc | cleanupEp2 hpc | close hpc =>
    rw [hpc] at hplace
    cases hplace
  | commandEnds r conn o hpc hrecv ho =>
    rw [show r = .data s.wanted from ha] at hrecv
    rcases ho with rfl | rfl
    · cases sockRecv_failed hrecv
    · cases sockRecv_closed hrecv
  | urbClosed r conn hpc hrecv =>
    rw [show r = .data s.wanted from ha] at hrecv
    cases sockRecv_closed hrecv
  | command => exact commandNext_attending hs.loopHandle _
  | urbHeader => exact urbNext_elim _ rfl rfl rfl
  | submitBody =>
    simp only [Server.setTcp]
    split_ifs
    · exact submitNext_elim _ _ rfl rfl rfl
    · rfl
  | urbAgain => exact hplace
  | outer | postCommand | postCommandFailed | importWait =>
    simp only [Server.goto]
    split_ifs <;> rfl
  | payload => simp only [Server.setTcp]; split_ifs <;> rfl
  | _ => rfl

theorem step_attended {s t : Server} {a : Action} (hs : s.Attended) (ha : Faultless s a)
    (h : step s a = some t) : t.Attended := by
  cases a with
  | tcp a =>
    have hplace := (tcpStep h).2.attending hs ha
    have hold := hs.place
    obtain ⟨-, heff⟩ := tcpStep_effect h
    cases heff with
    | own a tcp conn recvBytes urbEntries unlinks htcp hconn =>
      exact ⟨hs.loopHandle, hplace, htcp.sock ▸ hs.queue, htcp.sock ▸ hs.handler⟩
    | postCommand tcp htcp hpc =>
      refine ⟨hs.loopHandle, hplace, fun ev hev => ?_, htcp.sock ▸ hs.handler⟩
      rcases List.mem_append.1 hev with hev | hev
      · exact (hs.queue ev hev).trans htcp.sock.symm
      · rw [List.mem_singleton.1 hev]
        exact htcp.sock.symm
    | postSubmit tcp htcp hpc hloop =>
      exact ⟨hs.loopHandle, hplace, htcp.sock ▸ hs.queue, htcp.sock ▸ hs.handler⟩
    | unlink tcp c r n htcp hpc hc hn hr =>
      exact ⟨hs.loopHandle, hplace, htcp.sock ▸ hs.queue, htcp.sock ▸ hs.handler⟩
    | acceptFailed stream hpc => rw [hpc] at hold; cases hold
    | accept number stream hpc => rw [hpc] at hold; cases hold
    | clientGone hpc => rw [hpc] at hold; cases hold
    | cleanupBusy hpc => rw [hpc] at hold; cases hold
    | cleanupEp1 hpc => rw [hpc] at hold; cases hold
    | cleanupEp2 hpc => rw [hpc] at hold; cases hold
    | close hpc => rw [hpc] at hold; cases hold
  | loop1 a =>
    have hhandler := hs.handler
    obtain ⟨-, hstep⟩ := loop1Step h
    cases hstep with
    | dispatch ev queue hh hq =>
      have hqueue := hs.queue
      rw [hq] at hqueue
      refine ⟨hs.loopHandle, hs.place, fun e he => hqueue e (List.mem_cons_of_mem ev he), ?_⟩
      intro e he
      rw [deliver1_event he]
      exact hqueue ev List.mem_cons_self
    | copy ev hh =>
      rw [hh] at hhandler
      exact ⟨hs.loopHandle, hs.place, hs.queue, hhandler⟩
    | recv ev devImport r conn bytes hh hrecv hlen =>
      rw [hh] at hhandler
      exact ⟨hs.loopHandle, hs.place, hs.queue, hhandler⟩
    | build ev devImport rep hh hb =>
      rw [hh] at hhandler
      exact ⟨hs.loopHandle, hs.place, hs.queue, hhandler⟩
    | send ev devImport rep c hh hc hnum =>
      rw [hh] at hhandler
      exact ⟨hs.loopHandle, hs.place, hs.queue, hhandler⟩
    | devlistCrash => exact ⟨hs.loopHandle, hs.place, hs.queue, hs.handler⟩
    | buildCrash => exact ⟨hs.loopHandle, hs.place, hs.queue, hs.handler⟩
    | _ => exact ⟨hs.loopHandle, hs.place, hs.queue, nofun⟩
  | loop2 a =>
    obtain ⟨-, heff⟩ := loop2Step_effect h
    cases heff <;> exact ⟨hs.loopHandle, hs.place, hs.queue, hs.handler⟩
  | host a =>
    obtain ⟨-, heff⟩ := hostStep_effect h
    cases heff <;> exact ⟨hs.loopHandle, hs.place, hs.queue, hs.handler⟩
  | driver a =>
    obtain ⟨-, -, d, e, -, rfl⟩ := driverStep_effect h
    cases e <;> exact ⟨hs.loopHandle, hs.place, hs.queue, hs.handler⟩

theorem sockRecv_all {s : Server} {sock : ℤ} {want : ℕ} {x : Option Conn × RecvOutcome}
    (h : sockRecv s.conn sock want (.data want) = some x) : s.arriving want = .data want := by
  unfold sockRecv at h
  split at h
  · rename_i c n hc hr
    cases hr
    obtain ⟨hconn, -⟩ := openOn_eq_some.1 hc
    split_ifs at h with hn
    simp [Server.arriving, hconn, hn.2.2]
  · rename_i hr
    cases hr
  · rename_i hr
    cases hr
  · rename_i hr
    cases hr
  · cases h

theorem step_recv {s t : Server} {r : RecvResult} (h : step s (.tcp (.recv r)) = some t) :
    ∃ x, sockRecv s.conn s.tcp.sock s.wanted r = some x := by
  cases (tcpStep h).2 with
  | bodyFailed r conn o want hpc hrecv ho =>
    rcases hpc with ⟨hpc, rfl⟩ | ⟨hpc, rfl⟩
    · exact ⟨_, by rw [Server.wanted, hpc]; exact hrecv⟩
    · exact ⟨_, by rw [Server.wanted, hpc]; exact hrecv⟩
  | commandAgain r conn hpc hrecv | commandEnds r conn o hpc hrecv ho
  | command r conn bytes hpc hrecv hb | urbAgain r conn hpc hrecv | urbFailed r conn hpc hrecv
  | urbClosed r conn hpc hrecv | urbHeader r conn bytes hpc hrecv hb
  | submitBody r conn bytes hpc hrecv | payload r conn bytes hpc hrecv
  | unlinkBody r conn bytes hpc hrecv | unlinkBodyFailed r conn o hpc hrecv ho =>
    exact ⟨_, by rw [Server.wanted, hpc]; exact hrecv⟩

theorem driver_undisturbed {s t : Server} {a : DriverAction} (hreach : Reachable s)
    (hd : s.driver.enumerated = true) (ha : StaysEnumerated s (.driver a))
    (h : step s (.driver a) = some t) : Undisturbed s (.driver a) := by
  obtain ⟨-, -, d, e, hdrive, -⟩ := driverStep_effect h
  obtain ⟨horderly, hplaced⟩ := hreach.orderly
  simp only [StaysEnumerated, hdrive] at ha
  obtain ⟨hinfo, hdev, hconfig, heffect⟩ :=
    usbClassDriverTask_enumerated horderly hplaced hd ha hdrive
  have hsame : d.descriptors = s.driver.descriptors := by
    rw [Driver.descriptors, Driver.descriptors, hinfo, hdev, hconfig]
  rcases heffect with rfl | rfl
  · simpa only [Undisturbed, hdrive] using hsame
  · simpa only [Undisturbed, hdrive] using hsame

theorem ordered_of_unhindered {s t : Server} {a : Action} (hreach : Reachable s)
    (hd : s.driver.enumerated = true) (hs : s.Attended) (ha : Unhindered s a)
    (h : step s a = some t) : Ordered s a := by
  obtain ⟨hfull, hstays, hwait⟩ := ha
  refine ⟨?_, hwait, ?_⟩
  · cases a with
    | tcp a =>
      cases a with
      | accept number stream =>
        have hplace := hs.place
        cases (tcpStep h).2 with
        | acceptFailed stream hpc => rw [hpc] at hplace; cases hplace
        | accept number stream hpc => rw [hpc] at hplace; cases hplace
      | recv r =>
        obtain rfl : r = .data s.wanted := hfull
        exact ⟨by simp, by simp⟩
      | run => trivial
      | post ok => exact hfull
      | send r => exact hfull
    | loop1 a =>
      cases a with
      | recv r =>
        cases (loop1Step h).2 with
        | recv ev devImport r conn bytes hh hrecv hlen =>
          simp only [Faultless, hh] at hfull
          exact ⟨by simp [hfull], by simp [hfull]⟩
        | recvFailed ev devImport r conn o hh hrecv ho =>
          simp only [Faultless, hh] at hfull
          exact ⟨by simp [hfull], by simp [hfull]⟩
      | send r => exact hfull
      | dispatch => trivial
      | run => trivial
      | devlist stack r => trivial
    | driver a => exact driver_undisturbed hreach hd hstays h
    | loop2 a => trivial
    | host a => trivial
  · cases a with
    | tcp a =>
      cases a with
      | recv r =>
        obtain rfl : r = .data s.wanted := hfull
        obtain ⟨x, hx⟩ := step_recv h
        exact .inl (sockRecv_all hx).symm
      | _ => trivial
    | loop1 a =>
      cases a with
      | recv r =>
        cases (loop1Step h).2 with
        | recv ev devImport r conn bytes hh hrecv hlen =>
          simp only [Faultless, hh] at hfull
          subst hfull
          simpa only [Uncut, hh] using (sockRecv_all hrecv).symm
        | recvFailed ev devImport r conn o hh hrecv ho =>
          simp only [Faultless, hh] at hfull
          subst hfull
          simpa only [Uncut, hh] using (sockRecv_all hrecv).symm
      | _ => trivial
    | _ => trivial

structure Server.InSession (s : Server) : Prop where
  reachable : Reachable s
  handedOver : s.HandedOver
  attended : s.Attended
  enumerated : s.driver.enumerated = true

theorem step_inSession {s t : Server} {a : Action} (hs : s.InSession) (ha : Unhindered s a)
    (h : step s a = some t) : t.InSession where
  reachable := hs.reachable.of_step h
  handedOver :=
    step_handedOver hs.reachable.socketsOk hs.reachable.eventsSized hs.reachable.sized.1
      hs.handedOver ha.2.2 h
  attended := step_attended hs.attended ha.1 h
  enumerated := step_enumerated hs.enumerated ha.2.1 h

theorem Server.Starts.inSession {s : Server} {session : ClientSession} {id number : ℕ}
    (hs : s.Starts session id number) : s.InSession where
  reachable := hs.reachable
  handedOver := hs.handedOver
  attended := ⟨hs.loopHandle, by rw [hs.pc]; rfl, by rw [hs.loop1]; nofun, by rw [hs.loop1]; nofun⟩
  enumerated := hs.enumerated

def Action.ofReader : Action → Bool
  | .tcp _ | .loop1 _ => true
  | _ => false

theorem wanted_reader {s : Server} (htcp : s.reader.tcp = s.tcp) :
    s.reader.wanted = s.wanted := by
  simp only [Server.wanted, Server.cmdSubmit, htcp]

theorem keepsWaiting_of_idle {s : Server} (h : s.pendingImports = []) (a : Action) :
    KeepsWaiting s a := by
  unfold KeepsWaiting
  split
  · split
    · exact fun _ _ => h
    · trivial
  · trivial

theorem enabled_of_map {s u : Server} {a b : Action} {v : Server}
    (h : (step u b).map Server.reader = some v)
    (heq : (step u b).map Server.reader = (step s a).map Server.reader) :
    (step s a).isSome = true := by
  rw [heq] at h
  obtain ⟨w, hw, -⟩ := Option.map_eq_some_iff.1 h
  rw [hw]
  rfl

theorem tcp_enabled {s v : Server} (hnone : s.pendingImports = []) (hrunning : s.crashed = false)
    (h : s.reader.proceed = some v) :
    ∃ a, Faultless s (.tcp a) ∧ (step s (.tcp a)).isSome = true := by
  by_cases htcp : s.reader.tcp = s.tcp
  · unfold Server.proceed at h
    split_ifs at h with hfull
    rw [Server.advance, nextAction_of_idle hnone] at h
    rw [nextAction_of_idle hnone] at hfull
    refine ⟨s.reader.nextTcp, ?_, enabled_of_map h (step_tcp_reader hrunning htcp)⟩
    have hwanted := wanted_reader htcp
    cases hnext : s.reader.nextTcp with
    | recv r =>
      rw [hnext] at hfull
      simpa only [Faultless, hwanted] using hfull
    | _ =>
      rw [hnext] at hfull
      exact hfull
  · have hsettle : s.tcp.pc.settle s.deviceBusy ≠ s.tcp.pc := by
      intro heq
      exact htcp (by simp only [Server.reader, TcpTask.settle, heq])
    refine ⟨.run, trivial, ?_⟩
    cases hpc : s.tcp.pc <;> rw [hpc] at hsettle <;>
      first | exact absurd rfl hsettle | simp [step, hrunning, hpc, doRecv]

/-- With an import pending, `do_recv` waits or the handler goes on. -/
theorem waiting_enabled {s v : Server} {ev : TcpData} (hs : s.InSession)
    (hpending : s.pendingImports = [ev]) (hw : s.Waits ev) (hrunning : s.crashed = false)
    (h : s.reader.proceed = some v) :
    ∃ a, a.ofReader = true ∧ Faultless s a ∧ KeepsWaiting s a ∧ (step s a).isSome = true := by
  obtain ⟨n, hpc⟩ := hw.pc
  by_cases hn : n < 100
  · refine ⟨.tcp .run, rfl, trivial, ?_, ?_⟩
    · simp only [KeepsWaiting, hpc]
      intro hle
      omega
    · simp [step, hrunning, hpc, doRecv]
  · cases hon : s.loop1.handler.importEvent with
    | none =>
      cases hh : s.loop1.handler with
      | idle =>
        refine ⟨.loop1 .dispatch, rfl, trivial, trivial, ?_⟩
        cases hq : s.loop1.queue with
        | nil =>
          rw [Server.pendingImports, hh, hq] at hpending
          cases hpending
        | cons e queue => simp [step, hrunning, usbIpEventHandler1, hh, hq]
      | devlist e =>
        refine ⟨.loop1 (.devlist [] .full), rfl, rfl, trivial, ?_⟩
        obtain ⟨c, hc, hnumber⟩ := hs.reachable.socketsOk.serving (by simp [hpc])
        have hsock : e.sock = s.tcp.sock := hs.attended.handler e (by rw [hh]; rfl)
        have hopen : openOn s.conn e.sock = some c :=
          openOn_eq_some.2 ⟨hc, hnumber.trans hsock.symm⟩
        rw [step_loop1 hrunning]
        simp only [usbIpEventHandler1, hh]
        cases devlistReply s.lib s.driver [] <;> simp [sockSend, hopen]
      | _ => rw [hh] at hon; cases hon
    | some e =>
      have hl : s.reader.loop1.handler = s.loop1.handler := by
        simp only [Server.reader, Loop1.onImport]
        cases hh : s.loop1.handler <;> rw [hh] at hon <;> first | rfl | cases hon
      obtain ⟨a, hnext⟩ : ∃ a, s.reader.nextAction = .loop1 a := by
        rw [Server.nextAction, hl]
        cases hh : s.loop1.handler <;> rw [hh] at hon <;> cases hon <;> exact ⟨_, rfl⟩
      unfold Server.proceed at h
      split_ifs at h with hfull
      rw [Server.advance, hnext, step_loop1 rfl] at h
      rw [hnext] at hfull
      refine ⟨.loop1 a, rfl, ?_, trivial, ?_⟩
      · cases a with
        | recv r => simpa only [Faultless, hl] using hfull
        | _ => exact hfull
      · rw [usbIpEventHandler1_reader hon hw.pc, ← step_loop1 hrunning] at h
        exact enabled_of_map h rfl

theorem reader_enabled {s v : Server} (hs : s.InSession) (hrunning : s.crashed = false)
    (h : s.reader.proceed = some v) :
    ∃ a, a.ofReader = true ∧ Unhindered s a ∧ (step s a).isSome = true := by
  rcases hs.handedOver.pending with hnone | ⟨ev, hpending, hw⟩
  · obtain ⟨a, hfull, henabled⟩ := tcp_enabled hnone hrunning h
    exact ⟨.tcp a, rfl, ⟨hfull, trivial, keepsWaiting_of_idle hnone _⟩, henabled⟩
  · obtain ⟨a, ha, hfull, hwait, henabled⟩ := waiting_enabled hs hpending hw hrunning h
    refine ⟨a, ha, ⟨hfull, ?_, hwait⟩, henabled⟩
    cases a with
    | driver a => cases ha
    | _ => trivial

structure Server.ReadAll (s : Server) : Prop where
  pc : s.tcp.pc = .urbHeader
  conn : ∃ c ∈ s.conn, c.unread = []

instance (s : Server) : Decidable s.ReadAll :=
  decidable_of_iff (s.tcp.pc = .urbHeader ∧ ∃ c ∈ s.conn, c.unread = [])
    ⟨fun h => ⟨h.1, h.2⟩, fun h => ⟨h.pc, h.conn⟩⟩

theorem Server.ReadAll.stopped {s : Server} (h : s.ReadAll) (hs : s.HandedOver) :
    s.reader.advance = none := by
  refine advance_of_receiving h.conn ?_ (by rw [h.pc]; rfl)
  rcases hs.pending with hnone | ⟨ev, -, hw⟩
  · exact hnone
  · obtain ⟨n, hpc⟩ := hw.pc
    rw [h.pc] at hpc
    cases hpc

theorem Server.On.readAll {s v : Server} {c : Conn} (hv : v.On .urbHeader true .free c)
    (hempty : c.unread = []) (h : s.reader = v) : s.ReadAll where
  pc := by
    have hpc : s.tcp.pc.settle s.deviceBusy = .urbHeader := by
      rw [← hv.pc, ← h]
      rfl
    unfold TcpPc.settle at hpc
    split at hpc
    · split_ifs at hpc
    · cases hpc
    · exact hpc
  conn := ⟨c, by subst h; exact hv.conn, hempty⟩

/-- What a run `t` has made of the session that started in `s`, at any time and at the end. -/
structure Frames (s t : Server) (session : ClientSession) (id : ℕ) : Prop where
  posted : ∃ evs, t.history.posted = s.history.posted ++ evs ∧
    List.Forall₂ Submit.Carries evs (session.submits.take evs.length) ∧
    (t.ReadAll → evs.length = session.submits.length)
  entered : t.history.urbEntries = s.history.urbEntries ∨
    t.history.urbEntries = s.history.urbEntries ++ [(id, session.urbOffset)]
  complete : t.ReadAll →
    t.history.urbEntries = s.history.urbEntries ++ [(id, session.urbOffset)]
  goesOn : t.crashed = true ∨ t.ReadAll ∨
    ∃ a, a.ofReader = true ∧ Unhindered t a ∧ (step t a).isSome = true

theorem session_framing {s t : Server} {session : ClientSession} {id number : ℕ}
    {as : List Action} (hs : s.Starts session id number) (ht : run s as = some t)
    (ha : Always step Unhindered s as) : Frames s t session id := by
  obtain ⟨v, evs, hlead, hv, hposted, hentries, hcarries⟩ := hs.proceeds
  have hempty : Conn.unread ⟨id, number, session.stream, session.stream.length⟩ = [] :=
    List.drop_length
  have hstop := hv.stopped hempty
  have hin : t.InSession :=
    exec_invariant (fun u a w hu hua huw => step_inSession hu hua huw) hs.inSession ha ht
  have hordered : Always step Ordered s as :=
    Always.of_taken (fun u a w hu hua huw => step_inSession hu hua huw)
      (fun u a w hu hua huw =>
        ordered_of_unhindered hu.reachable hu.enumerated hu.attended hua huw) hs.inSession ha ht
  -- the run is a piece of the machine's way through the session
  have hpath := run_reader hs.reachable hs.handedOver hordered ht
  have hahead : Leads Server.proceed t.reader v :=
    hpath.restricted (fun _ _ h => proceed_advance h) hlead hstop
  have hbefore : Precedes s t := precedes_reader.1 (leads_precedes hpath)
  have hafter : Precedes t.reader v :=
    leads_precedes (hahead.mono fun _ _ h => proceed_advance h)
  have hend : t.ReadAll → t.reader = v := fun h =>
    Leads.eq_of_stopped (h.stopped hin.handedOver) (hahead.mono fun _ _ h => proceed_advance h)
  obtain ⟨done, hdone⟩ := hbefore.posted
  obtain ⟨left, hleft⟩ := hafter.posted
  have hevs : evs = done ++ left := by
    have hall : s.history.posted ++ evs = s.history.posted ++ (done ++ left) := by
      rw [← hposted, ← hleft, ← List.append_assoc, hdone]
      rfl
    exact List.append_cancel_left hall
  refine ⟨⟨done, hdone.symm, ?_, fun hread => ?_⟩, ?_, fun hread => ?_, ?_⟩
  · have htake := List.forall₂_take done.length hcarries
    rwa [hevs, List.take_left] at htake
  · have hnil : left = [] := by
      rw [hend hread] at hleft
      exact List.append_cancel_left (hleft.trans (List.append_nil _).symm)
    rw [← hcarries.length_eq, hevs, hnil, List.append_nil]
  · obtain ⟨new, hnew⟩ := hbefore.urbEntries
    have hnew' : new <+: [(id, session.urbOffset)] := by
      have hle : t.history.urbEntries <+: v.history.urbEntries := hafter.urbEntries
      rw [hentries, ← hnew] at hle
      exact (List.prefix_append_right_inj _).1 hle
    rcases List.prefix_cons_iff.1 hnew' with rfl | ⟨rest, rfl, hrest⟩
    · exact .inl (by rw [← hnew, List.append_nil])
    · rw [List.prefix_nil.1 hrest] at hnew
      exact .inr hnew.symm
  · rw [← hentries, ← hend hread]
    rfl
  · by_cases hcrashed : t.crashed = true
    · exact .inl hcrashed
    · right
      rcases Relation.ReflTransGen.cases_head hahead with heq | ⟨w, hw, -⟩
      · exact .inl (hv.readAll hempty heq)
      · exact .inr (reader_enabled hin (by simpa using hcrashed) hw)

def listedSession : ClientSession :=
  { importSession [submitIn 7 0 18, unlinkOf 8 7] with devlists := [0] }

/-- The device list is sent while `do_recv` already waits for the import. -/
def listedDelivery : List Action :=
  [.tcp .run, .tcp .run, .tcp (.recv (.data 8)), .tcp (.post true), .tcp .run, .tcp .run,
    .tcp (.recv (.data 8)), .tcp (.post true), .loop1 .dispatch,
    .loop1 (.devlist [⟨0, 0, 0, 0⟩] .full), .tcp .run, .loop1 .dispatch, .loop1 .run,
    .loop1 (.recv (.data 32)), .loop1 .run, .loop1 (.send .full), .tcp .run, .loop1 .run,
    .tcp .run, .tcp .run] ++ submitting ++
  [.tcp (.recv (.data headerBasicSize)), .tcp (.recv (.data cmdUnlinkSize)), .tcp (.send .full)]

theorem session_framing_listed :
    ∃ s t, run coldBoot (keyboardEnumeration ++
        [.tcp (.accept (some 3) listedSession.stream)]) = some s ∧
      run s listedDelivery = some t ∧ t.ReadAll ∧ t.history.urbEntries = [(0, 48)] ∧
      Frames s t listedSession 0 := by
  have hcheck : ((run coldBoot (keyboardEnumeration ++
      [.tcp (.accept (some 3) listedSession.stream)])).bind fun s =>
      (run s listedDelivery).map fun t => decide (s.tcp.pc = .begin ∧
        s.conn = some ⟨0, 3, listedSession.stream, 0⟩ ∧ s.deviceBusy = false ∧
        s.loop1 = ⟨[], .idle⟩ ∧ s.loopHandle = true ∧ s.loop2.count ≠ 0 ∧
        s.driver.enumerated = true ∧ Always step Unhindered s listedDelivery ∧ t.ReadAll ∧
        t.history.urbEntries = [(0, 48)])) = some true := by
    decide +kernel
  obtain ⟨s, t, hs, ht, hend⟩ := exec_check hcheck
  obtain ⟨hpc, hconn, hbusy, hloop1, hhandle, hhandle2, hd, ha, hread, hentries⟩ :=
    of_decide_eq_true hend
  exact ⟨s, t, hs, ht, hread, hentries,
    session_framing ⟨⟨_, _, _, _, _, _, _, hs⟩, hpc, hconn, hbusy, hloop1, hhandle, hhandle2, hd⟩
      ht ha⟩

end UsbRepeater
