import UsbRepeater.Lib.Determ
import UsbRepeater.ImportHandOver
import UsbRepeater.UrbPhase

/-! The reader of the client's stream as a sequential machine. As long as the reads are not cut
and the handler finishes an import before `do_recv` goes on, the two tasks that read from the
socket behave as one: what the stream decides does not depend on the schedule. -/
namespace UsbRepeater

open Schedule Determ

/-- The place of `do_recv` without its waiting: the polls of the import wait are not counted, and
a timeout before a command is not noticed. -/
def TcpPc.settle (busy : Bool) : TcpPc → TcpPc
  | .outer => if busy then .outer else .command
  | .importWait _ => .importWait 100
  | pc => pc

def TcpTask.settle (tcp : TcpTask) (busy : Bool) : TcpTask := { tcp with pc := tcp.pc.settle busy }

def Handler1.onImport : Handler1 → Handler1
  | .devlist _ => .idle
  | h => h

def Loop1.onImport (l : Loop1) : Loop1 := ⟨l.queue.filter TcpData.isImport, l.handler.onImport⟩

def Driver.descriptors (d : Driver) : Driver :=
  { Driver.boot with devInfo := d.devInfo, devDesc := d.devDesc, configDesc := d.configDesc }

def Sent.answersRead (m : Sent) : Bool :=
  match m.message with
  | .repImport _ | .retUnlink .. => true
  | _ => false

def History.read (h : History) : History :=
  { h with dropped := [], silent := [], sent := h.sent.filter Sent.answersRead }

/-- The part of the server that the client's stream decides. -/
def Server.reader (s : Server) : Server where
  lib := s.lib
  conn := s.conn
  tcp := s.tcp.settle s.deviceBusy
  deviceBusy := s.deviceBusy
  loopHandle := s.loopHandle
  loop1 := s.loop1.onImport
  ep1TransferPending := false
  ep2TransferPending := false
  skt := 0
  loop2 := ⟨s.loop2.count, [], []⟩
  inFlight := []
  callback := none
  driver := s.driver.descriptors
  heap := {}
  history := s.history.read
  crashed := false

/-- A receive that gets all it asks for, or all that is left. -/
def Server.arriving (s : Server) (want : ℕ) : RecvResult :=
  .data (min want ((s.conn.map fun c => c.unread.length).getD 0))

def Server.nextTcp (s : Server) : TcpAction :=
  match s.tcp.pc with
  | .command | .urbHeader | .submitBody | .payload | .unlinkBody => .recv (s.arriving s.wanted)
  | .postCommand | .postSubmit => .post true
  | .unlinkReply => .send .full
  | _ => .run

/-- The next step: the import goes first. -/
def Server.nextAction (s : Server) : Action :=
  match s.loop1.handler with
  | .importCopy _ | .importBuild _ _ | .importBusy _ _ _ => .loop1 .run
  | .importRecv ev _ => .loop1 (.recv (s.arriving (opReqImportSize - ev.len)))
  | .importSend _ _ _ => .loop1 (.send .full)
  | .idle | .devlist _ => if s.loop1.queue = [] then .tcp s.nextTcp else .loop1 .dispatch

/-- One step of the machine. It stops when it wants to read and nothing is left. -/
def Server.advance (s : Server) : Option Server := (step s s.nextAction).map Server.reader

/-- Posts and sends succeed, the connection stays, and so does the device. -/
def Undisturbed (s : Server) : Action → Prop
  | .tcp (.accept _ _) => False
  | .tcp (.recv r) => r ≠ .closed ∧ r ≠ .error
  | .tcp (.post ok) => ok = true
  | .tcp (.send r) => r = .full
  | .loop1 (.recv r) => r ≠ .closed ∧ r ≠ .error
  | .loop1 (.send r) => r = .full
  | .driver a =>
      match usbClassDriverTask s.lib s.driver a with
      | some (d, .none) | some (d, .abort) => d.descriptors = s.driver.descriptors
      | some _ => False
      | none => True
  | _ => True

/-- A receive is not cut short, and none but those at the head of a command times out. -/
def Uncut (s : Server) : Action → Prop
  | .tcp (.recv r) => r = s.arriving s.wanted ∨
      r = .timeout ∧ (s.tcp.pc = .command ∨ s.tcp.pc = .urbHeader)
  | .loop1 (.recv r) =>
      match s.loop1.handler with
      | .importRecv ev _ => r = s.arriving (opReqImportSize - ev.len)
      | _ => True
  | _ => True

instance (s : Server) : ∀ a, Decidable (Undisturbed s a)
  | .tcp (.accept _ _) => isFalse id
  | .tcp (.recv r) | .loop1 (.recv r) => inferInstanceAs (Decidable (r ≠ .closed ∧ r ≠ .error))
  | .tcp (.post ok) => inferInstanceAs (Decidable (ok = true))
  | .tcp (.send r) | .loop1 (.send r) => inferInstanceAs (Decidable (r = .full))
  | .driver a =>
    match h : usbClassDriverTask s.lib s.driver a with
    | some (d, .none) | some (d, .abort) =>
      decidable_of_iff (d.descriptors = s.driver.descriptors) (by simp only [Undisturbed, h])
    | some (_, .clearBusy) | some (_, .newLoop) =>
      isFalse (by simp only [Undisturbed, h, not_false_eq_true])
    | none => isTrue (by simp only [Undisturbed, h])
  | .tcp .run | .loop1 .dispatch | .loop1 .run | .loop1 (.devlist _ _) | .loop2 _ | .host _ =>
    isTrue trivial

instance (s : Server) : ∀ a, Decidable (Uncut s a)
  | .tcp (.recv r) =>
    inferInstanceAs (Decidable (r = s.arriving s.wanted ∨
      r = .timeout ∧ (s.tcp.pc = .command ∨ s.tcp.pc = .urbHeader)))
  | .loop1 (.recv r) =>
    match h : s.loop1.handler with
    | .importRecv ev _ =>
      decidable_of_iff (r = s.arriving (opReqImportSize - ev.len)) (by simp only [Uncut, h])
    | .idle | .devlist _ | .importCopy _ | .importBuild _ _ | .importSend _ _ _
    | .importBusy _ _ _ => isTrue (by simp only [Uncut, h])
  | .tcp .run | .tcp (.accept _ _) | .tcp (.post _) | .tcp (.send _) | .loop1 .dispatch
  | .loop1 .run | .loop1 (.send _) | .loop1 (.devlist _ _) | .loop2 _ | .host _ | .driver _ =>
    isTrue trivial

theorem reader_eq {s t : Server} (hlib : s.lib = t.lib) (hconn : s.conn = t.conn)
    (htcp : s.tcp.settle s.deviceBusy = t.tcp.settle t.deviceBusy)
    (hbusy : s.deviceBusy = t.deviceBusy) (hloop : s.loopHandle = t.loopHandle)
    (hloop1 : s.loop1.onImport = t.loop1.onImport) (hloop2 : s.loop2.count = t.loop2.count)
    (hdriver : s.driver.descriptors = t.driver.descriptors)
    (hhistory : s.history.read = t.history.read) : s.reader = t.reader := by
  rw [Server.reader, Server.reader, hlib, hconn, htcp, hbusy, hloop, hloop1, hloop2, hdriver,
    hhistory]

@[simp] theorem settle_settle (tcp : TcpTask) (busy : Bool) :
    (tcp.settle busy).settle busy = tcp.settle busy := by
  have hpc : (tcp.pc.settle busy).settle busy = tcp.pc.settle busy := by
    cases hp : tcp.pc <;> cases busy <;> rfl
  simp only [TcpTask.settle, hpc]

@[simp] theorem onImport_onImport (l : Loop1) : l.onImport.onImport = l.onImport := by
  have hh : l.handler.onImport.onImport = l.handler.onImport := by
    cases l.handler <;> rfl
  simp only [Loop1.onImport, List.filter_filter, Bool.and_self, hh]

@[simp] theorem read_read (h : History) : h.read.read = h.read := by
  simp only [History.read, List.filter_filter, Bool.and_self]

theorem reader_reader (s : Server) : s.reader.reader = s.reader :=
  reader_eq rfl rfl (settle_settle _ _) rfl rfl (onImport_onImport _) rfl rfl (read_read _)

theorem read_note (h : History) (commands : List TcpData) (posted : List Submit)
    (urbEntries : List (ℕ × ℕ)) (recvBytes accepted : ℕ) :
    History.read { h.read with
        commands := commands, posted := posted, urbEntries := urbEntries,
        recvBytes := recvBytes, accepted := accepted } =
      History.read { h with
        commands := commands, posted := posted, urbEntries := urbEntries,
        recvBytes := recvBytes, accepted := accepted } := by
  simp only [History.read, List.filter_filter, Bool.and_self]

theorem read_sent (h : History) (m : Sent) :
    History.read { h.read with sent := h.read.sent ++ [m] } =
      History.read { h with sent := h.sent ++ [m] } := by
  simp only [History.read, List.filter_append, List.filter_filter, Bool.and_self]

theorem onImport_post (l : Loop1) (ev : TcpData) :
    Loop1.onImport { l.onImport with queue := l.onImport.queue ++ [ev] } =
      Loop1.onImport { l with queue := l.queue ++ [ev] } := by
  have hon := onImport_onImport l
  simp only [Loop1.onImport, Loop1.mk.injEq] at hon
  simp only [Loop1.onImport, List.filter_append, hon]

theorem onImport_handler (l : Loop1) (h : Handler1) :
    Loop1.onImport { l.onImport with handler := h } = Loop1.onImport { l with handler := h } := by
  simp only [Loop1.onImport, List.filter_filter, Bool.and_self]

theorem read_emit {s : Server} {m : Sent} (h : m.answersRead = false) :
    (s.emit m).history.read = s.history.read := by
  simp [Server.emit, History.read, List.filter_append, h]

theorem loop2_reader {s t : Server} {a : Loop2Action} (h : step s (.loop2 a) = some t) :
    t.reader = s.reader := by
  obtain ⟨-, heff⟩ := loop2Step_effect h
  cases heff <;> rfl

theorem host_reader {s t : Server} {a : HostAction} (h : step s (.host a) = some t) :
    t.reader = s.reader := by
  obtain ⟨-, heff⟩ := hostStep_effect h
  cases heff with
  | reply c conn heap r n hcb hskt hconn hnum hn hr =>
    exact reader_eq rfl rfl rfl rfl rfl rfl rfl rfl (read_emit (s := s.endCallback _) rfl)
  | _ => rfl

theorem driver_reader {s t : Server} {a : DriverAction} (ha : Undisturbed s (.driver a))
    (h : step s (.driver a) = some t) : t.reader = s.reader := by
  obtain ⟨-, -, d, e, hd, rfl⟩ := driverStep_effect h
  simp only [Undisturbed, hd] at ha
  cases e with
  | none => exact reader_eq rfl rfl rfl rfl rfl rfl rfl ha rfl
  | abort => exact reader_eq rfl rfl rfl rfl rfl rfl rfl ha rfl
  | _ => exact ha.elim

theorem importBuild_descriptors (d : Driver) (devImport : Bytes) :
    (importBuild d.descriptors devImport).reply = (importBuild d devImport).reply := by
  unfold importBuild
  split_ifs
  · cases hdev : d.devDesc <;> cases hconfig : d.configDesc <;>
      simp [Driver.descriptors, hdev, hconfig]
  · rfl

theorem sockRecv_arriving {s : Server} {want : ℕ} {sock : ℤ} {conn : Option Conn}
    {o : RecvOutcome} (h : sockRecv s.conn sock want (s.arriving want) = some (conn, o)) :
    ∃ bytes, o = .got bytes ∧ bytes ≠ [] := by
  unfold sockRecv at h
  simp only [Server.arriving] at h
  split at h
  · rename_i hr
    cases hr
    split_ifs at h with hn
    simp only [Option.some.injEq, Prod.mk.injEq] at h
    refine ⟨_, h.2.symm, ?_⟩
    intro hnil
    have hlen := congrArg List.length hnil
    rw [List.length_take, List.length_nil] at hlen
    omega
  · rename_i hr
    cases hr
  · rename_i hr
    cases hr
  · rename_i hr
    cases hr
  · cases h

/-- The handler works on an import as it does with everything the reader leaves out in place. -/
theorem usbIpEventHandler1_reader {s : Server} {a : Loop1Action} {ev : TcpData}
    (hon : s.loop1.handler.importEvent = some ev) (hpc : ∃ n, s.tcp.pc = .importWait n) :
    (usbIpEventHandler1 s.reader a).map Server.reader =
      (usbIpEventHandler1 s a).map Server.reader := by
  have hhandle : ∀ h, (s.reader.handle1 h).reader = (s.handle1 h).reader := fun h =>
    reader_eq rfl rfl (settle_settle _ _) rfl rfl (onImport_handler s.loop1 h) rfl rfl
      (read_read _)
  have hl : s.reader.loop1.handler = s.loop1.handler := by
    simp only [Server.reader, Loop1.onImport]
    cases hh : s.loop1.handler <;> rw [hh] at hon <;> first | rfl | cases hon
  cases a with
  | run =>
    cases hh : s.loop1.handler <;> simp only [usbIpEventHandler1, hl, hh]
    case importCopy ev => exact congrArg some (hhandle _)
    case importBuild ev devImport =>
      have hbuild : (importBuild s.reader.driver devImport).reply =
          (importBuild s.driver devImport).reply := importBuild_descriptors s.driver devImport
      rw [hbuild]
      split
      · exact congrArg some (reader_reader s)
      · exact congrArg some (hhandle _)
    case importBusy ev devImport rep =>
      obtain ⟨n, hpc⟩ := hpc
      refine congrArg some (reader_eq rfl rfl ?_ rfl rfl (onImport_handler s.loop1 _) rfl rfl
        (read_read _))
      simp [TcpTask.settle, Server.handle1, Server.reader, hpc, TcpPc.settle]
  | recv r =>
    cases hh : s.loop1.handler <;> simp only [usbIpEventHandler1, hl, hh]
    case importRecv ev devImport =>
      have hconn : s.reader.conn = s.conn := rfl
      rw [hconn, Option.map_map, Option.map_map]
      refine Option.map_congr fun x _ => ?_
      obtain ⟨conn, _ | _ | bytes⟩ := x
      · exact hhandle _
      · exact hhandle _
      · simp only [Function.comp_apply]
        split_ifs
        · exact reader_eq rfl rfl (settle_settle _ _) rfl rfl (onImport_handler s.loop1 _) rfl rfl
            (read_read _)
        · exact reader_eq rfl rfl (settle_settle _ _) rfl rfl (onImport_handler s.loop1 _) rfl rfl
            (read_read _)
  | send r =>
    cases hh : s.loop1.handler <;> simp only [usbIpEventHandler1, hl, hh]
    case importSend ev devImport rep =>
      have hconn : s.reader.conn = s.conn := rfl
      simp only [tcpSendLocked, hconn, Option.map_map]
      refine Option.map_congr fun o _ => ?_
      rcases o with _ | ⟨id, n⟩
      · exact hhandle _
      · have hsent : ∀ h, ((s.reader.emit ⟨id, .repImport rep, rep.toBytes, n⟩).handle1 h).reader =
            ((s.emit ⟨id, .repImport rep, rep.toBytes, n⟩).handle1 h).reader := fun h =>
          reader_eq rfl rfl (settle_settle _ _) rfl rfl (onImport_handler s.loop1 h) rfl rfl
            (read_sent s.history _)
        simp only [Function.comp_apply]
        cases n == rep.toBytes.length with
        | true => exact hsent _
        | false => exact hsent _
  | dispatch => cases hh : s.loop1.handler <;> rw [hh] at hon <;> cases hon <;>
      simp only [usbIpEventHandler1, hl, hh]
  | devlist stack r => cases hh : s.loop1.handler <;> rw [hh] at hon <;> cases hon <;>
      simp only [usbIpEventHandler1, hl, hh]

theorem noteUnlink_reader {s t : Server} (h : s.reader = t.reader) (hheader : s.header = t.header)
    (hvictim : s.victim = t.victim) : s.noteUnlink.reader = t.noteUnlink.reader := by
  have hnote : ∀ u : Server, u.noteUnlink.reader = { u.reader with
      history := { u.reader.history with
        unlinks := u.reader.history.unlinks ++ [(u.header.seqnum, u.victim)] } } := fun _ => rfl
  rw [hnote, hnote, h, hheader, hvictim]

/-- `do_recv` steps as it does with everything the reader leaves out in place. -/
theorem doRecv_reader {s : Server} {a : TcpAction} (htcp : s.reader.tcp = s.tcp) :
    (doRecv s.reader a).map Server.reader = (doRecv s a).map Server.reader := by
  have hgoto : ∀ pc, (s.reader.goto pc).reader = (s.goto pc).reader := fun pc =>
    reader_eq rfl rfl rfl rfl rfl (onImport_onImport _) rfl rfl (read_read _)
  have htook : ∀ (conn : Option Conn) (n : ℕ) (tcp : TcpTask),
      ((s.reader.took conn n).setTcp tcp).reader = ((s.took conn n).setTcp tcp).reader :=
    fun conn n tcp => reader_eq rfl rfl rfl rfl rfl (onImport_onImport _) rfl rfl
      (read_note s.history _ _ _ _ _)
  cases a with
  | run =>
    cases hpc : s.tcp.pc <;> simp only [doRecv, htcp, hpc]
    case outer => exact congrArg some (hgoto _)
    case importWait n => exact congrArg some (hgoto _)
    case mode =>
      have hbusy : s.reader.deviceBusy = s.deviceBusy := rfl
      rw [hbusy]
      split_ifs
      · exact congrArg some (reader_eq rfl rfl rfl rfl rfl (onImport_onImport _) rfl rfl
          (read_note s.history _ _ _ _ _))
      · exact congrArg some (hgoto _)
    all_goals
      exact congrArg some
        (reader_eq rfl rfl rfl rfl rfl (onImport_onImport _) rfl rfl (read_read _))
  | accept number stream => cases hpc : s.tcp.pc <;> simp only [doRecv, htcp, hpc]
  | recv r =>
    have hconn : s.reader.conn = s.conn := rfl
    cases hpc : s.tcp.pc <;> simp only [doRecv, htcp, hpc, hconn, Option.map_map, Option.map_none]
    case command =>
      refine Option.map_congr fun ⟨conn, o⟩ _ => ?_
      rcases o with _ | _ | ⟨_ | ⟨b, bytes⟩⟩
      · exact hgoto _
      · exact hgoto _
      · exact hgoto _
      · exact htook _ _ _
    case urbHeader =>
      refine Option.map_congr fun ⟨conn, o⟩ _ => ?_
      rcases o with _ | _ | ⟨_ | ⟨b, bytes⟩⟩
      · exact reader_reader s
      · exact hgoto _
      · exact hgoto _
      · exact htook _ _ _
    case unlinkBody =>
      refine Option.map_congr fun x _ => ?_
      obtain ⟨conn, _ | _ | bytes⟩ := x
      · exact noteUnlink_reader (hgoto _) rfl rfl
      · exact noteUnlink_reader (hgoto _) rfl rfl
      · exact noteUnlink_reader (htook _ _ _) rfl rfl
    all_goals
      refine Option.map_congr fun x _ => ?_
      obtain ⟨conn, _ | _ | bytes⟩ := x
      · exact hgoto _
      · exact hgoto _
      · exact htook _ _ _
  | post ok =>
    cases hpc : s.tcp.pc <;> simp only [doRecv, htcp, hpc]
    case postCommand =>
      cases ok with
      | false => exact congrArg some (hgoto _)
      | true =>
        exact congrArg some (reader_eq rfl rfl rfl rfl rfl (onImport_post s.loop1 _) rfl rfl
          (read_note s.history _ _ _ _ _))
    case postSubmit =>
      cases ok with
      | false => exact congrArg some (hgoto _)
      | true =>
        have hcount : (s.reader.goto .urbHeader).loop2.count =
            (s.goto .urbHeader).loop2.count := rfl
        simp only [if_true]
        rw [hcount]
        split_ifs
        · rfl
        · exact congrArg some (reader_eq rfl rfl rfl rfl rfl (onImport_onImport _) rfl rfl
            (read_note s.history _ _ _ _ _))
  | send r =>
    cases hpc : s.tcp.pc <;> simp only [doRecv, htcp, hpc]
    case unlinkReply =>
      have hconn : (s.reader.goto .urbHeader).conn = (s.goto .urbHeader).conn := rfl
      simp only [tcpSendLocked, Option.map_map, hconn]
      refine Option.map_congr fun o _ => ?_
      rcases o with _ | ⟨id, n⟩
      · exact hgoto _
      · exact reader_eq rfl rfl rfl rfl rfl (onImport_onImport _) rfl rfl (read_sent s.history _)

theorem tcpServerStart_reader {s : Server} {a : TcpAction} (htcp : s.reader.tcp = s.tcp) :
    (tcpServerStart s.reader a).map Server.reader = (tcpServerStart s a).map Server.reader := by
  cases hpc : s.tcp.pc <;> rcases a with _ | ⟨_ | number, stream⟩ | _ | _ | _ <;>
    simp only [tcpServerStart, htcp, hpc, Option.map_none, Option.map_some, Option.some.injEq]
  · exact reader_eq rfl rfl rfl rfl rfl (onImport_onImport _) rfl rfl (read_read _)
  · exact reader_eq rfl rfl rfl rfl rfl (onImport_onImport _) rfl rfl
      (read_note s.history _ _ _ _ _)
  · exact reader_eq rfl rfl rfl rfl rfl (onImport_onImport _) rfl rfl (read_read _)

theorem step_tcp_reader {s : Server} {a : TcpAction} (hrunning : s.crashed = false)
    (htcp : s.reader.tcp = s.tcp) :
    (step s.reader (.tcp a)).map Server.reader = (step s (.tcp a)).map Server.reader := by
  have hcrashed : s.reader.crashed = false := rfl
  simp only [step, hrunning, hcrashed, Bool.false_eq_true, if_false, htcp]
  split
  · exact tcpServerStart_reader htcp
  · exact tcpServerStart_reader htcp
  · exact doRecv_reader htcp

theorem advance_of_next {s t : Server} {a : Action} (ha : s.nextAction = a)
    (h : (step s a).map Server.reader = some t.reader) : s.advance = some t.reader := by
  rw [Server.advance, ha, h]

theorem nextAction_of_import {s t : Server} {a : Loop1Action} {ev : TcpData}
    (hon : s.loop1.handler.importEvent = some ev) (ha : Undisturbed s (.loop1 a))
    (hcut : Uncut s (.loop1 a)) (h : Loop1Step s a t) : s.reader.nextAction = .loop1 a := by
  have hl : ∀ h, s.loop1.handler = h → h.importEvent = some ev → s.reader.loop1.handler = h := by
    intro h hh hev
    simp only [Server.reader, Loop1.onImport, hh]
    cases h <;> first | rfl | cases hev
  cases h with
  | dispatch e queue hh hq | devlistCrash e stack r hh | devlistFailed e stack frame hh
  | devlistSent e stack frame r c n hh =>
    rw [hh] at hon
    cases hon
  | copy e hh => simp [Server.nextAction, hl _ hh (hh ▸ hon)]
  | recv e devImport r conn bytes hh hrecv hlen =>
    have hr : r = s.arriving (opReqImportSize - e.len) := by simpa only [Uncut, hh] using hcut
    rw [hr]
    simp only [Server.nextAction, hl _ hh (hh ▸ hon)]
    rfl
  | recvFailed e devImport r conn o hh hrecv ho =>
    have hr : r = s.arriving (opReqImportSize - e.len) := by simpa only [Uncut, hh] using hcut
    rw [hr]
    simp only [Server.nextAction, hl _ hh (hh ▸ hon)]
    rfl
  | buildCrash e devImport hh hb => simp [Server.nextAction, hl _ hh (hh ▸ hon)]
  | build e devImport rep hh hb => simp [Server.nextAction, hl _ hh (hh ▸ hon)]
  | sendFailed e devImport rep hh => cases ha
  | sendShort e devImport rep c n hh hc => cases ha
  | send e devImport rep c hh hc hnum => simp [Server.nextAction, hl _ hh (hh ▸ hon)]
  | busy e devImport rep hh => simp [Server.nextAction, hl _ hh (hh ▸ hon)]

theorem Server.HandedOver.importWait {s : Server} (hs : s.HandedOver)
    (h : s.pendingImports ≠ []) : ∃ n, s.tcp.pc = .importWait n := by
  rcases hs.pending with hnone | ⟨ev, -, hw⟩
  · exact absurd hnone h
  · exact hw.pc

theorem dispatch_reader {s : Server} {ev : TcpData} {queue : List TcpData} (hs : s.HandedOver)
    (hh : s.loop1.handler = .idle) (hq : s.loop1.queue = ev :: queue) :
    Server.reader { s with loop1 := ⟨queue, deliver1 ev⟩ } = s.reader ∨
      s.reader.advance = some (Server.reader { s with loop1 := ⟨queue, deliver1 ev⟩ }) := by
  have hon : s.loop1.handler.onImport = .idle := by rw [hh]; rfl
  by_cases himport : ev.isImport = true
  · right
    have hpending : s.pendingImports = ev :: queue.filter TcpData.isImport := by
      simp [Server.pendingImports, hh, hq, Handler1.importEvent, himport]
    have hrest : queue.filter TcpData.isImport = [] := by
      rcases hs.pending with hnone | ⟨e, he, -⟩
      · rw [hpending] at hnone
        cases hnone
      · rw [hpending] at he
        exact (List.cons.inj he).2
    have hl : s.reader.loop1 = ⟨[ev], .idle⟩ := by
      simp only [Server.reader, Loop1.onImport, hon, hq, Loop1.mk.injEq, and_true]
      rw [List.filter_cons_of_pos himport, hrest]
    refine advance_of_next (a := .loop1 .dispatch) (by simp [Server.nextAction, hl]) ?_
    simp only [step, usbIpEventHandler1, hl]
    refine congrArg some (reader_eq rfl rfl (settle_settle _ _) rfl rfl ?_ rfl rfl (read_read _))
    simp [Loop1.onImport, hrest]
  · left
    refine reader_eq rfl rfl rfl rfl rfl ?_ rfl rfl rfl
    have hidle : (deliver1 ev).onImport = .idle := by
      have hne : ev.eventId ≠ opReqImport := by simpa [TcpData.isImport] using himport
      unfold deliver1
      rw [if_neg hne]
      split_ifs <;> rfl
    simp only [Loop1.onImport, hq, hidle, hon]
    rw [List.filter_cons_of_neg himport]

theorem loop1_reader {s t : Server} {a : Loop1Action} (hs : s.HandedOver)
    (ha : Undisturbed s (.loop1 a)) (hcut : Uncut s (.loop1 a))
    (h : step s (.loop1 a) = some t) :
    t.reader = s.reader ∨ s.reader.advance = some t.reader := by
  obtain ⟨hcrashed, hstep⟩ := loop1Step h
  cases hon : s.loop1.handler.importEvent with
  | some ev =>
    right
    have hpc := hs.importWait (by simp [Server.pendingImports, hon])
    refine advance_of_next (nextAction_of_import hon ha hcut hstep) ?_
    have hrun : usbIpEventHandler1 s a = some t := by simpa [step, hcrashed] using h
    have hmap := usbIpEventHandler1_reader (a := a) hon hpc
    rwa [hrun] at hmap
  | none =>
    have hlist : ∀ ev, s.loop1.handler = .devlist ev →
        Loop1.onImport { s.loop1 with handler := .idle } = s.loop1.onImport := by
      intro ev hh
      have hdev : s.loop1.handler.onImport = .idle := by rw [hh]; rfl
      simp only [Loop1.onImport, hdev]
      rfl
    cases hstep with
    | dispatch ev queue hh hq => exact dispatch_reader hs hh hq
    | devlistCrash => exact .inl rfl
    | devlistFailed ev stack frame hh hd =>
      exact .inl (reader_eq rfl rfl rfl rfl rfl (hlist ev hh) rfl rfl rfl)
    | devlistSent ev stack frame r c n hh hd hc hr =>
      exact .inl (reader_eq rfl rfl rfl rfl rfl (hlist ev hh) rfl rfl
        (read_emit (s := s.handle1 .idle) rfl))
    | copy ev hh => rw [hh] at hon; cases hon
    | recv ev devImport r conn bytes hh => rw [hh] at hon; cases hon
    | recvFailed ev devImport r conn o hh => rw [hh] at hon; cases hon
    | buildCrash ev devImport hh => rw [hh] at hon; cases hon
    | build ev devImport rep hh => rw [hh] at hon; cases hon
    | sendFailed ev devImport rep hh => rw [hh] at hon; cases hon
    | sendShort ev devImport rep c n hh => rw [hh] at hon; cases hon
    | send ev devImport rep c hh => rw [hh] at hon; cases hon
    | busy ev devImport rep hh => rw [hh] at hon; cases hon

theorem nextAction_of_idle {s : Server} (h : s.pendingImports = []) :
    s.reader.nextAction = .tcp s.reader.nextTcp := by
  have hqueue : s.reader.loop1.queue = [] := (List.append_eq_nil_iff.1 h).2
  have hidle : s.reader.loop1.handler = .idle := by
    have hnone := importEvent_eq_none h
    simp only [Server.reader, Loop1.onImport]
    cases hh : s.loop1.handler <;> rw [hh] at hnone <;> first | rfl | cases hnone
  simp [Server.nextAction, hidle, hqueue]

theorem arriving_of_got {s : Server} {sock : ℤ} {want : ℕ} {r : RecvResult}
    {conn : Option Conn} {bytes : Bytes} {p : Prop}
    (hcut : r = s.arriving s.wanted ∨ r = .timeout ∧ p)
    (h : sockRecv s.conn sock want r = some (conn, .got bytes)) : r = s.arriving s.wanted := by
  rcases hcut with hr | ⟨rfl, -⟩
  · exact hr
  · cases hc : openOn s.conn sock <;> simp [sockRecv, hc] at h

/-- Where `do_recv` does not just wait, its step is the one the machine takes, or a timeout. -/
theorem nextTcp_of_step {s t : Server} {a : TcpAction} (hs : s.HandedOver)
    (htcp : s.reader.tcp = s.tcp) (ha : Undisturbed s (.tcp a)) (hcut : Uncut s (.tcp a))
    (h : TcpStep s a t) : t.reader = s.reader ∨ s.reader.nextTcp = a := by
  have hwanted : s.reader.wanted = s.wanted := by
    simp only [Server.wanted, Server.cmdSubmit, htcp]
  have hread : ∀ {r}, r = s.arriving s.wanted →
      s.tcp.pc = .command ∨ s.tcp.pc = .urbHeader ∨ s.tcp.pc = .submitBody ∨
        s.tcp.pc = .payload ∨ s.tcp.pc = .unlinkBody → s.reader.nextTcp = .recv r := by
    intro r hr hpc
    have harriving : s.reader.arriving s.reader.wanted = r := by rw [hwanted, hr]; rfl
    rcases hpc with hpc | hpc | hpc | hpc | hpc <;> simp only [Server.nextTcp, htcp, hpc, harriving]
  cases h with
  | acceptFailed => exact ha.elim
  | accept => exact ha.elim
  | commandAgain r conn hpc hrecv =>
    left
    have hbusy := hs.ready (by rw [hpc]; rfl)
    refine reader_eq rfl rfl ?_ rfl rfl rfl rfl rfl rfl
    simp [TcpTask.settle, Server.goto, hpc, hbusy, TcpPc.settle]
  | commandEnds r conn o hpc hrecv ho =>
    rcases ho with rfl | rfl
    · exact absurd (sockRecv_failed hrecv) ha.2
    · exact absurd (sockRecv_closed hrecv) ha.1
  | command r conn bytes hpc hrecv hbytes =>
    exact .inr (hread (arriving_of_got hcut hrecv) (.inl hpc))
  | urbAgain => exact .inl rfl
  | urbFailed r conn hpc hrecv => exact absurd (sockRecv_failed hrecv) ha.2
  | urbClosed r conn hpc hrecv => exact absurd (sockRecv_closed hrecv) ha.1
  | urbHeader r conn bytes hpc hrecv hbytes =>
    exact .inr (hread (arriving_of_got hcut hrecv) (.inr (.inl hpc)))
  | submitBody r conn bytes hpc hrecv =>
    exact .inr (hread (arriving_of_got hcut hrecv) (.inr (.inr (.inl hpc))))
  | payload r conn bytes hpc hrecv =>
    exact .inr (hread (arriving_of_got hcut hrecv) (.inr (.inr (.inr (.inl hpc)))))
  | bodyFailed r conn o want hpc hrecv ho =>
    have hwant : want = s.wanted := by
      rcases hpc with ⟨hpc, rfl⟩ | ⟨hpc, rfl⟩ <;> simp [Server.wanted, hpc]
    rcases hcut with hr | ⟨-, hhead⟩
    · rw [hr, hwant] at hrecv
      obtain ⟨bytes, hgot, -⟩ := sockRecv_arriving hrecv
      exact absurd hgot (ho bytes)
    · rcases hpc with ⟨hpc, -⟩ | ⟨hpc, -⟩ <;> rw [hpc] at hhead <;>
        rcases hhead with hhead | hhead <;> cases hhead
  | unlinkBody r conn bytes hpc hrecv =>
    exact .inr (hread (arriving_of_got hcut hrecv) (.inr (.inr (.inr (.inr hpc)))))
  | unlinkBodyFailed r conn o hpc hrecv ho =>
    rcases hcut with hr | ⟨-, hhead⟩
    · have hwant : cmdUnlinkSize = s.wanted := by simp [Server.wanted, hpc]
      rw [hr, hwant] at hrecv
      obtain ⟨bytes, hgot, -⟩ := sockRecv_arriving hrecv
      exact absurd hgot (ho bytes)
    · rw [hpc] at hhead
      rcases hhead with hhead | hhead <;> cases hhead
  | unlinkReply c r n hpc => right; rw [Server.nextTcp, htcp, hpc, ha]
  | unlinkReplyFailed hpc => cases ha
  | postCommandFailed => cases ha
  | postSubmitFailed => cases ha
  | _ => right; simp only [Server.nextTcp, *]

theorem step_of_outer {s t : Server} {a : TcpAction} (h : step s (.tcp a) = some t)
    (hpc : s.tcp.pc = .outer) : t = s.goto (if s.deviceBusy then .mode else .command) := by
  simp only [step, hpc] at h
  split_ifs at h
  unfold doRecv at h
  rw [hpc] at h
  cases a with
  | run =>
    cases h
    rfl
  | _ => cases h

theorem advance_of_importWait {s : Server} {n : ℕ} (hp : s.pendingImports = [])
    (hpc : s.tcp.pc = .importWait n) : s.reader.advance = some (s.goto .mode).reader := by
  have hpc' : s.reader.tcp.pc = .importWait 100 := by
    simp [Server.reader, TcpTask.settle, hpc, TcpPc.settle]
  refine advance_of_next (a := .tcp .run) ?_ ?_
  · rw [nextAction_of_idle hp, Server.nextTcp, hpc']
  · have hmode : (if s.reader.deviceBusy then TcpPc.mode
        else if 100 < 100 then .importWait (100 + 1) else .mode) = .mode := by
      split_ifs <;> first | rfl | omega
    simp only [step, hpc', doRecv, hmode]
    exact congrArg some
      (reader_eq rfl rfl rfl rfl rfl (onImport_onImport _) rfl rfl (read_read _))

/-- Where `do_recv` waits, it goes on waiting or the machine goes on with it. -/
theorem waiting_reader {s t : Server} {a : TcpAction} (hp : s.pendingImports = [])
    (htcp : s.reader.tcp ≠ s.tcp) (h : step s (.tcp a) = some t) :
    t.reader = s.reader ∨ s.reader.advance = some t.reader := by
  have hsettle : s.tcp.pc.settle s.deviceBusy ≠ s.tcp.pc := by
    intro heq
    exact htcp (by simp only [Server.reader, TcpTask.settle, heq])
  cases hpc : s.tcp.pc with
  | outer =>
    left
    have hbusy : s.deviceBusy = false := by
      by_contra hbusy
      rw [hpc] at hsettle
      exact hsettle (if_pos (by simpa using hbusy))
    rw [step_of_outer h hpc]
    refine reader_eq rfl rfl ?_ rfl rfl rfl rfl rfl rfl
    simp [TcpTask.settle, Server.goto, hpc, hbusy, TcpPc.settle]
  | importWait n =>
    obtain ⟨-, rfl⟩ := step_of_importWait h hpc
    by_cases hcount : s.deviceBusy = false ∧ n < 100
    · left
      refine reader_eq rfl rfl ?_ rfl rfl rfl rfl rfl rfl
      simp [TcpTask.settle, Server.goto, hpc, hcount.1, hcount.2, TcpPc.settle]
    · right
      have hmode : (if s.deviceBusy then TcpPc.mode
          else if n < 100 then .importWait (n + 1) else .mode) = .mode := by
        split_ifs with hbusy hlt
        · rfl
        · exact absurd ⟨by simpa using hbusy, hlt⟩ hcount
        · rfl
      rw [hmode]
      exact advance_of_importWait hp hpc
  | _ =>
    rw [hpc] at hsettle
    exact absurd rfl hsettle

theorem tcp_reader {s t : Server} {a : TcpAction} (hs : s.HandedOver)
    (ha : Undisturbed s (.tcp a)) (hwait : KeepsWaiting s (.tcp a)) (hcut : Uncut s (.tcp a))
    (h : step s (.tcp a) = some t) :
    t.reader = s.reader ∨ s.reader.advance = some t.reader := by
  rcases hs.pending with hnone | ⟨ev, hev, hw⟩
  · by_cases htcp : s.reader.tcp = s.tcp
    · rcases nextTcp_of_step hs htcp ha hcut (tcpStep h).2 with hsame | hnext
      · exact .inl hsame
      · exact .inr (advance_of_next ((nextAction_of_idle hnone).trans (by rw [hnext]))
          ((step_tcp_reader (tcpStep h).1 htcp).trans (congrArg _ h)))
    · exact waiting_reader hnone htcp h
  · obtain ⟨n, hpc⟩ := hw.pc
    obtain ⟨rfl, rfl⟩ := step_of_importWait h hpc
    have hlt : n < 100 := by
      by_contra hge
      simp only [KeepsWaiting, hpc] at hwait
      have hnone := hwait (by omega) hw.busy
      rw [hev] at hnone
      cases hnone
    left
    refine reader_eq rfl rfl ?_ rfl rfl rfl rfl rfl rfl
    simp [TcpTask.settle, Server.goto, hpc, hw.busy, hlt, TcpPc.settle]

def Ordered (s : Server) (a : Action) : Prop := Undisturbed s a ∧ KeepsWaiting s a ∧ Uncut s a

instance (s : Server) (a : Action) : Decidable (Ordered s a) := by
  unfold Ordered
  infer_instance

/-- The simulation: an admitted step is one of the machine, or none. -/
theorem step_reader {s t : Server} {a : Action} (hs : s.HandedOver) (ha : Ordered s a)
    (h : step s a = some t) : t.reader = s.reader ∨ s.reader.advance = some t.reader := by
  obtain ⟨hquiet, hwait, hcut⟩ := ha
  cases a with
  | tcp a => exact tcp_reader hs hquiet hwait hcut h
  | loop1 a => exact loop1_reader hs hquiet hcut h
  | loop2 a => exact .inl (loop2_reader h)
  | host a => exact .inl (host_reader h)
  | driver a => exact .inl (driver_reader hquiet h)

theorem run_reader {s t : Server} {as : List Action} (hreach : Reachable s) (hs : s.HandedOver)
    (ha : Always step Ordered s as) (h : run s as = some t) :
    Leads Server.advance s.reader t.reader := by
  refine leads_of_simulation (I := fun u => Reachable u ∧ u.HandedOver) ?_ ?_ ⟨hreach, hs⟩ ha h
  · intro u a v hu ha huv
    exact ⟨hu.1.of_step huv,
      step_handedOver hu.1.socketsOk hu.1.eventsSized hu.1.sized.1 hu.2 ha.2.1 huv⟩
  · intro u a v hu ha huv
    exact step_reader hu.2 ha huv

end UsbRepeater
