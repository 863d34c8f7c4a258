import UsbRepeater.Segmentation

/-! The reader's way through a client session, with no receive cut and nothing failing: request by
request and command by command, from one place of `do_recv` to the next. -/
namespace UsbRepeater

open Schedule Determ

def Conn.skip (c : Conn) (n : ℕ) : Conn := { c with consumed := c.consumed + n }

theorem Conn.skip_skip (c : Conn) (m n : ℕ) : (c.skip m).skip n = c.skip (m + n) := by
  simp only [Conn.skip, Nat.add_assoc]

theorem Conn.skip_unread {c : Conn} {bytes rest : Bytes} (h : c.unread = bytes ++ rest) :
    (c.skip bytes.length).unread = rest := by
  have hdrop : (c.skip bytes.length).unread = c.unread.drop bytes.length := by
    simp only [Conn.unread, Conn.skip, List.drop_drop]
  rw [hdrop, h, List.drop_left]

/-- Every receive returns all it asks for, and every send and post succeeds. -/
def Faultless (s : Server) : Action → Prop
  | .tcp (.recv r) => r = .data s.wanted
  | .tcp (.post ok) => ok = true
  | .tcp (.send r) | .loop1 (.send r) | .loop1 (.devlist _ r) => r = .full
  | .loop1 (.recv r) =>
      match s.loop1.handler with
      | .importRecv ev _ => r = .data (opReqImportSize - ev.len)
      | _ => True
  | _ => True

instance (s : Server) : ∀ a, Decidable (Faultless s a)
  | .tcp (.recv r) => inferInstanceAs (Decidable (r = .data s.wanted))
  | .tcp (.post ok) => inferInstanceAs (Decidable (ok = true))
  | .tcp (.send r) | .loop1 (.send r) | .loop1 (.devlist _ r) =>
    inferInstanceAs (Decidable (r = .full))
  | .loop1 (.recv r) =>
    match h : s.loop1.handler with
    | .importRecv ev _ =>
      decidable_of_iff (r = .data (opReqImportSize - ev.len)) (by simp only [Faultless, h])
    | .idle | .devlist _ | .importCopy _ | .importBuild _ _ | .importSend _ _ _
    | .importBusy _ _ _ => isTrue (by simp only [Faultless, h])
  | .tcp .run | .tcp (.accept _ _) | .loop1 .dispatch | .loop1 .run | .loop2 _ | .host _
  | .driver _ => isTrue trivial

def Server.proceed (s : Server) : Option Server :=
  if Faultless s s.nextAction then s.advance else none

structure Server.On (u : Server) (pc : TcpPc) (busy : Bool) (loop1 : Loop1) (c : Conn) : Prop where
  pc : u.tcp.pc = pc
  busy : u.deviceBusy = busy
  loop1 : u.loop1 = loop1
  conn : u.conn = some c
  sock : u.tcp.sock = c.number
  sized : u.tcp.Sized
  loopHandle : u.loopHandle = true
  loopHandle2 : u.loop2.count ≠ 0
  running : u.crashed = false
  descriptors : u.driver.devDesc ≠ none ∧ u.driver.configDesc ≠ none

def SameNotes (u v : Server) : Prop :=
  v.history.posted = u.history.posted ∧ v.history.urbEntries = u.history.urbEntries

theorem SameNotes.trans {u v w : Server} (h : SameNotes u v) (g : SameNotes v w) :
    SameNotes u w :=
  ⟨g.1.trans h.1, g.2.trans h.2⟩

abbrev Loop1.free : Loop1 := ⟨[], .idle⟩

theorem proceed_of {u v : Server} {a : Action} (hnext : u.nextAction = a) (hf : Faultless u a)
    (h : step u a = some v) : u.proceed = some v.reader := by
  rw [Server.proceed, hnext, if_pos hf, Server.advance, hnext, h, Option.map_some]

/-- The request a command hands over to the device. -/
def UrbCommand.submitted : UrbCommand → Option SubmitCommand
  | .submit cmd => some cmd
  | .unlink _ => none

structure Submit.Carries (ev : Submit) (cmd : SubmitCommand) : Prop where
  header : ev.header = cmd.header
  fixedBytes : ev.cmdSubmit.fixedBytes = cmd.cmdSubmit.fixedBytes
  payload : ev.cmdSubmit.transferBuffer.take cmd.payload.length = cmd.payload

@[simp] theorem UsbipHeaderBasic.ofBytes_toBytes (h : UsbipHeaderBasic) :
    UsbipHeaderBasic.ofBytes h.toBytes = h := by
  simpa using UsbipHeaderBasic.ofBytes_toBytes_append h []

theorem UsbipCmdSubmit.ofBytes_fixedBytes {cmd : UsbipCmdSubmit} (hs : cmd.setup.length = 8)
    (buffer : Bytes) :
    UsbipCmdSubmit.ofBytes cmd.fixedBytes buffer = { cmd with transferBuffer := buffer } := by
  simpa using UsbipCmdSubmit.ofBytes_fixedBytes_append hs [] buffer

theorem SubmitCommand.payload_of_out (cmd : SubmitCommand) (hout : cmd.header.direction = 0)
    (hlen : cmd.cmdSubmit.transferBufferLength ≠ 0) :
    cmd.payload.length = cmd.cmdSubmit.transferBufferLength.toNat ∧ cmd.payload.length ≤ 1024 ∧
      cmd.payload ≠ [] := by
  have hpayload := cmd.payload_length hout
  have hpos : cmd.cmdSubmit.transferBufferLength.toNat ≠ 0 := fun h =>
    hlen (UInt32.toNat_inj.1 h)
  refine ⟨hpayload, ?_, fun hnil => hpos (by rw [← hpayload, hnil, List.length_nil])⟩
  rcases cmd.direction with hin | ⟨-, -, hfits⟩
  · rw [hout] at hin
    cases hin
  · rwa [hpayload]

theorem SubmitCommand.payload_of_not_out (cmd : SubmitCommand)
    (h : ¬ (cmd.header.direction = 0 ∧ cmd.cmdSubmit.transferBufferLength ≠ 0)) :
    cmd.payload = [] := by
  by_cases hout : cmd.header.direction = 0
  · have hzero : cmd.cmdSubmit.transferBufferLength = 0 := by
      by_contra hlen
      exact h ⟨hout, hlen⟩
    have hpayload := cmd.payload_length hout
    rw [hzero] at hpayload
    exact List.length_eq_zero_iff.1 hpayload
  · rw [SubmitCommand.payload, if_neg hout]

section Places

variable {u : Server} {c : Conn} {pc : TcpPc} {busy : Bool} {loop1 : Loop1} {rest : Bytes}

theorem Server.On.nextAction (hu : u.On pc busy .free c) : u.nextAction = .tcp u.nextTcp := by
  simp [Server.nextAction, hu.loop1]

theorem Server.On.reader (hu : u.On pc busy loop1 c) :
    u.reader.On (pc.settle busy) busy loop1.onImport c where
  pc := by
    have hpc : u.reader.tcp.pc = u.tcp.pc.settle u.deviceBusy := rfl
    rw [hpc, hu.pc, hu.busy]
  busy := hu.busy
  loop1 := congrArg Loop1.onImport hu.loop1
  conn := hu.conn
  sock := hu.sock
  sized := hu.sized.goto _
  loopHandle := hu.loopHandle
  loopHandle2 := hu.loopHandle2
  running := rfl
  descriptors := hu.descriptors

theorem Server.On.goto (hu : u.On pc busy loop1 c) (pc' : TcpPc) :
    (u.goto pc').On pc' busy loop1 c where
  pc := rfl
  busy := hu.busy
  loop1 := hu.loop1
  conn := hu.conn
  sock := hu.sock
  sized := hu.sized.goto _
  loopHandle := hu.loopHandle
  loopHandle2 := hu.loopHandle2
  running := hu.running
  descriptors := hu.descriptors

theorem Server.On.took (hu : u.On pc busy loop1 c) {n : ℕ} {tcp : TcpTask}
    (hsized : tcp.Sized) (hsock : tcp.sock = u.tcp.sock) :
    ((u.took (some (c.skip n)) n).setTcp tcp).On tcp.pc busy loop1 (c.skip n) where
  pc := rfl
  busy := hu.busy
  loop1 := hu.loop1
  conn := rfl
  sock := hsock.trans hu.sock
  sized := hsized
  loopHandle := hu.loopHandle
  loopHandle2 := hu.loopHandle2
  running := hu.running
  descriptors := hu.descriptors

theorem Server.On.sockRecv (hu : u.On pc busy loop1 c) {bytes : Bytes} (hne : bytes ≠ [])
    (hunread : c.unread = bytes ++ rest) :
    u.arriving bytes.length = .data bytes.length ∧
      sockRecv u.conn c.number bytes.length (.data bytes.length) =
        some (some (c.skip bytes.length), .got bytes) := by
  have hpos : 0 < bytes.length := List.length_pos_of_ne_nil hne
  have hle : bytes.length ≤ c.unread.length := by
    rw [hunread, List.length_append]
    exact Nat.le_add_right _ _
  constructor
  · simp [Server.arriving, hu.conn, hle]
  · rw [sockRecv_data (openOn_eq_some.2 ⟨hu.conn, rfl⟩) hpos le_rfl hle, hunread, List.take_left]
    rfl

theorem step_doRecv {a : TcpAction} (hrunning : u.crashed = false)
    (hpc : u.tcp.pc.serving = true) : step u (.tcp a) = doRecv u a := by
  rw [step, if_neg (by simp [hrunning])]
  split
  · rename_i h
    rw [h] at hpc
    cases hpc
  · rename_i h
    rw [h] at hpc
    cases hpc
  · rfl

theorem Server.On.recv (hu : u.On pc busy .free c) (hpc : pc.receiving = true) {bytes : Bytes}
    (hlen : bytes.length = u.wanted) (hne : bytes ≠ []) (hunread : c.unread = bytes ++ rest) :
    u.nextAction = .tcp (.recv (.data bytes.length)) ∧
      Faultless u (.tcp (.recv (.data bytes.length))) ∧
      UsbRepeater.sockRecv u.conn u.tcp.sock u.wanted (.data bytes.length) =
        some (some (c.skip bytes.length), .got bytes) := by
  obtain ⟨harriving, hrecv⟩ := hu.sockRecv hne hunread
  refine ⟨?_, congrArg RecvResult.data hlen, ?_⟩
  · rw [hu.nextAction, ← harriving, hlen]
    rw [← hu.pc] at hpc
    cases h : u.tcp.pc <;> rw [h] at hpc <;> simp [TcpPc.receiving] at hpc <;>
      simp only [Server.nextTcp, h]
  · rw [← hlen, hu.sock]
    exact hrecv

theorem Server.On.begin (hu : u.On .begin false .free c) :
    ∃ v, u.proceed = some v ∧ v.On .command false .free c ∧ SameNotes u v := by
  have hstep : step u (.tcp .run) = some (u.goto .outer) := by
    simp [step, hu.running, hu.pc, tcpServerStart]
  have hnext : u.nextAction = .tcp .run := by
    rw [hu.nextAction, Server.nextTcp, hu.pc]
  exact ⟨_, proceed_of hnext trivial hstep, (hu.goto .outer).reader, rfl, rfl⟩

theorem Server.On.readCommand (hu : u.On .command false .free c) {bytes : Bytes}
    (hlen : bytes.length = headerCommonSize) (hversion : ofBe16 bytes = usbipVersion)
    (hunread : c.unread = bytes ++ rest) :
    ∃ v, u.proceed = some v ∧ v.On .postCommand false .free (c.skip bytes.length) ∧
      SameNotes u v ∧ v.tcp.devRecv = bytes := by
  have hwant : u.wanted = headerCommonSize := by rw [Server.wanted, hu.pc]
  have hne : bytes ≠ [] := by
    intro hnil
    rw [hnil] at hlen
    cases hlen
  obtain ⟨hnext, hfull, hrecv⟩ := hu.recv rfl (hlen.trans hwant.symm) hne hunread
  rw [hwant] at hrecv
  have hall : overwrite bytes u.tcp.devRecv = bytes :=
    overwrite_full (hlen.trans hu.sized.devRecv.symm)
  have hpc : commandNext u bytes = .postCommand := by
    rw [commandNext, if_pos hversion, if_pos hu.loopHandle]
  have hsized : TcpTask.Sized { u.tcp with pc := .postCommand, devRecv := bytes } :=
    { hu.sized with devRecv := hlen }
  have hstep : step u (.tcp (.recv (.data bytes.length))) =
      some ((u.took (some (c.skip bytes.length)) bytes.length).setTcp
        { u.tcp with pc := .postCommand, devRecv := bytes }) := by
    obtain ⟨b, bs, rfl⟩ := List.exists_cons_of_ne_nil hne
    rw [step_doRecv hu.running (by rw [hu.pc]; rfl)]
    simp only [doRecv, hu.pc, hrecv, Option.map_some, hall, hpc]
  exact ⟨_, proceed_of hnext hfull hstep, (hu.took hsized rfl).reader, ⟨rfl, rfl⟩, rfl⟩

theorem Server.On.postCommand (hu : u.On .postCommand false .free c) :
    ∃ v, u.proceed = some v ∧ SameNotes u v ∧ v.tcp.devRecv = u.tcp.devRecv ∧
      v.On (if (commandEvent u).isImport then .importWait 100 else .mode) false
        ⟨[commandEvent u].filter TcpData.isImport, .idle⟩ c := by
  have hnext : u.nextAction = .tcp (.post true) := by
    rw [hu.nextAction, Server.nextTcp, hu.pc]
  have hwait : (if (commandEvent u).eventId = opReqImport then TcpPc.importWait 0 else .mode).settle
      false = if (commandEvent u).isImport then .importWait 100 else .mode := by
    by_cases himport : (commandEvent u).eventId = opReqImport
    · simp [himport, TcpData.isImport, TcpPc.settle]
    · simp [himport, TcpData.isImport, TcpPc.settle]
  let w : Server :=
    { u.goto (if (commandEvent u).eventId = opReqImport then .importWait 0 else .mode) with
      loop1 := { u.loop1 with queue := u.loop1.queue ++ [commandEvent u] }
      history := { u.history with commands := u.history.commands ++ [commandEvent u] } }
  have hstep : step u (.tcp (.post true)) = some w := by
    simp only [step, hu.running, hu.pc, doRecv]
    rfl
  have hw : w.On (if (commandEvent u).eventId = opReqImport then .importWait 0 else .mode) false
      ⟨[commandEvent u], .idle⟩ c :=
    { hu.goto _ with loop1 := by simp [w, hu.loop1] }
  have hr := hw.reader
  rw [hwait] at hr
  exact ⟨_, proceed_of hnext rfl hstep, ⟨rfl, rfl⟩, rfl, hr⟩

theorem Server.On.leaveMode (hu : u.On .mode false .free c) :
    ∃ v, u.proceed = some v ∧ v.On .command false .free c ∧ SameNotes u v := by
  have hnext : u.nextAction = .tcp .run := by
    rw [hu.nextAction, Server.nextTcp, hu.pc]
  have hstep : step u (.tcp .run) = some (u.goto .outer) := by
    simp [step, hu.running, hu.pc, doRecv, hu.busy]
  exact ⟨_, proceed_of hnext trivial hstep, (hu.goto .outer).reader, rfl, rfl⟩

theorem Server.On.enterUrb (hu : u.On .mode true .free c) :
    ∃ v, u.proceed = some v ∧ v.On .urbHeader true .free c ∧
      v.history.posted = u.history.posted ∧
      v.history.urbEntries = u.history.urbEntries ++ [(c.id, c.consumed)] := by
  have hnext : u.nextAction = .tcp .run := by
    rw [hu.nextAction, Server.nextTcp, hu.pc]
  let w : Server :=
    { u.goto .urbHeader with
      history := { u.history with
        urbEntries := u.history.urbEntries ++ [(c.id, c.consumed)] } }
  have hstep : step u (.tcp .run) = some w := by
    simp [step, hu.running, hu.pc, doRecv, hu.busy, hu.conn, w]
  have hw : w.On .urbHeader true .free c := { hu.goto .urbHeader with }
  exact ⟨_, proceed_of hnext trivial hstep, hw.reader, rfl, rfl⟩

theorem commandEvent_isImport {code : UInt16} {status : UInt32}
    (h : u.tcp.devRecv = requestHeader code status) :
    (commandEvent u).isImport = (code == opReqImport) := by
  simp only [TcpData.isImport, commandEvent, h, requestHeader_code]

theorem Server.On.devlist (hu : u.On .command false .free c) {status : UInt32}
    (hunread : c.unread = requestHeader opReqDevlist status ++ rest) :
    ∃ v, Leads Server.proceed u v ∧ v.On .command false .free (c.skip headerCommonSize) ∧
      SameNotes u v := by
  obtain ⟨u₁, h₁, hu₁, hsame₁, hdev₁⟩ := hu.readCommand rfl (requestHeader_version _ _) hunread
  obtain ⟨u₂, h₂, hsame₂, -, hu₂⟩ := hu₁.postCommand
  have hlist : (commandEvent u₁).isImport = false := commandEvent_isImport hdev₁
  simp only [hlist, Bool.false_eq_true, if_false, List.filter_cons, List.filter_nil] at hu₂
  obtain ⟨u₃, h₃, hu₃, hsame₃⟩ := hu₂.leaveMode
  exact ⟨u₃, .head h₁ (.head h₂ (.one h₃)), hu₃, (hsame₁.trans hsame₂).trans hsame₃⟩

theorem Server.On.devlists (hu : u.On .command false .free c) {statuses : List UInt32}
    (hunread : c.unread = statuses.flatMap (requestHeader opReqDevlist) ++ rest) :
    ∃ v, Leads Server.proceed u v ∧
      v.On .command false .free (c.skip (8 * statuses.length)) ∧ SameNotes u v := by
  induction statuses generalizing u c with
  | nil => exact ⟨u, .refl u, hu, rfl, rfl⟩
  | cons status statuses ih =>
    rw [List.flatMap_cons, List.append_assoc] at hunread
    obtain ⟨v, huv, hv, hsame⟩ := hu.devlist hunread
    obtain ⟨w, hvw, hw, hsame'⟩ := ih hv (Conn.skip_unread hunread)
    refine ⟨w, huv.trans hvw, ?_, hsame.trans hsame'⟩
    have hskip : headerCommonSize + 8 * statuses.length = 8 * (status :: statuses).length := by
      rw [List.length_cons, headerCommonSize]
      omega
    rwa [Conn.skip_skip, hskip] at hw

theorem step_loop1 {a : Loop1Action} (hrunning : u.crashed = false) :
    step u (.loop1 a) = usbIpEventHandler1 u a := by
  simp [step, hrunning]

theorem Server.On.handle1 (hu : u.On pc busy loop1 c) (h : Handler1) :
    (u.handle1 h).On pc busy { loop1 with handler := h } c :=
  { hu with loop1 := congrArg (fun l : Loop1 => { l with handler := h }) hu.loop1 }

theorem Server.On.dispatch {ev : TcpData} (hu : u.On (.importWait 100) false ⟨[ev], .idle⟩ c)
    (himport : ev.isImport = true) :
    ∃ v, u.proceed = some v ∧ v.On (.importWait 100) false ⟨[], .importCopy ev⟩ c ∧
      SameNotes u v ∧ v.tcp.devRecv = u.tcp.devRecv := by
  have hnext : u.nextAction = .loop1 .dispatch := by
    simp [Server.nextAction, hu.loop1]
  have hcode : ev.eventId = opReqImport := beq_iff_eq.1 himport
  have hdeliver : deliver1 ev = .importCopy ev := by
    rw [deliver1, hcode]
    rfl
  let w : Server := { u with loop1 := ⟨[], .importCopy ev⟩ }
  have hstep : step u (.loop1 .dispatch) = some w := by
    rw [step_loop1 hu.running]
    simp only [usbIpEventHandler1, hu.loop1, hdeliver, w]
  have hw : w.On (.importWait 100) false ⟨[], .importCopy ev⟩ c := { hu with loop1 := rfl }
  exact ⟨_, proceed_of hnext trivial hstep, hw.reader, ⟨rfl, rfl⟩, rfl⟩

theorem Server.On.copy {ev : TcpData}
    (hu : u.On (.importWait 100) false ⟨[], .importCopy ev⟩ c) :
    ∃ v, u.proceed = some v ∧
      v.On (.importWait 100) false ⟨[], .importRecv ev
        (overwrite (u.tcp.devRecv.take ev.len) (List.replicate opReqImportSize 0))⟩ c ∧
      SameNotes u v := by
  have hnext : u.nextAction = .loop1 .run := by
    simp [Server.nextAction, hu.loop1]
  have hstep : step u (.loop1 .run) = some (u.handle1 (.importRecv ev
      (overwrite (u.tcp.devRecv.take ev.len) (List.replicate opReqImportSize 0)))) := by
    rw [step_loop1 hu.running]
    simp only [usbIpEventHandler1, hu.loop1]
  exact ⟨_, proceed_of hnext trivial hstep, (hu.handle1 _).reader, rfl, rfl⟩

theorem Server.On.readImport {ev : TcpData} {devImport bytes : Bytes}
    (hu : u.On (.importWait 100) false ⟨[], .importRecv ev devImport⟩ c)
    (hsock : ev.sock = c.number) (hlen : bytes.length = opReqImportSize - ev.len)
    (hne : bytes ≠ []) (hunread : c.unread = bytes ++ rest) :
    ∃ v, u.proceed = some v ∧
      v.On (.importWait 100) false ⟨[], .importBuild ev (devImport.take ev.len ++ bytes)⟩
        (c.skip bytes.length) ∧
      SameNotes u v := by
  obtain ⟨harriving, hrecv⟩ := hu.sockRecv hne hunread
  have hnext : u.nextAction = .loop1 (.recv (.data bytes.length)) := by
    rw [← harriving, hlen]
    simp only [Server.nextAction, hu.loop1]
  have hwant : Faultless u (.loop1 (.recv (.data bytes.length))) := by
    simp only [Faultless, hu.loop1, hlen]
  let w : Server :=
    { u.handle1 (.importBuild ev (devImport.take ev.len ++ bytes)) with
      conn := some (c.skip bytes.length) }
  have hstep : step u (.loop1 (.recv (.data bytes.length))) = some w := by
    rw [step_loop1 hu.running]
    simp only [usbIpEventHandler1, hu.loop1, hsock, ← hlen, hrecv, Option.map_some, if_true, w]
  have hw : w.On (.importWait 100) false
      ⟨[], .importBuild ev (devImport.take ev.len ++ bytes)⟩ (c.skip bytes.length) :=
    { hu.handle1 (.importBuild ev (devImport.take ev.len ++ bytes)) with
      conn := rfl
      sock := hu.sock }
  exact ⟨_, proceed_of hnext hwant hstep, hw.reader, rfl, rfl⟩

theorem Server.On.build {ev : TcpData} {devImport : Bytes}
    (hu : u.On (.importWait 100) false ⟨[], .importBuild ev devImport⟩ c)
    (hbus : strcmp (busId ++ [0]) (busIdOf devImport) = 0) :
    ∃ v rep, u.proceed = some v ∧
      v.On (.importWait 100) false ⟨[], .importSend ev devImport rep⟩ c ∧ SameNotes u v := by
  have hnext : u.nextAction = .loop1 .run := by
    simp [Server.nextAction, hu.loop1]
  obtain ⟨dev, hdev⟩ := Option.ne_none_iff_exists'.1 hu.descriptors.1
  obtain ⟨config, hconfig⟩ := Option.ne_none_iff_exists'.1 hu.descriptors.2
  have hreply : (importBuild u.driver devImport).reply =
      some ⟨usbipVersion, opRepImport, 0, deviceRecord u.driver.devInfo dev.val config.val⟩ := by
    simp [importBuild, hbus, hdev, hconfig]
  have hstep : step u (.loop1 .run) = some (u.handle1 (.importSend ev devImport
      ⟨usbipVersion, opRepImport, 0, deviceRecord u.driver.devInfo dev.val config.val⟩)) := by
    rw [step_loop1 hu.running]
    simp only [usbIpEventHandler1, hu.loop1, hreply]
  exact ⟨_, _, proceed_of hnext trivial hstep, (hu.handle1 _).reader, rfl, rfl⟩

theorem Server.On.sendReply {ev : TcpData} {devImport : Bytes} {rep : OpRepImport}
    (hu : u.On (.importWait 100) false ⟨[], .importSend ev devImport rep⟩ c)
    (hsock : ev.sock = c.number) :
    ∃ v, u.proceed = some v ∧
      v.On (.importWait 100) false ⟨[], .importBusy ev devImport rep⟩ c ∧ SameNotes u v := by
  have hnext : u.nextAction = .loop1 (.send .full) := by
    simp [Server.nextAction, hu.loop1]
  have hopen : openOn u.conn c.number = some c := openOn_eq_some.2 ⟨hu.conn, rfl⟩
  let m : Sent := ⟨c.id, .repImport rep, rep.toBytes, rep.toBytes.length⟩
  have hstep : step u (.loop1 (.send .full)) =
      some ((u.emit m).handle1 (.importBusy ev devImport rep)) := by
    rw [step_loop1 hu.running]
    simp [usbIpEventHandler1, hu.loop1, tcpSendLocked, sockSend, hsock, hopen, m]
  have hw : (u.emit m).On (.importWait 100) false ⟨[], .importSend ev devImport rep⟩ c :=
    { hu with }
  exact ⟨_, proceed_of hnext rfl hstep, (hw.handle1 _).reader, rfl, rfl⟩

theorem Server.On.setBusy {ev : TcpData} {devImport : Bytes} {rep : OpRepImport}
    (hu : u.On (.importWait 100) false ⟨[], .importBusy ev devImport rep⟩ c) :
    ∃ v, u.proceed = some v ∧ v.On (.importWait 100) true .free c ∧ SameNotes u v := by
  have hnext : u.nextAction = .loop1 .run := by
    simp [Server.nextAction, hu.loop1]
  let w : Server := { u.handle1 .idle with deviceBusy := true }
  have hstep : step u (.loop1 .run) = some w := by
    rw [step_loop1 hu.running]
    simp only [usbIpEventHandler1, hu.loop1, w]
  have hw : w.On (.importWait 100) true .free c := { hu.handle1 .idle with busy := rfl }
  exact ⟨_, proceed_of hnext trivial hstep, hw.reader, rfl, rfl⟩

theorem Server.On.endWait (hu : u.On (.importWait 100) true .free c) :
    ∃ v, u.proceed = some v ∧ v.On .mode true .free c ∧ SameNotes u v := by
  have hnext : u.nextAction = .tcp .run := by
    rw [hu.nextAction, Server.nextTcp, hu.pc]
  have hstep : step u (.tcp .run) = some (u.goto .mode) := by
    simp [step, hu.running, hu.pc, doRecv, hu.busy]
  exact ⟨_, proceed_of hnext trivial hstep, (hu.goto .mode).reader, rfl, rfl⟩

/-- The request is read by two tasks and answered, and `do_recv` goes on in URB mode. -/
theorem Server.On.imported (hu : u.On .command false .free c) {status : UInt32}
    {busField : Bytes} (hlen : busField.length = 32) (htext : cString busField = busId)
    (hunread : c.unread = requestHeader opReqImport status ++ (busField ++ rest)) :
    ∃ v, Leads Server.proceed u v ∧ v.On .urbHeader true .free (c.skip opReqImportSize) ∧
      v.history.posted = u.history.posted ∧
      v.history.urbEntries = u.history.urbEntries ++ [(c.id, c.consumed + opReqImportSize)] := by
  have hne : busField ≠ [] := by
    intro hnil
    rw [hnil] at hlen
    cases hlen
  obtain ⟨u₁, h₁, hu₁, hsame₁, hdev₁⟩ := hu.readCommand rfl (requestHeader_version _ _) hunread
  obtain ⟨u₂, h₂, hsame₂, hdev₂, hu₂⟩ := hu₁.postCommand
  have himport : (commandEvent u₁).isImport = true := commandEvent_isImport hdev₁
  have hsock : (commandEvent u₁).sock = c.number := hu₁.sock
  simp only [himport, if_true, List.filter_cons, List.filter_nil] at hu₂
  obtain ⟨u₃, h₃, hu₃, hsame₃, hdev₃⟩ := hu₂.dispatch himport
  obtain ⟨u₄, h₄, hu₄, hsame₄⟩ := hu₃.copy
  obtain ⟨u₅, h₅, hu₅, hsame₅⟩ := hu₄.readImport hsock hlen hne (Conn.skip_unread hunread)
  -- the handler has the bus id of the request behind the eight bytes it copied
  have hbus : strcmp (busId ++ [0]) (busIdOf ((overwrite (u₃.tcp.devRecv.take headerCommonSize)
      (List.replicate opReqImportSize 0)).take headerCommonSize ++ busField)) = 0 := by
    rw [hdev₃, hdev₂, hdev₁]
    have hdrop : busIdOf ((overwrite ((requestHeader opReqImport status).take headerCommonSize)
        (List.replicate opReqImportSize 0)).take headerCommonSize ++ busField) = busField := rfl
    rw [hdrop, strcmp_busId hlen]
    exact htext
  obtain ⟨u₆, rep, h₆, hu₆, hsame₆⟩ := hu₅.build hbus
  obtain ⟨u₇, h₇, hu₇, hsame₇⟩ := hu₆.sendReply hsock
  obtain ⟨u₈, h₈, hu₈, hsame₈⟩ := hu₇.setBusy
  obtain ⟨u₉, h₉, hu₉, hsame₉⟩ := hu₈.endWait
  obtain ⟨v, hv, hu', hposted, hentries⟩ := hu₉.enterUrb
  have hsame : SameNotes u u₉ :=
    ((((((((hsame₁.trans hsame₂).trans hsame₃).trans hsame₄).trans hsame₅).trans hsame₆).trans
      hsame₇).trans hsame₈).trans hsame₉)
  have hskip : (c.skip (requestHeader opReqImport status).length).skip busField.length =
      c.skip opReqImportSize := by
    rw [Conn.skip_skip, hlen]
    rfl
  rw [hskip] at hu' hentries
  refine ⟨v, ?_, hu', hposted.trans hsame.1, hentries.trans (by rw [hsame.2]; rfl)⟩
  exact .head h₁ (.head h₂ (.head h₃ (.head h₄ (.head h₅ (.head h₆ (.head h₇ (.head h₈
    (.head h₉ (.one hv)))))))))

theorem Server.On.readHeader (hu : u.On .urbHeader true .free c) {bytes : Bytes} {next : TcpPc}
    (hlen : bytes.length = headerBasicSize) (hpc : urbNext (.ofBytes bytes) = next)
    (hunread : c.unread = bytes ++ rest) :
    ∃ v, u.proceed = some v ∧ v.On (next.settle true) true .free (c.skip bytes.length) ∧
      SameNotes u v ∧ v.tcp.header = bytes := by
  have hwant : u.wanted = headerBasicSize := by rw [Server.wanted, hu.pc]
  have hne : bytes ≠ [] := List.ne_nil_of_length_pos (by rw [hlen]; decide)
  obtain ⟨hnext, hfull, hrecv⟩ := hu.recv rfl (hlen.trans hwant.symm) hne hunread
  rw [hwant] at hrecv
  have hall : overwrite bytes u.tcp.header = bytes :=
    overwrite_full (hlen.trans hu.sized.header.symm)
  have hsized : TcpTask.Sized { u.tcp with pc := next, header := bytes } :=
    { hu.sized with header := hlen }
  have hstep : step u (.tcp (.recv (.data bytes.length))) =
      some ((u.took (some (c.skip bytes.length)) bytes.length).setTcp
        { u.tcp with pc := next, header := bytes }) := by
    obtain ⟨b, bs, rfl⟩ := List.exists_cons_of_ne_nil hne
    rw [step_doRecv hu.running (by rw [hu.pc]; rfl)]
    simp only [doRecv, hu.pc, hrecv, Option.map_some, hall, hpc]
  exact ⟨_, proceed_of hnext hfull hstep, (hu.took hsized rfl).reader, ⟨rfl, rfl⟩, rfl⟩

theorem Server.On.readSubmit (hu : u.On .submitBody true .free c) {bytes : Bytes} {next : TcpPc}
    (hlen : bytes.length = cmdHeaderSize)
    (hpc : submitNext u.header (.ofBytes bytes u.tcp.transferBuffer) = next)
    (hunread : c.unread = bytes ++ rest) :
    ∃ v, u.proceed = some v ∧ v.On (next.settle true) true .free (c.skip bytes.length) ∧
      SameNotes u v ∧ v.tcp.header = u.tcp.header ∧ v.tcp.cmdSubmit = bytes := by
  have hwant : u.wanted = cmdHeaderSize := by rw [Server.wanted, hu.pc]
  have hne : bytes ≠ [] := List.ne_nil_of_length_pos (by rw [hlen]; decide)
  obtain ⟨hnext, hfull, hrecv⟩ := hu.recv rfl (hlen.trans hwant.symm) hne hunread
  rw [hwant] at hrecv
  have hall : overwrite bytes u.tcp.cmdSubmit = bytes :=
    overwrite_full (hlen.trans hu.sized.cmdSubmit.symm)
  have hsized : TcpTask.Sized { u.tcp with pc := next, cmdSubmit := bytes } :=
    { hu.sized with cmdSubmit := hlen }
  have hstep : step u (.tcp (.recv (.data bytes.length))) =
      some ((u.took (some (c.skip bytes.length)) bytes.length).setTcp
        { u.tcp with pc := next, cmdSubmit := bytes }) := by
    rw [step_doRecv hu.running (by rw [hu.pc]; rfl)]
    simp only [doRecv, hu.pc, hrecv, Option.map_some, hall, hpc]
    rw [if_pos hlen]
  exact ⟨_, proceed_of hnext hfull hstep, (hu.took hsized rfl).reader, ⟨rfl, rfl⟩, rfl, rfl⟩

theorem Server.On.readPayload (hu : u.On .payload true .free c) {bytes : Bytes}
    (hlen : bytes.length = u.cmdSubmit.transferBufferLength.toNat) (hne : bytes ≠ [])
    (hfits : bytes.length ≤ 1024) (hunread : c.unread = bytes ++ rest) :
    ∃ v, u.proceed = some v ∧ v.On .postSubmit true .free (c.skip bytes.length) ∧
      SameNotes u v ∧ v.tcp.header = u.tcp.header ∧ v.tcp.cmdSubmit = u.tcp.cmdSubmit ∧
      v.tcp.transferBuffer.take bytes.length = bytes := by
  have hwant : u.wanted = u.cmdSubmit.transferBufferLength.toNat := by rw [Server.wanted, hu.pc]
  obtain ⟨hnext, hfull, hrecv⟩ := hu.recv rfl (hlen.trans hwant.symm) hne hunread
  rw [hwant] at hrecv
  let tcp : TcpTask :=
    { u.tcp with pc := .postSubmit, transferBuffer := overwrite bytes u.tcp.transferBuffer }
  have hsized : tcp.Sized :=
    { hu.sized with transferBuffer := overwrite_sized hu.sized.transferBuffer hfits }
  have hstep : step u (.tcp (.recv (.data bytes.length))) =
      some ((u.took (some (c.skip bytes.length)) bytes.length).setTcp tcp) := by
    rw [step_doRecv hu.running (by rw [hu.pc]; rfl)]
    simp only [doRecv, hu.pc, hrecv, Option.map_some, tcp]
    rw [if_pos hlen]
  exact ⟨_, proceed_of hnext hfull hstep, (hu.took hsized rfl).reader, ⟨rfl, rfl⟩, rfl, rfl,
    overwrite_take _ _⟩

theorem Server.On.postSubmit (hu : u.On .postSubmit true .free c) :
    ∃ v, u.proceed = some v ∧ v.On .urbHeader true .free c ∧
      v.history.posted = u.history.posted ++ [submitEvent u] ∧
      v.history.urbEntries = u.history.urbEntries := by
  have hnext : u.nextAction = .tcp (.post true) := by
    rw [hu.nextAction, Server.nextTcp, hu.pc]
  let w : Server :=
    { u.goto .urbHeader with
      loop2 := { u.loop2 with queue := u.loop2.queue ++ [(u.loop2.count, submitEvent u)] }
      history := { u.history with posted := u.history.posted ++ [submitEvent u] } }
  have hstep : step u (.tcp (.post true)) = some w := by
    have hcount : (u.goto .urbHeader).loop2.count ≠ 0 := hu.loopHandle2
    rw [step_doRecv hu.running (by rw [hu.pc]; rfl)]
    simp only [doRecv, hu.pc, if_true, if_neg hcount]
    rfl
  have hw : w.On .urbHeader true .free c := { hu.goto .urbHeader with }
  exact ⟨_, proceed_of hnext rfl hstep, hw.reader, rfl, rfl⟩

theorem Server.On.readUnlink (hu : u.On .unlinkBody true .free c) {bytes : Bytes}
    (hlen : bytes.length = cmdUnlinkSize) (hunread : c.unread = bytes ++ rest) :
    ∃ v, u.proceed = some v ∧ v.On .unlinkReply true .free (c.skip bytes.length) ∧
      SameNotes u v := by
  have hwant : u.wanted = cmdUnlinkSize := by rw [Server.wanted, hu.pc]
  have hne : bytes ≠ [] := List.ne_nil_of_length_pos (by rw [hlen]; decide)
  obtain ⟨hnext, hfull, hrecv⟩ := hu.recv rfl (hlen.trans hwant.symm) hne hunread
  rw [hwant] at hrecv
  let tcp : TcpTask :=
    { u.tcp with pc := .unlinkReply, cmdUnlink := overwrite bytes u.tcp.cmdUnlink }
  have hsized : tcp.Sized :=
    { hu.sized with cmdUnlink := overwrite_sized hu.sized.cmdUnlink hlen.le }
  let w : Server := (u.took (some (c.skip bytes.length)) bytes.length).setTcp tcp
  have hstep : step u (.tcp (.recv (.data bytes.length))) = some w.noteUnlink := by
    rw [step_doRecv hu.running (by rw [hu.pc]; rfl)]
    simp only [doRecv, hu.pc, hrecv, Option.map_some, w, tcp]
  have hw : w.noteUnlink.On .unlinkReply true .free (c.skip bytes.length) :=
    { hu.took hsized rfl with }
  exact ⟨_, proceed_of hnext hfull hstep, hw.reader, rfl, rfl⟩

theorem Server.On.answerUnlink (hu : u.On .unlinkReply true .free c) :
    ∃ v, u.proceed = some v ∧ v.On .urbHeader true .free c ∧ SameNotes u v := by
  have hnext : u.nextAction = .tcp (.send .full) := by
    rw [hu.nextAction, Server.nextTcp, hu.pc]
  have hopen : openOn (u.goto .urbHeader).conn u.tcp.sock = some c :=
    openOn_eq_some.2 ⟨hu.conn, hu.sock.symm⟩
  let m : Sent := ⟨c.id, .retUnlink u.header.seqnum u.victim retUnlink, retUnlink.toBytes,
    retUnlink.toBytes.length⟩
  have hstep : step u (.tcp (.send .full)) = some ((u.goto .urbHeader).emit m) := by
    rw [step_doRecv hu.running (by rw [hu.pc]; rfl)]
    simp only [doRecv, hu.pc, tcpSendLocked, sockSend, hopen, Option.map_some, m]
  have hw : ((u.goto .urbHeader).emit m).On .urbHeader true .free c :=
    { hu.goto .urbHeader with }
  exact ⟨_, proceed_of hnext rfl hstep, hw.reader, rfl, rfl⟩

theorem submitEvent_carries {cmd : SubmitCommand} (hheader : u.tcp.header = cmd.header.toBytes)
    (hfixed : u.tcp.cmdSubmit = cmd.cmdSubmit.fixedBytes)
    (hpayload : u.tcp.transferBuffer.take cmd.payload.length = cmd.payload) :
    (submitEvent u).Carries cmd where
  header := by
    simp only [submitEvent, Server.header, hheader, UsbipHeaderBasic.ofBytes_toBytes]
  fixedBytes := by
    simp only [submitEvent, Server.cmdSubmit, hfixed, UsbipCmdSubmit.ofBytes_fixedBytes cmd.setup]
    rfl
  payload := by
    simp only [submitEvent, Server.cmdSubmit, hfixed, UsbipCmdSubmit.ofBytes_fixedBytes cmd.setup]
    exact hpayload

theorem Server.On.submit (hu : u.On .urbHeader true .free c) {cmd : SubmitCommand}
    (hunread : c.unread = (UrbCommand.submit cmd).encode ++ rest) :
    ∃ v ev, Leads Server.proceed u v ∧
      v.On .urbHeader true .free (c.skip (UrbCommand.submit cmd).encode.length) ∧
      v.history.posted = u.history.posted ++ [ev] ∧
      v.history.urbEntries = u.history.urbEntries ∧ ev.Carries cmd := by
  rw [UrbCommand.encode, List.append_assoc, List.append_assoc] at hunread
  have hpc₁ : urbNext (.ofBytes cmd.header.toBytes) = .submitBody := by
    rw [UsbipHeaderBasic.ofBytes_toBytes, urbNext, cmd.command]
    rfl
  obtain ⟨u₁, h₁, hu₁, hsame₁, hheader₁⟩ := hu.readHeader rfl hpc₁ hunread
  have hunread₁ := Conn.skip_unread hunread
  have hheader : u₁.header = cmd.header := by
    rw [Server.header, hheader₁, UsbipHeaderBasic.ofBytes_toBytes]
  by_cases hout : cmd.header.direction = 0 ∧ cmd.cmdSubmit.transferBufferLength ≠ 0
  · obtain ⟨hlen, hfits, hne⟩ := cmd.payload_of_out hout.1 hout.2
    have hpc₂ : submitNext u₁.header (.ofBytes cmd.cmdSubmit.fixedBytes u₁.tcp.transferBuffer) =
        .payload := by
      rw [hheader, UsbipCmdSubmit.ofBytes_fixedBytes cmd.setup, submitNext, if_pos hout,
        if_neg (by simpa [← hlen] using hfits)]
    obtain ⟨u₂, h₂, hu₂, hsame₂, hheader₂, hfixed₂⟩ :=
      hu₁.readSubmit cmd.fixedBytes_length hpc₂ hunread₁
    have hcmd : cmd.payload.length = u₂.cmdSubmit.transferBufferLength.toNat := by
      rw [Server.cmdSubmit, hfixed₂, UsbipCmdSubmit.ofBytes_fixedBytes cmd.setup, hlen]
    obtain ⟨u₃, h₃, hu₃, hsame₃, hheader₃, hfixed₃, hpayload₃⟩ :=
      hu₂.readPayload hcmd hne hfits (Conn.skip_unread hunread₁)
    obtain ⟨v, hv, hu₄, hposted, hentries⟩ := hu₃.postSubmit
    have hsame := (hsame₁.trans hsame₂).trans hsame₃
    rw [Conn.skip_skip, Conn.skip_skip, ← List.length_append,
      ← List.length_append] at hu₄
    exact ⟨v, _, .head h₁ (.head h₂ (.head h₃ (.one hv))), hu₄, hposted.trans (by rw [hsame.1]),
      hentries.trans hsame.2, submitEvent_carries (hheader₃.trans (hheader₂.trans hheader₁))
        (hfixed₃.trans hfixed₂) hpayload₃⟩
  · have hnil : cmd.payload = [] := cmd.payload_of_not_out hout
    have hpc₂ : submitNext u₁.header (.ofBytes cmd.cmdSubmit.fixedBytes u₁.tcp.transferBuffer) =
        .postSubmit := by
      rw [hheader, UsbipCmdSubmit.ofBytes_fixedBytes cmd.setup, submitNext, if_neg hout]
    obtain ⟨u₂, h₂, hu₂, hsame₂, hheader₂, hfixed₂⟩ :=
      hu₁.readSubmit cmd.fixedBytes_length hpc₂ hunread₁
    obtain ⟨v, hv, hu₃, hposted, hentries⟩ := hu₂.postSubmit
    have hsame := hsame₁.trans hsame₂
    have hlen : (UrbCommand.submit cmd).encode.length =
        cmd.header.toBytes.length + cmd.cmdSubmit.fixedBytes.length := by
      rw [UrbCommand.encode, hnil, List.append_nil, List.length_append]
    rw [Conn.skip_skip, ← hlen] at hu₃
    exact ⟨v, _, .head h₁ (.head h₂ (.one hv)), hu₃, hposted.trans (by rw [hsame.1]),
      hentries.trans hsame.2, submitEvent_carries (hheader₂.trans hheader₁) hfixed₂
        (by rw [hnil, List.length_nil, List.take_zero])⟩

theorem Server.On.unlink (hu : u.On .urbHeader true .free c) {cmd : UnlinkCommand}
    (hunread : c.unread = (UrbCommand.unlink cmd).encode ++ rest) :
    ∃ v, Leads Server.proceed u v ∧
      v.On .urbHeader true .free (c.skip (UrbCommand.unlink cmd).encode.length) ∧
      SameNotes u v := by
  rw [UrbCommand.encode, List.append_assoc] at hunread
  have hpc : urbNext (.ofBytes cmd.header.toBytes) = .unlinkBody := by
    rw [UsbipHeaderBasic.ofBytes_toBytes, urbNext, cmd.command]
    rfl
  obtain ⟨u₁, h₁, hu₁, hsame₁, -⟩ := hu.readHeader rfl hpc hunread
  obtain ⟨u₂, h₂, hu₂, hsame₂⟩ := hu₁.readUnlink cmd.length (Conn.skip_unread hunread)
  obtain ⟨v, hv, hu₃, hsame₃⟩ := hu₂.answerUnlink
  rw [Conn.skip_skip, ← List.length_append] at hu₃
  exact ⟨v, .head h₁ (.head h₂ (.one hv)), hu₃, (hsame₁.trans hsame₂).trans hsame₃⟩

theorem Server.On.commands (hu : u.On .urbHeader true .free c) {cmds : List UrbCommand}
    (hunread : c.unread = cmds.flatMap UrbCommand.encode ++ rest) :
    ∃ v evs, Leads Server.proceed u v ∧
      v.On .urbHeader true .free (c.skip (cmds.flatMap UrbCommand.encode).length) ∧
      v.history.posted = u.history.posted ++ evs ∧
      v.history.urbEntries = u.history.urbEntries ∧
      List.Forall₂ Submit.Carries evs (cmds.filterMap UrbCommand.submitted) := by
  induction cmds generalizing u c with
  | nil => exact ⟨u, [], .refl u, hu, (List.append_nil _).symm, rfl, .nil⟩
  | cons cmd cmds ih =>
    rw [List.flatMap_cons, List.append_assoc] at hunread
    cases cmd with
    | submit cmd =>
      obtain ⟨v, ev, huv, hv, hposted, hentries, hcarries⟩ := hu.submit hunread
      obtain ⟨w, evs, hvw, hw, hposted', hentries', hcarries'⟩ := ih hv (Conn.skip_unread hunread)
      rw [Conn.skip_skip, ← List.length_append] at hw
      refine ⟨w, ev :: evs, huv.trans hvw, hw, ?_, hentries'.trans hentries,
        .cons hcarries hcarries'⟩
      rw [hposted', hposted, List.append_assoc, List.singleton_append]
    | unlink cmd =>
      obtain ⟨v, huv, hv, hsame⟩ := hu.unlink hunread
      obtain ⟨w, evs, hvw, hw, hposted, hentries, hcarries⟩ := ih hv (Conn.skip_unread hunread)
      rw [Conn.skip_skip, ← List.length_append] at hw
      exact ⟨w, evs, huv.trans hvw, hw, hposted.trans (by rw [hsame.1]), hentries.trans hsame.2,
        hcarries⟩

end Places

end UsbRepeater
