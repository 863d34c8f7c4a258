import UsbRepeater.DeviceList

/-! What is known of a state: all of it but the memory that nobody has written. Each step is taken
by what is known alone, which the operations on a state respect. -/
namespace UsbRepeater

def Submit.known (ev : Submit) : Submit :=
  { ev with cmdSubmit := { ev.cmdSubmit with transferBuffer := [] }, id := 0, conn := 0 }

def UsbipRetSubmit.known (r : UsbipRetSubmit) : UsbipRetSubmit := { r with transferBuffer := [] }

def UsbTransfer.known (t : UsbTransfer) : UsbTransfer :=
  { t with
    ev := t.ev.known
    context := t.context.known
    dataBuffer := List.replicate dataBufferSize 0
    numBytes := 0 }

/-- Of the data buffer the bytes that the device wrote are known. -/
def Callback.known (c : Callback) : Callback :=
  { c with
    transfer := { c.transfer.known with
      dataBuffer := c.transfer.dataBuffer.take (min c.actualNumBytes.toNat dataBufferSize) } }

def Handler2.known : Handler2 → Handler2
  | .entry ev => .entry ev.known
  | .filled ev ret => .filled ev.known ret.known
  | .sktSet ev ret => .sktSet ev.known ret.known
  | .allocated t => .allocated t.known
  | .checked t => .checked t.known
  | .built t => .built t.known
  | .accepted ep => .accepted ep

def Loop2.known (l : Loop2) : Loop2 where
  count := l.count
  queue := l.queue.map fun x => (x.1, x.2.known)
  handlers := l.handlers.map fun x => (x.1, x.2.known)

def TcpData.known (ev : TcpData) : TcpData :=
  { ev with header := [], offset := 0, recvBytes := 0 }

/-- The first eight bytes of `dev_import` are copied from `dev_recv` and not looked at. -/
def Handler1.known : Handler1 → Handler1
  | .idle => .idle
  | .devlist ev => .devlist ev.known
  | .importCopy ev => .importCopy ev.known
  | .importRecv ev devImport => .importRecv ev.known (List.replicate devImport.length 0)
  | .importBuild ev devImport =>
      .importBuild ev.known (List.replicate 8 0 ++ busIdOf devImport)
  | .importSend ev _ rep => .importSend ev.known [] rep
  | .importBusy ev _ rep => .importBusy ev.known [] rep

def Loop1.known (l : Loop1) : Loop1 := ⟨l.queue.map TcpData.known, l.handler.known⟩

def TcpPc.inCommand : TcpPc → Bool
  | .submitBody | .payload | .postSubmit | .unlinkBody | .unlinkReply => true
  | _ => false

def TcpPc.inSubmit : TcpPc → Bool
  | .payload | .postSubmit => true
  | _ => false

def TcpPc.inPost : TcpPc → Bool
  | .postCommand => true
  | _ => false

def TcpTask.known (t : TcpTask) : TcpTask where
  pc := t.pc
  sock := t.sock
  devRecv := if t.pc.inPost then t.devRecv else []
  header := if t.pc.inCommand then t.header else []
  cmdSubmit := if t.pc.inSubmit then t.cmdSubmit else []
  transferBuffer := []
  cmdUnlink := []

def Sent.known (m : Sent) : Sent := { m with message := .repDevlist }

def History.known (h : History) : History :=
  { sent := h.sent.map Sent.known, accepted := h.accepted }

/-- A state without the memory that its replies should not be made of, and without the notes of
its past. -/
def Server.known (s : Server) : Server where
  lib := s.lib
  conn := s.conn
  tcp := s.tcp.known
  deviceBusy := s.deviceBusy
  loopHandle := s.loopHandle
  loop1 := s.loop1.known
  ep1TransferPending := s.ep1TransferPending
  ep2TransferPending := s.ep2TransferPending
  skt := s.skt
  loop2 := s.loop2.known
  inFlight := s.inFlight.map UsbTransfer.known
  callback := s.callback.map Callback.known
  driver := s.driver
  heap := {}
  history := s.history.known
  crashed := s.crashed

def Loop1Action.known : Loop1Action → Loop1Action
  | .devlist _ r => .devlist zeroIntfs r
  | a => a

def Loop2Action.known : Loop2Action → Loop2Action
  | .malloc j heap => .malloc j (heap.map fun _ => [])
  | .alloc j heap => .alloc j (heap.map fun _ => [])
  | .build j _ => .build j 0
  | a => a

def HostAction.known : HostAction → HostAction
  | .complete i status n data => .complete i status n (data.take n.toNat)
  | .clear => .clear
  | .send _ r => .send [] r

def Action.known : Action → Action
  | .loop1 a => .loop1 a.known
  | .loop2 a => .loop2 a.known
  | .host a => .host a.known
  | a => a

theorem known_eq {s t : Server} (hlib : s.lib = t.lib) (hconn : s.conn = t.conn)
    (htcp : s.tcp.known = t.tcp.known) (hbusy : s.deviceBusy = t.deviceBusy)
    (hloop : s.loopHandle = t.loopHandle) (hloop1 : s.loop1.known = t.loop1.known)
    (hep1 : s.ep1TransferPending = t.ep1TransferPending)
    (hep2 : s.ep2TransferPending = t.ep2TransferPending) (hskt : s.skt = t.skt)
    (hloop2 : s.loop2.known = t.loop2.known)
    (hinFlight : s.inFlight.map UsbTransfer.known = t.inFlight.map UsbTransfer.known)
    (hcallback : s.callback.map Callback.known = t.callback.map Callback.known)
    (hdriver : s.driver = t.driver) (hhistory : s.history.known = t.history.known)
    (hcrashed : s.crashed = t.crashed) : s.known = t.known := by
  rw [Server.known, Server.known, hlib, hconn, htcp, hbusy, hloop, hloop1, hep1, hep2, hskt,
    hloop2, hinFlight, hcallback, hdriver, hhistory, hcrashed]

@[simp] theorem Submit.known_known (ev : Submit) : ev.known.known = ev.known := rfl

@[simp] theorem UsbipRetSubmit.known_known (r : UsbipRetSubmit) : r.known.known = r.known := rfl

@[simp] theorem UsbTransfer.known_known (t : UsbTransfer) : t.known.known = t.known := rfl

@[simp] theorem TcpData.known_known (ev : TcpData) : ev.known.known = ev.known := rfl

@[simp] theorem Sent.known_known (m : Sent) : m.known.known = m.known := rfl

@[simp] theorem Callback.known_known (c : Callback) : c.known.known = c.known := by
  simp only [Callback.known, List.take_take, min_self]
  rfl

@[simp] theorem Handler2.known_known (h : Handler2) : h.known.known = h.known := by
  cases h <;> rfl

@[simp] theorem Handler1.known_known (h : Handler1) : h.known.known = h.known := by
  cases h with
  | importRecv ev devImport => simp [Handler1.known]
  | importBuild ev devImport => simp [Handler1.known, busIdOf]
  | _ => rfl

@[simp] theorem TcpTask.known_known (t : TcpTask) : t.known.known = t.known := by
  simp only [TcpTask.known, TcpTask.mk.injEq, true_and, and_true]
  refine ⟨?_, ?_, ?_⟩ <;> split_ifs <;> rfl

@[simp] theorem Loop1.known_known (l : Loop1) : l.known.known = l.known := by
  simp [Loop1.known, Function.comp_def]

@[simp] theorem Loop2.known_known (l : Loop2) : l.known.known = l.known := by
  simp [Loop2.known, Function.comp_def]

@[simp] theorem History.known_known (h : History) : h.known.known = h.known := by
  simp [History.known, Function.comp_def]

@[simp] theorem map_known_inFlight (ts : List UsbTransfer) :
    (ts.map UsbTransfer.known).map UsbTransfer.known = ts.map UsbTransfer.known := by
  simp [Function.comp_def]

@[simp] theorem map_known_callback (c : Option Callback) :
    (c.map Callback.known).map Callback.known = c.map Callback.known := by
  simp [Function.comp_def]

theorem Server.known_known (s : Server) : s.known.known = s.known := by
  simp only [Server.known, TcpTask.known_known, Loop1.known_known, Loop2.known_known,
    map_known_inFlight, map_known_callback, History.known_known]

theorem known_emit (s : Server) (m : Sent) : (s.emit m).known = s.known.emit m.known := by
  simp only [Server.emit, Server.known, History.known, List.map_append, List.map_cons,
    List.map_nil]

theorem known_handle1 (s : Server) (h : Handler1) :
    (s.handle1 h).known = s.known.handle1 h.known := rfl

theorem handle1_known (s : Server) {h h' : Handler1} (hh : h.known = h'.known) :
    (s.known.handle1 h).known = (s.handle1 h').known := by
  rw [known_handle1, known_handle1, Server.known_known, hh]

theorem known_post1 (s : Server) (ev : TcpData) (commands : List TcpData) :
    Server.known { s with
      loop1 := { s.loop1 with queue := s.loop1.queue ++ [ev] }
      history := { s.history with commands := commands } } =
    { s.known with
      loop1 := { s.known.loop1 with queue := s.known.loop1.queue ++ [ev.known] } } := by
  simp only [Server.known, Loop1.known, List.map_append, List.map_cons, List.map_nil]
  rfl

theorem known_post2 (s : Server) (l : ℕ) (ev : Submit) (posted : List Submit) :
    Server.known { s with
      loop2 := { s.loop2 with queue := s.loop2.queue ++ [(l, ev)] }
      history := { s.history with posted := posted } } =
    { s.known with
      loop2 := { s.known.loop2 with queue := s.known.loop2.queue ++ [(l, ev.known)] } } := by
  simp only [Server.known, Loop2.known, List.map_append, List.map_cons, List.map_nil]
  rfl

theorem TcpTask.known_eq {t t' : TcpTask} (hpc : t.pc = t'.pc) (hsock : t.sock = t'.sock)
    (hpost : t.pc.inPost = true → t.devRecv = t'.devRecv)
    (hcommand : t.pc.inCommand = true → t.header = t'.header)
    (hsubmit : t.pc.inSubmit = true → t.cmdSubmit = t'.cmdSubmit) : t.known = t'.known := by
  simp only [TcpTask.known, ← hpc, hsock, TcpTask.mk.injEq, true_and, and_true]
  refine ⟨?_, ?_, ?_⟩
  · split_ifs with h
    · exact hpost h
    · rfl
  · split_ifs with h
    · exact hcommand h
    · rfl
  · split_ifs with h
    · exact hsubmit h
    · rfl

theorem setTcp_known (s : Server) {t t' : TcpTask} (h : t.known = t'.known) :
    (s.known.setTcp t).known = (s.setTcp t').known :=
  UsbRepeater.known_eq rfl rfl h rfl rfl (Loop1.known_known _) rfl rfl rfl (Loop2.known_known _)
    (map_known_inFlight _) (map_known_callback _) rfl (History.known_known _) rfl

theorem took_known (s : Server) (conn : Option Conn) (n : ℕ) {t t' : TcpTask}
    (h : t.known = t'.known) :
    ((s.known.took conn n).setTcp t).known = ((s.took conn n).setTcp t').known :=
  congrArg (fun u : Server => { u with conn := conn }) (setTcp_known s h)

theorem goto_known (s : Server) {pc : TcpPc} (hpost : pc.inPost = false)
    (hcommand : pc.inCommand = false) (hsubmit : pc.inSubmit = false) :
    (s.known.goto pc).known = (s.goto pc).known := by
  refine setTcp_known s (TcpTask.known_eq rfl rfl (fun h => ?_) (fun h => ?_) fun h => ?_)
  · rw [hpost] at h; cases h
  · rw [hcommand] at h; cases h
  · rw [hsubmit] at h; cases h

theorem map_modify_of_comm {α β : Type*} (f : α → β) (g : α → α) (g' : β → β)
    (h : ∀ a, f (g a) = g' (f a)) (l : List α) (j : ℕ) :
    (l.modify j g).map f = (l.map f).modify j g' := by
  induction l generalizing j with
  | nil => cases j <;> rfl
  | cons a l ih =>
    cases j with
    | zero => simp [h]
    | succ j => simp [ih]

theorem known_setHandler2 (s : Server) (j : ℕ) (h : Handler2) :
    (s.setHandler2 j h).known = s.known.setHandler2 j h.known := by
  have hhandlers := map_modify_of_comm (fun x : ℕ × Handler2 => (x.1, x.2.known))
    (fun x => (x.1, h)) (fun x => (x.1, h.known)) (fun _ => rfl) s.loop2.handlers j
  simp only [Server.setHandler2, Server.known, Loop2.known, hhandlers]

theorem known_endHandler2 (s : Server) (j : ℕ) :
    (s.endHandler2 j).known = s.known.endHandler2 j := by
  simp only [Server.endHandler2, Server.known, Loop2.known, List.eraseIdx_map]

theorem setHandler2_known (s : Server) (j : ℕ) {h h' : Handler2} (hh : h.known = h'.known) :
    (s.known.setHandler2 j h).known = (s.setHandler2 j h').known := by
  rw [known_setHandler2, known_setHandler2, Server.known_known, hh]

theorem endHandler2_known (s : Server) (j : ℕ) :
    (s.known.endHandler2 j).known = (s.endHandler2 j).known := by
  rw [known_endHandler2, known_endHandler2, Server.known_known]

/-- What lies behind the table of packet sizes gets no further than the length of the transfer. -/
theorem buildBulk_known (lib : HostLib) (mps : List UInt32) (beyond : UInt32) (t : UsbTransfer) :
    (buildBulk lib mps 0 t.known).known = (buildBulk lib mps beyond t).known := by
  have hdir : t.known.ev.header.direction = t.ev.header.direction := rfl
  have hframe : t.known.ev.cmdSubmit.startFrame = t.ev.cmdSubmit.startFrame := rfl
  unfold buildBulk
  dsimp only
  rw [hdir, hframe]
  split_ifs <;> rfl

theorem known_deliver2 (s : Server) (i l : ℕ) (ev : Submit) :
    Server.known { s with
      loop2 := { s.loop2 with
        queue := s.loop2.queue.eraseIdx i
        handlers := s.loop2.handlers ++ [(l, .entry ev)] } } =
    { s.known with
      loop2 := { s.known.loop2 with
        queue := s.known.loop2.queue.eraseIdx i
        handlers := s.known.loop2.handlers ++ [(l, .entry ev.known)] } } := by
  simp only [Server.known, Loop2.known, List.eraseIdx_map, List.map_append, List.map_cons,
    List.map_nil, Handler2.known]

theorem usbIpEventHandler2_known (s : Server) (a : Loop2Action) :
    (usbIpEventHandler2 s.known a.known).map Server.known =
      (usbIpEventHandler2 s a).map Server.known := by
  have hqueue : ∀ i : ℕ, s.known.loop2.queue[i]? =
      s.loop2.queue[i]?.map fun x => (x.1, x.2.known) := fun i => List.getElem?_map
  have hhandlers : ∀ j : ℕ, s.known.loop2.handlers[j]? =
      s.loop2.handlers[j]?.map fun x => (x.1, x.2.known) := fun j => List.getElem?_map
  cases a with
  | dispatch i =>
    simp only [Loop2Action.known, usbIpEventHandler2, hqueue]
    rcases s.loop2.queue[i]? with _ | ⟨l, ev⟩
    · rfl
    · have hguard : ((s.known.loop2.queue.take i).all (fun x => x.1 ≠ l) ∧
          s.known.loop2.handlers.all (fun x => x.1 ≠ l)) =
            ((s.loop2.queue.take i).all (fun x => x.1 ≠ l) ∧
              s.loop2.handlers.all (fun x => x.1 ≠ l)) := by
        simp only [Server.known, Loop2.known, ← List.map_take, List.all_map, Function.comp_def]
      simp only [Option.map_some, hguard]
      split_ifs
      · simp only [Option.map_some, known_deliver2, Server.known_known, Submit.known_known]
      · rfl
  | malloc j heap | alloc j heap =>
    simp only [Loop2Action.known, usbIpEventHandler2, hhandlers]
    rcases s.loop2.handlers[j]? with _ | ⟨l, h⟩
    · rfl
    · cases h <;> cases heap <;> try rfl
      · exact congrArg some (endHandler2_known s j)
      · exact congrArg some (setHandler2_known s j rfl)
  | setSkt j =>
    simp only [Loop2Action.known, usbIpEventHandler2, hhandlers]
    rcases s.loop2.handlers[j]? with _ | ⟨l, h⟩
    · rfl
    · cases h <;> try rfl
      case filled ev ret =>
        have hset : (s.known.setHandler2 j (.sktSet ev.known ret.known)).known =
            (s.setHandler2 j (.sktSet ev ret)).known := setHandler2_known s j rfl
        exact congrArg (fun u : Server => some { u with skt := ev.sock }) hset
  | check j =>
    simp only [Loop2Action.known, usbIpEventHandler2, hhandlers]
    rcases s.loop2.handlers[j]? with _ | ⟨l, h⟩
    · rfl
    · cases h <;> try rfl
      case allocated t =>
        have hep : t.known.ev.header.ep = t.ev.header.ep := rfl
        have hpending : s.known.pending t.ev.header.ep = s.pending t.ev.header.ep := rfl
        simp only [Option.map_some, Handler2.known, hep, hpending]
        split_ifs
        · exact congrArg some (setHandler2_known s j rfl)
        · exact congrArg some (endHandler2_known s j)
        · exact congrArg some (setHandler2_known s j rfl)
  | build j beyond =>
    simp only [Loop2Action.known, usbIpEventHandler2, hhandlers]
    rcases s.loop2.handlers[j]? with _ | ⟨l, h⟩
    · rfl
    · cases h <;> try rfl
      case checked t =>
        have hbuild := buildBulk_known s.lib s.driver.mps beyond t
        exact congrArg some (setHandler2_known s j (congrArg Handler2.built hbuild))
  | submit j accepted =>
    simp only [Loop2Action.known, usbIpEventHandler2, hhandlers]
    rcases s.loop2.handlers[j]? with _ | ⟨l, h⟩
    · rfl
    · cases h <;> try rfl
      case built t =>
        have htaken : ({ s.known with inFlight := s.known.inFlight ++ [t.known] } : Server) =
            Server.known { s with inFlight := s.inFlight ++ [t] } := by
          simp only [Server.known, List.map_append, List.map_cons, List.map_nil]
        have hctrl : t.known.control = t.control := rfl
        simp only [Option.map_some, Handler2.known, htaken, hctrl]
        split_ifs
        · exact congrArg some (endHandler2_known _ j)
        · exact congrArg some (setHandler2_known _ j rfl)
        · exact congrArg some (endHandler2_known s j)
  | setPending j =>
    simp only [Loop2Action.known, usbIpEventHandler2, hhandlers]
    rcases s.loop2.handlers[j]? with _ | ⟨l, h⟩
    · rfl
    · cases h <;> try rfl
      case accepted ep =>
        exact congrArg (fun u : Server => some { u with
          ep1TransferPending := s.ep1TransferPending || ep == 1
          ep2TransferPending := s.ep2TransferPending || ep == 2 }) (endHandler2_known s j)

end UsbRepeater
