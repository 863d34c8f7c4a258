import UsbRepeater.Lib.Watch
import UsbRepeater.Carried
import UsbRepeater.ImportHandOver
import UsbRepeater.Client

/-! The data of a SUBMIT going out to the device, from the socket to the data buffer of its
transfer. Three sizes meet on the way: the receiver takes 1024 bytes, the event holds 1024, and
the data buffer 1000, of which the control path uses eight for the setup packet. -/
namespace UsbRepeater

open Schedule

structure SubmitBytes where
  body : Bytes
  payload : Bytes
  deriving DecidableEq

/-- The submit `do_recv` is reading, and those it has posted so far, by the number of the
event. -/
structure WireNote where
  current : SubmitBytes := ⟨[], []⟩
  posted : List SubmitBytes := []

def Server.incoming (s : Server) (n : ℕ) : Bytes := (s.conn.map fun c => c.unread.take n).getD []

def noteWire (s : Server) (a : Action) (m : WireNote) : WireNote :=
  match s.tcp.pc, a with
  | .submitBody, .tcp (.recv (.data n)) => { m with current := ⟨s.incoming n, []⟩ }
  | .payload, .tcp (.recv (.data n)) => { m with current := ⟨m.current.body, s.incoming n⟩ }
  | .postSubmit, .tcp (.post true) => { m with posted := m.posted ++ [m.current] }
  | _, _ => m

structure UsbipCmdSubmit.Received (cmd : UsbipCmdSubmit) (w : SubmitBytes) : Prop where
  body : w.body.length = cmdHeaderSize
  fields : cmd = .ofBytes w.body cmd.transferBuffer
  payload : cmd.transferBuffer.take w.payload.length = w.payload
  length : cmd.transferBufferLength.toNat = w.payload.length
  fits : w.payload.length ≤ 1024

/-- If it has data for the device, the event is among those noted, and holds what was received. -/
def Submit.NotedIn (ev : Submit) (posted : List SubmitBytes) : Prop :=
  ev.header.direction = 0 → ∃ w, posted[ev.id]? = some w ∧ ev.cmdSubmit.Received w

/-- The transfer carries what the client sent, and its data buffer is no longer than it was
allocated. A copy past the end would show as a longer one. -/
structure UsbTransfer.Faithful (t : UsbTransfer) (w : SubmitBytes) : Prop where
  setup : t.ev.header.ep = 0 → t.dataBuffer.take 8 = (w.body.drop 20).take 8
  data : (t.dataBuffer.drop (if t.ev.header.ep = 0 then 8 else 0)).take w.payload.length = w.payload
  inside : t.dataBuffer.length = dataBufferSize

/-- `t` is what the handler makes of its event in a data buffer that held `memory`. -/
inductive UsbTransfer.BuiltIn (memory : Bytes) : UsbTransfer → Prop
  | control (ev : Submit) (ret : UsbipRetSubmit) (devHdl : Option ℕ) (hep : ev.header.ep = 0) :
      BuiltIn memory (buildControl (allocTransfer ev ret memory devHdl))
  | bulk (ev : Submit) (ret : UsbipRetSubmit) (devHdl : Option ℕ) (lib : HostLib)
      (mps : List UInt32) (beyond : UInt32) (hep : ev.header.ep ≠ 0) :
      BuiltIn memory (buildBulk lib mps beyond (allocTransfer ev ret memory devHdl))

theorem UsbipCmdSubmit.Received.setup_eq {cmd : UsbipCmdSubmit} {w : SubmitBytes}
    (h : cmd.Received w) : cmd.setup = (w.body.drop 20).take 8 := by
  rw [h.fields]
  rfl

theorem UsbipCmdSubmit.Received.setup_length {cmd : UsbipCmdSubmit} {w : SubmitBytes}
    (h : cmd.Received w) : cmd.setup.length = 8 := by
  have hbody := h.body
  rw [h.setup_eq, List.length_take, List.length_drop, hbody]
  rfl

/-- On the control path the data are what the memory happened to hold. -/
theorem control_faithful_iff {ev : Submit} {w : SubmitBytes} (h : ev.cmdSubmit.Received w)
    (hep : ev.header.ep = 0) (ret : UsbipRetSubmit) (memory : Bytes) (devHdl : Option ℕ) :
    (buildControl (allocTransfer ev ret memory devHdl)).Faithful w ↔
      ((sized dataBufferSize memory).drop 8).take w.payload.length = w.payload := by
  have hbuffer : (buildControl (allocTransfer ev ret memory devHdl)).dataBuffer =
      overwrite ev.cmdSubmit.setup (sized dataBufferSize memory) := rfl
  have hdata : (overwrite ev.cmdSubmit.setup (sized dataBufferSize memory)).drop 8 =
      (sized dataBufferSize memory).drop 8 := by
    have hdrop := overwrite_drop ev.cmdSubmit.setup (sized dataBufferSize memory)
    rwa [h.setup_length] at hdrop
  constructor
  · intro hf
    have hd := hf.data
    have hzero : (buildControl (allocTransfer ev ret memory devHdl)).ev.header.ep = 0 := hep
    rw [if_pos hzero, hbuffer, hdata] at hd
    exact hd
  · intro hheap
    refine ⟨fun _ => ?_, ?_, ?_⟩
    · have htake := overwrite_take ev.cmdSubmit.setup (sized dataBufferSize memory)
      rw [h.setup_length] at htake
      rw [hbuffer, htake, h.setup_eq]
    · have hzero : (buildControl (allocTransfer ev ret memory devHdl)).ev.header.ep = 0 := hep
      rw [if_pos hzero, hbuffer, hdata]
      exact hheap
    · rw [hbuffer, overwrite_length, sized_length]
      rw [h.setup_length, sized_length]
      decide

/-- On the other path the data are the payload, and fit when it is no longer than the buffer. -/
theorem bulk_faithful_iff {ev : Submit} {w : SubmitBytes} (h : ev.cmdSubmit.Received w)
    (hep : ev.header.ep ≠ 0) (hout : ev.header.direction = 0) (ret : UsbipRetSubmit)
    (memory : Bytes) (devHdl : Option ℕ) (lib : HostLib) (mps : List UInt32) (beyond : UInt32) :
    (buildBulk lib mps beyond (allocTransfer ev ret memory devHdl)).Faithful w ↔
      w.payload.length ≤ dataBufferSize := by
  have hev : (buildBulk lib mps beyond (allocTransfer ev ret memory devHdl)).ev = ev :=
    buildBulk_ev lib mps beyond _
  have hbuffer : (buildBulk lib mps beyond (allocTransfer ev ret memory devHdl)).dataBuffer =
      overwrite w.payload (sized dataBufferSize memory) := by
    have hcopy := buildBulk_dataBuffer lib mps beyond
      (t := allocTransfer ev ret memory devHdl) hout
    have htake : ev.cmdSubmit.transferBuffer.take ev.cmdSubmit.transferBufferLength.toNat =
        w.payload := by
      rw [h.length, h.payload]
    exact hcopy.trans (congrArg (overwrite · (sized dataBufferSize memory)) htake)
  have hlen := overwrite_length_iff w.payload (sized dataBufferSize memory)
  rw [sized_length] at hlen
  constructor
  · intro hf
    have hinside := hf.inside
    rw [hbuffer] at hinside
    exact hlen.1 hinside
  · intro hle
    refine ⟨fun hzero => absurd (hev ▸ hzero) hep, ?_, ?_⟩
    · rw [hev, if_neg hep, List.drop_zero, hbuffer]
      exact overwrite_take _ _
    · rw [hbuffer]
      exact hlen.2 hle

theorem UsbTransfer.BuiltIn.faithful_iff {memory : Bytes} {t : UsbTransfer} {w : SubmitBytes}
    (h : t.BuiltIn memory) (hw : t.ev.cmdSubmit.Received w) (hout : t.ev.header.direction = 0) :
    t.Faithful w ↔
      if t.ev.header.ep = 0 then
        ((sized dataBufferSize memory).drop 8).take w.payload.length = w.payload
      else w.payload.length ≤ dataBufferSize := by
  cases h with
  | control ev ret devHdl hep =>
    have hzero : (buildControl (allocTransfer ev ret memory devHdl)).ev.header.ep = 0 := hep
    rw [if_pos hzero]
    exact control_faithful_iff hw hep ret memory devHdl
  | bulk ev ret devHdl lib mps beyond hep =>
    have hev : (buildBulk lib mps beyond (allocTransfer ev ret memory devHdl)).ev = ev :=
      buildBulk_ev lib mps beyond _
    rw [hev] at hw hout
    rw [hev, if_neg hep]
    exact bulk_faithful_iff hw hep hout ret memory devHdl lib mps beyond

def wireClaim (posted : List SubmitBytes) : PipelineClaim where
  queued ev := ev.NotedIn posted
  handler
    | .entry ev | .filled ev _ | .sktSet ev _ => ev.NotedIn posted
    | .allocated t =>
        t.ev.NotedIn posted ∧ ∃ ret memory devHdl, t = allocTransfer t.ev ret memory devHdl
    | .checked t =>
        t.ev.NotedIn posted ∧ t.ev.header.ep ≠ 0 ∧
          ∃ ret memory devHdl, t = allocTransfer t.ev ret memory devHdl
    | .built t => t.ev.NotedIn posted ∧ ∃ memory, t.BuiltIn memory
    | .accepted _ => True
  inFlight _ := True
  callback _ := True

theorem wireClaim_moves (posted : List SubmitBytes) (s : Server) :
    (wireClaim posted).Moves s where
  dispatch _ h := h
  fill _ _ h := h
  setSkt _ _ h := h
  alloc ev ret heap h := ⟨h, ret, heap, s.driver.devHdl, rfl⟩
  control t h hep := by
    obtain ⟨hm, ret, memory, devHdl, ht⟩ := h
    refine ⟨hm, memory, ?_⟩
    rw [ht]
    exact .control t.ev ret devHdl hep
  checked _ h hep := ⟨h.1, hep, h.2⟩
  build t beyond h := by
    obtain ⟨hm, hep, ret, memory, devHdl, ht⟩ := h
    refine ⟨by rwa [buildBulk_ev], memory, ?_⟩
    rw [ht]
    exact .bulk t.ev ret devHdl s.lib s.driver.mps beyond hep
  submit _ _ := trivial
  accepted _ _ _ := trivial
  complete _ _ _ := trivial

theorem Submit.NotedIn.append {ev : Submit} {posted : List SubmitBytes} (h : ev.NotedIn posted)
    (w : SubmitBytes) : ev.NotedIn (posted ++ [w]) := by
  intro hout
  obtain ⟨x, hx, hreceived⟩ := h hout
  have hlt := (List.getElem?_eq_some_iff.1 hx).1
  exact ⟨x, (List.getElem?_append_left hlt).trans hx, hreceived⟩

theorem Server.Carries.noted {s : Server} {posted : List SubmitBytes}
    (h : s.Carries (wireClaim posted)) (w : SubmitBytes) :
    s.Carries (wireClaim (posted ++ [w])) := by
  refine h.mono (fun ev hev => hev.append w) (fun x hx => ?_) (fun _ _ => trivial)
    fun _ _ => trivial
  cases x with
  | entry ev => exact Submit.NotedIn.append hx w
  | filled ev ret => exact Submit.NotedIn.append hx w
  | sktSet ev ret => exact Submit.NotedIn.append hx w
  | allocated t => exact ⟨hx.1.append w, hx.2⟩
  | checked t => exact ⟨hx.1.append w, hx.2⟩
  | built t => exact ⟨hx.1.append w, hx.2⟩
  | accepted ep => trivial

structure Server.Reads (s : Server) (w : SubmitBytes) : Prop where
  payload : s.tcp.pc = .payload →
    w.body.length = cmdHeaderSize ∧ s.tcp.cmdSubmit = w.body ∧ w.payload = []
  ready : s.tcp.pc = .postSubmit → s.header.direction = 0 → s.cmdSubmit.Received w

theorem Server.Reads.of_pc {s : Server} {w : SubmitBytes} (hpayload : s.tcp.pc ≠ .payload)
    (hready : s.tcp.pc ≠ .postSubmit) : s.Reads w :=
  ⟨fun h => absurd h hpayload, fun h => absurd h hready⟩

theorem submitNext_postSubmit {header : UsbipHeaderBasic} {cmd : UsbipCmdSubmit}
    (h : submitNext header cmd = .postSubmit) (hout : header.direction = 0) :
    cmd.transferBufferLength = 0 := by
  unfold submitNext at h
  split_ifs at h with hdata
  by_contra hne
  exact hdata ⟨hout, hne⟩

theorem sockRecv_incoming {s : Server} {conn : Option Conn} {want : ℕ} {r : RecvResult}
    {bytes : Bytes} (h : sockRecv s.conn s.tcp.sock want r = some (conn, .got bytes)) :
    (∃ n, r = .data n ∧ s.incoming n = bytes) ∨ r = .closed ∧ bytes = [] := by
  unfold sockRecv at h
  split at h
  · rename_i c n hc
    split_ifs at h
    cases h
    left
    refine ⟨n, rfl, ?_⟩
    rw [Server.incoming, (openOn_eq_some.1 hc).1]
    rfl
  · split_ifs at h
    cases h
    exact .inr ⟨rfl, rfl⟩
  · cases h
  · cases h
  · cases h

theorem noteWire_submitBody {s : Server} {m : WireNote} {n : ℕ} (hpc : s.tcp.pc = .submitBody) :
    noteWire s (.tcp (.recv (.data n))) m = { m with current := ⟨s.incoming n, []⟩ } := by
  simp only [noteWire, hpc]

theorem noteWire_payload {s : Server} {m : WireNote} {n : ℕ} (hpc : s.tcp.pc = .payload) :
    noteWire s (.tcp (.recv (.data n))) m =
      { m with current := ⟨m.current.body, s.incoming n⟩ } := by
  simp only [noteWire, hpc]

theorem noteWire_closed {s : Server} {m : WireNote} : noteWire s (.tcp (.recv .closed)) m = m := by
  unfold noteWire
  split
  · rename_i ha
    cases ha
  · rename_i ha
    cases ha
  · rename_i ha
    cases ha
  · rfl

theorem TcpStep.reads {s t : Server} {a : TcpAction} {m : WireNote} (h : TcpStep s a t)
    (hsize : s.tcp.Sized) (hfits : s.PayloadFits) (hs : s.Reads m.current) :
    t.Reads (noteWire s (.tcp a) m).current := by
  cases h with
  | submitBody r conn bytes hpc hrecv =>
    by_cases hlen : bytes.length = cmdHeaderSize
    · have hwhole : overwrite bytes s.tcp.cmdSubmit = bytes :=
        overwrite_full (hlen.trans hsize.cmdSubmit.symm)
      rcases sockRecv_incoming hrecv with ⟨n, rfl, hin⟩ | ⟨-, hnil⟩
      · rw [noteWire_submitBody hpc, hin]
        refine ⟨fun _ => ⟨hlen, hwhole, rfl⟩, fun hnext hout => ?_⟩
        simp only [Server.setTcp, if_pos hlen, hwhole] at hnext
        have hzero := submitNext_postSubmit hnext hout
        refine ⟨hlen, ?_, rfl, ?_, Nat.zero_le _⟩
        · simp only [Server.cmdSubmit, Server.setTcp, hwhole]
          rfl
        · simp only [Server.cmdSubmit, Server.setTcp, hwhole]
          exact congrArg UInt32.toNat hzero
      · rw [hnil] at hlen
        cases hlen
    · refine .of_pc ?_ ?_ <;> simp [Server.setTcp, if_neg hlen]
  | payload r conn bytes hpc hrecv =>
    obtain ⟨hbody, hlocal, hempty⟩ := hs.payload hpc
    have hnote : (noteWire s (.tcp (.recv r)) m).current = ⟨m.current.body, bytes⟩ := by
      obtain ⟨n, rfl, hin⟩ | ⟨rfl, rfl⟩ := sockRecv_incoming hrecv
      · rw [noteWire_payload hpc, hin]
      · rw [noteWire_closed, ← hempty]
    by_cases hlen : bytes.length = s.cmdSubmit.transferBufferLength.toNat
    · rw [hnote]
      refine ⟨fun hnext => ?_, fun _ _ => ⟨hbody, ?_, overwrite_take _ _, ?_, ?_⟩⟩
      · simp [Server.setTcp, if_pos hlen] at hnext
      · rw [← hlocal]
        rfl
      · exact hlen.symm
      · exact hlen.trans_le (hfits hpc)
    · refine .of_pc ?_ ?_ <;> simp [Server.setTcp, if_neg hlen]
  | outer _ => refine .of_pc ?_ ?_ <;> simp only [Server.goto] <;> split_ifs <;> simp
  | command r conn bytes _ hrecv hbytes =>
    refine .of_pc ?_ ?_ <;> simp only [Server.setTcp]
    · exact commandNext_elim s _ (by decide) (by decide) (by decide)
    · exact commandNext_elim s _ (by decide) (by decide) (by decide)
  | postCommand _ => refine .of_pc ?_ ?_ <;> simp only [Server.goto] <;> split_ifs <;> simp
  | postCommandFailed _ => refine .of_pc ?_ ?_ <;> simp only [Server.goto] <;> split_ifs <;> simp
  | importWait n _ => refine .of_pc ?_ ?_ <;> simp only [Server.goto] <;> split_ifs <;> simp
  | urbAgain r conn hpc hrecv => exact .of_pc (by simp [hpc]) (by simp [hpc])
  | urbHeader r conn bytes _ hrecv hbytes =>
    refine .of_pc ?_ ?_ <;> simp only [Server.setTcp]
    · exact urbNext_elim _ (by decide) (by decide) (by decide)
    · exact urbNext_elim _ (by decide) (by decide) (by decide)
  | acceptFailed stream hpc =>
    have hstay : (s.setTcp { s.tcp with sock := -1 }).tcp.pc = .accepting := hpc
    exact .of_pc (by simp [hstay]) (by simp [hstay])
  | _ => exact .of_pc (by intro h; cases h) (by intro h; cases h)

structure Server.Wired (s : Server) (m : WireNote) : Prop where
  sized : s.tcp.Sized ∧ s.PayloadFits
  reads : s.Reads m.current
  count : m.posted.length = s.history.posted.length
  carries : s.Carries (wireClaim m.posted)

theorem noteWire_posted {s : Server} {a : Action} {m : WireNote} :
    (a = .tcp (.post true) ∧ s.tcp.pc = .postSubmit →
      noteWire s a m = { m with posted := m.posted ++ [m.current] }) ∧
    (¬ (a = .tcp (.post true) ∧ s.tcp.pc = .postSubmit) → (noteWire s a m).posted = m.posted) := by
  constructor
  · rintro ⟨rfl, hpc⟩
    simp only [noteWire, hpc]
  · intro hno
    unfold noteWire
    split
    · rfl
    · rfl
    · rename_i hpc
      exact absurd ⟨rfl, hpc⟩ hno
    · rfl

theorem noteWire_current {s : Server} {a : Action} {m : WireNote} (ha : ∀ b, a ≠ .tcp b) :
    noteWire s a m = m := by
  unfold noteWire
  split
  · exact absurd rfl (ha _)
  · exact absurd rfl (ha _)
  · exact absurd rfl (ha _)
  · rfl

theorem step_wired {s t : Server} {a : Action} {m : WireNote} (hs : s.Wired m)
    (h : step s a = some t) : t.Wired (noteWire s a m) where
  sized := step_sized hs.sized h
  reads := by
    rcases step_tcp_or_other h with ⟨b, rfl, hstep⟩ | ⟨hother, heq⟩
    · exact hstep.reads hs.sized.1 hs.sized.2 hs.reads
    · rw [noteWire_current hother]
      obtain ⟨hpayload, hready⟩ := hs.reads
      unfold Server.header Server.cmdSubmit at hready
      refine ⟨by rwa [heq], ?_⟩
      unfold Server.header Server.cmdSubmit
      rwa [heq]
  count := by
    rcases step_posts h with ⟨ha, hpc, hposted⟩ | ⟨hno, hposted⟩
    · rw [noteWire_posted.1 ⟨ha, hpc⟩, hposted, List.length_append, List.length_append, hs.count]
      rfl
    · rw [noteWire_posted.2 hno, hposted, hs.count]
  carries := by
    by_cases hpost : a = .tcp (.post true) ∧ s.tcp.pc = .postSubmit
    · -- the event is numbered by its place among those noted
      rw [noteWire_posted.1 hpost]
      refine step_carries (wireClaim_moves _ s) (hs.carries.noted m.current) ?_ h
      intro _ hpc hout
      refine ⟨m.current, ?_, hs.reads.ready hpc hout⟩
      have hid : (submitEvent s).id = m.posted.length := hs.count.symm
      rw [hid, List.getElem?_append_right le_rfl, Nat.sub_self]
      rfl
    · rw [noteWire_posted.2 hpost]
      exact step_carries (wireClaim_moves _ s) hs.carries
        (fun ha hpc => absurd ⟨ha, hpc⟩ hpost) h

section Boot

variable {lib : HostLib} {devRecv header cmdSubmit transferBuffer cmdUnlink : Bytes}

theorem boot_wired :
    (Server.boot lib devRecv header cmdSubmit transferBuffer cmdUnlink).Wired {} where
  sized := (Reachable.boot lib devRecv header cmdSubmit transferBuffer cmdUnlink).sized
  reads := .of_pc nofun nofun
  count := rfl
  carries := boot_carries

/-- Every transfer with data that a handler has ready for the host library. On the control path
its data are right when the memory allocated happened to hold them, on the other when they fit. -/
theorem payload_faithful_iff {as : List Action} {t : Server} {m : WireNote} {j : ℕ}
    {tr : UsbTransfer}
    (h : exec (watch step noteWire)
      (.boot lib devRecv header cmdSubmit transferBuffer cmdUnlink, {}) as = some (t, m))
    (hj : t.readyTransfer j = some tr) (hout : tr.ev.header.direction = 0) :
    ∃ w memory, m.posted[tr.ev.id]? = some w ∧ tr.ev.cmdSubmit.Received w ∧ tr.BuiltIn memory ∧
      (tr.Faithful w ↔
        if tr.ev.header.ep = 0 then
          ((sized dataBufferSize memory).drop 8).take w.payload.length = w.payload
        else w.payload.length ≤ dataBufferSize) := by
  have hstep : ∀ s m a u, Server.Wired s m → True → step s a = some u →
      u.Wired (noteWire s a m) := fun s m a u hs _ hu => step_wired hs hu
  have hwired := watch_invariant hstep boot_wired
    (Always.of_forall (fun _ _ => trivial) _ _) h
  obtain ⟨l, hj⟩ := readyTransfer_eq_some.1 hj
  obtain ⟨hnoted, memory, hbuilt⟩ := hwired.carries.handler _ (List.mem_of_getElem? hj)
  obtain ⟨w, hw, hreceived⟩ := hnoted hout
  exact ⟨w, memory, hw, hreceived, hbuilt, hbuilt.faithful_iff hreceived hout⟩

end Boot

/-- A client that sets a report on the control endpoint: eight bytes of setup, one of data. -/
def setReport : UrbCommand :=
  .submit ⟨⟨usbipCmdSubmit, 7, 0x30002, 0, 0⟩,
    ⟨0, 1, 0, 0, 0, [0x21, 0x09, 0x00, 0x02, 0x00, 0x00, 0x01, 0x00], [0x02]⟩,
    rfl, rfl, .inr ⟨rfl, rfl, by decide⟩⟩

def outReport : UrbCommand :=
  .submit ⟨⟨usbipCmdSubmit, 7, 0x30002, 0, 2⟩,
    ⟨0, 3, 0, 0, 0, List.replicate 8 0, [0x01, 0x02, 0x03]⟩, rfl, rfl, .inr ⟨rfl, rfl, by decide⟩⟩

def sending (command : UrbCommand) (length : ℕ) (handling : List Action) : List Action :=
  keyboardEnumeration ++ importing 3 (importSession [command]).stream ++
    [.tcp (.recv (.data headerBasicSize)), .tcp (.recv (.data cmdHeaderSize)),
      .tcp (.recv (.data length)), .tcp (.post true)] ++ handling

def PayloadAlwaysFaithful : Prop :=
  ∀ as t m, exec (watch step noteWire) (coldBoot, {}) as = some (t, m) →
    ∀ j tr, t.readyTransfer j = some tr → tr.ev.header.direction = 0 →
      ∃ w, m.posted[tr.ev.id]? = some w ∧ tr.Faithful w

theorem set_report_not_copied : ¬ PayloadAlwaysFaithful := by
  intro hall
  have hrun : ((exec (watch step noteWire) (coldBoot, {})
      (sending setReport 1 ((handlingControl true).take 5))).bind fun x =>
        (x.1.readyTransfer 0).map fun tr => ((tr.ev.id, tr.ev.header.direction, tr.ev.header.ep),
          byteAt tr.dataBuffer 8, x.2.posted.map SubmitBytes.payload)) =
      some ((0, 0, 0), 0, [[0x02]]) := by
    decide +kernel
  obtain ⟨⟨t, m⟩, hexec, hready⟩ := Option.bind_eq_some_iff.1 hrun
  obtain ⟨tr, htr, hstate⟩ := Option.map_eq_some_iff.1 hready
  simp only [Prod.mk.injEq] at hstate
  obtain ⟨⟨hid, hout, hep⟩, hbyte, hposted⟩ := hstate
  obtain ⟨w, hw, hf⟩ := hall _ t m hexec 0 tr htr hout
  have hpayload : w.payload = [0x02] := by
    have hmap := congrArg (·[0]?) hposted
    rw [hid] at hw
    simpa [hw] using hmap
  have hdata := hf.data
  rw [if_pos hep, hpayload] at hdata
  have hfirst := congrArg (byteAt · 0) hdata
  have hat : byteAt ((tr.dataBuffer.drop 8).take 1) 0 = byteAt tr.dataBuffer 8 := by
    simp [byteAt]
  exact absurd (hat.symm.trans hfirst) (by rw [hbyte]; decide)

theorem payload_faithful_outReport :
    ∃ t m tr, exec (watch step noteWire) (coldBoot, {})
        (sending outReport 3 (handlingBulk.take 6)) = some (t, m) ∧
      t.readyTransfer 0 = some tr ∧
      ∃ w, m.posted[tr.ev.id]? = some w ∧ tr.Faithful w := by
  have hrun : ((exec (watch step noteWire) (coldBoot, {})
      (sending outReport 3 (handlingBulk.take 6))).bind fun x =>
        (x.1.readyTransfer 0).map fun tr => (tr.ev.id, tr.ev.header.direction, tr.ev.header.ep,
          x.2.posted.map SubmitBytes.payload)) =
      some (0, 0, 2, [[0x01, 0x02, 0x03]]) := by
    decide +kernel
  obtain ⟨⟨t, m⟩, hexec, hready⟩ := Option.bind_eq_some_iff.1 hrun
  obtain ⟨tr, htr, hstate⟩ := Option.map_eq_some_iff.1 hready
  simp only [Prod.mk.injEq] at hstate
  obtain ⟨hid, hout, hep, hposted⟩ := hstate
  obtain ⟨w, memory, hw, -, -, hiff⟩ := payload_faithful_iff hexec htr hout
  have hpayload : w.payload = [0x01, 0x02, 0x03] := by
    have hmap := congrArg (·[0]?) hposted
    rw [hid] at hw
    simpa [hw] using hmap
  refine ⟨t, m, tr, hexec, htr, w, hw, hiff.2 ?_⟩
  rw [hep, hpayload, if_neg (by decide)]
  decide

end UsbRepeater
