import UsbRepeater.Lib.TwoRuns
import UsbRepeater.InterfaceTable
import UsbRepeater.ImportHandOver
import UsbRepeater.UrbPhase
import UsbRepeater.KnownState

/-! What memory happens to hold must not get into a reply. Two runs that differ only in the stack
arrays, the blocks `malloc` returns and the bytes behind those a device wrote are compared by what
is known of their states. -/
namespace UsbRepeater

open Schedule

def Server.frames (s : Server) : List Bytes := s.history.sent.map Sent.frame

/-- The device has written all that the reply takes from the data buffer. -/
def Callback.Written (c : Callback) : Prop :=
  c.transfer.control = false → c.transfer.ev.header.direction ≠ 0 →
    (c.transfer.ev.cmdSubmit.transferBufferLength.toNat : ℤ) ≤ c.actualNumBytes

/-- At most ten interfaces are listed, and transfers fit into their data buffers. -/
def InScope (s : Server) : Action → Prop
  | .loop1 (.devlist stack _) => stack.length = maxInterfaces ∧
      ∀ config ∈ s.driver.configDesc, config.val.bNumInterfaces.toNat ≤ maxInterfaces
  | .host (.send _ _) => ∀ c ∈ s.callback, c.actualNumBytes ≤ dataBufferSize ∧
      c.transfer.ev.cmdSubmit.transferBufferLength.toNat ≤ dataBufferSize
  | _ => True

/-- A device list has all ten interfaces, the data of a reply have been written, and the head of
a command arrives whole. -/
def FillsReplies (s : Server) : Action → Prop
  | .tcp (.recv (.data n)) => s.tcp.pc = .command ∨ s.tcp.pc = .urbHeader → n = s.wanted
  | .loop1 (.devlist _ _) => s.driver.devDesc.isSome = true →
      ∀ config ∈ s.driver.configDesc, config.val.bNumInterfaces.toNat = maxInterfaces
  | .host (.send _ _) => ∀ c ∈ s.callback, c.Written
  | _ => True

instance (s : Server) : ∀ a, Decidable (InScope s a)
  | .loop1 (.devlist stack _) =>
    inferInstanceAs (Decidable (stack.length = maxInterfaces ∧
      ∀ config ∈ s.driver.configDesc, config.val.bNumInterfaces.toNat ≤ maxInterfaces))
  | .host (.send _ _) =>
    inferInstanceAs (Decidable (∀ c ∈ s.callback, c.actualNumBytes ≤ dataBufferSize ∧
      c.transfer.ev.cmdSubmit.transferBufferLength.toNat ≤ dataBufferSize))
  | .loop1 .dispatch | .loop1 .run | .loop1 (.recv _) | .loop1 (.send _)
  | .host (.complete _ _ _ _) | .host .clear | .tcp _ | .loop2 _ | .driver _ => isTrue trivial

instance (c : Callback) : Decidable c.Written :=
  inferInstanceAs (Decidable (c.transfer.control = false → c.transfer.ev.header.direction ≠ 0 →
    (c.transfer.ev.cmdSubmit.transferBufferLength.toNat : ℤ) ≤ c.actualNumBytes))

instance (s : Server) : ∀ a, Decidable (FillsReplies s a)
  | .tcp (.recv (.data n)) =>
    inferInstanceAs (Decidable (s.tcp.pc = .command ∨ s.tcp.pc = .urbHeader → n = s.wanted))
  | .loop1 (.devlist _ _) =>
    inferInstanceAs (Decidable (s.driver.devDesc.isSome = true →
      ∀ config ∈ s.driver.configDesc, config.val.bNumInterfaces.toNat = maxInterfaces))
  | .host (.send _ _) => inferInstanceAs (Decidable (∀ c ∈ s.callback, c.Written))
  | .tcp (.recv .closed) | .tcp (.recv .timeout) | .tcp (.recv .error) | .tcp .run
  | .tcp (.accept _ _) | .tcp (.post _) | .tcp (.send _) | .loop1 .dispatch | .loop1 .run
  | .loop1 (.recv _) | .loop1 (.send _) | .loop2 _ | .host (.complete _ _ _ _) | .host .clear
  | .driver _ => isTrue trivial

def Callback.data (c : Callback) (heap : Bytes) : Bytes :=
  if c.transfer.control then
    sized (controlDataLen c.status c.actualNumBytes).toNat
      ((c.transfer.dataBuffer ++ heap).drop 8)
  else sized c.transfer.context.actualLength.toNat ((c.transfer.dataBuffer ++ heap).drop 0)

/-- An IN reply announces the data copied, whatever else its buffer held. -/
theorem Callback.reply_data {c : Callback} (hin : c.transfer.context.base.direction ≠ 0)
    (hn : c.actualNumBytes ≤ 1000) (heap : Bytes) :
    (c.reply heap).transferBuffer.take (c.reply heap).actualLength.toNat = c.data heap := by
  have htake : ∀ {m : ℕ} (data old : Bytes), m = data.length →
      (overwrite data old).take m = data := by
    rintro m data old rfl
    exact overwrite_take data old
  unfold Callback.reply Callback.data
  split_ifs with hctrl
  · obtain ⟨hlow, hhigh⟩ := controlDataLen_bounds c.status hn
    refine htake _ _ ?_
    rw [sized_length]
    exact ofInt32_toNat hlow hhigh
  · rw [bulkReply, if_pos hin]
    exact htake _ _ (sized_length _ _).symm

theorem Callback.data_known {c : Callback} (hok : c.transfer.Ok)
    (hbuffer : dataBufferSize ≤ c.transfer.dataBuffer.length)
    (hn : c.actualNumBytes ≤ dataBufferSize)
    (hlen : c.transfer.ev.cmdSubmit.transferBufferLength.toNat ≤ dataBufferSize)
    (hin : c.transfer.ev.header.direction ≠ 0) (hwritten : c.Written) (heap : Bytes) :
    c.known.data [] = c.data heap := by
  have hctrl : c.known.transfer.control = c.transfer.control := rfl
  rw [Callback.data, Callback.data, hctrl]
  split_ifs with hcontrol
  · by_cases hcomplete : c.status = .completed ∧ 8 ≤ c.actualNumBytes
    · refine sized_of_written ?_ ?_ heap []
      · show 8 + (controlDataLen c.status c.actualNumBytes).toNat ≤
          min c.actualNumBytes.toNat dataBufferSize
        rw [controlDataLen, if_pos hcomplete]
        omega
      · omega
    · have hzero : controlDataLen c.status c.actualNumBytes = 0 := if_neg hcomplete
      have hzero' : controlDataLen c.known.status c.known.actualNumBytes = 0 := if_neg hcomplete
      rw [hzero, hzero']
      rfl
  · have hcount := hwritten (Bool.eq_false_iff.2 hcontrol) hin
    refine sized_of_written ?_ ?_ heap []
    · have hlength : c.known.transfer.context.actualLength =
          c.transfer.ev.cmdSubmit.transferBufferLength := hok.context.actualLength
      rw [Nat.zero_add, hlength]
      omega
    · omega

theorem Callback.headBytes_known (c : Callback) (heap : Bytes) :
    (c.known.reply []).headBytes = (c.reply heap).headBytes := by
  have hctrl : c.known.transfer.control = c.transfer.control := rfl
  have hdir : c.known.transfer.context.base.direction = c.transfer.context.base.direction := rfl
  unfold Callback.reply bulkReply
  rw [hctrl, hdir]
  split_ifs <;> rfl

theorem Callback.frame_known {c : Callback} (hok : c.transfer.Ok)
    (hbuffer : dataBufferSize ≤ c.transfer.dataBuffer.length)
    (hn : c.actualNumBytes ≤ dataBufferSize)
    (hlen : c.transfer.ev.cmdSubmit.transferBufferLength.toNat ≤ dataBufferSize)
    (hwritten : c.Written) (heap : Bytes) : c.known.frame [] = c.frame heap := by
  have hknown : c.known.transfer.Ok :=
    ⟨⟨hok.context.base, hok.context.actualLength, hok.context.padding⟩, hok.control⟩
  have hev : c.known.transfer.ev.header = c.transfer.ev.header := rfl
  rw [Callback.frame_eq hok hn (fun _ => hlen), Callback.frame_eq hknown hn (fun _ => hlen),
    Callback.headBytes_known, hev]
  split_ifs with hout
  · rfl
  · have hin : c.transfer.context.base.direction ≠ 0 := by
      rw [hok.context.base]
      exact hout
    rw [Callback.reply_data hin hn, Callback.reply_data (c := c.known) hin hn,
      Callback.data_known hok hbuffer hn hlen hout hwritten]

theorem UsbTransfer.Made.buffer_le {lib : HostLib} {mps : List UInt32} {t : UsbTransfer}
    (h : t.Made lib mps) : dataBufferSize ≤ t.dataBuffer.length := by
  by_cases hin : t.ev.header.ep = 0 ∨ t.ev.header.direction ≠ 0
  · exact (h.regions.data hin).ge
  · rw [not_or, not_not] at hin
    cases h with
    | control ev reply memory devHdl hep hsetup => exact absurd hep hin.1
    | bulk ev reply memory devHdl beyond hep =>
      have hout : (allocated ev reply memory devHdl).ev.header.direction = 0 := by
        rw [← buildBulk_ev lib mps beyond]
        exact hin.2
      have hmemory : (allocated ev reply memory devHdl).dataBuffer.length = dataBufferSize :=
        sized_length _ _
      rw [buildBulk_dataBuffer lib mps beyond hout, overwrite, List.length_append,
        List.length_drop]
      omega

theorem callback_known {t : UsbTransfer} (hbuffer : dataBufferSize ≤ t.dataBuffer.length)
    (status : TransferStatus) (n : ℤ) (data : Bytes) :
    Callback.known ⟨{ t.known with
        dataBuffer := sized t.known.dataBuffer.length (data.take n.toNat) }, status, n, false⟩ =
      Callback.known
        ⟨{ t with dataBuffer := sized t.dataBuffer.length data }, status, n, false⟩ := by
  have hlen : t.known.dataBuffer.length = dataBufferSize := List.length_replicate
  have hdata : (sized t.known.dataBuffer.length (data.take n.toNat)).take
      (min n.toNat dataBufferSize) =
        (sized t.dataBuffer.length data).take (min n.toNat dataBufferSize) := by
    rw [take_sized (by omega), take_sized (by omega), sized_take (by omega)]
  simp only [Callback.known, hdata]
  rfl

theorem known_complete (s : Server) (i : ℕ) (c : Callback) :
    Server.known { s with inFlight := s.inFlight.eraseIdx i, callback := some c } =
      { s.known with inFlight := s.known.inFlight.eraseIdx i, callback := some c.known } := by
  simp only [Server.known, List.eraseIdx_map, Option.map_some]

theorem known_endCallback (s : Server) (ev ev' : Submit) :
    (s.known.endCallback ev).known = (s.endCallback ev').known := by
  have hone : ∀ (u : Server) (ev : Submit),
      (u.endCallback ev).known = { u.known with callback := none } := fun _ _ => rfl
  rw [hone, hone, Server.known_known]

theorem transferCallback_known {s : Server} {a : HostAction} (hs : Reachable s)
    (hscope : InScope s (.host a)) (hfill : FillsReplies s (.host a)) :
    (transferCallback s.known a.known).map Server.known =
      (transferCallback s a).map Server.known := by
  have hcallback : s.known.callback = s.callback.map Callback.known := rfl
  cases hc : s.callback with
  | none =>
    rw [hc, Option.map_none] at hcallback
    cases a with
    | complete i status n data =>
      have hinFlight : s.known.inFlight[i]? = s.inFlight[i]?.map UsbTransfer.known :=
        List.getElem?_map
      have hpc : s.known.driver.pc = s.driver.pc := rfl
      simp only [HostAction.known, transferCallback, hc, hcallback, hinFlight, hpc]
      cases ht : s.inFlight[i]? with
      | none => rfl
      | some t =>
        obtain ⟨mps, -, hmade⟩ := hs.made.inFlight t (List.mem_of_getElem? ht)
        simp only [Option.map_some]
        split_ifs
        · simp only [Option.map_some, known_complete, Server.known_known,
            callback_known hmade.buffer_le]
        · rfl
    | clear => simp only [HostAction.known, transferCallback, hc, hcallback, Option.map_none]
    | send heap r => simp only [HostAction.known, transferCallback, hc, hcallback, Option.map_none]
  | some c =>
    rw [hc, Option.map_some] at hcallback
    cases a with
    | complete i status n data =>
      simp only [HostAction.known, transferCallback, hc, hcallback, Option.map_none]
    | clear =>
      have hcleared : c.known.cleared = c.cleared := rfl
      have hdone : Callback.known { c.known with cleared := true } =
          Callback.known { c with cleared := true } :=
        congrArg (fun c : Callback => { c with cleared := true }) (Callback.known_known c)
      simp only [HostAction.known, transferCallback, hc, hcallback, hcleared]
      split_ifs
      · rfl
      · exact congrArg some (known_eq rfl rfl (TcpTask.known_known _) rfl rfl
          (Loop1.known_known _) rfl rfl rfl (Loop2.known_known _) (map_known_inFlight _)
          (congrArg some hdone)
          rfl (History.known_known _) rfl)
    | send heap r =>
      obtain ⟨mps, -, made, data, hmade, hran⟩ := hs.made.callback c hc
      have hbuffer : dataBufferSize ≤ c.transfer.dataBuffer.length := by
        rw [hran, sized_length]
        exact hmade.buffer_le
      obtain ⟨hn, hlen⟩ := hscope c hc
      have hframe := Callback.frame_known (hs.contextsOk.callback c hc) hbuffer hn hlen
        (hfill c hc) heap
      have hcleared : c.known.cleared = c.cleared := rfl
      have hskt : s.known.skt = s.skt := rfl
      have hconn : s.known.conn = s.conn := rfl
      simp only [HostAction.known, transferCallback, hc, hcallback, hcleared, hskt, hconn, hframe]
      split_ifs
      · exact congrArg some (known_endCallback s c.known.transfer.ev c.transfer.ev)
      · simp only [Option.map_map]
        refine Option.map_congr fun o _ => ?_
        rcases o with _ | ⟨conn, n⟩
        · exact known_endCallback s c.known.transfer.ev c.transfer.ev
        · simp only [Function.comp_apply, known_emit]
          exact congrArg (fun u : Server => u.emit ⟨conn, .repDevlist, c.frame heap, n⟩)
            (known_endCallback s c.known.transfer.ev c.transfer.ev)
      · rfl

theorem deliver1_known (ev : TcpData) : deliver1 ev.known = (deliver1 ev).known := by
  have hid : ev.known.eventId = ev.eventId := rfl
  rw [deliver1, deliver1, hid]
  split_ifs <;> rfl

/-- A list with ten interfaces, and an empty one, do not depend on what the array held. -/
theorem devlistReply_known {s : Server} {stack : List UsbipInterface} {r : SendResult}
    (hscope : InScope s (.loop1 (.devlist stack r)))
    (hfill : FillsReplies s (.loop1 (.devlist stack r))) :
    devlistReply s.lib s.driver zeroIntfs = devlistReply s.lib s.driver stack := by
  obtain ⟨hstack, -⟩ := hscope
  cases hdev : s.driver.devDesc with
  | none => simp only [devlistReply, hdev]
  | some dev =>
    cases hconfig : s.driver.configDesc with
    | none => simp only [devlistReply, hdev, hconfig]
    | some config =>
      have hten := hfill (by rw [hdev]; rfl) config hconfig
      have hintfs : devlistIntfs s.lib config.val zeroIntfs =
          devlistIntfs s.lib config.val stack := by
        refine Option.ext fun intfs => ?_
        rw [devlistIntfs_eq_some, devlistIntfs_eq_some]
        refine and_congr_right fun hall => ?_
        rw [Table.write_loopWrites_eq hall (hten ▸ rfl) (hten ▸ hstack)]
      rw [devlistReply_of_both _ hdev hconfig, devlistReply_of_both _ hdev hconfig, hintfs]

theorem importBuild_known (d : Driver) (devImport : Bytes) :
    (importBuild d (List.replicate 8 0 ++ busIdOf devImport)).reply =
      (importBuild d devImport).reply := by
  have hbus : busIdOf (List.replicate 8 0 ++ busIdOf devImport) = busIdOf devImport := by
    simp [busIdOf]
  rw [importBuild, importBuild, hbus]

theorem busIdOf_take {a b : Bytes} (h : a.length = b.length) (bytes : Bytes) :
    busIdOf (a.take 8 ++ bytes) = busIdOf (b.take 8 ++ bytes) := by
  have hhead : ∀ c : Bytes, (c.take 8).drop 8 = [] := fun c =>
    List.drop_eq_nil_of_le (List.length_take_le _ _)
  rw [busIdOf, busIdOf, List.drop_append, List.drop_append, hhead, hhead, List.length_take,
    List.length_take, h]

section Handling

variable {s : Server} {ev : TcpData} {devImport : Bytes} {rep : OpRepImport} {r : RecvResult}
  {sent : SendResult}

theorem usbIpEventHandler1_known_copy (hh : s.loop1.handler = .importCopy ev)
    (hev : ev.len = headerCommonSize) :
    (usbIpEventHandler1 s.known .run).map Server.known =
      (usbIpEventHandler1 s .run).map Server.known := by
  have hhandler : s.known.loop1.handler = s.loop1.handler.known := rfl
  have hlen : ∀ devRecv : Bytes, (overwrite (devRecv.take ev.len)
      (List.replicate opReqImportSize 0)).length = opReqImportSize := by
    intro devRecv
    have hhead : (devRecv.take ev.len).length ≤ headerCommonSize :=
      hev ▸ List.length_take_le _ _
    rw [overwrite_length, List.length_replicate]
    rw [List.length_replicate]
    exact hhead.trans (by decide)
  have hsame : ev.known.len = ev.len := rfl
  simp only [usbIpEventHandler1, hhandler, hh, Handler1.known]
  refine congrArg some (handle1_known s ?_)
  simp only [Handler1.known, hsame, hlen, TcpData.known_known]

theorem usbIpEventHandler1_known_recv (hh : s.loop1.handler = .importRecv ev devImport)
    (hlen : ev.len = headerCommonSize) :
    (usbIpEventHandler1 s.known (.recv r)).map Server.known =
      (usbIpEventHandler1 s (.recv r)).map Server.known := by
  have hhandler : s.known.loop1.handler = s.loop1.handler.known := rfl
  have hconn : s.known.conn = s.conn := rfl
  have hev : ev.known.len = ev.len := rfl
  simp only [usbIpEventHandler1, hhandler, hh, Handler1.known, hconn, hev, Option.map_map]
  refine Option.map_congr fun o _ => ?_
  obtain ⟨conn, _ | _ | bytes⟩ := o
  · exact handle1_known s rfl
  · exact handle1_known s rfl
  · have hbus := busIdOf_take (List.length_replicate (n := devImport.length) (a := (0 : UInt8)))
      bytes
    have hhead : ev.len = 8 := hlen
    have hbuild : (Handler1.importBuild ev.known
        ((List.replicate devImport.length 0).take ev.len ++ bytes)).known =
          (Handler1.importBuild ev (devImport.take ev.len ++ bytes)).known := by
      simp only [Handler1.known, hhead, hbus, TcpData.known_known]
    simp only [Function.comp_apply]
    split_ifs
    · exact congrArg (fun u : Server => { u with conn := conn }) (handle1_known s hbuild)
    · exact congrArg (fun u : Server => { u with conn := conn }) (handle1_known s rfl)

theorem usbIpEventHandler1_known_send (hh : s.loop1.handler = .importSend ev devImport rep) :
    (usbIpEventHandler1 s.known (.send sent)).map Server.known =
      (usbIpEventHandler1 s (.send sent)).map Server.known := by
  have hhandler : s.known.loop1.handler = s.loop1.handler.known := rfl
  have hconn : s.known.conn = s.conn := rfl
  simp only [usbIpEventHandler1, hhandler, hh, Handler1.known, tcpSendLocked, hconn,
    Option.map_map]
  refine Option.map_congr fun o _ => ?_
  rcases o with _ | ⟨id, n⟩
  · exact handle1_known s rfl
  · have hsent : ∀ h h' : Handler1, h.known = h'.known →
        ((s.known.emit ⟨id, .repImport rep, rep.toBytes, n⟩).handle1 h).known =
          ((s.emit ⟨id, .repImport rep, rep.toBytes, n⟩).handle1 h').known := by
      intro h h' hsame
      rw [known_handle1, known_handle1, known_emit, known_emit, Server.known_known, hsame]
    simp only [Function.comp_apply]
    cases n == rep.toBytes.length with
    | true => exact hsent _ _ rfl
    | false => exact hsent _ _ rfl

theorem usbIpEventHandler1_known_devlist {stack : List UsbipInterface}
    (hh : s.loop1.handler = .devlist ev) (hscope : InScope s (.loop1 (.devlist stack sent)))
    (hfill : FillsReplies s (.loop1 (.devlist stack sent))) :
    (usbIpEventHandler1 s.known (.devlist zeroIntfs sent)).map Server.known =
      (usbIpEventHandler1 s (.devlist stack sent)).map Server.known := by
  have hhandler : s.known.loop1.handler = s.loop1.handler.known := rfl
  have hconn : s.known.conn = s.conn := rfl
  have hreply : devlistReply s.known.lib s.known.driver zeroIntfs =
      devlistReply s.lib s.driver stack := devlistReply_known (s := s) (r := sent) hscope hfill
  simp only [usbIpEventHandler1, hhandler, hh, Handler1.known]
  rw [hreply]
  cases devlistReply s.lib s.driver stack with
  | none => exact congrArg (fun u : Server => some { u with crashed := true }) s.known_known
  | some frame =>
    simp only [hconn, Option.map_map]
    refine Option.map_congr fun o _ => ?_
    rcases o with _ | ⟨id, n⟩
    · exact handle1_known s rfl
    · simp only [Function.comp_apply, known_emit]
      exact congrArg (fun u : Server => u.emit ⟨id, .repDevlist, frame, n⟩)
        (handle1_known s rfl)

end Handling

theorem usbIpEventHandler1_known {s : Server} {a : Loop1Action} (hs : Reachable s)
    (hscope : InScope s (.loop1 a)) (hfill : FillsReplies s (.loop1 a)) :
    (usbIpEventHandler1 s.known a.known).map Server.known =
      (usbIpEventHandler1 s a).map Server.known := by
  have hhandler : s.known.loop1.handler = s.loop1.handler.known := rfl
  have hqueue : s.known.loop1.queue = s.loop1.queue.map TcpData.known := rfl
  have hsized := hs.eventsSized.handler
  cases a with
  | dispatch =>
    cases hh : s.loop1.handler <;>
      simp only [Loop1Action.known, usbIpEventHandler1, hhandler, hh, Handler1.known, hqueue]
    case idle =>
      cases hq : s.loop1.queue with
      | nil => rfl
      | cons ev queue =>
        have hknown : Loop1.known ⟨queue.map TcpData.known, deliver1 ev.known⟩ =
            Loop1.known ⟨queue, deliver1 ev⟩ := by
          rw [deliver1_known]
          exact Loop1.known_known ⟨queue, deliver1 ev⟩
        exact congrArg some (known_eq rfl rfl (TcpTask.known_known _) rfl rfl hknown rfl rfl rfl
          (Loop2.known_known _) (map_known_inFlight _) (map_known_callback _) rfl
          (History.known_known _) rfl)
  | run =>
    cases hh : s.loop1.handler with
    | importCopy ev => exact usbIpEventHandler1_known_copy hh (hsized ev (by rw [hh]; rfl))
    | importBuild ev devImport =>
      have hdriver : s.known.driver = s.driver := rfl
      simp only [Loop1Action.known, usbIpEventHandler1, hhandler, hh, Handler1.known]
      rw [hdriver, importBuild_known]
      cases (importBuild s.driver devImport).reply with
      | none => exact congrArg (fun u : Server => some { u with crashed := true }) s.known_known
      | some rep => exact congrArg some (handle1_known s rfl)
    | importBusy ev devImport rep =>
      have hdone : (s.known.handle1 .idle).known = (s.handle1 .idle).known := handle1_known s rfl
      simp only [Loop1Action.known, usbIpEventHandler1, hhandler, hh, Handler1.known]
      exact congrArg (fun u : Server => some { u with deviceBusy := true }) hdone
    | _ => simp only [Loop1Action.known, usbIpEventHandler1, hhandler, hh, Handler1.known]
  | recv r =>
    cases hh : s.loop1.handler with
    | importRecv ev devImport =>
      exact usbIpEventHandler1_known_recv hh (hsized ev (by rw [hh]; rfl))
    | _ => simp only [Loop1Action.known, usbIpEventHandler1, hhandler, hh, Handler1.known]
  | send r =>
    cases hh : s.loop1.handler with
    | importSend ev devImport rep => exact usbIpEventHandler1_known_send hh
    | _ => simp only [Loop1Action.known, usbIpEventHandler1, hhandler, hh, Handler1.known]
  | devlist stack r =>
    cases hh : s.loop1.handler with
    | devlist ev => exact usbIpEventHandler1_known_devlist hh hscope hfill
    | _ => simp only [Loop1Action.known, usbIpEventHandler1, hhandler, hh, Handler1.known]

theorem got_length {s : Server} {want : ℕ} {r : RecvResult} {conn : Option Conn} {bytes : Bytes}
    (hfill : FillsReplies s (.tcp (.recv r))) (hpc : s.tcp.pc = .command ∨ s.tcp.pc = .urbHeader)
    (h : sockRecv s.conn s.tcp.sock want r = some (conn, .got bytes)) (hne : bytes ≠ []) :
    bytes.length = s.wanted := by
  obtain ⟨c, -, -, -, rfl, -⟩ := sockRecv_got h hne
  exact hfill hpc

theorem known_header {s : Server} (h : s.tcp.pc.inCommand = true) :
    s.known.tcp.header = s.tcp.header := if_pos h

theorem known_cmdSubmit {s : Server} (h : s.tcp.pc.inSubmit = true) :
    s.known.tcp.cmdSubmit = s.tcp.cmdSubmit := if_pos h

section Receiving

variable {s : Server} {r : RecvResult}

theorem doRecv_known_command (hsized : s.tcp.Sized) (hfill : FillsReplies s (.tcp (.recv r)))
    (hpc : s.tcp.pc = .command) : (doRecv s.known (.recv r)).map Server.known =
      (doRecv s (.recv r)).map Server.known := by
  have hpc' : s.known.tcp.pc = s.tcp.pc := rfl
  have hconn : s.known.conn = s.conn := rfl
  have hsock : s.known.tcp.sock = s.tcp.sock := rfl
  simp only [doRecv, hpc', hpc, hconn, hsock, Option.map_map]
  refine Option.map_congr fun x ho => ?_
  obtain ⟨conn, o⟩ := x
  rcases o with _ | _ | ⟨_ | ⟨b, bytes⟩⟩
  · exact goto_known s rfl rfl rfl
  · exact goto_known s rfl rfl rfl
  · exact goto_known s rfl rfl rfl
  · have hlen := got_length hfill (.inl hpc) ho (List.cons_ne_nil b bytes)
    have hwanted : s.wanted = headerCommonSize := by rw [Server.wanted, hpc]
    have hold : s.known.tcp.devRecv = [] := by
      show (if s.tcp.pc.inPost then s.tcp.devRecv else []) = []
      rw [hpc]
      rfl
    simp only [Function.comp_apply, hold, overwrite_nil,
      overwrite_full (hlen.trans (hwanted.trans hsized.devRecv.symm))]
    obtain ⟨hcommand, hsub⟩ : (commandNext s (b :: bytes)).inCommand = false ∧
        (commandNext s (b :: bytes)).inSubmit = false :=
      commandNext_elim s _ ⟨rfl, rfl⟩ ⟨rfl, rfl⟩ ⟨rfl, rfl⟩
    refine took_known s conn _ (TcpTask.known_eq rfl rfl (fun _ => rfl) (fun h => ?_) fun h => ?_)
    · exact absurd (hcommand.symm.trans h) (by decide)
    · exact absurd (hsub.symm.trans h) (by decide)

theorem doRecv_known_urbHeader (hsized : s.tcp.Sized) (hfill : FillsReplies s (.tcp (.recv r)))
    (hpc : s.tcp.pc = .urbHeader) : (doRecv s.known (.recv r)).map Server.known =
      (doRecv s (.recv r)).map Server.known := by
  have hpc' : s.known.tcp.pc = s.tcp.pc := rfl
  have hconn : s.known.conn = s.conn := rfl
  have hsock : s.known.tcp.sock = s.tcp.sock := rfl
  simp only [doRecv, hpc', hpc, hconn, hsock, Option.map_map]
  refine Option.map_congr fun x ho => ?_
  obtain ⟨conn, o⟩ := x
  rcases o with _ | _ | ⟨_ | ⟨b, bytes⟩⟩
  · exact s.known_known
  · exact goto_known s rfl rfl rfl
  · exact goto_known s rfl rfl rfl
  · have hlen := got_length hfill (.inr hpc) ho (List.cons_ne_nil b bytes)
    have hwanted : s.wanted = headerBasicSize := by rw [Server.wanted, hpc]
    have hold : s.known.tcp.header = [] := by
      show (if s.tcp.pc.inCommand then s.tcp.header else []) = []
      rw [hpc]
      rfl
    simp only [Function.comp_apply, hold, overwrite_nil,
      overwrite_full (hlen.trans (hwanted.trans hsized.header.symm))]
    obtain ⟨hpost, hsub⟩ : (urbNext (.ofBytes (b :: bytes))).inPost = false ∧
        (urbNext (.ofBytes (b :: bytes))).inSubmit = false :=
      urbNext_elim _ ⟨rfl, rfl⟩ ⟨rfl, rfl⟩ ⟨rfl, rfl⟩
    refine took_known s conn _ (TcpTask.known_eq rfl rfl (fun h => ?_) (fun _ => rfl) fun h => ?_)
    · exact absurd (hpost.symm.trans h) (by decide)
    · exact absurd (hsub.symm.trans h) (by decide)

theorem doRecv_known_submitBody (hsized : s.tcp.Sized) (hpc : s.tcp.pc = .submitBody) :
    (doRecv s.known (.recv r)).map Server.known = (doRecv s (.recv r)).map Server.known := by
  have hpc' : s.known.tcp.pc = s.tcp.pc := rfl
  have hconn : s.known.conn = s.conn := rfl
  have hsock : s.known.tcp.sock = s.tcp.sock := rfl
  have hkept : s.known.tcp.header = s.tcp.header := known_header (by rw [hpc]; rfl)
  have hold : s.known.tcp.cmdSubmit = [] := by
    show (if s.tcp.pc.inSubmit then s.tcp.cmdSubmit else []) = []
    rw [hpc]
    rfl
  simp only [doRecv, hpc', hpc, hconn, hsock, Option.map_map]
  refine Option.map_congr fun x _ => ?_
  obtain ⟨conn, o⟩ := x
  rcases o with _ | _ | bytes
  · exact goto_known s rfl rfl rfl
  · exact goto_known s rfl rfl rfl
  · simp only [Function.comp_apply, hold, overwrite_nil]
    by_cases hfull : bytes.length = cmdHeaderSize
    · have hnext : submitNext s.known.header (.ofBytes bytes s.known.tcp.transferBuffer) =
          submitNext s.header (.ofBytes bytes s.tcp.transferBuffer) := by
        rw [Server.header, hkept]
        rfl
      have hpost : (submitNext s.header (.ofBytes bytes s.tcp.transferBuffer)).inPost = false :=
        submitNext_elim _ _ rfl rfl rfl
      simp only [overwrite_full (hfull.trans hsized.cmdSubmit.symm), if_pos hfull, hnext]
      refine took_known s conn _ (TcpTask.known_eq rfl rfl (fun h => ?_) (fun _ => hkept)
        fun _ => rfl)
      exact absurd (hpost.symm.trans h) (by decide)
    · simp only [if_neg hfull]
      exact took_known s conn _ (TcpTask.known_eq rfl rfl (fun h => by cases h)
        (fun h => by cases h) fun h => by cases h)

theorem doRecv_known_payload (hpc : s.tcp.pc = .payload) :
    (doRecv s.known (.recv r)).map Server.known = (doRecv s (.recv r)).map Server.known := by
  have hpc' : s.known.tcp.pc = s.tcp.pc := rfl
  have hconn : s.known.conn = s.conn := rfl
  have hsock : s.known.tcp.sock = s.tcp.sock := rfl
  have hkept : s.known.tcp.header = s.tcp.header := known_header (by rw [hpc]; rfl)
  have hcmd : s.known.tcp.cmdSubmit = s.tcp.cmdSubmit := known_cmdSubmit (by rw [hpc]; rfl)
  have hlen : s.known.cmdSubmit.transferBufferLength = s.cmdSubmit.transferBufferLength := by
    rw [Server.cmdSubmit, hcmd]
    rfl
  simp only [doRecv, hpc', hpc, hconn, hsock, Option.map_map]
  rw [hlen]
  refine Option.map_congr fun x _ => ?_
  obtain ⟨conn, o⟩ := x
  rcases o with _ | _ | bytes
  · exact goto_known s rfl rfl rfl
  · exact goto_known s rfl rfl rfl
  · simp only [Function.comp_apply]
    refine took_known s conn _ (TcpTask.known_eq rfl rfl (fun h => ?_) (fun _ => hkept)
      fun _ => hcmd)
    split_ifs at h <;> cases h

theorem doRecv_known_unlinkBody (hpc : s.tcp.pc = .unlinkBody) :
    (doRecv s.known (.recv r)).map Server.known = (doRecv s (.recv r)).map Server.known := by
  have hpc' : s.known.tcp.pc = s.tcp.pc := rfl
  have hconn : s.known.conn = s.conn := rfl
  have hsock : s.known.tcp.sock = s.tcp.sock := rfl
  have hkept : s.known.tcp.header = s.tcp.header := known_header (by rw [hpc]; rfl)
  have hreply : ∀ t t' : TcpTask, t.header = t'.header → t.sock = t'.sock →
      TcpTask.known { t with pc := .unlinkReply } =
        TcpTask.known { t' with pc := .unlinkReply } := fun t t' hh hs =>
    TcpTask.known_eq rfl hs (fun h => by cases h) (fun _ => hh) fun h => by cases h
  simp only [doRecv, hpc', hpc, hconn, hsock, Option.map_map]
  refine Option.map_congr fun x _ => ?_
  obtain ⟨conn, o⟩ := x
  rcases o with _ | _ | bytes
  · exact setTcp_known s (hreply s.known.tcp s.tcp hkept rfl)
  · exact setTcp_known s (hreply s.known.tcp s.tcp hkept rfl)
  · exact took_known s conn bytes.length (hreply { s.known.tcp with cmdUnlink := _ }
      { s.tcp with cmdUnlink := _ } hkept rfl)

end Receiving

section Posting

variable {s : Server} {ok : Bool}

theorem doRecv_known_postCommand (hpc : s.tcp.pc = .postCommand) :
    (doRecv s.known (.post ok)).map Server.known = (doRecv s (.post ok)).map Server.known := by
  have hpc' : s.known.tcp.pc = s.tcp.pc := rfl
  have hdev : s.known.tcp.devRecv = s.tcp.devRecv := if_pos (by rw [hpc]; rfl)
  have hid : (commandEvent s.known).eventId = (commandEvent s).eventId := by
    simp only [commandEvent, hdev]
  have hev : (commandEvent s.known).known = (commandEvent s).known := by
    simp only [TcpData.known, hid]
    rfl
  have hnext : (s.known.goto
      (if (commandEvent s).eventId = opReqImport then .importWait 0 else .mode)).known =
        (s.goto (if (commandEvent s).eventId = opReqImport then .importWait 0
          else .mode)).known := by
    split_ifs <;> exact goto_known s rfl rfl rfl
  simp only [doRecv, hpc', hpc]
  rw [hid]
  cases ok with
  | false => exact congrArg some hnext
  | true => simp only [if_true, Option.map_some, known_post1, hev, hnext]

theorem doRecv_known_postSubmit (hpc : s.tcp.pc = .postSubmit) :
    (doRecv s.known (.post ok)).map Server.known = (doRecv s (.post ok)).map Server.known := by
  have hpc' : s.known.tcp.pc = s.tcp.pc := rfl
  have hkept : s.known.tcp.header = s.tcp.header := known_header (by rw [hpc]; rfl)
  have hcmd : s.known.tcp.cmdSubmit = s.tcp.cmdSubmit := known_cmdSubmit (by rw [hpc]; rfl)
  have hev : (submitEvent s.known).known = (submitEvent s).known := by
    simp only [submitEvent, Server.header, Server.cmdSubmit, hkept, hcmd]
    rfl
  have hout : (s.known.goto .urbHeader).known = (s.goto .urbHeader).known :=
    goto_known s rfl rfl rfl
  simp only [doRecv, hpc', hpc]
  cases ok with
  | false => exact congrArg some hout
  | true =>
    simp only [if_true]
    by_cases hcount : s.loop2.count = 0
    · have hempty : (s.goto .urbHeader).loop2.count = 0 := hcount
      have hempty_known : (s.known.goto .urbHeader).loop2.count = 0 := hcount
      rw [if_pos hempty_known, if_pos hempty]
    · have hlooped : ¬ (s.goto .urbHeader).loop2.count = 0 := hcount
      have hlooped_known : ¬ (s.known.goto .urbHeader).loop2.count = 0 := hcount
      rw [if_neg hlooped_known, if_neg hlooped]
      simp only [Option.map_some, known_post2, hev, hout]
      rfl

end Posting

theorem doRecv_known {s : Server} {a : TcpAction} (hs : Reachable s)
    (hfill : FillsReplies s (.tcp a)) :
    (doRecv s.known a).map Server.known = (doRecv s a).map Server.known := by
  have hpc' : s.known.tcp.pc = s.tcp.pc := rfl
  have hsock : s.known.tcp.sock = s.tcp.sock := rfl
  have hbusy : s.known.deviceBusy = s.deviceBusy := rfl
  obtain ⟨hsized, -⟩ := hs.sized
  cases a with
  | run =>
    cases hpc : s.tcp.pc <;> simp only [doRecv, hpc', hpc, hbusy]
    case outer => cases s.deviceBusy <;> exact congrArg some (goto_known s rfl rfl rfl)
    case importWait n =>
      refine congrArg some ?_
      split_ifs <;> exact goto_known s rfl rfl rfl
    case mode => split_ifs <;> exact congrArg some (goto_known s rfl rfl rfl)
    case urbClosed =>
      have hout : (s.known.goto .outer).known = (s.goto .outer).known := goto_known s rfl rfl rfl
      exact congrArg (fun u : Server => some { u with deviceBusy := false }) hout
    case cleanupBusy =>
      have hnext : (s.known.goto .cleanupEp1).known = (s.goto .cleanupEp1).known :=
        goto_known s rfl rfl rfl
      exact congrArg (fun u : Server => some { u with deviceBusy := false }) hnext
    case cleanupEp1 =>
      have hnext : (s.known.goto .cleanupEp2).known = (s.goto .cleanupEp2).known :=
        goto_known s rfl rfl rfl
      exact congrArg (fun u : Server => some { u with ep1TransferPending := false }) hnext
    case cleanupEp2 =>
      have hnext : (s.known.goto .cleanupClose).known = (s.goto .cleanupClose).known :=
        goto_known s rfl rfl rfl
      exact congrArg (fun u : Server => some { u with ep2TransferPending := false }) hnext
    case cleanupClose =>
      have hnext : (s.known.goto .accepting).known = (s.goto .accepting).known :=
        goto_known s rfl rfl rfl
      exact congrArg (fun u : Server => some
        { u with conn := none, tcp := { u.tcp with sock := -1 } }) hnext
  | accept number stream => cases hpc : s.tcp.pc <;> simp only [doRecv, hpc', hpc]
  | recv r =>
    cases hpc : s.tcp.pc with
    | command => exact doRecv_known_command hsized hfill hpc
    | urbHeader => exact doRecv_known_urbHeader hsized hfill hpc
    | submitBody => exact doRecv_known_submitBody hsized hpc
    | payload => exact doRecv_known_payload hpc
    | unlinkBody => exact doRecv_known_unlinkBody hpc
    | _ => simp only [doRecv, hpc', hpc, Option.map_none]
  | post ok =>
    cases hpc : s.tcp.pc with
    | postCommand => exact doRecv_known_postCommand hpc
    | postSubmit => exact doRecv_known_postSubmit hpc
    | _ => simp only [doRecv, hpc', hpc, Option.map_none]
  | send r =>
    cases hpc : s.tcp.pc <;> simp only [doRecv, hpc', hpc]
    case unlinkReply =>
      have hout : (s.known.goto .urbHeader).known = (s.goto .urbHeader).known :=
        goto_known s rfl rfl rfl
      have hconn : (s.known.goto .urbHeader).conn = (s.goto .urbHeader).conn := rfl
      simp only [tcpSendLocked, hsock, hconn, Option.map_map]
      refine Option.map_congr fun o _ => ?_
      rcases o with _ | ⟨id, n⟩
      · exact hout
      · simp only [Function.comp_apply, known_emit]
        exact congrArg (fun u : Server => u.emit ⟨id, .repDevlist, retUnlink.toBytes, n⟩) hout

theorem tcpServerStart_known (s : Server) (a : TcpAction) :
    (tcpServerStart s.known a).map Server.known = (tcpServerStart s a).map Server.known := by
  have hpc' : s.known.tcp.pc = s.tcp.pc := rfl
  cases hpc : s.tcp.pc <;> rcases a with _ | ⟨_ | number, stream⟩ | _ | _ | _ <;>
    simp only [tcpServerStart, hpc', hpc, Option.map_none, Option.map_some, Option.some.injEq]
  case accepting.accept.none =>
    refine setTcp_known s (TcpTask.known_eq rfl rfl (fun h => ?_) (fun h => ?_) fun h => ?_)
    all_goals cases h
  case accepting.accept.some =>
    have hbegin : (s.known.goto .begin).known = (s.goto .begin).known := goto_known s rfl rfl rfl
    exact congrArg (fun u : Server => { u with
      conn := some ⟨s.history.accepted, number, stream, 0⟩
      tcp := { u.tcp with sock := number }
      history := { u.history with accepted := s.history.accepted + 1 } }) hbegin
  case begin.run => exact goto_known s rfl rfl rfl

theorem driverStep_known (s : Server) (a : DriverAction) :
    (driverStep s.known a).map Server.known = (driverStep s a).map Server.known := by
  have hcallback : s.known.callback.isSome = s.callback.isSome := Option.isSome_map
  have htask : usbClassDriverTask s.known.lib s.known.driver a =
      usbClassDriverTask s.lib s.driver a := rfl
  have heffect : ∀ d e, (applyEffect { s.known with driver := d } e).known =
      (applyEffect { s with driver := d } e).known := by
    intro d e
    have hdriver : Server.known { s.known with driver := d } =
        Server.known { s with driver := d } :=
      congrArg (fun u : Server => { u with driver := d }) s.known_known
    cases e with
    | none => exact hdriver
    | clearBusy => exact congrArg (fun u : Server => { u with deviceBusy := false }) hdriver
    | newLoop =>
      exact congrArg (fun u : Server => { u with
        loop2 := { u.loop2 with count := s.loop2.count + 1 } }) hdriver
    | abort => exact congrArg (fun u : Server => { u with crashed := true }) hdriver
  rw [driverStep, driverStep, hcallback, htask]
  split_ifs
  · rfl
  · rw [Option.map_map, Option.map_map]
    exact Option.map_congr fun r _ => heffect r.1 r.2

/-- Seen through what is known, a step is that of what is known. -/
theorem step_respects {s : Server} {a : Action} (hs : Reachable s)
    (h : InScope s a ∧ FillsReplies s a) :
    TwoRuns.Respects step Server.known Action.known s a := by
  obtain ⟨hscope, hfill⟩ := h
  have hcrashed : s.known.crashed = s.crashed := rfl
  have hpc : s.known.tcp.pc = s.tcp.pc := rfl
  unfold TwoRuns.Respects
  cases a with
  | tcp a =>
    simp only [Action.known, step, hcrashed, hpc]
    split_ifs
    · rfl
    · split
      · exact tcpServerStart_known s a
      · exact tcpServerStart_known s a
      · exact doRecv_known hs hfill
  | loop1 a =>
    simp only [Action.known, step, hcrashed]
    split_ifs
    · rfl
    · exact usbIpEventHandler1_known hs hscope hfill
  | loop2 a =>
    simp only [Action.known, step, hcrashed]
    split_ifs
    · rfl
    · exact usbIpEventHandler2_known s a
  | host a =>
    simp only [Action.known, step, hcrashed]
    split_ifs
    · rfl
    · exact transferCallback_known hs hscope hfill
  | driver a =>
    simp only [Action.known, step, hcrashed]
    split_ifs
    · rfl
    · exact driverStep_known s a

theorem frames_known (s : Server) : s.known.frames = s.frames := by
  simp [Server.frames, Server.known, History.known, Sent.known]

/-- Runs that differ only in what memory happened to hold send the same bytes. -/
theorem replies_hold_no_memory {s s' t t' : Server} {as as' : List Action} (hs : Reachable s)
    (hs' : Reachable s') (hknown : s.known = s'.known)
    (hinputs : as.map Action.known = as'.map Action.known) (hscope : Always step InScope s as)
    (hscope' : Always step InScope s' as') (hfill : Always step FillsReplies s as)
    (hfill' : Always step FillsReplies s' as') (h : run s as = some t)
    (h' : run s' as' = some t') : t.frames = t'.frames := by
  have hsame : (run s as).map Server.known = (run s' as').map Server.known :=
    TwoRuns.exec_eq (fun _ _ _ hu hstep => Reachable.of_step hu hstep)
      (fun _ _ => step_respects) hs hs' hknown hinputs (hscope.and hfill) (hscope'.and hfill')
  rw [h, h', Option.map_some, Option.map_some] at hsame
  rw [← frames_known t, ← frames_known t', Option.some.inj hsame]

def RepliesHoldNoMemory : Prop :=
  ∀ (s s' t t' : Server) (as as' : List Action), Reachable s → Reachable s' →
    s.known = s'.known → as.map Action.known = as'.map Action.known →
      Always step InScope s as → Always step InScope s' as' → run s as = some t →
        run s' as' = some t' → t.frames = t'.frames

def listingOver (fill : UInt8) : List Action :=
  listing keyboardDevice keyboardConfig [true] ++
    [.loop1 (.devlist (List.replicate maxInterfaces ⟨fill, fill, fill, fill⟩) .full)]

theorem stack_bytes_listed : ¬ RepliesHoldNoMemory := by
  intro hall
  have hrun : ((run coldBoot (listingOver 0)).bind fun t =>
      (run coldBoot (listingOver 255)).map fun t' => decide (t.frames = t'.frames)) =
      some false := by
    decide +kernel
  obtain ⟨t, ht, hrest⟩ := Option.bind_eq_some_iff.1 hrun
  obtain ⟨t', ht', hframes⟩ := Option.map_eq_some_iff.1 hrest
  have hboot : Reachable coldBoot := Reachable.boot idfLibrary [] [] [] [] []
  have hscope : ∀ fill, fill = 0 ∨ fill = 255 →
      Always step InScope coldBoot (listingOver fill) := by
    rintro fill (rfl | rfl) <;> decide +kernel
  have hinputs : (listingOver 0).map Action.known = (listingOver 255).map Action.known := by
    decide +kernel
  exact of_decide_eq_false hframes (hall coldBoot coldBoot t t' (listingOver 0) (listingOver 255)
    hboot hboot rfl hinputs (hscope 0 (.inl rfl)) (hscope 255 (.inr rfl)) ht ht')

def bootOver (fill : UInt8) : Server :=
  .boot idfLibrary (List.replicate headerCommonSize fill) (List.replicate headerBasicSize fill)
    (List.replicate cmdHeaderSize fill) (List.replicate 1024 fill)
    (List.replicate cmdUnlinkSize fill)

def reportOver (fill : UInt8) : List Action :=
  keyboardEnumeration ++ importing 3 (importSession [submitIn 7 1 8]).stream ++ submitting ++
    [.loop2 (.dispatch 0), .loop2 (.malloc 0 (some (List.replicate 1072 fill))),
      .loop2 (.setSkt 0), .loop2 (.alloc 0 (some (List.replicate dataBufferSize fill))),
      .loop2 (.check 0), .loop2 (.build 0 (UInt32.ofNat fill.toNat)), .loop2 (.submit 0 true),
      .loop2 (.setPending 0),
      .host (.complete 0 .completed 8 ([0, 0, 4, 0, 0, 0, 0, 0] ++ List.replicate 992 fill)),
      .host .clear, .host (.send (List.replicate 100 fill) .full)]

theorem replies_hold_no_memory_report : ∃ t t', run (bootOver 0) (reportOver 0) = some t ∧
    run (bootOver 255) (reportOver 255) = some t' ∧ t.frames = t'.frames := by
  have hrun : ((run (bootOver 0) (reportOver 0)).bind fun t =>
      (run (bootOver 255) (reportOver 255)).map fun t' =>
        (t.frames.length, t'.frames.length)) = some (2, 2) := by
    decide +kernel
  obtain ⟨t, ht, hrest⟩ := Option.bind_eq_some_iff.1 hrun
  obtain ⟨t', ht', -⟩ := Option.map_eq_some_iff.1 hrest
  have hboot : ∀ fill, Reachable (bootOver fill) := fun fill => Reachable.boot _ _ _ _ _ _
  have hcond : ∀ fill, fill = 0 ∨ fill = 255 →
      Always step InScope (bootOver fill) (reportOver fill) ∧
        Always step FillsReplies (bootOver fill) (reportOver fill) := by
    rintro fill (rfl | rfl) <;> decide +kernel
  obtain ⟨hscope, hfill⟩ := hcond 0 (.inl rfl)
  obtain ⟨hscope', hfill'⟩ := hcond 255 (.inr rfl)
  exact ⟨t, t', ht, ht', replies_hold_no_memory (hboot 0) (hboot 255) rfl (by decide +kernel)
    hscope hscope' hfill hfill' ht ht'⟩

end UsbRepeater
