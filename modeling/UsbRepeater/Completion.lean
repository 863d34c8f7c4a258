import UsbRepeater.Transfers
import UsbRepeater.OutputFraming

/-! What a client is told of a completed transfer. `transfer_cb_ctrl` derives status and length
from the completion; `transfer_cb` sends what the handler filled in before the transfer ran. -/
namespace UsbRepeater

open Schedule

structure UsbTransfer.Regions (t : UsbTransfer) : Prop where
  status : t.context.status = 0
  buffer : t.context.transferBuffer.length = 1024
  data : t.ev.header.ep = 0 ∨ t.ev.header.direction ≠ 0 → t.dataBuffer.length = dataBufferSize

theorem UsbTransfer.Made.regions {lib : HostLib} {mps : List UInt32} {t : UsbTransfer}
    (h : t.Made lib mps) : t.Regions := by
  cases h with
  | control ev reply memory devHdl hep hsetup =>
    refine ⟨rfl, sized_length _ _, fun _ => ?_⟩
    have hfits : ev.cmdSubmit.setup.length ≤ (sized dataBufferSize memory).length := by
      rw [sized_length]
      exact hsetup.trans (by decide)
    exact (overwrite_length _ _ hfits).trans (sized_length _ _)
  | bulk ev reply memory devHdl beyond hep =>
    have hbuffer : (sized 1024 reply).length = 1024 := sized_length _ _
    refine ⟨?_, ?_, fun hin => ?_⟩
    · unfold buildBulk
      dsimp only
      split_ifs <;> rfl
    · unfold buildBulk
      dsimp only
      split_ifs <;> exact hbuffer
    · rw [buildBulk_ev] at hin
      have hdir : (allocated ev reply memory devHdl).ev.header.direction ≠ 0 :=
        hin.resolve_left hep
      unfold buildBulk
      dsimp only
      rw [if_pos hdir]
      exact sized_length _ _

theorem UsbTransfer.Ran.regions {lib : HostLib} {mps : List UInt32} {t : UsbTransfer}
    (h : t.Ran lib mps) : t.Regions := by
  obtain ⟨made, data, hmade, rfl⟩ := h
  obtain ⟨hstatus, hbuffer, hdata⟩ := hmade.regions
  refine ⟨hstatus, hbuffer, fun hin => ?_⟩
  rw [← hdata hin]
  exact sized_length _ _

theorem UsbTransfer.Made.numBytes_control {lib : HostLib} {mps : List UInt32} {t : UsbTransfer}
    (h : t.Made lib mps) (hep : t.ev.header.ep = 0) :
    t.numBytes = toInt32 (t.ev.cmdSubmit.transferBufferLength + 8) := by
  cases h with
  | control ev reply memory devHdl hep' hsetup => rfl
  | bulk ev reply memory devHdl beyond hep' =>
    rw [buildBulk_ev] at hep
    exact absurd hep hep'

theorem UsbTransfer.Ran.numBytes_control {lib : HostLib} {mps : List UInt32} {t : UsbTransfer}
    (h : t.Ran lib mps) (hep : t.ev.header.ep = 0) :
    t.numBytes = toInt32 (t.ev.cmdSubmit.transferBufferLength + 8) := by
  obtain ⟨made, data, hmade, rfl⟩ := h
  exact hmade.numBytes_control hep

theorem Reachable.callback_ran {s : Server} {c : Callback} (hs : Reachable s)
    (hc : s.callback = some c) : ∃ mps, mps.length = 10 ∧ c.transfer.Ran s.lib mps :=
  hs.made.callback c hc

theorem send_reply {s t : Server} {c : Callback} {heap : Bytes} {r : SendResult}
    (hskt : 0 ≤ s.skt) (hc : s.callback = some c)
    (h : step s (.host (.send heap r)) = some t) (hr : r ≠ .failed) :
    ∃ m, t.history.sent = s.history.sent ++ [m] ∧
      m.message = .retSubmit c.transfer.ev (c.reply heap) ∧ m.frame = c.frame heap := by
  obtain ⟨-, heff⟩ := hostStep_effect h
  cases heff with
  | silent c' heap r hc' hr' =>
    rcases hr' with hneg | hfailed
    · omega
    · exact absurd hfailed hr
  | reply c' conn heap r n hc' hskt hconn hnum hn hr' =>
    obtain rfl : c = c' := Option.some.inj (hc.symm.trans hc')
    exact ⟨_, rfl, rfl, rfl⟩

theorem count_reply_of_sent {s t u : Server} {ev : Submit} {ret : UsbipRetSubmit} {m : Sent}
    (hs : Reachable s) {a : Action} (h : step s a = some t)
    (hsent : t.history.sent = s.history.sent ++ [m]) (hm : m.message = .retSubmit ev ret)
    {as : List Action} (hu : run t as = some u) :
    (u.replies.map Prod.fst).count ev = 1 := by
  have hreach : Reachable u := (hs.of_step h).of_run hu
  have hmem : m ∈ u.history.sent := by
    apply (run_extends hu).sent.subset
    rw [hsent]
    exact List.mem_append_right _ List.mem_cons_self
  have hreply : (ev, ret) ∈ u.replies := by
    refine List.mem_filterMap.2 ⟨m, hmem, ?_⟩
    rw [hm]
    rfl
  exact List.count_eq_one_of_mem hreach.accounted.replies_nodup
    (List.mem_map_of_mem (f := Prod.fst) hreply)

theorem send_enabled {s : Server} {c : Callback} {conn : Conn} (hrunning : s.crashed = false)
    (hc : s.callback = some c) (hcleared : c.cleared = true) (hconn : s.conn = some conn)
    (hnum : (conn.number : ℤ) = s.skt) (heap : Bytes) :
    ∃ t, step s (.host (.send heap .full)) = some t := by
  have hopen : openOn s.conn s.skt = some conn := openOn_eq_some.2 ⟨hconn, hnum⟩
  have hskt : ¬ s.skt < 0 := by omega
  rw [← Option.isSome_iff_exists]
  simp [step, hrunning, transferCallback, hc, hcleared, hskt, sockSend, hopen]

/-- The length of the data that a completed control transfer brought, behind its setup packet. -/
def controlDataSize (status : TransferStatus) (n : ℤ) : ℕ :=
  if status = .completed ∧ 8 ≤ n then (n - 8).toNat else 0

/-- The frame answers the control request `ev`, whose transfer has ended with `status` and `n`
bytes and left `data` in its buffer. -/
structure ControlAnswer (ev : Submit) (status : TransferStatus) (n : ℤ) (data frame : Bytes) :
    Prop where
  base : (UsbipRetSubmit.ofBytes frame).base = { ev.header with command := usbipRetSubmit }
  statusWord : toInt32 (UsbipRetSubmit.ofBytes frame).status =
    if status = .completed then 0 else if status = .stall then -32 else -71
  actualLength : (UsbipRetSubmit.ofBytes frame).actualLength.toNat = controlDataSize status n
  requested : controlDataSize status n ≤ ev.cmdSubmit.transferBufferLength.toNat
  out : ev.header.direction = 0 → frame.length = 48
  payload : ev.header.direction ≠ 0 → frame.length = 48 + controlDataSize status n ∧
    frame.drop 48 = (data.drop 8).take (controlDataSize status n)

theorem toInt32_usbipStatus (status : TransferStatus) :
    toInt32 (ofInt32 (usbipStatus status)) =
      if status = .completed then 0 else if status = .stall then -32 else -71 := by
  cases status <;> decide

theorem toNat_controlDataLen (status : TransferStatus) (n : ℤ) :
    (controlDataLen status n).toNat = controlDataSize status n := by
  unfold controlDataLen controlDataSize
  split_ifs <;> rfl

/-- The device cannot bring more than was asked for, even where the sum of the length and the
setup packet wraps around. -/
theorem controlDataSize_le {length : UInt32} {status : TransferStatus} {n : ℤ}
    (hn : n ≤ toInt32 (length + 8)) : controlDataSize status n ≤ length.toNat := by
  have hlength := length.toNat_lt
  have hsum : (length + 8).toNat = (length.toNat + 8) % 4294967296 := by
    rw [UInt32.toNat_add]
    rfl
  unfold toInt32 at hn
  unfold controlDataSize
  rw [hsum] at hn
  split_ifs at hn ⊢ <;> omega

theorem Callback.ofBytes_frame {c : Callback} (hok : c.transfer.Ok) {heap data : Bytes}
    (hframe : c.frame heap = (c.reply heap).headBytes ++ data) :
    UsbipRetSubmit.ofBytes (c.frame heap) = { c.reply heap with transferBuffer := data } := by
  rw [hframe]
  exact UsbipRetSubmit.ofBytes_headBytes_append (Callback.reply_command hok heap).2 data

theorem Callback.reply_control {c : Callback} (hc : c.transfer.control = true) (heap : Bytes) :
    c.reply heap = controlReply c.transfer c.status c.actualNumBytes heap :=
  if_pos hc

theorem controlReply_actualLength (t : UsbTransfer) (status : TransferStatus) {n : ℤ}
    (hn : n ≤ 1000) (heap : Bytes) :
    (controlReply t status n heap).actualLength.toNat = controlDataSize status n := by
  obtain ⟨hlow, hhigh⟩ := controlDataLen_bounds status hn
  rw [← toNat_controlDataLen]
  exact ofInt32_toNat hlow hhigh

/-- Both copies of the callback stay inside the two buffers. -/
theorem controlReply_transferBuffer {t : UsbTransfer} (ht : t.Regions) (hep : t.ev.header.ep = 0)
    (status : TransferStatus) {n : ℤ} (hn : n ≤ 1000) (heap : Bytes) :
    8 + controlDataSize status n ≤ t.dataBuffer.length ∧
      (controlReply t status n heap).transferBuffer.length = 1024 ∧
      (controlReply t status n heap).transferBuffer.take (controlDataSize status n) =
        (t.dataBuffer.drop 8).take (controlDataSize status n) := by
  have hsize : 8 + controlDataSize status n ≤ dataBufferSize := by
    unfold controlDataSize dataBufferSize
    split_ifs <;> omega
  have hbuffer := ht.data (.inl hep)
  have hcopy : (controlReply t status n heap).transferBuffer =
      overwrite ((t.dataBuffer.drop 8).take (controlDataSize status n))
        t.context.transferBuffer := by
    have hdata : (t.dataBuffer ++ heap).drop 8 = t.dataBuffer.drop 8 ++ heap :=
      List.drop_append_of_le_length (by omega)
    have hroom : controlDataSize status n ≤ (t.dataBuffer.drop 8).length := by
      rw [List.length_drop]
      omega
    simp only [controlReply, toNat_controlDataLen]
    rw [hdata, sized_eq_take (hroom.trans (by simp)), List.take_append_of_le_length hroom]
  have hlen : ((t.dataBuffer.drop 8).take (controlDataSize status n)).length =
      controlDataSize status n := by
    rw [List.length_take, List.length_drop]
    omega
  refine ⟨by omega, ?_, ?_⟩
  · have hfits : ((t.dataBuffer.drop 8).take (controlDataSize status n)).length ≤
        t.context.transferBuffer.length := by
      rw [hlen, ht.buffer]
      unfold dataBufferSize at hsize
      omega
    rw [hcopy, overwrite_length _ _ hfits]
    exact ht.buffer
  · have htake := overwrite_take ((t.dataBuffer.drop 8).take (controlDataSize status n))
      t.context.transferBuffer
    rw [hlen] at htake
    rw [hcopy, htake]

theorem Callback.controlAnswer {c : Callback} (hok : c.transfer.Ok) (ht : c.transfer.Regions)
    (hep : c.transfer.ev.header.ep = 0)
    (hn : c.actualNumBytes ≤ toInt32 (c.transfer.ev.cmdSubmit.transferBufferLength + 8))
    (hmax : c.actualNumBytes ≤ 1000) (heap : Bytes) :
    ControlAnswer c.transfer.ev c.status c.actualNumBytes c.transfer.dataBuffer
      (c.frame heap) := by
  have hreply := Callback.reply_control (hok.control.2 hep) heap
  have hframe := Callback.frame_control hok (hok.control.2 hep) hmax heap
  have hdecoded := Callback.ofBytes_frame hok hframe
  have hlength : (c.reply heap).actualLength.toNat =
      controlDataSize c.status c.actualNumBytes := by
    rw [hreply]
    exact controlReply_actualLength c.transfer c.status hmax heap
  have hhead : (c.reply heap).headBytes.length = 48 :=
    UsbipRetSubmit.headBytes_length (Callback.reply_command hok heap).2
  refine ⟨?_, ?_, ?_, controlDataSize_le hn, fun hout => ?_, fun hin => ?_⟩
  · rw [hdecoded, hreply]
    exact hok.context.base
  · rw [hdecoded, hreply]
    exact toInt32_usbipStatus c.status
  · rw [hdecoded]
    exact hlength
  · rw [hframe, if_pos hout, List.append_nil, hhead]
  · obtain ⟨hroom, -, hdata⟩ := controlReply_transferBuffer ht hep c.status hmax heap
    rw [← hreply] at hdata
    rw [hframe, if_neg hin, hlength, hdata]
    refine ⟨?_, List.drop_left' hhead⟩
    rw [List.length_append, hhead, List.length_take, List.length_drop]
    omega

/-- A control transfer that has completed is answered by one frame, which tells the client what
became of it; the copies made on the way stay inside the buffers. -/
theorem control_completion {s : Server} {c : Callback} {conn : Conn} (hs : Reachable s)
    (hrunning : s.crashed = false) (hc : s.callback = some c) (hcleared : c.cleared = true)
    (hconn : s.conn = some conn) (hnum : (conn.number : ℤ) = s.skt)
    (hep : c.transfer.ev.header.ep = 0) (hn : c.actualNumBytes ≤ c.transfer.numBytes)
    (hmax : c.actualNumBytes ≤ 1000) (heap : Bytes) :
    (∃ t, step s (.host (.send heap .full)) = some t) ∧
      c.transfer.dataBuffer.length = dataBufferSize ∧
      8 + controlDataSize c.status c.actualNumBytes ≤ dataBufferSize ∧
      (c.reply heap).transferBuffer.length = 1024 ∧
      ∀ r t, step s (.host (.send heap r)) = some t → r ≠ .failed →
        ∃ m, t.history.sent = s.history.sent ++ [m] ∧
          ControlAnswer c.transfer.ev c.status c.actualNumBytes c.transfer.dataBuffer m.frame ∧
          ∀ as u, run t as = some u → (u.replies.map Prod.fst).count c.transfer.ev = 1 := by
  have hok := hs.contextsOk.callback c hc
  obtain ⟨mps, -, hran⟩ := hs.callback_ran hc
  have hregions := hran.regions
  have hbuffer := hregions.data (.inl hep)
  have hbytes := hran.numBytes_control hep
  rw [hbytes] at hn
  obtain ⟨hread, hwrite, -⟩ :=
    controlReply_transferBuffer hregions hep c.status hmax heap
  rw [hbuffer] at hread
  refine ⟨send_enabled hrunning hc hcleared hconn hnum heap, hbuffer, hread, ?_, ?_⟩
  · rw [Callback.reply_control (hok.control.2 hep)]
    exact hwrite
  · intro r t h hr
    obtain ⟨m, hsent, hmessage, hframe⟩ := send_reply hs.skt_nonneg hc h hr
    refine ⟨m, hsent, ?_, fun as u hu => count_reply_of_sent hs h hsent hmessage hu⟩
    rw [hframe]
    exact Callback.controlAnswer hok hregions hep hn hmax heap

def descriptorCompleted (status : TransferStatus) (n : ℤ) : List Action :=
  keyboardEnumeration ++ importing 3 (importSession [submitIn 7 0 18]).stream ++ submitting ++
    handlingControl true ++ [.host (.complete 0 status n []), .host .clear]

theorem control_completion_descriptor : ∃ s c, run coldBoot (descriptorCompleted .completed 26) =
    some s ∧ s.callback = some c ∧ ∃ t m, step s (.host (.send [] .full)) = some t ∧
      t.history.sent = s.history.sent ++ [m] ∧
        ControlAnswer c.transfer.ev c.status c.actualNumBytes c.transfer.dataBuffer m.frame := by
  have hrun : ((run coldBoot (descriptorCompleted .completed 26)).bind fun s =>
      s.callback.bind fun c => s.conn.map fun conn =>
        !s.crashed && c.cleared && (conn.number : ℤ) == s.skt && c.transfer.ev.header.ep == 0 &&
          decide (c.actualNumBytes ≤ c.transfer.numBytes) &&
            decide (c.actualNumBytes ≤ 1000)) = some true := by
    decide +kernel
  obtain ⟨s, hs, hrest⟩ := Option.bind_eq_some_iff.1 hrun
  obtain ⟨c, hc, hrest⟩ := Option.bind_eq_some_iff.1 hrest
  obtain ⟨conn, hconn, hrest⟩ := Option.map_eq_some_iff.1 hrest
  simp only [Bool.and_eq_true, Bool.not_eq_true', beq_iff_eq, decide_eq_true_eq] at hrest
  obtain ⟨⟨⟨⟨⟨hrunning, hcleared⟩, hnum⟩, hep⟩, hn⟩, hmax⟩ := hrest
  have hreach : Reachable s := (Reachable.boot idfLibrary [] [] [] [] []).of_run hs
  obtain ⟨⟨t, h⟩, -, -, -, hsend⟩ :=
    control_completion hreach hrunning hc hcleared hconn hnum hep hn hmax []
  obtain ⟨m, hsent, hanswer, -⟩ := hsend .full t h (by decide)
  exact ⟨s, c, hs, hc, t, m, h, hsent, hanswer⟩

/-- The frame tells the client what has become of the request `ev`: the status, the bytes that
were transferred of those it asked for and, for an IN request, those bytes. -/
structure CompletionTold (ev : Submit) (status : TransferStatus) (n : ℤ) (data frame : Bytes) :
    Prop where
  statusWord : toInt32 (UsbipRetSubmit.ofBytes frame).status =
    if status = .completed then 0 else if status = .stall then -32 else -71
  actualLength : ((UsbipRetSubmit.ofBytes frame).actualLength.toNat : ℤ) =
    min n ev.cmdSubmit.transferBufferLength.toNat
  payload : ev.header.direction ≠ 0 → frame.drop 48 =
    data.take (min n ev.cmdSubmit.transferBufferLength.toNat).toNat

theorem Callback.reply_bulk {c : Callback} (hc : ¬ c.transfer.control = true) (heap : Bytes) :
    c.reply heap = bulkReply c.transfer heap :=
  if_neg hc

/-- The reply keeps the status and the length it was allocated with. -/
theorem bulkReply_prefilled (t : UsbTransfer) (heap : Bytes) :
    (bulkReply t heap).status = t.context.status ∧
      (bulkReply t heap).actualLength = t.context.actualLength := by
  unfold bulkReply
  split_ifs <;> exact ⟨rfl, rfl⟩

theorem bulkReply_data {t : UsbTransfer} (hok : t.Ok) (ht : t.Regions)
    (hin : t.ev.header.direction ≠ 0) (hlen : t.ev.cmdSubmit.transferBufferLength.toNat ≤ 1000)
    (heap : Bytes) :
    (bulkReply t heap).transferBuffer.take t.ev.cmdSubmit.transferBufferLength.toNat =
      t.dataBuffer.take t.ev.cmdSubmit.transferBufferLength.toNat := by
  have hdir : t.context.base.direction = t.ev.header.direction := by
    rw [hok.context.base]
  have hbuffer := ht.data (.inr hin)
  have hroom : t.ev.cmdSubmit.transferBufferLength.toNat ≤ t.dataBuffer.length := by
    rw [hbuffer]
    exact hlen
  have htake := overwrite_take
    (sized t.ev.cmdSubmit.transferBufferLength.toNat (t.dataBuffer ++ heap))
    t.context.transferBuffer
  rw [sized_length] at htake
  rw [bulkReply, if_pos (hdir ▸ hin), hok.context.actualLength]
  refine htake.trans ?_
  rw [sized_eq_take (hroom.trans (by simp)), List.take_append_of_le_length hroom]

theorem Callback.completionTold_iff {c : Callback} (hok : c.transfer.Ok) (ht : c.transfer.Regions)
    (hep : c.transfer.ev.header.ep ≠ 0)
    (hlen : c.transfer.ev.cmdSubmit.transferBufferLength.toNat ≤ 1000) (heap : Bytes) :
    CompletionTold c.transfer.ev c.status c.actualNumBytes c.transfer.dataBuffer (c.frame heap) ↔
      c.status = .completed ∧
        (c.transfer.ev.cmdSubmit.transferBufferLength.toNat : ℤ) ≤ c.actualNumBytes := by
  have hctrl : ¬ c.transfer.control = true := fun h => hep (hok.control.1 h)
  have hframe := Callback.frame_bulk hok hctrl hlen heap
  have hdecoded := Callback.ofBytes_frame hok hframe
  have hhead : (c.reply heap).headBytes.length = 48 :=
    UsbipRetSubmit.headBytes_length (Callback.reply_command hok heap).2
  obtain ⟨hstatus, hlength⟩ := bulkReply_prefilled c.transfer heap
  rw [ht.status] at hstatus
  rw [hok.context.actualLength] at hlength
  rw [← Callback.reply_bulk hctrl heap] at hstatus hlength
  have hword : (UsbipRetSubmit.ofBytes (c.frame heap)).status = 0 := by
    rw [hdecoded]
    exact hstatus
  have hactual : (UsbipRetSubmit.ofBytes (c.frame heap)).actualLength =
      c.transfer.ev.cmdSubmit.transferBufferLength := by
    rw [hdecoded]
    exact hlength
  constructor
  · rintro ⟨hsaid, hcount, -⟩
    rw [hword] at hsaid
    rw [hactual] at hcount
    refine ⟨?_, by omega⟩
    split_ifs at hsaid with hcompleted
    · exact hcompleted
    · cases hsaid
    · cases hsaid
  · rintro ⟨hcompleted, hall⟩
    refine ⟨?_, ?_, fun hin => ?_⟩
    · rw [hword, if_pos hcompleted]
      rfl
    · rw [hactual, min_eq_right hall]
    · have hdata := bulkReply_data hok ht hin hlen heap
      rw [← Callback.reply_bulk hctrl heap] at hdata
      rw [hframe, if_neg hin, List.drop_left' hhead, hlength, hdata, min_eq_right hall,
        Int.toNat_natCast]

/-- The reply to a transfer on another endpoint is true exactly if the transfer completed and
brought all that was asked for. -/
theorem bulk_completion_told_iff {s t : Server} {c : Callback} {heap : Bytes} {r : SendResult}
    (hs : Reachable s) (hc : s.callback = some c) (hep : c.transfer.ev.header.ep ≠ 0)
    (hlen : c.transfer.ev.cmdSubmit.transferBufferLength.toNat ≤ 1000)
    (h : step s (.host (.send heap r)) = some t) (hr : r ≠ .failed) :
    ∃ m, t.history.sent = s.history.sent ++ [m] ∧
      (CompletionTold c.transfer.ev c.status c.actualNumBytes c.transfer.dataBuffer m.frame ↔
        c.status = .completed ∧
          (c.transfer.ev.cmdSubmit.transferBufferLength.toNat : ℤ) ≤ c.actualNumBytes) := by
  obtain ⟨mps, -, hran⟩ := hs.callback_ran hc
  obtain ⟨m, hsent, -, hframe⟩ := send_reply hs.skt_nonneg hc h hr
  refine ⟨m, hsent, ?_⟩
  rw [hframe]
  exact Callback.completionTold_iff (hs.contextsOk.callback c hc) hran.regions hep hlen heap

def CompletionsTold : Prop :=
  ∀ s c heap r t, Reachable s → s.callback = some c → c.transfer.ev.header.ep ≠ 0 →
    c.transfer.ev.cmdSubmit.transferBufferLength.toNat ≤ 1000 → 0 ≤ c.actualNumBytes →
      c.actualNumBytes ≤ c.transfer.numBytes → step s (.host (.send heap r)) = some t →
        r ≠ .failed → ∃ m, t.history.sent = s.history.sent ++ [m] ∧
          CompletionTold c.transfer.ev c.status c.actualNumBytes c.transfer.dataBuffer m.frame

def reportCompleted (status : TransferStatus) (n : ℤ) : List Action :=
  keyboardEnumeration ++ importing 3 (importSession [submitIn 7 1 8]).stream ++ submitting ++
    handlingBulk ++ [.host (.complete 0 status n []), .host .clear]

def reportAnswered (p : Callback → Sent → Bool) (as : List Action) : Option Bool :=
  (run coldBoot as).bind fun s => s.callback.bind fun c =>
    (step s (.host (.send [] .full))).bind fun t => t.history.sent.getLast?.map fun m =>
      c.transfer.ev.header.ep != 0 &&
        decide (c.transfer.ev.cmdSubmit.transferBufferLength.toNat ≤ 1000) &&
        decide (0 ≤ c.actualNumBytes) && decide (c.actualNumBytes ≤ c.transfer.numBytes) && p c m

theorem stall_reported_as_success : ¬ CompletionsTold := by
  intro hall
  have hrun : reportAnswered (fun c m => c.status == .stall &&
      (UsbipRetSubmit.ofBytes m.frame).status == 0) (reportCompleted .stall 0) = some true := by
    decide +kernel
  obtain ⟨s, hs, hrest⟩ := Option.bind_eq_some_iff.1 hrun
  obtain ⟨c, hc, hrest⟩ := Option.bind_eq_some_iff.1 hrest
  obtain ⟨t, ht, hrest⟩ := Option.bind_eq_some_iff.1 hrest
  obtain ⟨m, hm, hrest⟩ := Option.map_eq_some_iff.1 hrest
  simp only [Bool.and_eq_true, bne_iff_ne, beq_iff_eq, decide_eq_true_eq] at hrest
  obtain ⟨⟨⟨⟨hep, hlen⟩, hlow⟩, hhigh⟩, hstall, hzero⟩ := hrest
  have hreach : Reachable s := (Reachable.boot idfLibrary [] [] [] [] []).of_run hs
  obtain ⟨m', hsent, htold⟩ :=
    hall s c [] .full t hreach hc hep hlen hlow hhigh ht (by decide)
  obtain rfl : m' = m := by simpa [hsent] using hm
  have hsaid := htold.statusWord
  rw [hzero, hstall] at hsaid
  exact absurd hsaid (by decide)

theorem bulk_completion_told_iff_report : ∃ s c t m,
    run coldBoot (reportCompleted .completed 8) = some s ∧ s.callback = some c ∧
      step s (.host (.send [] .full)) = some t ∧ t.history.sent = s.history.sent ++ [m] ∧
        CompletionTold c.transfer.ev c.status c.actualNumBytes c.transfer.dataBuffer m.frame := by
  have hrun : reportAnswered (fun c _ => c.status == .completed && decide
      ((c.transfer.ev.cmdSubmit.transferBufferLength.toNat : ℤ) ≤ c.actualNumBytes))
      (reportCompleted .completed 8) = some true := by
    decide +kernel
  obtain ⟨s, hs, hrest⟩ := Option.bind_eq_some_iff.1 hrun
  obtain ⟨c, hc, hrest⟩ := Option.bind_eq_some_iff.1 hrest
  obtain ⟨t, ht, hrest⟩ := Option.bind_eq_some_iff.1 hrest
  obtain ⟨m, -, hrest⟩ := Option.map_eq_some_iff.1 hrest
  simp only [Bool.and_eq_true, bne_iff_ne, beq_iff_eq, decide_eq_true_eq] at hrest
  obtain ⟨⟨⟨⟨hep, hlen⟩, -⟩, -⟩, hcompleted, hall⟩ := hrest
  have hreach : Reachable s := (Reachable.boot idfLibrary [] [] [] [] []).of_run hs
  obtain ⟨m', hsent, htold⟩ := bulk_completion_told_iff hreach hc hep hlen ht (by decide)
  exact ⟨s, c, t, m', hs, hc, ht, hsent, htold.2 ⟨hcompleted, hall⟩⟩

end UsbRepeater
