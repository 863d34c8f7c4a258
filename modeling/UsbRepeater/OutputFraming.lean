import UsbRepeater.Lib.Framing
import UsbRepeater.Unlink

/-! The stream the server writes in URB mode. Three encoders in two tasks compute their lengths
separately; a client finds the boundaries again with the one rule it has. -/
namespace UsbRepeater

open Schedule

/-- The number of bytes behind the 48 of a reply, for a client that knows which commands were
IN. -/
def replyBodyLength (isIn : UInt32 → Bool) (head : Bytes) : Option ℕ :=
  if ofBe32 head = usbipRetSubmit then
    some (if isIn (ofBe32 (head.drop 4)) then (ofBe32 (head.drop 24)).toNat else 0)
  else if ofBe32 head = usbipRetUnlink then some 0
  else none

/-- What a client gets out of a RET_SUBMIT or a RET_UNLINK: the first 48 bytes and the data. -/
def Message.parts : Message → Bytes × Bytes
  | .retSubmit ev ret =>
      (ret.headBytes, if ev.header.direction = 0 then []
        else ret.transferBuffer.take ret.actualLength.toNat)
  | .retUnlink _ _ ret => (ret.toBytes, [])
  | _ => ([], [])

def Server.commandIn (s : Server) (k : ℕ) (seqnum : UInt32) : Bool :=
  s.history.posted.any fun ev =>
    ev.conn == k && (ev.header.seqnum == seqnum && ev.header.direction != 0)

def Server.sentSince (s start : Server) (k : ℕ) : List Sent :=
  (s.history.sent.drop start.history.sent.length).filter fun m => m.conn = k

def Server.writtenSince (s start : Server) (k : ℕ) : Bytes :=
  (s.sentSince start k).flatMap fun m => m.frame.take m.written

theorem sendSize_eq {length : UInt32} (h : length.toNat ≤ 1000) :
    sendSize length = retSubmitHeadSize + length.toNat := by
  unfold sendSize retSubmitHeadSize
  omega

theorem UsbipRetSubmit.sized_toBytes {r : UsbipRetSubmit} (hp : r.padding.length = 8) {n : ℕ}
    (hn : n ≤ r.transferBuffer.length) (heap : Bytes) :
    sized (retSubmitHeadSize + n) (r.toBytes ++ heap) = r.headBytes ++ r.transferBuffer.take n := by
  rw [← UsbipRetSubmit.headBytes_length hp]
  exact sized_append hn heap

theorem UsbipRetSubmit.sized_head {r : UsbipRetSubmit} (hp : r.padding.length = 8)
    (heap : Bytes) : sized retSubmitHeadSize (r.toBytes ++ heap) = r.headBytes := by
  have hsized := UsbipRetSubmit.sized_toBytes hp (Nat.zero_le _) heap
  rwa [Nat.add_zero, List.take_zero, List.append_nil] at hsized

theorem length_le_overwrite (data old : Bytes) : data.length ≤ (overwrite data old).length := by
  rw [overwrite, List.length_append]
  omega

theorem controlDataLen_bounds (status : TransferStatus) {n : ℤ} (hn : n ≤ 1000) :
    0 ≤ controlDataLen status n ∧ controlDataLen status n ≤ 992 := by
  unfold controlDataLen
  split_ifs <;> omega

theorem ofInt32_toNat {x : ℤ} (h0 : 0 ≤ x) (h : x ≤ 992) : (ofInt32 x).toNat = x.toNat := by
  unfold ofInt32
  rw [UInt32.toNat_ofNat']
  omega

theorem controlReply_length {t : UsbTransfer} {status : TransferStatus} {n : ℤ} (hn : n ≤ 1000)
    (heap : Bytes) :
    (controlReply t status n heap).actualLength.toNat ≤ 1000 ∧
      (controlReply t status n heap).actualLength.toNat ≤
        (controlReply t status n heap).transferBuffer.length := by
  obtain ⟨h0, hle⟩ := controlDataLen_bounds status hn
  have hlen : (controlReply t status n heap).actualLength.toNat =
      (controlDataLen status n).toNat := ofInt32_toNat h0 hle
  rw [hlen]
  refine ⟨by omega, ?_⟩
  have hdata := length_le_overwrite
    (sized (controlDataLen status n).toNat ((t.dataBuffer ++ heap).drop 8))
    t.context.transferBuffer
  rwa [sized_length] at hdata

theorem bulkReply_length {t : UsbTransfer} (hin : t.context.base.direction ≠ 0) (heap : Bytes) :
    (bulkReply t heap).actualLength = t.context.actualLength ∧
      (bulkReply t heap).actualLength.toNat ≤ (bulkReply t heap).transferBuffer.length := by
  have hdata := length_le_overwrite
    (sized t.context.actualLength.toNat (t.dataBuffer ++ heap)) t.context.transferBuffer
  rw [sized_length] at hdata
  rw [bulkReply, if_pos hin]
  exact ⟨rfl, hdata⟩

theorem bulkReply_padding (t : UsbTransfer) (heap : Bytes) :
    (bulkReply t heap).padding = t.context.padding := by
  unfold bulkReply
  split_ifs <;> rfl

theorem Callback.frame_control {c : Callback} (hok : c.transfer.Ok)
    (hctrl : c.transfer.control = true) (hn : c.actualNumBytes ≤ 1000) (heap : Bytes) :
    c.frame heap = (c.reply heap).headBytes ++ (if c.transfer.ev.header.direction = 0 then []
      else (c.reply heap).transferBuffer.take (c.reply heap).actualLength.toNat) := by
  have hdir : c.transfer.context.base.direction = c.transfer.ev.header.direction := by
    rw [hok.context.base]
  have hreply : c.reply heap =
      controlReply c.transfer c.status c.actualNumBytes heap := if_pos hctrl
  have hframe : c.frame heap = controlFrame (c.reply heap) heap := if_pos hctrl
  have hbase : (c.reply heap).base.direction = c.transfer.ev.header.direction := by
    rw [hreply]
    exact hdir
  have hpad : (c.reply heap).padding.length = 8 := by
    rw [hreply]
    exact hok.context.padding
  rw [hframe, controlFrame, hbase]
  split_ifs with hout
  · rw [UsbipRetSubmit.sized_head hpad, List.append_nil]
  · obtain ⟨hle, hbuf⟩ : (c.reply heap).actualLength.toNat ≤ 1000 ∧
        (c.reply heap).actualLength.toNat ≤ (c.reply heap).transferBuffer.length := by
      rw [hreply]
      exact controlReply_length hn heap
    rw [sendSize_eq hle, UsbipRetSubmit.sized_toBytes hpad hbuf]

theorem Callback.frame_bulk {c : Callback} (hok : c.transfer.Ok)
    (hctrl : ¬ c.transfer.control = true)
    (hlen : c.transfer.ev.cmdSubmit.transferBufferLength.toNat ≤ 1000) (heap : Bytes) :
    c.frame heap = (c.reply heap).headBytes ++ (if c.transfer.ev.header.direction = 0 then []
      else (c.reply heap).transferBuffer.take (c.reply heap).actualLength.toNat) := by
  have hdir : c.transfer.context.base.direction = c.transfer.ev.header.direction := by
    rw [hok.context.base]
  have hreply : c.reply heap = bulkReply c.transfer heap := if_neg hctrl
  have hframe : c.frame heap = bulkFrame c.transfer (c.reply heap) heap := if_neg hctrl
  have hpad : (c.reply heap).padding.length = 8 := by
    rw [hreply, bulkReply_padding]
    exact hok.context.padding
  rw [hframe, bulkFrame, hdir]
  by_cases hout : c.transfer.ev.header.direction = 0
  · rw [if_neg (not_not.2 hout), if_pos hout, UsbipRetSubmit.sized_head hpad, List.append_nil]
  · obtain ⟨hsame, hbuf⟩ := bulkReply_length (hdir ▸ hout) heap
    rw [← hreply] at hsame hbuf
    have hle : (c.reply heap).actualLength.toNat ≤ 1000 := by
      rw [hsame, hok.context.actualLength]
      exact hlen
    rw [if_pos hout, if_neg hout, sendSize_eq hle, UsbipRetSubmit.sized_toBytes hpad hbuf]

/-- A frame is the 48 bytes of the reply and, for an IN command, the data it announces. -/
theorem Callback.frame_eq {c : Callback} (hok : c.transfer.Ok) (hn : c.actualNumBytes ≤ 1000)
    (hlen : c.transfer.ev.header.ep ≠ 0 →
      c.transfer.ev.cmdSubmit.transferBufferLength.toNat ≤ 1000) (heap : Bytes) :
    c.frame heap = (c.reply heap).headBytes ++ (if c.transfer.ev.header.direction = 0 then []
      else (c.reply heap).transferBuffer.take (c.reply heap).actualLength.toNat) := by
  by_cases hctrl : c.transfer.control = true
  · exact Callback.frame_control hok hctrl hn heap
  · exact Callback.frame_bulk hok hctrl (hlen fun h => hctrl (hok.control.2 h)) heap

theorem Callback.reply_command {c : Callback} (hok : c.transfer.Ok) (heap : Bytes) :
    (c.reply heap).base.command = usbipRetSubmit ∧ (c.reply heap).padding.length = 8 := by
  have hbase := hok.context.base
  have hpad := hok.context.padding
  unfold Callback.reply controlReply bulkReply
  split_ifs <;> simp [hbase, hpad]

theorem Callback.reply_data_length {c : Callback} (hok : c.transfer.Ok)
    (hn : c.actualNumBytes ≤ 1000) (hin : c.transfer.ev.header.direction ≠ 0) (heap : Bytes) :
    (c.reply heap).actualLength.toNat ≤ (c.reply heap).transferBuffer.length := by
  have hdir : c.transfer.context.base.direction = c.transfer.ev.header.direction := by
    rw [hok.context.base]
  unfold Callback.reply
  split_ifs
  · exact (controlReply_length hn heap).2
  · exact (bulkReply_length (hdir ▸ hin) heap).2

inductive Sent.UrbReply (k : ℕ) (posted : List Submit) (m : Sent) : Prop
  | submit (c : Callback) (heap : Bytes) (hok : c.transfer.Ok) (hn : c.actualNumBytes ≤ 1000)
      (hev : c.transfer.ev ∈ posted) (hk : c.transfer.ev.conn = k)
      (hm : m.message = .retSubmit c.transfer.ev (c.reply heap)) (hf : m.frame = c.frame heap)
      (hw : m.written = m.frame.length)
  | unlink (seqnum victim : UInt32) (hm : m.message = .retUnlink seqnum victim retUnlink)
      (hf : m.frame = retUnlink.toBytes) (hw : m.written = m.frame.length)

theorem Sent.UrbReply.mono {k : ℕ} {posted posted' : List Submit} {m : Sent}
    (h : m.UrbReply k posted) (hp : posted <+: posted') : m.UrbReply k posted' := by
  cases h with
  | submit c heap hok hn hev hk hm hf hw =>
    exact .submit c heap hok hn (hp.subset hev) hk hm hf hw
  | unlink seqnum victim hm hf hw => exact .unlink seqnum victim hm hf hw

theorem Sent.UrbReply.written_eq {k : ℕ} {posted : List Submit} {m : Sent}
    (h : m.UrbReply k posted) : m.frame.take m.written = m.frame := by
  cases h with
  | submit c heap hok hn hev hk hm hf hw => rw [hw, List.take_length]
  | unlink seqnum victim hm hf hw => rw [hw, List.take_length]

/-- The requested lengths that fit the data buffer of a transfer. -/
def LengthsFit (posted : List Submit) (k : ℕ) : Prop :=
  ∀ ev ∈ posted, ev.conn = k → ev.header.ep ≠ 0 →
    ev.cmdSubmit.transferBufferLength.toNat ≤ 1000

instance (posted : List Submit) (k : ℕ) : Decidable (LengthsFit posted k) := by
  unfold LengthsFit
  infer_instance

theorem Sent.UrbReply.frame_eq {k : ℕ} {posted : List Submit} {m : Sent}
    (h : m.UrbReply k posted) (hlen : LengthsFit posted k) :
    m.frame = m.message.parts.1 ++ m.message.parts.2 := by
  cases h with
  | submit c heap hok hn hev hk hm hf hw =>
    rw [hf, hm]
    exact Callback.frame_eq hok hn (hlen c.transfer.ev hev hk) heap
  | unlink seqnum victim hm hf hw =>
    rw [hf, hm]
    exact (List.append_nil _).symm

/-- With distinct sequence numbers, the client looks up the command itself. -/
theorem commandIn_eq {s : Server} {k : ℕ} {ev : Submit}
    (hseq : ((s.history.posted.filter fun ev => ev.conn = k).map fun ev =>
      ev.header.seqnum).Nodup) (hev : ev ∈ s.history.posted) (hk : ev.conn = k) :
    s.commandIn k ev.header.seqnum = true ↔ ev.header.direction ≠ 0 := by
  have hmem : ∀ e, e ∈ s.history.posted ∧ e.conn = k ↔
      e ∈ s.history.posted.filter fun ev => ev.conn = k := by
    intro e
    simp
  simp only [Server.commandIn, List.any_eq_true, Bool.and_eq_true, beq_iff_eq, bne_iff_ne, ne_eq]
  constructor
  · rintro ⟨e, he, hek, hsame, hdir⟩
    have heq : e = ev := List.inj_on_of_nodup_map hseq ((hmem e).1 ⟨he, hek⟩)
      ((hmem ev).1 ⟨hev, hk⟩) hsame
    rwa [heq] at hdir
  · intro hdir
    exact ⟨ev, hev, hk, rfl, hdir⟩

theorem retUnlink_fits (isIn : UInt32 → Bool) :
    Framing.Fits retSubmitHeadSize (replyBodyLength isIn) (retUnlink.toBytes, []) := by
  have hcommand : ofBe32 retUnlink.toBytes = usbipRetUnlink := by decide +kernel
  refine ⟨by decide, ?_⟩
  simp only [replyBodyLength, hcommand, List.length_nil]
  rfl

theorem Sent.UrbReply.fits {s : Server} {k : ℕ} {m : Sent} (h : m.UrbReply k s.history.posted)
    (hseq : ((s.history.posted.filter fun ev => ev.conn = k).map fun ev =>
      ev.header.seqnum).Nodup) :
    Framing.Fits retSubmitHeadSize (replyBodyLength (s.commandIn k)) m.message.parts := by
  cases h with
  | submit c heap hok hn hev hk hm hf hw =>
    rw [hm]
    obtain ⟨hcommand, hpad⟩ := Callback.reply_command hok heap
    refine ⟨UsbipRetSubmit.headBytes_length hpad, ?_⟩
    have hlength : ofBe32 ((c.reply heap).headBytes.drop 24) = (c.reply heap).actualLength := by
      have hat := UsbipRetSubmit.actualLength_at (c.reply heap) []
      rwa [List.append_nil] at hat
    have hseqnum := (Callback.reply_identifies hok heap).1
    have hknown := commandIn_eq hseq hev hk
    simp only [Message.parts, replyBodyLength, UsbipRetSubmit.command_at,
      UsbipRetSubmit.seqnum_at, hcommand, hseqnum, hlength, if_true, Option.some.injEq]
    by_cases hin : c.transfer.ev.header.direction = 0
    · have hout : s.commandIn k c.transfer.ev.header.seqnum = false := by
        rw [Bool.eq_false_iff]
        exact fun h => hknown.1 h hin
      rw [hout, if_pos hin]
      rfl
    · rw [hknown.2 hin, if_neg hin, List.length_take,
        min_eq_left (Callback.reply_data_length hok hn hin heap), if_pos rfl]
  | unlink seqnum victim hm hf hw =>
    rw [hm]
    exact retUnlink_fits _

/-- A send takes its whole frame or fails. -/
def SendsWhole (_ : Server) : Action → Prop
  | .host (.send _ r) | .tcp (.send r) => r = .full ∨ r = .failed
  | _ => True

/-- The host library reports no more bytes than the data buffer has. -/
def ReportsFit (_ : Server) : Action → Prop
  | .host (.complete _ _ n _) => n ≤ 1000
  | _ => True

instance (s : Server) : ∀ a, Decidable (SendsWhole s a)
  | .host (.send _ r) | .tcp (.send r) => inferInstanceAs (Decidable (r = .full ∨ r = .failed))
  | .host (.complete _ _ _ _) | .host .clear | .tcp .run | .tcp (.accept _ _) | .tcp (.recv _)
  | .tcp (.post _) | .loop1 _ | .loop2 _ | .driver _ => isTrue trivial

instance (s : Server) : ∀ a, Decidable (ReportsFit s a)
  | .host (.complete _ _ n _) => inferInstanceAs (Decidable (n ≤ 1000))
  | .host .clear | .host (.send _ _) | .tcp _ | .loop1 _ | .loop2 _ | .driver _ => isTrue trivial

/-- In the URB loop of the connection `k`: no command is left to answer, and nothing is
outstanding for another connection. -/
structure Server.OwnsOutput (s : Server) (k : ℕ) : Prop where
  loop1 : s.loop1 = ⟨[], .idle⟩
  outstanding : ∀ ev, s.Outstanding ev → ev.conn = k
  reported : ∀ c, s.callback = some c → c.actualNumBytes ≤ 1000

instance (s : Server) (k : ℕ) : Decidable (s.OwnsOutput k) :=
  decidable_of_iff (s.loop1 = ⟨[], .idle⟩ ∧ (∀ ev ∈ s.outstanding, ev.conn = k) ∧
      ∀ c ∈ s.callback, c.actualNumBytes ≤ 1000)
    ⟨fun h => ⟨h.1, fun ev hev => h.2.1 ev (outstanding_iff.1 hev), h.2.2⟩,
      fun h => ⟨h.loop1, fun ev hev => h.outstanding ev (outstanding_iff.2 hev), h.reported⟩⟩

theorem loop1Step_of_idle {s t : Server} {a : Loop1Action} (hs : s.loop1 = ⟨[], .idle⟩) :
    ¬ Loop1Step s a t := by
  have hh : s.loop1.handler = .idle := by rw [hs]
  have hq : s.loop1.queue = [] := by rw [hs]
  intro h
  cases h with
  | dispatch ev queue _ hqueue => rw [hq] at hqueue; cases hqueue
  | devlistCrash _ _ _ hh' | devlistFailed _ _ _ hh' | devlistSent _ _ _ _ _ _ hh' | copy _ hh'
  | recv _ _ _ _ _ hh' | recvFailed _ _ _ _ _ hh' | buildCrash _ _ hh' | build _ _ _ hh'
  | sendFailed _ _ _ hh' | sendShort _ _ _ _ _ hh' | send _ _ _ _ hh' | busy _ _ _ hh' =>
    rw [hh] at hh'
    cases hh'

theorem step_loop1_eq {s t : Server} {a : Action} {k : ℕ} (hs : s.loop1 = ⟨[], .idle⟩)
    (hurb : s.UrbPhase k) (h : step s a = some t) : t.loop1 = ⟨[], .idle⟩ := by
  cases a with
  | tcp a =>
    obtain ⟨-, heff⟩ := tcpStep_effect h
    cases heff with
    | postCommand tcp htcp hpc =>
      have hin := hurb.inUrb
      rw [hpc] at hin
      cases hin
    | _ => exact hs
  | loop1 a => exact absurd (loop1Step h).2 (loop1Step_of_idle hs)
  | loop2 a =>
    obtain ⟨-, heff⟩ := loop2Step_effect h
    cases heff <;> exact hs
  | host a =>
    obtain ⟨-, heff⟩ := hostStep_effect h
    cases heff <;> exact hs
  | driver a =>
    obtain ⟨-, -, d, e, -, rfl⟩ := driverStep_effect h
    cases e <;> exact hs

theorem step_reported {s t : Server} {a : Action}
    (hs : ∀ c, s.callback = some c → c.actualNumBytes ≤ 1000) (ha : ReportsFit s a)
    (h : step s a = some t) : ∀ c, t.callback = some c → c.actualNumBytes ≤ 1000 := by
  intro c hc
  cases a with
  | tcp a =>
    obtain ⟨-, heff⟩ := tcpStep_effect h
    cases heff <;> exact hs c hc
  | loop1 a =>
    obtain ⟨-, heff⟩ := loop1Step_effect h
    cases heff <;> exact hs c hc
  | loop2 a =>
    obtain ⟨-, heff⟩ := loop2Step_effect h
    cases heff <;> exact hs c hc
  | host a =>
    obtain ⟨-, heff⟩ := hostStep_effect h
    cases heff with
    | complete i tr status n data hcb hi =>
      cases hc
      exact ha
    | clear c' hcb hcl =>
      cases hc
      exact hs c' hcb
    | silent => cases hc
    | reply => cases hc
  | driver a =>
    obtain ⟨-, -, d, e, -, rfl⟩ := driverStep_effect h
    cases e <;> exact hs c hc

theorem step_ownsOutput {s t : Server} {a : Action} {k : ℕ} (hs : s.OwnsOutput k)
    (hurb : s.UrbPhase k) (ha : ReportsFit s a) (h : step s a = some t) : t.OwnsOutput k := by
  refine ⟨step_loop1_eq hs.loop1 hurb h, fun ev hev => ?_, step_reported hs.reported ha h⟩
  rcases step_outstanding h hev with hev | ⟨-, -, rfl⟩
  · exact hs.outstanding ev hev
  · obtain ⟨c, hc, hid⟩ := hurb.conn
    rw [(submitEvent_of_conn hc).2, hid]

theorem step_urbReply {s t : Server} {a : Action} {k : ℕ} (hs : s.OwnsOutput k)
    (hurb : s.UrbPhase k) (hacc : s.Accounted) (ha : SendsWhole s a) (h : step s a = some t) :
    ∃ new, t.history.sent = s.history.sent ++ new ∧
      ∀ m ∈ new, m.UrbReply k t.history.posted := by
  have hposted := (step_extends h).posted
  cases step_sent h with
  | none a t hnone => exact ⟨[], by rw [hnone, List.append_nil], fun m hm => by cases hm⟩
  | command a t m hm hone => exact absurd (loop1Step h).2 (loop1Step_of_idle hs.loop1)
  | unlink t c r n hpc hc hr hone =>
    have hn : n = retUnlink.toBytes.length := by
      rcases hr with ⟨-, hn⟩ | rfl
      · exact hn
      · rcases ha with ha | ha <;> cases ha
    refine ⟨_, hone, fun m hm => ?_⟩
    rw [List.mem_singleton.1 hm]
    exact .unlink _ _ rfl rfl hn
  | reply t cb c heap r n hcb hc hnum hr hone =>
    have hn : n = (cb.frame heap).length := by
      rcases hr with ⟨-, hn⟩ | rfl
      · exact hn
      · rcases ha with ha | ha <;> cases ha
    refine ⟨_, hone, fun m hm => ?_⟩
    rw [List.mem_singleton.1 hm]
    have hout : s.Outstanding cb.transfer.ev := .callback cb hcb rfl
    exact .submit cb heap (hurb.contexts.callback cb hcb) (hs.reported cb hcb)
      (hposted.subset (hacc.mem_posted hout)) (hs.outstanding _ hout) rfl rfl hn

structure Server.Framed (s start : Server) (k : ℕ) : Prop where
  urb : s.UrbPhase k
  accounted : s.Accounted
  owns : s.OwnsOutput k
  sent : ∃ new, s.history.sent = start.history.sent ++ new ∧
    ∀ m ∈ new, m.UrbReply k s.history.posted

theorem step_framed {start s t : Server} {k : ℕ} {a : Action} (hs : s.Framed start k)
    (hstay : StaysInUrb s a) (hwhole : SendsWhole s a) (hreports : ReportsFit s a)
    (h : step s a = some t) : t.Framed start k := by
  refine ⟨step_urbPhase hs.urb hstay h, step_accounted hs.accounted h,
    step_ownsOutput hs.owns hs.urb hreports h, ?_⟩
  obtain ⟨old, hold, hreplies⟩ := hs.sent
  obtain ⟨new, hnew, hreply⟩ := step_urbReply hs.owns hs.urb hs.accounted hwhole h
  refine ⟨old ++ new, by rw [hnew, hold, List.append_assoc], fun m hm => ?_⟩
  rcases List.mem_append.1 hm with hm | hm
  · exact (hreplies m hm).mono (step_extends h).posted
  · exact hreply m hm

/-- The stream written in the URB phase splits into the replies sent, in their order. -/
theorem output_splits {s t : Server} {as : List Action} {c : Conn} (hs : Reachable s)
    (hpc : s.tcp.pc = .urbHeader) (hc : s.conn = some c) (howns : s.OwnsOutput c.id)
    (h : run s as = some t) (hstay : Always step StaysInUrb s as)
    (hwhole : Always step SendsWhole s as) (hreports : Always step ReportsFit s as)
    (hlen : LengthsFit t.history.posted c.id)
    (hseq : ((t.history.posted.filter fun ev => ev.conn = c.id).map fun ev =>
      ev.header.seqnum).Nodup) :
    Framing.split retSubmitHeadSize (replyBodyLength (t.commandIn c.id))
        (t.writtenSince s c.id) =
      some ((t.sentSince s c.id).map fun m => m.message.parts) ∧
    ∀ m ∈ t.sentSince s c.id, m.frame = m.message.parts.1 ++ m.message.parts.2 := by
  have hstart : s.Framed s c.id := by
    obtain ⟨d, hd, hurb⟩ := hs.urbPhase hpc
    rw [hc] at hd
    cases hd
    exact ⟨hurb, hs.accounted, howns, [], (List.append_nil _).symm, fun m hm => by cases hm⟩
  have hend : t.Framed s c.id := exec_invariant (I := fun u => u.Framed s c.id)
    (fun u a v hu ha huv => step_framed hu ha.1.1 ha.1.2 ha.2 huv) hstart
    ((hstay.and hwhole).and hreports) h
  have hall : ∀ m ∈ t.sentSince s c.id, m.UrbReply c.id t.history.posted := by
    obtain ⟨new, hnew, hreply⟩ := hend.sent
    intro m hm
    rw [Server.sentSince, hnew, List.drop_left] at hm
    exact hreply m (List.mem_of_mem_filter hm)
  refine ⟨?_, fun m hm => (hall m hm).frame_eq hlen⟩
  have hwritten : t.writtenSince s c.id =
      ((t.sentSince s c.id).map fun m => m.message.parts).flatMap fun f => f.1 ++ f.2 := by
    rw [Server.writtenSince, List.flatMap_map]
    refine List.flatMap_congr fun m hm => ?_
    rw [(hall m hm).written_eq, (hall m hm).frame_eq hlen]
  rw [hwritten]
  refine Framing.split_flatMap (by decide) _ fun f hf => ?_
  obtain ⟨m, hm, rfl⟩ := List.mem_map.1 hf
  exact (hall m hm).fits hseq

def mixedSession : List Action :=
  submitting ++ handlingControl true ++ submitting ++ handlingBulk ++ unlinking ++
    completing 26 ++ completing 8

def mixedPrelude : List Action :=
  keyboardEnumeration ++
    importing 3 (importSession [submitIn 7 0 18, submitIn 8 1 8, unlinkOf 9 99]).stream

theorem output_splits_mixed :
    ∃ s t, run coldBoot mixedPrelude = some s ∧ run s mixedSession = some t ∧
      (t.writtenSince s 0).length = 48 + (48 + 18) + (48 + 8) ∧
      Framing.split retSubmitHeadSize (replyBodyLength (t.commandIn 0)) (t.writtenSince s 0) =
        some ((t.sentSince s 0).map fun m => m.message.parts) := by
  have hrun : ((run coldBoot mixedPrelude).bind fun s => (run s mixedSession).map fun t =>
      decide (s.tcp.pc = .urbHeader ∧ s.conn.map Conn.id = some 0 ∧ s.OwnsOutput 0 ∧
        Always step StaysInUrb s mixedSession ∧ Always step SendsWhole s mixedSession ∧
        Always step ReportsFit s mixedSession ∧ LengthsFit t.history.posted 0 ∧
        ((t.history.posted.filter fun ev => ev.conn = 0).map fun ev =>
          ev.header.seqnum).Nodup ∧
        (t.writtenSince s 0).length = 48 + (48 + 18) + (48 + 8))) = some true := by
    decide +kernel
  obtain ⟨s, t, hs, ht, hend⟩ := exec_check hrun
  obtain ⟨hpc, hid, howns, hstay, hwhole, hreports, hlen, hseq, hwritten⟩ :=
    of_decide_eq_true hend
  obtain ⟨c, hc, hid⟩ := Option.map_eq_some_iff.1 hid
  refine ⟨s, t, hs, ht, hwritten, ?_⟩
  have hsplit := (output_splits ⟨_, _, _, _, _, _, _, hs⟩ hpc hc (hid ▸ howns) ht hstay hwhole
    hreports (hid ▸ hlen) (hid ▸ hseq)).1
  rwa [hid] at hsplit

end UsbRepeater
