import UsbRepeater.Lib.Relay
import UsbRepeater.OutPipe
import UsbRepeater.EndpointWords

/-! What the firmware is for: it relays the requests of USB/IP clients to a device, and the
device's answers to the clients. The relay is the specification: a request is a CMD_SUBMIT that
`do_recv` has posted, with the payload it has read, and a transfer that the host library is given;
an answer is what the transfer has come to, and a RET_SUBMIT sent whole. -/
namespace UsbRepeater

open Schedule Fifo

/-- A request as its device gets it: the endpoint, the setup packet of a control transfer, and
the data sent along. `id` numbers the requests posted. -/
structure Urb where
  id : ℕ
  ep : ℕ
  direction : ℕ
  setup : Bytes
  data : Bytes
  deriving DecidableEq

structure UrbAnswer where
  seqnum : UInt32
  status : ℤ
  actualLength : ℤ
  data : Bytes
  deriving DecidableEq

/-- The request in a CMD_SUBMIT that has been posted, with the payload read for it. -/
def Submit.urb (ev : Submit) (payload : Bytes) : Urb where
  id := ev.id
  ep := ev.header.ep.toNat
  direction := ev.header.direction.toNat
  setup := if ev.header.ep = 0 then ev.cmdSubmit.setup else []
  data := if ev.header.direction = 0 then payload else []

/-- The request that the host library gets with a transfer. -/
def UsbTransfer.urb (t : UsbTransfer) : Urb where
  id := t.ev.id
  ep := (t.bEndpointAddress &&& 0x0F).toNat
  direction := (t.bEndpointAddress >>> 7).toNat
  setup := if t.control then t.dataBuffer.take 8 else []
  data := if (t.bEndpointAddress >>> 7).toNat = 0 then
      t.outBytes.drop (if t.control then 8 else 0)
    else []

/-- What a completed transfer has come to: the bytes transferred of those asked for and, for an
IN request, these bytes. -/
def Callback.answer (c : Callback) : UrbAnswer :=
  let ev := c.transfer.ev
  let size : ℤ := if ev.header.ep = 0 then controlDataSize c.status c.actualNumBytes
    else min c.actualNumBytes ev.cmdSubmit.transferBufferLength.toNat
  { seqnum := ev.header.seqnum
    status := usbipStatus c.status
    actualLength := size
    data := if ev.header.direction = 0 then []
      else (c.transfer.dataBuffer.drop (if ev.header.ep = 0 then 8 else 0)).take size.toNat }

def UrbAnswer.ofFrame (frame : Bytes) : UrbAnswer :=
  let ret := UsbipRetSubmit.ofBytes frame
  ⟨ret.base.seqnum, toInt32 ret.status, ret.actualLength.toNat, frame.drop retSubmitHeadSize⟩

/-- The request names an endpoint, and its data fit: no payload on the control endpoint, no more
than the data buffer holds on the others. -/
structure Submit.Relayable (ev : Submit) : Prop where
  direction : ev.header.direction.toNat ≤ 1
  ep : ev.header.ep.toNat ≤ 15
  control : ev.header.ep = 0 → ev.header.direction = 0 → ev.cmdSubmit.transferBufferLength = 0
  other : ev.header.ep ≠ 0 → ev.cmdSubmit.transferBufferLength.toNat ≤ dataBufferSize

/-- The end of a transfer can be told: a control transfer has brought no more than was asked for
and fits, any other has completed and brought all of it. -/
structure Callback.EndsWell (c : Callback) : Prop where
  control : c.transfer.ev.header.ep = 0 →
    c.actualNumBytes ≤ c.transfer.numBytes ∧ c.actualNumBytes ≤ dataBufferSize
  other : c.transfer.ev.header.ep ≠ 0 → c.status = .completed ∧
    (c.transfer.ev.cmdSubmit.transferBufferLength.toNat : ℤ) ≤ c.actualNumBytes

/-- What each request posted has to be like, and each reply: it is sent whole, of a transfer that
ended well, or not at all. -/
def Relays (s : Server) : Action → Prop
  | .tcp (.post true) => s.tcp.pc = .postSubmit → (submitEvent s).Relayable
  | .host (.send _ r) => r = .failed ∨ r = .full ∧ ∀ c ∈ s.callback, c.EndsWell
  | _ => True

instance (ev : Submit) : Decidable ev.Relayable :=
  decidable_of_iff (ev.header.direction.toNat ≤ 1 ∧ ev.header.ep.toNat ≤ 15 ∧
    (ev.header.ep = 0 → ev.header.direction = 0 → ev.cmdSubmit.transferBufferLength = 0) ∧
    (ev.header.ep ≠ 0 → ev.cmdSubmit.transferBufferLength.toNat ≤ dataBufferSize))
    ⟨fun h => ⟨h.1, h.2.1, h.2.2.1, h.2.2.2⟩, fun h => ⟨h.direction, h.ep, h.control, h.other⟩⟩

instance (c : Callback) : Decidable c.EndsWell :=
  decidable_of_iff ((c.transfer.ev.header.ep = 0 →
      c.actualNumBytes ≤ c.transfer.numBytes ∧ c.actualNumBytes ≤ dataBufferSize) ∧
    (c.transfer.ev.header.ep ≠ 0 → c.status = .completed ∧
      (c.transfer.ev.cmdSubmit.transferBufferLength.toNat : ℤ) ≤ c.actualNumBytes))
    ⟨fun h => ⟨h.1, h.2⟩, fun h => ⟨h.control, h.other⟩⟩

instance (s : Server) (a : Action) : Decidable (Relays s a) :=
  match a with
  | .tcp (.post true) => inferInstanceAs (Decidable (s.tcp.pc = .postSubmit → _))
  | .tcp (.post false) => isTrue trivial
  | .tcp (.accept _ _) => isTrue trivial
  | .tcp (.recv _) => isTrue trivial
  | .tcp (.send _) => isTrue trivial
  | .tcp .run => isTrue trivial
  | .host (.send _ r) => inferInstanceAs (Decidable (r = .failed ∨ r = .full ∧ _))
  | .host .clear => isTrue trivial
  | .host (.complete _ _ _ _) => isTrue trivial
  | .loop1 _ => isTrue trivial
  | .loop2 _ => isTrue trivial
  | .driver _ => isTrue trivial

def WireNote.urb (w : WireNote) (ev : Submit) : Urb := ev.urb (w.payloadOf ev)

def Server.seen (s : Server) (w : WireNote) : Action → List (RelayEvent ℕ Urb UrbAnswer)
  | .tcp (.post true) =>
      if s.tcp.pc = .postSubmit then
        [.ask s.loop2.count ((submitEvent s).urb w.current.payload)]
      else []
  | .loop2 a =>
      (s.hands a).toList.map (fun x => .pass x.1 x.2.urb) ++
        (s.drops a).toList.map fun x => .drop x.1 (w.urb x.2)
  | .host (.complete i status n data) =>
      (s.inFlight[i]?).toList.map fun t => .answer (w.urb t.ev)
        (Callback.answer ⟨{ t with dataBuffer := sized t.dataBuffer.length data }, status, n,
          false⟩)
  | .host (.send heap r) =>
      s.callback.toList.map fun c =>
        if s.skt < 0 ∨ r = .failed then .lose (w.urb c.transfer.ev) c.answer
        else .tell (w.urb c.transfer.ev) (.ofFrame (c.frame heap))
  | _ => []

def noteRelay (s : Server) (a : Action)
    (m : WireNote × List (RelayEvent ℕ Urb UrbAnswer)) :
    WireNote × List (RelayEvent ℕ Urb UrbAnswer) :=
  (noteWire s a m.1, m.2 ++ s.seen m.1 a)

/-- The firmware has on its hands what the relay has; `urb` is the request behind an event. -/
structure Server.Relayed (s : Server) (urb : Submit → Urb) (u : Relay ℕ Urb UrbAnswer) : Prop where
  waiting : ∀ l, u.waiting l =
    (lane Prod.fst l s.working ++ lane Prod.fst l s.loop2.queue).map fun x => urb x.2
  pending : u.pending = ((s.inFlight.map fun t => urb t.ev : List Urb) : Multiset Urb)
  answers : u.answers = s.callback.toList.map fun c => (urb c.transfer.ev, c.answer)

theorem Submit.Relayable.address {ev : Submit} (h : ev.Relayable) :
    (endpointAddress ev &&& 0x0F).toNat = ev.header.ep.toNat ∧
      (endpointAddress ev >>> 7).toNat = ev.header.direction.toNat := by
  have hep := h.ep
  have hdir := h.direction
  have hfields := endpointAddress_fields ⟨ev.header.ep.toNat, by omega⟩
    ⟨ev.header.direction.toNat, by omega⟩
  simpa only [endpointAddress, UInt32.ofNat_toNat] using hfields

theorem UsbTransfer.BuiltIn.setup_eq {memory : Bytes} {t : UsbTransfer} (h : t.BuiltIn memory)
    (hep : t.ev.header.ep = 0) (hsetup : t.ev.cmdSubmit.setup.length = 8) :
    t.dataBuffer.take 8 = t.ev.cmdSubmit.setup := by
  cases h with
  | control ev ret devHdl hzero =>
    have htake := overwrite_take ev.cmdSubmit.setup (sized dataBufferSize memory)
    have hlen : ev.cmdSubmit.setup.length = 8 := hsetup
    rw [hlen] at htake
    exact htake
  | bulk ev ret devHdl lib mps beyond hne =>
    rw [buildBulk_ev] at hep
    exact absurd hep hne

theorem UsbTransfer.BuiltIn.control_data {memory : Bytes} {t : UsbTransfer} (h : t.BuiltIn memory)
    (hep : t.ev.header.ep = 0) (hlen : t.ev.cmdSubmit.transferBufferLength = 0) :
    t.outBytes.drop 8 = [] := by
  have hbytes : t.numBytes = 8 := by
    cases h with
    | control ev ret devHdl hzero =>
      have hzero : ev.cmdSubmit.transferBufferLength = 0 := hlen
      have hnum : (buildControl (allocTransfer ev ret memory devHdl)).numBytes =
          toInt32 (ev.cmdSubmit.transferBufferLength + 8) := rfl
      rw [hnum, hzero]
      rfl
    | bulk ev ret devHdl lib mps beyond hne =>
      rw [buildBulk_ev] at hep
      exact absurd hep hne
  refine List.drop_eq_nil_of_le ?_
  rw [UsbTransfer.outBytes, hbytes]
  exact List.length_take_le _ _

/-- The host library gets the request that was posted. -/
theorem UsbTransfer.BuiltIn.urb_eq {memory : Bytes} {t : UsbTransfer} {w : WireNote}
    (h : t.BuiltIn memory) (haddress : t.bEndpointAddress = endpointAddress t.ev)
    (hctrl : t.control = true ↔ t.ev.header.ep = 0) (hev : t.ev.Relayable)
    (hsetup : t.ev.cmdSubmit.setup.length = 8) (hnoted : t.ev.NotedIn w.posted) :
    t.urb = w.urb t.ev := by
  obtain ⟨hep, hdir⟩ := hev.address
  rw [← haddress] at hep hdir
  have hpacket : (if t.control then t.dataBuffer.take 8 else []) =
      if t.ev.header.ep = 0 then t.ev.cmdSubmit.setup else [] := by
    by_cases hzero : t.ev.header.ep = 0
    · rw [if_pos (hctrl.2 hzero), if_pos hzero, h.setup_eq hzero hsetup]
    · rw [if_neg fun hc => hzero (hctrl.1 hc), if_neg hzero]
  have hdata : (if (t.bEndpointAddress >>> 7).toNat = 0 then
        t.outBytes.drop (if t.control then 8 else 0) else []) =
      if t.ev.header.direction = 0 then w.payloadOf t.ev else [] := by
    rw [hdir]
    by_cases hout : t.ev.header.direction = 0
    · obtain ⟨p, hp, hreceived⟩ := hnoted hout
      have hpayload : w.payloadOf t.ev = p.payload := by rw [WireNote.payloadOf, hp]; rfl
      rw [if_pos hout, if_pos (by rw [hout]; rfl), hpayload]
      by_cases hzero : t.ev.header.ep = 0
      · have hlen := hev.control hzero hout
        have hnil : p.payload = [] := by
          have hcount := hreceived.length
          rw [hlen] at hcount
          exact List.eq_nil_of_length_eq_zero hcount.symm
        rw [if_pos (hctrl.2 hzero), h.control_data hzero hlen, hnil]
      · have hfits : p.payload.length ≤ dataBufferSize := by
          rw [← hreceived.length]
          exact hev.other hzero
        rw [if_neg fun hc => hzero (hctrl.1 hc), List.drop_zero,
          h.outBytes_eq hreceived hout hzero hfits]
    · have hin : t.ev.header.direction.toNat ≠ 0 := fun hnat => hout (UInt32.toNat_inj.1 hnat)
      rw [if_neg hout, if_neg hin]
  simp only [UsbTransfer.urb, WireNote.urb, Submit.urb, hep, hdir, hpacket]
  rw [← hdata, hdir]

theorem usbipStatus_eq (status : TransferStatus) : usbipStatus status =
    if status = .completed then 0 else if status = .stall then -32 else -71 := by
  cases status <;> decide

/-- The reply says what has become of its request. -/
theorem Callback.ofFrame_eq {c : Callback} (hok : c.transfer.Ok) (ht : c.transfer.Regions)
    (hbytes : c.transfer.ev.header.ep = 0 →
      c.transfer.numBytes = toInt32 (c.transfer.ev.cmdSubmit.transferBufferLength + 8))
    (hev : c.transfer.ev.Relayable) (hends : c.EndsWell) (heap : Bytes) :
    UrbAnswer.ofFrame (c.frame heap) = c.answer := by
  by_cases hep : c.transfer.ev.header.ep = 0
  · obtain ⟨hn, hmax⟩ := hends.control hep
    rw [hbytes hep] at hn
    have hanswer := Callback.controlAnswer hok ht hep hn hmax heap
    have hsize : (if c.transfer.ev.header.ep = 0 then
        (controlDataSize c.status c.actualNumBytes : ℤ)
      else min c.actualNumBytes c.transfer.ev.cmdSubmit.transferBufferLength.toNat) =
        controlDataSize c.status c.actualNumBytes := if_pos hep
    have hdata : (c.frame heap).drop retSubmitHeadSize =
        if c.transfer.ev.header.direction = 0 then []
        else (c.transfer.dataBuffer.drop 8).take (controlDataSize c.status c.actualNumBytes) := by
      by_cases hout : c.transfer.ev.header.direction = 0
      · rw [if_pos hout]
        exact List.drop_eq_nil_of_le (hanswer.out hout).le
      · rw [if_neg hout]
        exact (hanswer.payload hout).2
    simp only [UrbAnswer.ofFrame, Callback.answer, hsize, hanswer.base, hanswer.statusWord,
      hanswer.actualLength, usbipStatus_eq, hdata, if_pos hep, Int.toNat_natCast]
  · obtain ⟨hcompleted, hall⟩ := hends.other hep
    have hctrl : ¬ c.transfer.control = true := fun h => hep (hok.control.1 h)
    have hlen := hev.other hep
    have htold := (Callback.completionTold_iff hok ht hep hlen heap).2 ⟨hcompleted, hall⟩
    have hframe := Callback.frame_bulk hok hctrl hlen heap
    have hseqnum : (UsbipRetSubmit.ofBytes (c.frame heap)).base.seqnum =
        c.transfer.ev.header.seqnum := by
      rw [Callback.ofBytes_frame hok hframe]
      exact (Callback.reply_identifies hok heap).1
    have hsize : (if c.transfer.ev.header.ep = 0 then
        (controlDataSize c.status c.actualNumBytes : ℤ)
      else min c.actualNumBytes c.transfer.ev.cmdSubmit.transferBufferLength.toNat) =
        min c.actualNumBytes c.transfer.ev.cmdSubmit.transferBufferLength.toNat := if_neg hep
    have hdata : (c.frame heap).drop retSubmitHeadSize =
        if c.transfer.ev.header.direction = 0 then []
        else c.transfer.dataBuffer.take
          (min c.actualNumBytes c.transfer.ev.cmdSubmit.transferBufferLength.toNat).toNat := by
      by_cases hout : c.transfer.ev.header.direction = 0
      · have hhead : (c.reply heap).headBytes.length = retSubmitHeadSize :=
          UsbipRetSubmit.headBytes_length (Callback.reply_command hok heap).2
        rw [if_pos hout] at hframe ⊢
        rw [hframe, List.append_nil]
        exact List.drop_eq_nil_of_le hhead.le
      · rw [if_neg hout]
        exact htold.payload hout
    simp only [UrbAnswer.ofFrame, Callback.answer, hsize, hseqnum, htold.statusWord,
      htold.actualLength, usbipStatus_eq, hdata, if_neg hep, List.drop_zero]

def eventClaim (Q : Submit → Prop) : PipelineClaim where
  queued := Q
  handler
    | .entry ev | .filled ev _ | .sktSet ev _ => Q ev
    | .allocated t | .checked t | .built t => Q t.ev
    | .accepted _ => True
  inFlight t := Q t.ev
  callback t := Q t.ev

theorem eventClaim_moves (Q : Submit → Prop) (s : Server) : (eventClaim Q).Moves s where
  dispatch _ h := h
  fill _ _ h := h
  setSkt _ _ h := h
  alloc _ _ _ h := h
  control _ h _ := h
  checked _ h _ := h
  build t beyond h := by
    have hev : Q t.ev := h
    show Q (buildBulk s.lib s.driver.mps beyond t).ev
    rwa [buildBulk_ev]
  submit _ h := h
  accepted _ _ _ := trivial
  complete _ _ h := h

section Relayed

variable {s t : Server} {urb : Submit → Urb} {u : Relay ℕ Urb UrbAnswer}

theorem Server.Relayed.of_same (hs : s.Relayed urb u) (hq : t.loop2.queue = s.loop2.queue)
    (hh : t.loop2.handlers = s.loop2.handlers) (hf : t.inFlight = s.inFlight)
    (hc : t.callback = s.callback) : t.Relayed urb u where
  waiting l := by
    rw [working_congr hh, hq]
    exact hs.waiting l
  pending := by rw [hf]; exact hs.pending
  answers := by rw [hc]; exact hs.answers

theorem Server.Relayed.congr (hs : s.Relayed urb u) (hacc : s.Accounted) {urb' : Submit → Urb}
    (h : ∀ ev ∈ s.history.posted, urb' ev = urb ev) : s.Relayed urb' u where
  waiting l := by
    rw [hs.waiting l]
    refine List.map_congr_left fun x hx => (h x.2 (hacc.mem_posted ?_)).symm
    rcases List.mem_append.1 hx with hx | hx
    · obtain ⟨y, hy, hitem⟩ := List.mem_filterMap.1 ((lane_sublist l _).mem hx)
      obtain ⟨ev, hev, rfl⟩ := Option.map_eq_some_iff.1 hitem
      exact .handled y hy hev
    · exact .queued x.1 ((lane_sublist l _).mem hx)
  pending := by
    have hmap : s.inFlight.map (fun t => urb t.ev) = s.inFlight.map fun t => urb' t.ev :=
      List.map_congr_left fun t ht => (h t.ev (hacc.mem_posted (.inFlight t ht rfl))).symm
    rw [hs.pending, hmap]
  answers := by
    rw [hs.answers]
    refine List.map_congr_left fun c hc => ?_
    rw [h c.transfer.ev (hacc.mem_posted (.callback c (Option.mem_toList.1 hc) rfl))]

theorem exists_leave {k : ℕ} {ev : Submit} {before after : ℕ → List (ℕ × Submit)}
    (hu : ∀ l, u.waiting l = (before l).map fun x => urb x.2)
    (h : ∀ l, before l = lane Prod.fst l [(k, ev)] ++ after l) :
    ∃ v, u.leave k (urb ev) = some v ∧ (∀ l, v.waiting l = (after l).map fun x => urb x.2) ∧
      v.pending = u.pending ∧ v.answers = u.answers := by
  have hfirst : u.waiting k = urb ev :: (after k).map fun x => urb x.2 := by
    rw [hu k, h k, lane_tagged]
    rfl
  refine ⟨_, Relay.leave_eq_some.2 ⟨_, hfirst, rfl⟩, fun l => ?_, rfl, rfl⟩
  by_cases hl : l = k
  · subst hl
    exact Function.update_self _ _ _
  · have hother : u.waiting l = (after l).map fun x => urb x.2 := by
      rw [hu l, h l, lane_tagged_of_ne (Ne.symm hl), List.nil_append]
    exact (Function.update_of_ne hl _ _).trans hother

theorem Server.Relayed.ask (hs : s.Relayed urb u) {k : ℕ} {ev : Submit}
    (hq : t.loop2.queue = s.loop2.queue ++ [(k, ev)])
    (hh : t.loop2.handlers = s.loop2.handlers) (hf : t.inFlight = s.inFlight)
    (hc : t.callback = s.callback) :
    ∃ v, u.step (.ask k (urb ev)) = some v ∧ t.Relayed urb v := by
  refine ⟨_, rfl, fun l => ?_, ?_, ?_⟩
  · rw [working_congr hh, hq, lane_append]
    by_cases hl : l = k
    · subst hl
      refine (Function.update_self _ _ _).trans ?_
      rw [hs.waiting, lane_tagged, ← List.append_assoc]
      simp only [List.map_append, List.map_cons, List.map_nil]
    · refine (Function.update_of_ne hl _ _).trans ?_
      rw [hs.waiting, lane_tagged_of_ne (Ne.symm hl), List.append_nil]
  · rw [hf]
    exact hs.pending
  · rw [hc]
    exact hs.answers

theorem TcpStep.relayed {a : TcpAction} {w : WireNote} (h : TcpStep s a t)
    (hs : s.Relayed urb u)
    (hask : a = .post true → s.tcp.pc = .postSubmit →
      urb (submitEvent s) = (submitEvent s).urb w.current.payload) :
    ∃ v, exec Relay.step u (s.seen w (.tcp a)) = some v ∧ t.Relayed urb v := by
  cases h with
  | postSubmit hpc hloop =>
    have hseen : s.seen w (.tcp (.post true)) = [.ask s.loop2.count (urb (submitEvent s))] := by
      rw [hask rfl hpc]
      exact if_pos hpc
    obtain ⟨v, hv, hR⟩ := hs.ask (t := { s.goto .urbHeader with
      loop2 := { s.loop2 with queue := s.loop2.queue ++ [(s.loop2.count, submitEvent s)] }
      history := { s.history with posted := s.history.posted ++ [submitEvent s] } }) rfl rfl rfl rfl
    rw [hseen]
    exact ⟨v, exec_cons.2 ⟨v, hv, exec_nil v⟩, hR⟩
  | postCommand hpc =>
    have hseen : s.seen w (.tcp (.post true)) = [] :=
      if_neg fun hpost => by rw [hpc] at hpost; cases hpost
    rw [hseen]
    exact ⟨u, exec_nil u, hs.of_same rfl rfl rfl rfl⟩
  | _ => exact ⟨u, exec_nil u, hs.of_same rfl rfl rfl rfl⟩

/-- What a step of a handler takes out of the lines, it hands over or drops. -/
theorem usbIpEventHandler2_lanes {a : Loop2Action} (hone : s.OneEach)
    (h : usbIpEventHandler2 s a = some t) (l : ℕ) :
    lane Prod.fst l s.working ++ lane Prod.fst l s.loop2.queue =
      (lane Prod.fst l ((s.hands a).toList.map fun x => (x.1, x.2.ev)) ++
        lane Prod.fst l (s.drops a).toList) ++
          (lane Prod.fst l t.working ++ lane Prod.fst l t.loop2.queue) :=
  (usbIpEventHandler2_line hone h {} l).leaving rfl rfl rfl

theorem usbIpEventHandler2_library {a : Loop2Action} (h : usbIpEventHandler2 s a = some t) :
    t.inFlight = s.inFlight ++ (s.hands a).toList.map Prod.snd ∧ t.callback = s.callback := by
  have hsubmit : ∀ {v : Server} {j l : ℕ} {tr : UsbTransfer},
      s.loop2.handlers[j]? = some (l, .built tr) → a = .submit j true →
      v.inFlight = s.inFlight ++ [tr] →
      v.inFlight = s.inFlight ++ (s.hands a).toList.map Prod.snd := by
    intro v j l tr hj ha hf
    rw [hf, ha]
    simp only [Server.hands, hj]
    rfl
  cases usbIpEventHandler2_effect h with
  | submitControl j l tr hj hc => exact ⟨hsubmit hj rfl rfl, rfl⟩
  | submitBulk j l tr hj hc => exact ⟨hsubmit hj rfl rfl, rfl⟩
  | _ => exact ⟨(List.append_nil _).symm, rfl⟩

theorem drops_of_hands {a : Loop2Action} {x : ℕ × UsbTransfer} (h : s.hands a = some x) :
    s.drops a = none := by
  cases a with
  | submit j accepted =>
    cases accepted with
    | true => rfl
    | false => cases h
  | _ => cases h

theorem usbIpEventHandler2_relayed {a : Loop2Action} {w : WireNote} (hone : s.OneEach)
    (h : usbIpEventHandler2 s a = some t) (hs : s.Relayed w.urb u)
    (hpass : ∀ l tr, s.hands a = some (l, tr) → tr.urb = w.urb tr.ev) :
    ∃ v, exec Relay.step u (s.seen w (.loop2 a)) = some v ∧ t.Relayed w.urb v := by
  have hlanes := usbIpEventHandler2_lanes hone h
  obtain ⟨hflight, hcallback⟩ := usbIpEventHandler2_library h
  rcases hh : s.hands a with - | ⟨k, tr⟩
  · rw [hh, Option.toList_none, List.map_nil, List.append_nil] at hflight
    rcases hd : s.drops a with - | ⟨k, ev⟩
    · have hseen : s.seen w (.loop2 a) = [] := by
        simp only [Server.seen, hh, hd, Option.toList_none, List.map_nil, List.append_nil]
      simp only [hh, hd, Option.toList_none, List.map_nil, lane_nil, List.nil_append] at hlanes
      rw [hseen]
      refine ⟨u, exec_nil u, fun l => ?_, ?_, ?_⟩
      · rw [hs.waiting l, hlanes l]
      · rw [hflight]
        exact hs.pending
      · rw [hcallback]
        exact hs.answers
    · have hseen : s.seen w (.loop2 a) = [.drop k (w.urb ev)] := by
        simp only [Server.seen, hh, hd, Option.toList_none, Option.toList_some, List.map_nil,
          List.map_cons, List.nil_append]
      simp only [hh, hd, Option.toList_none, Option.toList_some, List.map_nil, lane_nil,
        List.nil_append] at hlanes
      obtain ⟨v, hv, hwaiting, hpending, hanswers⟩ := exists_leave hs.waiting hlanes
      rw [hseen]
      refine ⟨v, exec_cons.2 ⟨v, hv, exec_nil v⟩, hwaiting, ?_, ?_⟩
      · rw [hpending, hflight]
        exact hs.pending
      · rw [hanswers, hcallback]
        exact hs.answers
  · have hd := drops_of_hands hh
    have hseen : s.seen w (.loop2 a) = [.pass k (w.urb tr.ev)] := by
      rw [← hpass k tr hh]
      simp only [Server.seen, hh, hd, Option.toList_none, Option.toList_some, List.map_nil,
        List.map_cons, List.append_nil]
    simp only [hh, hd, Option.toList_none, Option.toList_some, List.map_cons, List.map_nil,
      lane_nil, List.append_nil] at hlanes
    obtain ⟨v, hv, hwaiting, hpending, hanswers⟩ := exists_leave hs.waiting hlanes
    rw [hseen]
    refine ⟨_, exec_cons.2 ⟨_, Option.map_eq_some_iff.2 ⟨v, hv, rfl⟩, exec_nil _⟩, hwaiting, ?_, ?_⟩
    · rw [hflight, hpending, hs.pending, hh, Multiset.cons_coe, Multiset.coe_eq_coe]
      simp only [Option.toList_some, List.map_append, List.map_cons, List.map_nil]
      exact (List.perm_append_singleton _ _).symm
    · rw [hcallback]
      exact hanswers.trans hs.answers

/-- The host library answers what it was passed, and the callback tells what it was given. -/
theorem HostEffect.relayed {a : HostAction} {w : WireNote} (h : HostEffect s a t)
    (hs : s.Relayed w.urb u)
    (htell : ∀ heap r c, a = .send heap r → r ≠ .failed → s.callback = some c →
      UrbAnswer.ofFrame (c.frame heap) = c.answer) :
    ∃ v, exec Relay.step u (s.seen w (.host a)) = some v ∧ t.Relayed w.urb v := by
  have hsettle : ∀ {c : Callback} {e : RelayEvent ℕ Urb UrbAnswer} {t' : Server},
      s.callback = some c → s.seen w (.host a) = [e] →
      u.step e = u.settle (w.urb c.transfer.ev) c.answer → t'.loop2.queue = s.loop2.queue →
      t'.loop2.handlers = s.loop2.handlers → t'.inFlight = s.inFlight → t'.callback = none →
      ∃ v, exec Relay.step u (s.seen w (.host a)) = some v ∧ t'.Relayed w.urb v := by
    intro c e t' hcb hseen hstep hq hh hf hc
    have hanswers : u.answers = [(w.urb c.transfer.ev, c.answer)] := by
      rw [hs.answers, hcb]
      rfl
    have hdone : u.step e = some { u with answers := [] } :=
      hstep.trans (Relay.settle_eq_some.2 ⟨[], hanswers, rfl⟩)
    rw [hseen]
    refine ⟨_, exec_cons.2 ⟨_, hdone, exec_nil _⟩, fun l => ?_, ?_, ?_⟩
    · rw [working_congr hh, hq]
      exact hs.waiting l
    · rw [hf]
      exact hs.pending
    · rw [hc]
      rfl
  cases h with
  | complete i tr status n data hcb hi =>
    have hseen : s.seen w (.host (.complete i status n data)) = [.answer (w.urb tr.ev)
        (Callback.answer ⟨{ tr with dataBuffer := sized tr.dataBuffer.length data }, status, n,
          false⟩)] := by
      simp only [Server.seen, hi, Option.toList_some, List.map_cons, List.map_nil]
    have hpending : u.pending = w.urb tr.ev ::ₘ
        (((s.inFlight.eraseIdx i).map fun t => w.urb t.ev : List Urb) : Multiset Urb) := by
      rw [hs.pending]
      exact Flow.coe_map_eraseIdx (fun t : UsbTransfer => w.urb t.ev) hi
    have hmem : w.urb tr.ev ∈ u.pending := by
      rw [hpending]
      exact Multiset.mem_cons_self _ _
    rw [hseen]
    refine ⟨_, exec_cons.2 ⟨_, if_pos hmem, exec_nil _⟩, hs.waiting, ?_, ?_⟩
    · simp only [hpending, Multiset.erase_cons_head]
    · rw [hs.answers, hcb]
      rfl
  | clear c hcb hcl =>
    refine ⟨u, exec_nil u, hs.waiting, hs.pending, ?_⟩
    rw [hs.answers, hcb]
    rfl
  | silent c heap r hcb hr =>
    refine hsettle (e := .lose (w.urb c.transfer.ev) c.answer) hcb ?_ rfl rfl rfl rfl rfl
    simp only [Server.seen, hcb, Option.toList_some, List.map_cons, List.map_nil, if_pos hr]
  | reply c conn heap r n hcb hskt hconn hnum hn hr =>
    have hsent : r ≠ .failed := by
      rintro rfl
      rcases hr with ⟨hfull, -⟩ | hshort
      · cases hfull
      · cases hshort
    have hno : ¬ (s.skt < 0 ∨ r = .failed) := not_or.2 ⟨not_lt.2 hskt, hsent⟩
    refine hsettle (e := .tell (w.urb c.transfer.ev) c.answer) hcb ?_ rfl rfl rfl rfl rfl
    simp only [Server.seen, hcb, Option.toList_some, List.map_cons, List.map_nil, if_neg hno,
      htell heap r c rfl hsent hcb]

end Relayed

structure Server.Relaying (s : Server) (m : WireNote × List (RelayEvent ℕ Urb UrbAnswer)) :
    Prop where
  reachable : Reachable s
  wired : s.Wired m.1
  oneEach : s.OneEach
  carries : s.Carries (eventClaim fun ev => ev.Relayable ∧ ev.cmdSubmit.setup.length = 8)
  relayed : ∃ u, exec Relay.step .empty m.2 = some u ∧ s.Relayed m.1.urb u

theorem step_oneEach {s t : Server} {a : Action} (hs : s.OneEach) (h : step s a = some t) :
    t.OneEach := by
  have hsame : ∀ {u : Server}, u.loop2.handlers = s.loop2.handlers → u.OneEach := by
    intro u hh
    have hone := hs
    rwa [Server.OneEach, ← hh] at hone
  cases a with
  | tcp a =>
    obtain ⟨-, heff⟩ := tcpStep_effect h
    cases heff <;> exact hsame rfl
  | loop1 a =>
    obtain ⟨-, heff⟩ := loop1Step_effect h
    cases heff <;> exact hsame rfl
  | loop2 a =>
    simp only [step] at h
    split_ifs at h
    exact usbIpEventHandler2_oneEach hs h
  | host a =>
    obtain ⟨-, heff⟩ := hostStep_effect h
    cases heff <;> exact hsame rfl
  | driver a =>
    obtain ⟨-, -, d, e, -, rfl⟩ := driverStep_effect h
    cases e <;> exact hsame rfl

theorem WireNote.urb_grown {s : Server} {w : WireNote} (hs : s.Wired w) (hacc : s.Accounted)
    (a : Action) : ∀ ev ∈ s.history.posted, (noteWire s a w).urb ev = w.urb ev := by
  intro ev hev
  have hlt : ev.id < w.posted.length := by
    have hid : ev.id ∈ s.history.posted.map Submit.id := List.mem_map_of_mem hev
    rw [hacc.ids, List.mem_range] at hid
    rwa [hs.count]
  have hsame : (noteWire s a w).posted[ev.id]? = w.posted[ev.id]? := by
    by_cases hpost : a = .tcp (.post true) ∧ s.tcp.pc = .postSubmit
    · rw [noteWire_posted.1 hpost]
      exact List.getElem?_append_left hlt
    · rw [noteWire_posted.2 hpost]
  rw [WireNote.urb, WireNote.urb, WireNote.payloadOf, WireNote.payloadOf, hsame]

theorem WireNote.urb_posted {s : Server} {w : WireNote} (hs : s.Wired w)
    (hpc : s.tcp.pc = .postSubmit) :
    (noteWire s (.tcp (.post true)) w).urb (submitEvent s) =
      (submitEvent s).urb w.current.payload := by
  have hid : (submitEvent s).id = w.posted.length := hs.count.symm
  rw [WireNote.urb, WireNote.payloadOf, noteWire_posted.1 ⟨rfl, hpc⟩, hid,
    List.getElem?_append_right le_rfl, Nat.sub_self]
  rfl

theorem submitEvent_setup_length {s : Server} (hs : s.tcp.Sized) :
    (submitEvent s).cmdSubmit.setup.length = 8 := by
  have hsize := hs.cmdSubmit
  show ((s.tcp.cmdSubmit.drop 20).take 8).length = 8
  rw [List.length_take, List.length_drop, hsize]
  rfl

theorem Server.Relaying.pass {s : Server} {m : WireNote × List (RelayEvent ℕ Urb UrbAnswer)}
    (hs : s.Relaying m) {a : Loop2Action} {l : ℕ} {tr : UsbTransfer}
    (h : s.hands a = some (l, tr)) : tr.urb = m.1.urb tr.ev := by
  obtain ⟨j, hj⟩ := hands_eq_some h
  obtain ⟨haddress, hctrl⟩ :=
    hs.reachable.address (.ready j (readyTransfer_eq_some.2 ⟨l, hj⟩))
  obtain ⟨hev, hsetup⟩ := hs.carries.handler _ (List.mem_of_getElem? hj)
  obtain ⟨hnoted, memory, hbuilt⟩ := hs.wired.carries.handler _ (List.mem_of_getElem? hj)
  exact hbuilt.urb_eq haddress hctrl hev hsetup hnoted

theorem Server.Relaying.tell {s : Server} {m : WireNote × List (RelayEvent ℕ Urb UrbAnswer)}
    (hs : s.Relaying m) {c : Callback} (hc : s.callback = some c) (hends : c.EndsWell)
    (heap : Bytes) : UrbAnswer.ofFrame (c.frame heap) = c.answer := by
  obtain ⟨mps, -, hran⟩ := hs.reachable.callback_ran hc
  exact Callback.ofFrame_eq (hs.reachable.contextsOk.callback c hc) hran.regions
    hran.numBytes_control (hs.carries.callback c hc).1 hends heap

theorem step_relaying {s t : Server} {a : Action}
    {m : WireNote × List (RelayEvent ℕ Urb UrbAnswer)} (hs : s.Relaying m) (ha : Relays s a)
    (h : step s a = some t) : t.Relaying (noteRelay s a m) := by
  have hacc := hs.reachable.accounted
  obtain ⟨u, hu, hR⟩ := hs.relayed
  have hother : (∀ b, a ≠ .tcp b) → (∃ v, exec Relay.step u (s.seen m.1 a) = some v ∧
      t.Relayed m.1.urb v) → ∃ v, exec Relay.step u (s.seen m.1 a) = some v ∧
        t.Relayed (noteWire s a m.1).urb v := by
    intro hne hv
    rwa [noteWire_current hne]
  have hrelayed : ∃ v, exec Relay.step u (s.seen m.1 a) = some v ∧
      t.Relayed (noteWire s a m.1).urb v := by
    cases a with
    | tcp a =>
      refine (tcpStep h).2.relayed (hR.congr hacc (WireNote.urb_grown hs.wired hacc _)) ?_
      rintro rfl hpc
      exact WireNote.urb_posted hs.wired hpc
    | loop1 a =>
      obtain ⟨-, heff⟩ := loop1Step_effect h
      refine hother (by simp) ?_
      cases heff <;> exact ⟨u, exec_nil u, hR.of_same rfl rfl rfl rfl⟩
    | loop2 a =>
      simp only [step] at h
      split_ifs at h
      refine hother (by simp) ?_
      exact usbIpEventHandler2_relayed hs.oneEach h hR fun l tr hh => hs.pass hh
    | host a =>
      obtain ⟨-, heff⟩ := hostStep_effect h
      refine hother (by simp) (heff.relayed hR ?_)
      rintro heap r c rfl hr hc
      exact hs.tell hc ((ha.resolve_left hr).2 c hc) heap
    | driver a =>
      obtain ⟨-, -, d, e, -, rfl⟩ := driverStep_effect h
      refine hother (by simp) ?_
      cases e <;> exact ⟨u, exec_nil u, hR.of_same rfl rfl rfl rfl⟩
  obtain ⟨v, hv, hR'⟩ := hrelayed
  refine ⟨hs.reachable.of_step h, step_wired hs.wired h, step_oneEach hs.oneEach h, ?_,
    v, exec_append.2 ⟨u, hu, hv⟩, hR'⟩
  refine step_carries (eventClaim_moves _ s) hs.carries ?_ h
  rintro rfl hpc
  exact ⟨ha hpc, submitEvent_setup_length hs.wired.sized.1⟩

section Boot

variable {lib : HostLib} {devRecv header cmdSubmit transferBuffer cmdUnlink : Bytes}

theorem run_relaying {as : List Action} {t : Server}
    {m : WireNote × List (RelayEvent ℕ Urb UrbAnswer)}
    (h : exec (watch step noteRelay)
      (.boot lib devRecv header cmdSubmit transferBuffer cmdUnlink, ({}, [])) as = some (t, m))
    (hrelays : Always step Relays
      (.boot lib devRecv header cmdSubmit transferBuffer cmdUnlink) as) : t.Relaying m := by
  have hstep : ∀ s m a u, Server.Relaying s m → Relays s a → step s a = some u →
      u.Relaying (noteRelay s a m) := fun s m a u hs ha hu => step_relaying hs ha hu
  refine watch_invariant hstep ⟨Reachable.boot _ _ _ _ _ _, boot_wired, boot_tracked.oneEach,
    boot_carries, .empty, rfl, fun l => rfl, rfl, rfl⟩ hrelays h

/-- Every run whose requests posted can be relayed, and whose replies are sent whole and of
transfers that ended well, is a run of the relay: request and answer go through unaltered. -/
theorem firmware_relays {as : List Action} {t : Server} {w : WireNote}
    {es : List (RelayEvent ℕ Urb UrbAnswer)}
    (h : exec (watch step noteRelay)
      (.boot lib devRecv header cmdSubmit transferBuffer cmdUnlink, ({}, [])) as =
        some (t, (w, es)))
    (hrelays : Always step Relays
      (.boot lib devRecv header cmdSubmit transferBuffer cmdUnlink) as) :
    ∃ u, exec Relay.step .empty es = some u ∧ t.Relayed w.urb u :=
  (run_relaying h hrelays).relayed

end Boot

def bringing (data : Bytes) : List Action :=
  [.host (.complete 0 .completed data.length data), .host .clear, .host (.send [] .full)]

def reportsBothWays : List Action :=
  keyboardEnumeration ++ importing 3 (importSession [outReport, submitIn 8 1 2]).stream ++
    posting 3 ++ submitting ++ handlingBulk ++ handlingBulk ++
    bringing [0x01, 0x02, 0x03] ++ bringing [0x04, 0x05]

theorem firmware_relays_reportsBothWays :
    ∃ t w es, exec (watch step noteRelay) (coldBoot, ({}, [])) reportsBothWays =
        some (t, (w, es)) ∧ es.filterMap RelayEvent.told =
          [(⟨0, 2, 0, [], [0x01, 0x02, 0x03]⟩, ⟨7, 0, 3, []⟩),
            (⟨1, 1, 1, [], []⟩, ⟨8, 0, 2, [0x04, 0x05]⟩)] ∧
      ∃ u, exec Relay.step .empty es = some u ∧ t.Relayed w.urb u := by
  have hrun : (exec (watch step noteRelay) (coldBoot, ({}, [])) reportsBothWays).map (fun x =>
      x.2.2.filterMap RelayEvent.told) =
      some [(⟨0, 2, 0, [], [0x01, 0x02, 0x03]⟩, ⟨7, 0, 3, []⟩),
        (⟨1, 1, 1, [], []⟩, ⟨8, 0, 2, [0x04, 0x05]⟩)] := by
    decide +kernel
  have hrelays : Always step Relays coldBoot reportsBothWays := by decide +kernel
  obtain ⟨⟨t, w, es⟩, ht, htold⟩ := Option.map_eq_some_iff.1 hrun
  exact ⟨t, w, es, ht, htold, firmware_relays ht hrelays⟩

end UsbRepeater
