import UsbRepeater.SubmitOrder
import UsbRepeater.Payload

/-! An OUT endpoint as a stream of bytes. Each transfer carries its own payload and the transfers
keep their order, so what the host library is given for one endpoint is what the client sent for
it, with whole requests left out at most. -/
namespace UsbRepeater

open Schedule Fifo

/-- The bytes of the data buffer that the host library sends. What a copy has put behind the end
of the buffer is not among them. -/
def UsbTransfer.outBytes (t : UsbTransfer) : Bytes :=
  (t.dataBuffer.take dataBufferSize).take t.numBytes.toNat

def Submit.outOn (ep : UInt32) (ev : Submit) : Bool :=
  ev.header.direction == 0 && ev.header.ep == ep

def WireNote.payloadOf (w : WireNote) (ev : Submit) : Bytes :=
  (w.posted[ev.id]?.map SubmitBytes.payload).getD []

def noteOut (s : Server) (a : Action) (m : WireNote × Traffic) : WireNote × Traffic :=
  (noteWire s a m.1, noteTraffic s a m.2)

/-- What the host library was given for an endpoint from one loop. -/
def Traffic.outStream (m : Traffic) (l : ℕ) (ep : UInt32) : Bytes :=
  ((lane Prod.fst l m.handed).filter fun x => x.2.ev.outOn ep).flatMap fun x => x.2.outBytes

/-- What the client sent for the endpoint over that loop, without the requests dropped. -/
def Traffic.sentStream (m : Traffic) (w : WireNote) (l : ℕ) (ep : UInt32) : Bytes :=
  (((lane Prod.fst l m.posted).filter fun x => x ∉ m.dropped).filter
    fun x => x.2.outOn ep).flatMap fun x => w.payloadOf x.2

theorem Submit.outOn_iff {ep : UInt32} {ev : Submit} :
    ev.outOn ep = true ↔ ev.header.direction = 0 ∧ ev.header.ep = ep := by
  simp [Submit.outOn]

theorem buildBulk_numBytes_out (lib : HostLib) (mps : List UInt32) (beyond : UInt32)
    {t : UsbTransfer} (hout : t.ev.header.direction = 0) :
    (buildBulk lib mps beyond t).numBytes = toInt32 t.ev.cmdSubmit.transferBufferLength := by
  unfold buildBulk
  dsimp only
  rw [if_neg (not_not.2 hout)]

theorem toInt32_toNat_of_le {w : UInt32} (h : w.toNat ≤ 1024) : (toInt32 w).toNat = w.toNat := by
  rw [toInt32, if_pos (by omega), Int.toNat_natCast]

/-- A transfer built on the interrupt and bulk path carries the payload, if that fits. -/
theorem UsbTransfer.BuiltIn.outBytes_eq {memory : Bytes} {t : UsbTransfer} {w : SubmitBytes}
    (h : t.BuiltIn memory) (hw : t.ev.cmdSubmit.Received w) (hout : t.ev.header.direction = 0)
    (hep : t.ev.header.ep ≠ 0) (hfits : w.payload.length ≤ dataBufferSize) :
    t.outBytes = w.payload := by
  have hfaithful := (h.faithful_iff hw hout).2 (by rwa [if_neg hep])
  have hnum : t.numBytes.toNat = w.payload.length := by
    cases h with
    | control ev ret devHdl hzero => exact absurd hzero hep
    | bulk ev ret devHdl lib mps beyond hzero =>
      rw [buildBulk_ev] at hout hw
      rw [buildBulk_numBytes_out lib mps beyond hout]
      rw [toInt32_toNat_of_le (by rw [hw.length]; exact hw.fits)]
      exact hw.length
  have hdata := hfaithful.data
  rw [if_neg hep, List.drop_zero] at hdata
  rw [UsbTransfer.outBytes, List.take_of_length_le hfaithful.inside.le, hnum]
  exact hdata

def Delivered (w : WireNote) (m : Traffic) : Prop :=
  ∀ x ∈ m.handed, x.2.ev.header.direction = 0 → x.2.ev.header.ep ≠ 0 →
    ∃ p, w.posted[x.2.ev.id]? = some p ∧
      (p.payload.length ≤ dataBufferSize → x.2.outBytes = p.payload)

theorem Delivered.append {w : WireNote} {m : Traffic} (h : Delivered w m)
    (current : SubmitBytes) (new : List SubmitBytes) :
    Delivered ⟨current, w.posted ++ new⟩ m := by
  intro x hx hout hep
  obtain ⟨p, hp, hbytes⟩ := h x hx hout hep
  have hlt := (List.getElem?_eq_some_iff.1 hp).1
  exact ⟨p, (List.getElem?_append_left hlt).trans hp, hbytes⟩

theorem hands_eq_some {s : Server} {a : Loop2Action} {l : ℕ} {t : UsbTransfer}
    (h : s.hands a = some (l, t)) : ∃ j : ℕ, s.loop2.handlers[j]? = some (l, .built t) := by
  cases a with
  | submit j accepted =>
    cases accepted with
    | false => cases h
    | true =>
      simp only [Server.hands] at h
      split at h
      · rename_i k tr hj
        obtain ⟨rfl, rfl⟩ := Prod.mk.inj (Option.some.inj h)
        exact ⟨j, hj⟩
      · cases h
  | _ => cases h

theorem mem_noteTraffic_handed {s : Server} {a : Action} {m : Traffic} {x : ℕ × UsbTransfer}
    (h : x ∈ (noteTraffic s a m).handed) :
    x ∈ m.handed ∨ ∃ j : ℕ, s.loop2.handlers[j]? = some (x.1, .built x.2) := by
  unfold noteTraffic at h
  split at h
  · split_ifs at h <;> exact .inl h
  · rename_i b
    rcases List.mem_append.1 h with h | h
    · exact .inl h
    · exact .inr (hands_eq_some (Option.mem_toList.1 h))
  · exact .inl h

theorem Delivered.step {s : Server} {w : WireNote} {m : Traffic} (hd : Delivered w m)
    (hs : s.Wired w) (a : Action) : Delivered (noteWire s a w) (noteTraffic s a m) := by
  have hgrow : ∃ new, (noteWire s a w).posted = w.posted ++ new := by
    by_cases hpost : a = .tcp (.post true) ∧ s.tcp.pc = .postSubmit
    · exact ⟨[w.current], by rw [noteWire_posted.1 hpost]⟩
    · exact ⟨[], by rw [noteWire_posted.2 hpost, List.append_nil]⟩
  obtain ⟨new, hnew⟩ := hgrow
  have hwire : noteWire s a w = ⟨(noteWire s a w).current, w.posted ++ new⟩ := by rw [← hnew]
  rw [hwire]
  intro x hx hout hep
  rcases mem_noteTraffic_handed hx with hx | ⟨j, hj⟩
  · exact hd.append _ new x hx hout hep
  · obtain ⟨hnoted, memory, hbuilt⟩ := hs.carries.handler _ (List.mem_of_getElem? hj)
    obtain ⟨p, hp, hreceived⟩ := hnoted hout
    have hlt := (List.getElem?_eq_some_iff.1 hp).1
    exact ⟨p, (List.getElem?_append_left hlt).trans hp,
      hbuilt.outBytes_eq hreceived hout hep⟩

theorem Delivered.outStream_eq {w : WireNote} {m : Traffic} (hd : Delivered w m)
    (hfits : ∀ p ∈ w.posted, p.payload.length ≤ dataBufferSize) (l : ℕ) {ep : UInt32}
    (hep : ep ≠ 0) :
    m.outStream l ep = ((lane Prod.fst l (m.handed.map fun x => (x.1, x.2.ev))).filter
      fun x => x.2.outOn ep).flatMap fun x => w.payloadOf x.2 := by
  have hlane : lane Prod.fst l (m.handed.map fun x => (x.1, x.2.ev)) =
      (lane Prod.fst l m.handed).map fun x => (x.1, x.2.ev) := List.filter_map
  have hfilter : ((lane Prod.fst l m.handed).map fun x => (x.1, x.2.ev)).filter
        (fun x => x.2.outOn ep) =
      ((lane Prod.fst l m.handed).filter fun x => x.2.ev.outOn ep).map
        fun x => (x.1, x.2.ev) := List.filter_map
  rw [hlane, hfilter, List.flatMap_map, Traffic.outStream]
  refine List.flatMap_congr fun x hx => ?_
  obtain ⟨hmem, hon⟩ := List.mem_filter.1 hx
  obtain ⟨hout, hx0⟩ := Submit.outOn_iff.1 hon
  obtain ⟨p, hp, hbytes⟩ := hd x ((lane_sublist l m.handed).mem hmem) hout (hx0 ▸ hep)
  have hpayload : w.payloadOf x.2.ev = p.payload := by rw [WireNote.payloadOf, hp]; rfl
  exact (hbytes (hfits p (List.mem_of_getElem? hp))).trans hpayload.symm

section Boot

variable {lib : HostLib} {devRecv header cmdSubmit transferBuffer cmdUnlink : Bytes}

theorem run_delivered {as : List Action} {t : Server} {w : WireNote} {m : Traffic}
    (h : exec (watch step noteOut)
      (.boot lib devRecv header cmdSubmit transferBuffer cmdUnlink, ({}, {})) as =
        some (t, (w, m))) :
    t.Tracked m ∧ Delivered w m ∧ Reachable t := by
  have hstep : ∀ (s : Server) (x : WireNote × Traffic) (a : Action) (u : Server),
      s.Wired x.1 ∧ s.Tracked x.2 ∧ Delivered x.1 x.2 → True → step s a = some u →
      u.Wired (noteOut s a x).1 ∧ u.Tracked (noteOut s a x).2 ∧
        Delivered (noteOut s a x).1 (noteOut s a x).2 :=
    fun s x a u hs _ hu =>
      ⟨step_wired hs.1 hu, step_tracked hs.2.1 hu, hs.2.2.step hs.1 a⟩
  have hboot : Delivered {} {} := fun x hx => by cases hx
  obtain ⟨-, htracked, hdelivered⟩ := watch_invariant
    (I := fun s x => Server.Wired s x.1 ∧ s.Tracked x.2 ∧ Delivered x.1 x.2) hstep
    ⟨boot_wired, boot_tracked, hboot⟩ (Always.of_forall (fun _ _ => trivial) _ _) h
  exact ⟨htracked, hdelivered,
    ⟨lib, devRecv, header, cmdSubmit, transferBuffer, cmdUnlink, as, exec_of_watch h⟩⟩

/-- In every run, what the host library has been given for an OUT endpoint from one loop is a
prefix of what the client sent for it, requests that were dropped left out; once the loop is idle
it is all of that. -/
theorem out_stream_in_order {as : List Action} {t : Server} {w : WireNote} {m : Traffic}
    (h : exec (watch step noteOut)
      (.boot lib devRecv header cmdSubmit transferBuffer cmdUnlink, ({}, {})) as =
        some (t, (w, m)))
    (hfits : ∀ p ∈ w.posted, p.payload.length ≤ dataBufferSize) (l : ℕ) {ep : UInt32}
    (hep : ep ≠ 0) :
    m.outStream l ep <+: m.sentStream w l ep ∧
      (lane Prod.fst l t.working = [] → lane Prod.fst l t.loop2.queue = [] →
        m.outStream l ep = m.sentStream w l ep) := by
  obtain ⟨htracked, hdelivered, hreach⟩ := run_delivered h
  have hout := hdelivered.outStream_eq hfits l hep
  have hkept := htracked.handed_eq hreach.accounted l
  have hsplit : m.sentStream w l ep = m.outStream l ep ++
      ((lane Prod.fst l t.working ++ lane Prod.fst l t.loop2.queue).filter
        fun x => x.2.outOn ep).flatMap fun x => w.payloadOf x.2 := by
    rw [Traffic.sentStream, ← hkept, List.filter_append, List.flatMap_append, hout]
  refine ⟨⟨_, hsplit.symm⟩, fun hworking hqueue => ?_⟩
  rw [hsplit, hworking, hqueue]
  exact (List.append_nil _).symm

end Boot

def nextReport : UrbCommand :=
  .submit ⟨⟨usbipCmdSubmit, 9, 0x30002, 0, 2⟩,
    ⟨0, 2, 0, 0, 0, List.replicate 8 0, [0x04, 0x05]⟩, rfl, rfl, .inr ⟨rfl, rfl, by decide⟩⟩

def posting (length : ℕ) : List Action :=
  [.tcp (.recv (.data headerBasicSize)), .tcp (.recv (.data cmdHeaderSize)),
    .tcp (.recv (.data length)), .tcp (.post true)]

def pipedReports : List Action :=
  keyboardEnumeration ++ importing 3 (importSession [outReport, nextReport]).stream ++
    posting 3 ++ posting 2 ++ handlingBulk ++ completing 3 ++ handlingBulk

theorem out_stream_in_order_pipedReports :
    ∃ t w m, exec (watch step noteOut) (coldBoot, ({}, {})) pipedReports = some (t, (w, m)) ∧
      m.outStream 1 2 = [0x01, 0x02, 0x03, 0x04, 0x05] ∧
      m.outStream 1 2 = m.sentStream w 1 2 := by
  have hrun : (exec (watch step noteOut) (coldBoot, ({}, {})) pipedReports).map (fun x =>
      (x.2.1.posted.all (fun p => decide (p.payload.length ≤ dataBufferSize)),
        (lane Prod.fst 1 x.1.working).isEmpty, (lane Prod.fst 1 x.1.loop2.queue).isEmpty,
        x.2.2.outStream 1 2)) = some (true, true, true, [0x01, 0x02, 0x03, 0x04, 0x05]) := by
    decide +kernel
  obtain ⟨⟨t, w, m⟩, ht, hstate⟩ := Option.map_eq_some_iff.1 hrun
  simp only [Prod.mk.injEq, List.all_eq_true, decide_eq_true_eq, List.isEmpty_iff] at hstate
  obtain ⟨hfits, hworking, hqueue, hbytes⟩ := hstate
  exact ⟨t, w, m, ht, hbytes, (out_stream_in_order ht hfits 1 (by decide)).2 hworking hqueue⟩

end UsbRepeater
