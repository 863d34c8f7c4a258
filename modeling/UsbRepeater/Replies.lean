import UsbRepeater.SubmitPipeline
import UsbRepeater.Client

/-! What a RET_SUBMIT carries from the request it answers. The reply is filled in by the
handler, travels as the context of a transfer and is sent by a callback; the fields that
identify the request are never touched on the way. -/
namespace UsbRepeater

open Schedule

structure ContextOk (ev : Submit) (ret : UsbipRetSubmit) : Prop where
  base : ret.base = { ev.header with command := usbipRetSubmit }
  actualLength : ret.actualLength = ev.cmdSubmit.transferBufferLength
  padding : ret.padding.length = 8

structure UsbTransfer.Ok (t : UsbTransfer) : Prop where
  context : ContextOk t.ev t.context
  control : t.control = true ↔ t.ev.header.ep = 0

def Handler2.Ok : Handler2 → Prop
  | .entry _ | .accepted _ => True
  | .filled ev ret | .sktSet ev ret => ContextOk ev ret
  | .allocated t => ContextOk t.ev t.context ∧ t.control = false
  | .checked t => ContextOk t.ev t.context ∧ t.control = false ∧ t.ev.header.ep ≠ 0
  | .built t => t.Ok

/-- If the message is a RET_SUBMIT, a callback made it from the transfer of its event. -/
def Sent.Replied (m : Sent) : Prop :=
  ∀ ev ret, m.message = .retSubmit ev ret →
    ∃ (c : Callback) (heap : Bytes), c.transfer.Ok ∧ c.transfer.ev = ev ∧
      ret = c.reply heap ∧ m.frame = c.frame heap

structure Server.ContextsOk (s : Server) : Prop where
  handlers : ∀ x ∈ s.loop2.handlers, x.2.Ok
  inFlight : ∀ t ∈ s.inFlight, t.Ok
  callback : ∀ c, s.callback = some c → c.transfer.Ok
  sent : ∀ m ∈ s.history.sent, m.Replied

theorem fillRetSubmit_contextOk (ev : Submit) (heap : Bytes) :
    ContextOk ev (fillRetSubmit ev heap) :=
  ⟨rfl, rfl, rfl⟩

theorem buildControl_ok {t : UsbTransfer} (h : ContextOk t.ev t.context)
    (hep : t.ev.header.ep = 0) : (buildControl t).Ok :=
  ⟨⟨h.base, h.actualLength, h.padding⟩, by simpa [buildControl] using hep⟩

theorem buildBulk_ok {lib : HostLib} {mps : List UInt32} {beyond : UInt32} {t : UsbTransfer}
    (h : ContextOk t.ev t.context) (hc : t.control = false) (hep : t.ev.header.ep ≠ 0) :
    (buildBulk lib mps beyond t).Ok := by
  obtain ⟨hbase, hlen, hpad⟩ := h
  unfold buildBulk
  constructor
  · constructor <;> dsimp only <;> split_ifs <;> assumption
  · dsimp only
    split_ifs <;> simp [hc, hep]

/-- The fields that tell the client which request a reply answers. -/
theorem Callback.reply_identifies {c : Callback} (h : c.transfer.Ok) (heap : Bytes) :
    (c.reply heap).base.seqnum = c.transfer.ev.header.seqnum ∧
      (c.reply heap).base.devid = c.transfer.ev.header.devid ∧
      (c.reply heap).base.ep = c.transfer.ev.header.ep := by
  have hbase := h.context.base
  unfold Callback.reply controlReply bulkReply
  split_ifs <;> simp [hbase]

theorem Sent.replied_of_reply_eq_none {m : Sent} (h : m.message.reply = none) : m.Replied := by
  intro ev ret hm
  rw [hm] at h
  cases h

theorem Server.ContextsOk.of_same {s t : Server} (hs : s.ContextsOk)
    (hh : t.loop2.handlers = s.loop2.handlers) (hf : t.inFlight = s.inFlight)
    (hc : t.callback = s.callback) (hsent : ∀ m ∈ t.history.sent, m ∈ s.history.sent ∨
      m.message.reply = none) : t.ContextsOk where
  handlers := hh ▸ hs.handlers
  inFlight := hf ▸ hs.inFlight
  callback := hc ▸ hs.callback
  sent m hm := by
    rcases hsent m hm with h | h
    · exact hs.sent m h
    · exact Sent.replied_of_reply_eq_none h

theorem mem_emit {s : Server} {m x : Sent} (h : x ∈ (s.emit m).history.sent) :
    x ∈ s.history.sent ∨ x = m := by
  simpa [Server.emit] using h

theorem TcpEffect.contextsOk {s t : Server} {a : TcpAction} (h : TcpEffect s a t)
    (hs : s.ContextsOk) : t.ContextsOk := by
  cases h with
  | unlink tcp c r n htcp hpc hc hn hr =>
    refine hs.of_same rfl rfl rfl fun m hm => ?_
    rcases mem_emit hm with hm | rfl
    · exact .inl hm
    · exact .inr rfl
  | _ => exact hs.of_same rfl rfl rfl fun m hm => .inl hm

theorem Loop1Effect.contextsOk {s t : Server} (h : Loop1Effect s t) (hs : s.ContextsOk) :
    t.ContextsOk := by
  cases h with
  | send loop1 c m hc hm hmsg =>
    refine hs.of_same rfl rfl rfl fun x hx => ?_
    rcases mem_emit hx with hx | rfl
    · exact .inl hx
    · right
      rcases hmsg with h | ⟨rep, h⟩ <;> rw [h] <;> rfl
  | _ => exact hs.of_same rfl rfl rfl fun m hm => .inl hm

theorem applyEffect_contextsOk {s : Server} (hs : s.ContextsOk) (d : Driver) (e : DriverEffect) :
    (applyEffect { s with driver := d } e).ContextsOk := by
  cases e <;> exact hs.of_same rfl rfl rfl fun m hm => .inl hm

theorem Server.ContextsOk.setHandler2 {s : Server} {j l : ℕ} {h h' : Handler2}
    (hs : s.ContextsOk) (hj : s.loop2.handlers[j]? = some (l, h)) (hok : h'.Ok) :
    (s.setHandler2 j h').ContextsOk where
  handlers x hx := by
    rcases Flow.mem_modify hj hx with rfl | hx
    · exact hok
    · exact hs.handlers x hx
  inFlight := hs.inFlight
  callback := hs.callback
  sent := hs.sent

theorem Server.ContextsOk.endHandler2 {s : Server} (hs : s.ContextsOk) (j : ℕ) :
    (s.endHandler2 j).ContextsOk where
  handlers x hx := hs.handlers x (List.mem_of_mem_eraseIdx hx)
  inFlight := hs.inFlight
  callback := hs.callback
  sent := hs.sent

theorem Server.ContextsOk.submitted {s : Server} (hs : s.ContextsOk) {tr : UsbTransfer}
    (hok : tr.Ok) : Server.ContextsOk { s with inFlight := s.inFlight ++ [tr] } where
  handlers := hs.handlers
  inFlight t ht := by
    rcases List.mem_append.1 ht with ht | ht
    · exact hs.inFlight t ht
    · rw [List.mem_singleton.1 ht]
      exact hok
  callback := hs.callback
  sent := hs.sent

theorem Server.ContextsOk.drop2 {s : Server} (hs : s.ContextsOk) (j : ℕ) (ev : Submit)
    (reason : DropReason) : (s.drop2 j ev reason).ContextsOk :=
  (hs.endHandler2 j).of_same rfl rfl rfl fun _ hm => .inl hm

theorem Server.ContextsOk.heap {s : Server} (hs : s.ContextsOk) (heap : Heap) :
    Server.ContextsOk { s with heap := heap } :=
  hs.of_same rfl rfl rfl fun _ hm => .inl hm

theorem Loop2Effect.contextsOk {s t : Server} {a : Loop2Action} (h : Loop2Effect s a t)
    (hs : s.ContextsOk) : t.ContextsOk := by
  have hget : ∀ {j l : ℕ} {h : Handler2}, s.loop2.handlers[j]? = some (l, h) → h.Ok :=
    fun hj => hs.handlers _ (List.mem_of_getElem? hj)
  cases h with
  | dispatch i l ev hi =>
    refine ⟨fun x hx => ?_, hs.inFlight, hs.callback, hs.sent⟩
    rcases List.mem_append.1 hx with hx | hx
    · exact hs.handlers x hx
    · rw [List.mem_singleton.1 hx]
      trivial
  | noReply j l ev hj => exact hs.drop2 _ _ _
  | fill j l ev heap hj =>
    have hok : Handler2.Ok (.filled ev (fillRetSubmit ev heap)) := fillRetSubmit_contextOk ev heap
    exact (hs.setHandler2 hj hok).heap _
  | setSkt j l ev ret hj =>
    have hctx : ContextOk ev ret := hget hj
    have hok : Handler2.Ok (.sktSet ev ret) := hctx
    exact (hs.setHandler2 hj hok).of_same rfl rfl rfl fun _ hm => .inl hm
  | noTransfer j l ev ret hj => exact (hs.drop2 _ _ _).heap _
  | alloc j l ev ret heap hj =>
    have hctx : ContextOk ev ret := hget hj
    have hok : Handler2.Ok (.allocated (allocTransfer ev ret heap s.driver.devHdl)) := ⟨hctx, rfl⟩
    exact (hs.setHandler2 hj hok).heap _
  | control j l tr hj hep =>
    have hok : ContextOk tr.ev tr.context ∧ _ := hget hj
    exact hs.setHandler2 hj (buildControl_ok hok.1 hep)
  | pending j l tr hj hep hp => exact (hs.drop2 _ _ _).heap _
  | checked j l tr hj hep hp =>
    have hok : ContextOk tr.ev tr.context ∧ tr.control = false := hget hj
    exact hs.setHandler2 hj ⟨hok.1, hok.2, hep⟩
  | build j l tr beyond hj =>
    have hok : ContextOk tr.ev tr.context ∧ tr.control = false ∧ tr.ev.header.ep ≠ 0 := hget hj
    exact hs.setHandler2 hj (buildBulk_ok hok.1 hok.2.1 hok.2.2)
  | rejected j l tr hj => exact hs.drop2 _ _ _
  | submitControl j l tr hj hc => exact (hs.submitted (hget hj)).endHandler2 j
  | submitBulk j l tr hj hc => exact (hs.submitted (hget hj)).setHandler2 hj trivial
  | setPending j l ep hj => exact (hs.endHandler2 j).of_same rfl rfl rfl fun _ hm => .inl hm

theorem HostEffect.contextsOk {s t : Server} {a : HostAction} (h : HostEffect s a t)
    (hs : s.ContextsOk) : t.ContextsOk := by
  cases h with
  | complete i tr status n data hcb hi =>
    refine ⟨hs.handlers, fun x hx => hs.inFlight x (List.mem_of_mem_eraseIdx hx), ?_, hs.sent⟩
    intro c hc
    cases hc
    have hok := hs.inFlight tr (List.mem_of_getElem? hi)
    exact ⟨hok.context, hok.control⟩
  | clear c hcb hcl =>
    refine ⟨hs.handlers, hs.inFlight, ?_, hs.sent⟩
    intro c' hc'
    cases hc'
    exact hs.callback c hcb
  | silent c heap r hcb hr =>
    refine ⟨hs.handlers, hs.inFlight, ?_, hs.sent⟩
    intro c hc
    cases hc
  | reply c conn heap r n hcb hskt hconn hnum hn hr =>
    refine ⟨hs.handlers, hs.inFlight, ?_, fun m hm => ?_⟩
    · intro c hc
      cases hc
    · rcases mem_emit hm with hm | rfl
      · exact hs.sent m hm
      · intro ev ret hmsg
        cases hmsg
        exact ⟨c, heap, hs.callback c hcb, rfl, rfl, rfl⟩

theorem step_contextsOk {s t : Server} {a : Action} (hs : s.ContextsOk)
    (h : step s a = some t) : t.ContextsOk := by
  cases a with
  | tcp a => exact (tcpStep_effect h).2.contextsOk hs
  | loop1 a => exact (loop1Step_effect h).2.contextsOk hs
  | loop2 a => exact (loop2Step_effect h).2.contextsOk hs
  | host a => exact (hostStep_effect h).2.contextsOk hs
  | driver a =>
    obtain ⟨-, -, d, e, -, rfl⟩ := driverStep_effect h
    exact applyEffect_contextsOk hs d e

/-- Only `do_recv` posts events, one at a time. -/
theorem step_posted {s t : Server} {a : Action} (h : step s a = some t) :
    t.history.posted = s.history.posted ∨
      t.history.posted = s.history.posted ++ [submitEvent s] := by
  rcases step_posts h with ⟨-, -, hposted⟩ | ⟨-, hposted⟩
  · exact .inr hposted
  · exact .inl hposted

/-- The pipeline holds the posted events, each numbered by its place in the order of posting. -/
structure Server.Accounted (s : Server) : Prop where
  total : Flow.total s.stage = s.history.posted
  ids : s.history.posted.map Submit.id = List.range s.history.posted.length

theorem step_accounted {s t : Server} {a : Action} (hs : s.Accounted)
    (h : step s a = some t) : t.Accounted where
  total := by
    obtain ⟨new, hflow, hposted⟩ := step_pipeline h
    rw [hflow.total_eq, hs.total, hposted, Multiset.coe_add]
  ids := by
    rcases step_posted h with hp | hp
    · rw [hp]
      exact hs.ids
    · rw [hp, List.map_append, List.map_singleton, List.length_append, List.length_singleton,
        List.range_succ, hs.ids]
      rfl

theorem Server.Accounted.posted_nodup {s : Server} (hs : s.Accounted) :
    s.history.posted.Nodup := by
  have hids : (s.history.posted.map Submit.id).Nodup := by
    rw [hs.ids]
    exact List.nodup_range
  exact hids.of_map _

theorem Server.Outstanding.exists_stage {s : Server} {ev : Submit} (h : s.Outstanding ev) :
    ∃ k, ev ∈ s.stage k := by
  cases h with
  | queued l h => exact ⟨.queued, Multiset.mem_coe.2 (List.mem_map.2 ⟨_, h, rfl⟩)⟩
  | handled x h hr => exact ⟨.handled, Multiset.mem_coe.2 (List.mem_filterMap.2 ⟨x, h, hr⟩)⟩
  | inFlight tr h he => exact ⟨.inFlight, Multiset.mem_coe.2 (List.mem_map.2 ⟨tr, h, he⟩)⟩
  | callback c h he =>
    refine ⟨.completed, Multiset.mem_add.2 (.inl (Multiset.mem_coe.2 ?_))⟩
    rw [h, ← he]
    exact List.mem_singleton_self _

theorem Server.Accounted.mem_posted {s : Server} (hs : s.Accounted) {ev : Submit}
    (h : s.Outstanding ev) : ev ∈ s.history.posted := by
  have hmem := Flow.mem_total.2 h.exists_stage
  rwa [hs.total] at hmem

theorem Server.Accounted.total_nodup {s : Server} (hs : s.Accounted) :
    (Flow.total s.stage).Nodup := by
  rw [hs.total]
  exact Multiset.coe_nodup.2 hs.posted_nodup

/-- An event that a handler works at is outstanding nowhere else. -/
theorem Server.Accounted.elsewhere {s : Server} (hs : s.Accounted) {j l : ℕ} {h : Handler2}
    {ev : Submit} (hj : s.loop2.handlers[j]? = some (l, h)) (hr : h.request = some ev) :
    ¬ (s.endHandler2 j).Outstanding ev := by
  have hnodup := hs.total_nodup
  rw [stage_eq_put_handled hj hr, Flow.total_put, Multiset.nodup_cons] at hnodup
  exact fun hout => hnodup.1 (Flow.mem_total.2 hout.exists_stage)

/-- The requests answered so far are among the completed ones, none of them twice. -/
theorem replies_le_completed (s : Server) :
    ((s.replies.map Prod.fst : List Submit) : Multiset Submit) ≤ s.stage .completed := by
  have hle : ((s.replies.map Prod.fst : List Submit) : Multiset Submit) ≤
      (s.replies.map Prod.fst : List Submit) + (s.history.silent : List Submit) :=
    Multiset.le_add_right _ _
  exact hle.trans (Multiset.le_add_left _ _)

theorem Server.Accounted.replies_le_posted {s : Server} (hs : s.Accounted) :
    ((s.replies.map Prod.fst : List Submit) : Multiset Submit) ≤ s.history.posted := by
  have hle := (replies_le_completed s).trans (Flow.stage_le_total s.stage .completed)
  rwa [hs.total] at hle

theorem Server.Accounted.replies_nodup {s : Server} (hs : s.Accounted) :
    (s.replies.map Prod.fst).Nodup :=
  Multiset.coe_nodup.1 (Multiset.nodup_of_le hs.replies_le_posted
    (Multiset.coe_nodup.2 hs.posted_nodup))

def UsbipHeaderBasic.triple (h : UsbipHeaderBasic) : UInt32 × UInt32 × UInt32 :=
  (h.seqnum, h.devid, h.ep)

theorem Server.ContextsOk.reply_triple {s : Server} (hs : s.ContextsOk) {ev : Submit}
    {ret : UsbipRetSubmit} (h : (ev, ret) ∈ s.replies) : ret.base.triple = ev.header.triple := by
  obtain ⟨m, hm, hreply⟩ := List.mem_filterMap.1 h
  have hmsg : m.message = .retSubmit ev ret := by
    cases hmm : m.message <;> rw [hmm] at hreply <;> cases hreply
    rfl
  obtain ⟨c, heap, hok, rfl, rfl, -⟩ := hs.sent m hm ev ret hmsg
  obtain ⟨hseq, hdev, hep⟩ := Callback.reply_identifies hok heap
  simp only [UsbipHeaderBasic.triple, hseq, hdev, hep]

theorem boot_contextsOk (lib : HostLib)
    (devRecv header cmdSubmit transferBuffer cmdUnlink : Bytes) :
    (Server.boot lib devRecv header cmdSubmit transferBuffer cmdUnlink).ContextsOk where
  handlers x hx := by cases hx
  inFlight t ht := by cases ht
  callback c hc := by cases hc
  sent m hm := by cases hm

theorem boot_accounted (lib : HostLib) (devRecv header cmdSubmit transferBuffer cmdUnlink : Bytes) :
    (Server.boot lib devRecv header cmdSubmit transferBuffer cmdUnlink).Accounted where
  total := rfl
  ids := rfl

theorem Reachable.contextsOk {s : Server} (h : Reachable s) : s.ContextsOk :=
  h.invariant boot_contextsOk fun _ _ _ hs => step_contextsOk hs

theorem Reachable.accounted {s : Server} (h : Reachable s) : s.Accounted :=
  h.invariant boot_accounted fun _ _ _ hs => step_accounted hs

/-- At every state the firmware reaches, a posted request is in one stage of the pipeline and
there once; the RET_SUBMITs sent come from distinct completed requests and identify them. -/
theorem submit_reply_conservation {t : Server} (h : Reachable t) :
    t.history.posted.map Submit.id = List.range t.history.posted.length ∧
      Flow.total t.stage = t.history.posted ∧
      (∀ ev ∈ t.history.posted, ∃! k, ev ∈ t.stage k) ∧
      (∀ ev ∈ t.history.posted, ∀ k, ev ∈ t.stage k → (t.stage k).count ev = 1) ∧
      (t.replies.map Prod.fst).Nodup ∧
      (∀ r ∈ t.replies, r.1 ∈ t.stage .completed ∧ r.2.base.triple = r.1.header.triple) ∧
      (t.replies : Multiset (Submit × UsbipRetSubmit)).map (fun r => r.2.base.triple) ≤
        (t.history.posted : Multiset Submit).map fun ev => ev.header.triple := by
  have hacc := h.accounted
  have hctx := h.contextsOk
  refine ⟨hacc.ids, hacc.total, ?_, ?_, hacc.replies_nodup, ?_, ?_⟩
  · intro ev hev
    refine Flow.existsUnique_stage hacc.total_nodup ?_
    rw [hacc.total]
    exact Multiset.mem_coe.2 hev
  · intro ev _ k hk
    have hnodup := Multiset.nodup_of_le (Flow.stage_le_total t.stage k) hacc.total_nodup
    exact Multiset.count_eq_one_of_mem hnodup hk
  · intro r hr
    refine ⟨?_, hctx.reply_triple hr⟩
    exact Multiset.mem_of_le (replies_le_completed t)
      (Multiset.mem_coe.2 (List.mem_map_of_mem hr))
  · have htriples : (t.replies.map fun r => r.2.base.triple) =
        (t.replies.map Prod.fst).map fun ev => ev.header.triple := by
      rw [List.map_map]
      exact List.map_congr_left fun r hr => hctx.reply_triple hr
    rw [Multiset.map_coe, htriples, ← Multiset.map_coe]
    exact Multiset.map_le_map hacc.replies_le_posted

/-- A keyboard is plugged in, imported, and asked for its device descriptor. -/
def descriptorSession : List Action :=
  keyboardEnumeration ++ importing 3 (importSession [submitIn 7 0 18]).stream ++ submitting ++
    handlingControl true ++ completing 26

theorem submit_reply_conservation_descriptor :
    ∃ t, run coldBoot descriptorSession = some t ∧ t.replies.length = 1 ∧
      (∀ ev ∈ t.history.posted, ∃! k, ev ∈ t.stage k) ∧
      (t.replies : Multiset (Submit × UsbipRetSubmit)).map (fun r => r.2.base.triple) ≤
        (t.history.posted : Multiset Submit).map fun ev => ev.header.triple := by
  have hlen : (run coldBoot descriptorSession).map (fun t => t.replies.length) = some 1 := by
    decide +kernel
  obtain ⟨t, ht, hone⟩ := Option.map_eq_some_iff.1 hlen
  have hreach : Reachable t := ⟨_, _, _, _, _, _, descriptorSession, ht⟩
  obtain ⟨-, -, hstage, -, -, -, htriples⟩ := submit_reply_conservation hreach
  exact ⟨t, ht, hone, hstage, htriples⟩

end UsbRepeater
