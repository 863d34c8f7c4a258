import UsbRepeater.SubmitPipeline

/-! What a SUBMIT event carries along its path. A claim about the objects of each stage is kept
by every step of the firmware once it is kept where an object goes from one stage to the next. -/
namespace UsbRepeater

/-- What is claimed of the queued events, of the handlers at work, and of the transfers in flight
and in a callback. -/
structure PipelineClaim where
  queued : Submit → Prop
  handler : Handler2 → Prop
  inFlight : UsbTransfer → Prop
  callback : UsbTransfer → Prop

structure Server.Carries (s : Server) (P : PipelineClaim) : Prop where
  queued : ∀ x ∈ s.loop2.queue, P.queued x.2
  handler : ∀ x ∈ s.loop2.handlers, P.handler x.2
  inFlight : ∀ t ∈ s.inFlight, P.inFlight t
  callback : ∀ c, s.callback = some c → P.callback c.transfer

structure PipelineClaim.Moves (P : PipelineClaim) (s : Server) : Prop where
  dispatch : ∀ ev, P.queued ev → P.handler (.entry ev)
  fill : ∀ ev heap, P.handler (.entry ev) → P.handler (.filled ev (fillRetSubmit ev heap))
  setSkt : ∀ ev ret, P.handler (.filled ev ret) → P.handler (.sktSet ev ret)
  alloc : ∀ ev ret heap, P.handler (.sktSet ev ret) →
    P.handler (.allocated (allocTransfer ev ret heap s.driver.devHdl))
  control : ∀ t, P.handler (.allocated t) → t.ev.header.ep = 0 →
    P.handler (.built (buildControl t))
  checked : ∀ t, P.handler (.allocated t) → t.ev.header.ep ≠ 0 → P.handler (.checked t)
  build : ∀ t beyond, P.handler (.checked t) →
    P.handler (.built (buildBulk s.lib s.driver.mps beyond t))
  submit : ∀ t, P.handler (.built t) → P.inFlight t
  accepted : ∀ t, P.handler (.built t) → t.control = false →
    P.handler (.accepted t.ev.header.ep)
  complete : ∀ t data, P.inFlight t →
    P.callback { t with dataBuffer := sized t.dataBuffer.length data }

variable {P : PipelineClaim}

theorem Server.Carries.of_same {s t : Server} (hs : s.Carries P)
    (hl : t.loop2.queue = s.loop2.queue ∧ t.loop2.handlers = s.loop2.handlers)
    (hf : t.inFlight = s.inFlight) (hc : t.callback = s.callback) : t.Carries P where
  queued := by rw [hl.1]; exact hs.queued
  handler := by rw [hl.2]; exact hs.handler
  inFlight := by rw [hf]; exact hs.inFlight
  callback := by rw [hc]; exact hs.callback

theorem Server.Carries.mono {s : Server} {Q : PipelineClaim} (hs : s.Carries P)
    (hq : ∀ ev, P.queued ev → Q.queued ev) (hh : ∀ h, P.handler h → Q.handler h)
    (hf : ∀ t, P.inFlight t → Q.inFlight t) (hc : ∀ t, P.callback t → Q.callback t) :
    s.Carries Q where
  queued x hx := hq _ (hs.queued x hx)
  handler x hx := hh _ (hs.handler x hx)
  inFlight t ht := hf t (hs.inFlight t ht)
  callback c hcb := hc _ (hs.callback c hcb)

theorem Server.Carries.setHandler2 {s : Server} {j l : ℕ} {h h' : Handler2} (hs : s.Carries P)
    (hj : s.loop2.handlers[j]? = some (l, h)) (hP : P.handler h') :
    (s.setHandler2 j h').Carries P where
  queued := hs.queued
  handler x hx := by
    rcases Flow.mem_modify hj hx with rfl | hx
    · exact hP
    · exact hs.handler x hx
  inFlight := hs.inFlight
  callback := hs.callback

theorem Server.Carries.endHandler2 {s : Server} (hs : s.Carries P) (j : ℕ) :
    (s.endHandler2 j).Carries P where
  queued := hs.queued
  handler x hx := hs.handler x (List.mem_of_mem_eraseIdx hx)
  inFlight := hs.inFlight
  callback := hs.callback

theorem Server.Carries.submitted {s : Server} {tr : UsbTransfer} (hs : s.Carries P)
    (hP : P.inFlight tr) : Server.Carries { s with inFlight := s.inFlight ++ [tr] } P where
  queued := hs.queued
  handler := hs.handler
  inFlight t ht := by
    rcases List.mem_append.1 ht with ht | ht
    · exact hs.inFlight t ht
    · rw [List.mem_singleton.1 ht]
      exact hP
  callback := hs.callback

theorem Server.Carries.endCallback {s : Server} (hs : s.Carries P) (ev : Submit) :
    (s.endCallback ev).Carries P where
  queued := hs.queued
  handler := hs.handler
  inFlight := hs.inFlight
  callback c hc := by cases hc

theorem TcpEffect.carries {s t : Server} {a : TcpAction} (h : TcpEffect s a t) (hs : s.Carries P)
    (hpost : a = .post true → s.tcp.pc = .postSubmit → P.queued (submitEvent s)) :
    t.Carries P := by
  cases h with
  | postSubmit tcp htcp hpc hloop =>
    refine ⟨fun x hx => ?_, hs.handler, hs.inFlight, hs.callback⟩
    rcases List.mem_append.1 hx with hx | hx
    · exact hs.queued x hx
    · rw [List.mem_singleton.1 hx]
      exact hpost rfl hpc
  | _ => exact hs.of_same ⟨rfl, rfl⟩ rfl rfl

theorem Loop2Effect.carries {s t : Server} {a : Loop2Action} (h : Loop2Effect s a t)
    (hP : P.Moves s) (hs : s.Carries P) : t.Carries P := by
  have hget : ∀ {j l : ℕ} {h : Handler2}, s.loop2.handlers[j]? = some (l, h) → P.handler h :=
    fun hj => hs.handler _ (List.mem_of_getElem? hj)
  cases h with
  | dispatch i l ev hi =>
    refine ⟨fun x hx => hs.queued x (List.mem_of_mem_eraseIdx hx), fun x hx => ?_, hs.inFlight,
      hs.callback⟩
    rcases List.mem_append.1 hx with hx | hx
    · exact hs.handler x hx
    · rw [List.mem_singleton.1 hx]
      exact hP.dispatch ev (hs.queued _ (List.mem_of_getElem? hi))
  | noReply j l ev hj | noTransfer j l ev ret hj | pending j l tr hj hep hp | rejected j l tr hj
  | setPending j l ep hj =>
    exact (hs.endHandler2 j).of_same ⟨rfl, rfl⟩ rfl rfl
  | fill j l ev heap hj =>
    exact (hs.setHandler2 hj (hP.fill ev heap (hget hj))).of_same ⟨rfl, rfl⟩ rfl rfl
  | setSkt j l ev ret hj =>
    exact (hs.setHandler2 hj (hP.setSkt ev ret (hget hj))).of_same ⟨rfl, rfl⟩ rfl rfl
  | alloc j l ev ret heap hj =>
    exact (hs.setHandler2 hj (hP.alloc ev ret heap (hget hj))).of_same ⟨rfl, rfl⟩ rfl rfl
  | control j l tr hj hep => exact hs.setHandler2 hj (hP.control tr (hget hj) hep)
  | checked j l tr hj hep hp => exact hs.setHandler2 hj (hP.checked tr (hget hj) hep)
  | build j l tr beyond hj => exact hs.setHandler2 hj (hP.build tr beyond (hget hj))
  | submitControl j l tr hj hc => exact (hs.submitted (hP.submit tr (hget hj))).endHandler2 j
  | submitBulk j l tr hj hc =>
    exact (hs.submitted (hP.submit tr (hget hj))).setHandler2 hj (hP.accepted tr (hget hj) hc)

theorem HostEffect.carries {s t : Server} {a : HostAction} (h : HostEffect s a t)
    (hP : P.Moves s) (hs : s.Carries P) : t.Carries P := by
  cases h with
  | complete i tr status n data hcb hi =>
    refine ⟨hs.queued, hs.handler, fun x hx => hs.inFlight x (List.mem_of_mem_eraseIdx hx), ?_⟩
    intro c hc
    cases hc
    exact hP.complete tr data (hs.inFlight tr (List.mem_of_getElem? hi))
  | clear c hcb hcl =>
    refine ⟨hs.queued, hs.handler, hs.inFlight, ?_⟩
    intro c' hc'
    cases hc'
    exact hs.callback c hcb
  | silent c heap r hcb hr => exact (hs.endCallback c.transfer.ev).of_same ⟨rfl, rfl⟩ rfl rfl
  | reply c conn heap r n hcb hskt hconn hnum hn hr =>
    exact (hs.endCallback c.transfer.ev).of_same ⟨rfl, rfl⟩ rfl rfl

/-- The rule for a claim along the pipeline: it is kept by a step when a posted event meets it. -/
theorem step_carries {s t : Server} {a : Action} (hP : P.Moves s) (hs : s.Carries P)
    (hpost : a = .tcp (.post true) → s.tcp.pc = .postSubmit → P.queued (submitEvent s))
    (h : step s a = some t) : t.Carries P := by
  cases a with
  | tcp a =>
    exact (tcpStep_effect h).2.carries hs fun ha => hpost (congrArg Action.tcp ha)
  | loop1 a =>
    obtain ⟨-, heff⟩ := loop1Step_effect h
    cases heff <;> exact hs.of_same ⟨rfl, rfl⟩ rfl rfl
  | loop2 a => exact (loop2Step_effect h).2.carries hP hs
  | host a => exact (hostStep_effect h).2.carries hP hs
  | driver a =>
    obtain ⟨-, -, d, e, -, rfl⟩ := driverStep_effect h
    cases e <;> exact hs.of_same ⟨rfl, rfl⟩ rfl rfl

theorem boot_carries {lib : HostLib} {devRecv header cmdSubmit transferBuffer cmdUnlink : Bytes} :
    (Server.boot lib devRecv header cmdSubmit transferBuffer cmdUnlink).Carries P where
  queued x hx := by cases hx
  handler x hx := by cases hx
  inFlight t ht := by cases ht
  callback c hc := by cases hc

structure Server.Submitted (s : Server) (Q : UsbTransfer → Prop) : Prop where
  inFlight : ∀ t ∈ s.inFlight, Q t
  callback : ∀ c, s.callback = some c → Q c.transfer

def Server.readyTransfer (s : Server) (j : ℕ) : Option UsbTransfer :=
  match s.loop2.handlers[j]? with
  | some (_, .built t) => some t
  | _ => none

theorem readyTransfer_eq_some {s : Server} {j : ℕ} {t : UsbTransfer} :
    s.readyTransfer j = some t ↔ ∃ l, s.loop2.handlers[j]? = some (l, .built t) := by
  unfold Server.readyTransfer
  split
  · rename_i l tr hj
    simp [hj]
  · rename_i hno
    simp only [false_iff, reduceCtorEq, not_exists]
    exact fun l hj => hno l t hj

/-- The rule for a claim about submitted transfers: it is kept when an accepted one meets it. -/
theorem step_submitted {s t : Server} {a : Action} {Q : UsbTransfer → Prop} (hs : s.Submitted Q)
    (hdata : ∀ tr data, Q tr → Q { tr with dataBuffer := sized tr.dataBuffer.length data })
    (hsubmit : ∀ j tr, a = .loop2 (.submit j true) → s.readyTransfer j = some tr → Q tr)
    (h : step s a = some t) : t.Submitted Q := by
  have hgrow : ∀ j l tr, a = .loop2 (.submit j true) →
      s.loop2.handlers[j]? = some (l, .built tr) → ∀ x ∈ s.inFlight ++ [tr], Q x := by
    intro j l tr ha hj x hx
    rcases List.mem_append.1 hx with hx | hx
    · exact hs.inFlight x hx
    · rw [List.mem_singleton.1 hx]
      exact hsubmit j tr ha (readyTransfer_eq_some.2 ⟨l, hj⟩)
  cases a with
  | tcp a =>
    obtain ⟨-, heff⟩ := tcpStep_effect h
    cases heff <;> exact ⟨hs.inFlight, hs.callback⟩
  | loop1 a =>
    obtain ⟨-, heff⟩ := loop1Step_effect h
    cases heff <;> exact ⟨hs.inFlight, hs.callback⟩
  | loop2 a =>
    obtain ⟨-, heff⟩ := loop2Step_effect h
    cases heff with
    | submitControl j l tr hj hc => exact ⟨hgrow j l tr rfl hj, hs.callback⟩
    | submitBulk j l tr hj hc => exact ⟨hgrow j l tr rfl hj, hs.callback⟩
    | _ => exact ⟨hs.inFlight, hs.callback⟩
  | host a =>
    obtain ⟨-, heff⟩ := hostStep_effect h
    cases heff with
    | complete i tr status n data hcb hi =>
      refine ⟨fun x hx => hs.inFlight x (List.mem_of_mem_eraseIdx hx), fun c hc => ?_⟩
      cases hc
      exact hdata tr data (hs.inFlight tr (List.mem_of_getElem? hi))
    | clear c hcb hcl =>
      refine ⟨hs.inFlight, fun c' hc' => ?_⟩
      cases hc'
      exact hs.callback c hcb
    | silent c heap r hcb hr => exact ⟨hs.inFlight, fun c hc => by cases hc⟩
    | reply c conn heap r n hcb hskt hconn hnum hn hr =>
      exact ⟨hs.inFlight, fun c hc => by cases hc⟩
  | driver a =>
    obtain ⟨-, -, d, e, -, rfl⟩ := driverStep_effect h
    cases e <;> exact ⟨hs.inFlight, hs.callback⟩

end UsbRepeater
