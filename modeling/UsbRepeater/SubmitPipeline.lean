import UsbRepeater.Lib.Flow
import UsbRepeater.Effects

/-! The path of a SUBMIT event: the queues of `loop_handle2`, the handler, the host library,
and one of the two callbacks. Each step of the firmware is one step of an abstract pipeline,
so every posted event is in one stage at any time and is answered at most once. -/
namespace UsbRepeater

open Schedule

/-- The event an active handler still answers for. -/
def Handler2.request : Handler2 → Option Submit
  | .entry ev | .filled ev _ | .sktSet ev _ => some ev
  | .allocated t | .checked t | .built t => some t.ev
  | .accepted _ => none

def Message.reply : Message → Option (Submit × UsbipRetSubmit)
  | .retSubmit ev ret => some (ev, ret)
  | _ => none

def Server.replies (s : Server) : List (Submit × UsbipRetSubmit) :=
  s.history.sent.filterMap fun m => m.message.reply

/-- The stages of a posted event. It is completed once the host library has ended its transfer,
and dropped when the handler returned without the library having taken one. -/
inductive Stage
  | queued | handled | inFlight | completed | dropped
  deriving DecidableEq

instance : Fintype Stage where
  elems := {.queued, .handled, .inFlight, .completed, .dropped}
  complete k := by cases k <;> decide

def Server.stage (s : Server) : Stage → Multiset Submit
  | .queued => (s.loop2.queue.map Prod.snd : List Submit)
  | .handled => (s.loop2.handlers.filterMap fun x => x.2.request : List Submit)
  | .inFlight => (s.inFlight.map UsbTransfer.ev : List Submit)
  | .completed =>
      (s.callback.toList.map (fun c => c.transfer.ev) : List Submit) +
        ((s.replies.map Prod.fst : List Submit) + (s.history.silent : List Submit))
  | .dropped => (s.history.dropped.map Prod.fst : List Submit)

/-- A step of the server seen as a step of the pipeline; `new` are the events it posts. -/
def PipelineStep (s t : Server) : Prop :=
  ∃ new, Flow.Step s.stage new t.stage ∧ t.history.posted = s.history.posted ++ new

theorem PipelineStep.stay {s t : Server} (hs : t.stage = s.stage)
    (hp : t.history.posted = s.history.posted) : PipelineStep s t :=
  ⟨[], hs ▸ .stay, by simpa using hp⟩

theorem PipelineStep.move {s t : Server} (g : Stage → Multiset Submit) (k l : Stage) (ev : Submit)
    (hs : s.stage = Flow.put g k ev) (ht : t.stage = Flow.put g l ev)
    (hp : t.history.posted = s.history.posted) : PipelineStep s t :=
  ⟨[], ht ▸ .move g k l ev hs, by simpa using hp⟩

theorem replies_emit {s : Server} {m : Sent} (h : m.message.reply = none) :
    (s.emit m).replies = s.replies := by
  simp [Server.replies, Server.emit, h]

theorem stage_emit {s : Server} {m : Sent} (h : m.message.reply = none) :
    (s.emit m).stage = s.stage := by
  funext k
  cases k <;> simp only [Server.stage, replies_emit h] <;> rfl

theorem TcpEffect.pipeline {s t : Server} {a : TcpAction} (h : TcpEffect s a t) :
    PipelineStep s t := by
  cases h with
  | postSubmit tcp htcp hpc hloop =>
    refine ⟨[submitEvent s], ?_, rfl⟩
    have hput : Server.stage { s with
        tcp := tcp
        loop2 := { s.loop2 with queue := s.loop2.queue ++ [(s.loop2.count, submitEvent s)] }
        history := { s.history with posted := s.history.posted ++ [submitEvent s] } } =
        Flow.put s.stage .queued (submitEvent s) := by
      funext k
      cases k with
      | queued =>
        simp only [Server.stage, Flow.put, Function.update_self, List.map_append, List.map_cons,
          List.map_nil, Multiset.cons_coe, Multiset.coe_eq_coe]
        exact List.perm_append_singleton _ _
      | _ => rfl
    rw [hput]
    exact .enter _ _
  | unlink tcp c r n htcp hpc hc hn hr => exact .stay (stage_emit rfl) rfl
  | _ => exact .stay rfl rfl

theorem Loop1Effect.pipeline {s t : Server} (h : Loop1Effect s t) : PipelineStep s t := by
  cases h with
  | own => exact .stay rfl rfl
  | send loop1 c m hc hm hmsg =>
    refine .stay (stage_emit ?_) rfl
    rcases hmsg with h | ⟨rep, h⟩ <;> rw [h] <;> rfl
  | busy => exact .stay rfl rfl
  | crash => exact .stay rfl rfl

theorem applyEffect_pipeline (s : Server) (d : Driver) (e : DriverEffect) :
    PipelineStep s (applyEffect { s with driver := d } e) := by
  cases e <;> exact .stay rfl rfl

theorem stage_setHandler2 {s : Server} {j l : ℕ} {h h' : Handler2}
    (hj : s.loop2.handlers[j]? = some (l, h)) (hr : h'.request = h.request) :
    (s.setHandler2 j h').stage = s.stage := by
  funext k
  cases k with
  | handled => exact Flow.coe_filterMap_modify _ _ hj hr
  | _ => rfl

theorem stage_endHandler2 {s : Server} {j l : ℕ} {h : Handler2}
    (hj : s.loop2.handlers[j]? = some (l, h)) (hr : h.request = none) :
    (s.endHandler2 j).stage = s.stage := by
  funext k
  cases k with
  | handled => exact (Flow.coe_filterMap_eraseIdx_none _ hj hr).symm
  | _ => rfl

theorem stage_eq_put_handled {s : Server} {j l : ℕ} {h : Handler2} {ev : Submit}
    (hj : s.loop2.handlers[j]? = some (l, h)) (hr : h.request = some ev) :
    s.stage = Flow.put (s.endHandler2 j).stage .handled ev := by
  funext k
  cases k with
  | handled =>
    rw [Flow.put, Function.update_self]
    exact Flow.coe_filterMap_eraseIdx _ hj hr
  | _ => rfl

theorem coe_map_append_singleton {α β : Type*} (f : α → β) (l : List α) (a : α) :
    (((l ++ [a]).map f : List β) : Multiset β) = f a ::ₘ (l.map f : List β) := by
  rw [List.map_append, Multiset.cons_coe, Multiset.coe_eq_coe]
  exact List.perm_append_singleton _ _

theorem drop2_pipeline {s : Server} {j l : ℕ} {h : Handler2} {ev : Submit}
    (hj : s.loop2.handlers[j]? = some (l, h)) (hr : h.request = some ev) (reason : DropReason) :
    PipelineStep s (s.drop2 j ev reason) := by
  refine .move _ .handled .dropped ev (stage_eq_put_handled hj hr) ?_ rfl
  funext k
  cases k with
  | dropped =>
    simp only [Server.stage, Server.drop2, Server.endHandler2, Flow.put, Function.update_self,
      List.map_append, List.map_cons, List.map_nil, Multiset.cons_coe, Multiset.coe_eq_coe]
    exact List.perm_append_singleton _ _
  | _ => rfl

theorem PipelineStep.heap {s t : Server} (heap : Heap) (h : PipelineStep s t) :
    PipelineStep s { t with heap := heap } := h

theorem Loop2Effect.pipeline {s t : Server} {a : Loop2Action} (h : Loop2Effect s a t) :
    PipelineStep s t := by
  cases h with
  | dispatch i l ev hi =>
    refine .move (fun k => match k with
      | .queued => ((s.loop2.queue.eraseIdx i).map Prod.snd : List Submit)
      | k => s.stage k) .queued .handled ev ?_ ?_ rfl
    · funext k
      cases k with
      | queued =>
        rw [Flow.put, Function.update_self]
        exact Flow.coe_map_eraseIdx Prod.snd hi
      | _ => rfl
    · funext k
      cases k with
      | handled =>
        simp only [Server.stage, Flow.put, Function.update_self, List.filterMap_append,
          List.filterMap_cons, List.filterMap_nil, Handler2.request, Multiset.cons_coe,
          Multiset.coe_eq_coe]
        exact List.perm_append_singleton _ _
      | _ => rfl
  | noReply j l ev hj => exact drop2_pipeline hj rfl _
  | fill j l ev heap hj => exact .heap _ (.stay (stage_setHandler2 hj rfl) rfl)
  | setSkt j l ev ret hj => exact .stay (stage_setHandler2 hj rfl) rfl
  | noTransfer j l ev ret hj => exact .heap _ (drop2_pipeline hj rfl _)
  | alloc j l ev ret heap hj => exact .heap _ (.stay (stage_setHandler2 hj rfl) rfl)
  | control j l tr hj hep => exact .stay (stage_setHandler2 hj rfl) rfl
  | pending j l tr hj hep hp => exact .heap _ (drop2_pipeline hj rfl _)
  | checked j l tr hj hep hp => exact .stay (stage_setHandler2 hj rfl) rfl
  | build j l tr beyond hj =>
    refine .stay (stage_setHandler2 hj ?_) rfl
    simp only [Handler2.request, buildBulk]
    split_ifs <;> rfl
  | rejected j l tr hj => exact drop2_pipeline hj rfl _
  | submitControl j l tr hj hc =>
    refine .move _ .handled .inFlight tr.ev (stage_eq_put_handled hj rfl) ?_ rfl
    funext k
    cases k with
    | inFlight => exact coe_map_append_singleton UsbTransfer.ev s.inFlight tr
    | _ => rfl
  | submitBulk j l tr hj hc =>
    -- the handler goes on, but its event has left it for the host library
    refine .move _ .handled .inFlight tr.ev (stage_eq_put_handled hj rfl) ?_ rfl
    funext k
    cases k with
    | handled =>
      rw [Flow.put, Function.update_of_ne (by decide)]
      exact Flow.coe_filterMap_modify_none _ _ hj rfl
    | inFlight => exact coe_map_append_singleton UsbTransfer.ev s.inFlight tr
    | _ => rfl
  | setPending j l ep hj => exact .stay (stage_endHandler2 hj rfl) rfl

theorem HostEffect.pipeline {s t : Server} {a : HostAction} (h : HostEffect s a t) :
    PipelineStep s t := by
  cases h with
  | complete i tr status n data hcb hi =>
    refine .move (fun k => match k with
      | .inFlight => ((s.inFlight.eraseIdx i).map UsbTransfer.ev : List Submit)
      | k => s.stage k) .inFlight .completed tr.ev ?_ ?_ rfl
    · funext k
      cases k with
      | inFlight =>
        rw [Flow.put, Function.update_self]
        exact Flow.coe_map_eraseIdx UsbTransfer.ev hi
      | _ => rfl
    · funext k
      cases k with
      | completed =>
        simp only [Server.stage, Flow.put, Function.update_self, hcb, Option.toList_none,
          Option.toList_some, List.map_nil, List.map_cons, Multiset.coe_nil, zero_add,
          Multiset.coe_singleton, Multiset.singleton_add]
        rfl
      | _ => rfl
  | clear c hcb hcl =>
    refine .stay ?_ rfl
    funext k
    cases k with
    | completed => simp only [Server.stage, hcb, Option.toList_some, List.map_cons]; rfl
    | _ => rfl
  | silent c heap r hcb hr =>
    refine .stay ?_ rfl
    funext k
    cases k with
    | completed =>
      simp only [Server.stage, Server.silence, Server.endCallback, hcb, Option.toList_none,
        Option.toList_some, List.map_nil, List.map_cons, Multiset.coe_nil, zero_add,
        ← Multiset.coe_add, Multiset.coe_singleton, Server.replies]
      abel
    | _ => rfl
  | reply c conn heap r n hcb hskt hconn hnum hn hr =>
    refine .stay ?_ rfl
    funext k
    cases k with
    | completed =>
      simp only [Server.stage, Server.emit, Server.endCallback, hcb, Option.toList_none,
        Option.toList_some, List.map_nil, List.map_cons, Multiset.coe_nil, zero_add,
        Server.replies, List.filterMap_append, List.map_append, List.filterMap_cons,
        List.filterMap_nil, Message.reply, ← Multiset.coe_add, Multiset.coe_singleton]
      abel
    | _ => rfl

/-- The refinement: every step of the server is a step of the pipeline. -/
theorem step_pipeline {s t : Server} {a : Action} (h : step s a = some t) : PipelineStep s t := by
  cases a with
  | tcp a => exact (tcpStep_effect h).2.pipeline
  | loop1 a => exact (loop1Step_effect h).2.pipeline
  | loop2 a => exact (loop2Step_effect h).2.pipeline
  | host a => exact (hostStep_effect h).2.pipeline
  | driver a =>
    obtain ⟨-, -, d, e, -, rfl⟩ := driverStep_effect h
    exact applyEffect_pipeline s d e

/-- A posted request that has neither been dropped nor gone through its callback. -/
inductive Server.Outstanding (s : Server) (ev : Submit) : Prop
  | queued (l : ℕ) (h : (l, ev) ∈ s.loop2.queue)
  | handled (x : ℕ × Handler2) (h : x ∈ s.loop2.handlers) (hr : x.2.request = some ev)
  | inFlight (t : UsbTransfer) (h : t ∈ s.inFlight) (he : t.ev = ev)
  | callback (c : Callback) (h : s.callback = some c) (he : c.transfer.ev = ev)

def Server.outstanding (s : Server) : List Submit :=
  s.loop2.queue.map Prod.snd ++ (s.loop2.handlers.filterMap (fun x => x.2.request) ++
    (s.inFlight.map UsbTransfer.ev ++ s.callback.toList.map fun c => c.transfer.ev))

theorem outstanding_iff {s : Server} {ev : Submit} : s.Outstanding ev ↔ ev ∈ s.outstanding := by
  simp only [Server.outstanding, List.mem_append, List.mem_map, List.mem_filterMap,
    Option.mem_toList]
  constructor
  · rintro (⟨l, h⟩ | ⟨x, h, hr⟩ | ⟨tr, h, he⟩ | ⟨c, h, he⟩)
    · exact .inl ⟨(l, ev), h, rfl⟩
    · exact .inr (.inl ⟨x, h, hr⟩)
    · exact .inr (.inr (.inl ⟨tr, h, he⟩))
    · exact .inr (.inr (.inr ⟨c, h, he⟩))
  · rintro (⟨⟨l, e⟩, h, rfl⟩ | ⟨x, h, hr⟩ | ⟨tr, h, he⟩ | ⟨c, h, he⟩)
    · exact .queued l h
    · exact .handled x h hr
    · exact .inFlight tr h he
    · exact .callback c h he

theorem Server.Outstanding.of_same {s t : Server} {ev : Submit} (h : t.Outstanding ev)
    (hl : t.loop2.queue = s.loop2.queue ∧ t.loop2.handlers = s.loop2.handlers)
    (hf : t.inFlight = s.inFlight) (hc : t.callback = s.callback) : s.Outstanding ev := by
  cases h with
  | queued l h => exact .queued l (hl.1 ▸ h)
  | handled x h hr => exact .handled x (hl.2 ▸ h) hr
  | inFlight tr h he => exact .inFlight tr (hf ▸ h) he
  | callback c h he => exact .callback c (hc ▸ h) he

theorem Server.Outstanding.of_setHandler2 {s : Server} {j l : ℕ} {h h' : Handler2} {ev : Submit}
    (ho : (s.setHandler2 j h').Outstanding ev) (hj : s.loop2.handlers[j]? = some (l, h))
    (hr : ∀ ev, h'.request = some ev → h.request = some ev) : s.Outstanding ev := by
  cases ho with
  | queued k hq => exact .queued k hq
  | handled x hx hxr =>
    rcases Flow.mem_modify hj hx with rfl | hx
    · exact .handled (l, h) (List.mem_of_getElem? hj) (hr ev hxr)
    · exact .handled x hx hxr
  | inFlight tr ht he => exact .inFlight tr ht he
  | callback c hc he => exact .callback c hc he

theorem Server.Outstanding.of_endHandler2 {s : Server} {j : ℕ} {ev : Submit}
    (ho : (s.endHandler2 j).Outstanding ev) : s.Outstanding ev := by
  cases ho with
  | queued k hq => exact .queued k hq
  | handled x hx hxr => exact .handled x (List.mem_of_mem_eraseIdx hx) hxr
  | inFlight tr ht he => exact .inFlight tr ht he
  | callback c hc he => exact .callback c hc he

theorem Server.Outstanding.of_submitted {s : Server} {tr : UsbTransfer} {ev : Submit}
    (ho : Server.Outstanding { s with inFlight := s.inFlight ++ [tr] } ev) :
    s.Outstanding ev ∨ ev = tr.ev := by
  cases ho with
  | queued k hq => exact .inl (.queued k hq)
  | handled x hx hxr => exact .inl (.handled x hx hxr)
  | inFlight tr' ht he =>
    rcases List.mem_append.1 ht with ht | ht
    · exact .inl (.inFlight tr' ht he)
    · rw [List.mem_singleton.1 ht] at he
      exact .inr he.symm
  | callback c hc he => exact .inl (.callback c hc he)

theorem TcpEffect.outstanding {s t : Server} {a : TcpAction} {ev : Submit} (h : TcpEffect s a t)
    (ho : t.Outstanding ev) :
    s.Outstanding ev ∨ a = .post true ∧ s.tcp.pc = .postSubmit ∧ ev = submitEvent s := by
  cases h with
  | postSubmit tcp htcp hpc hloop =>
    cases ho with
    | queued k hq =>
      rcases List.mem_append.1 hq with hq | hq
      · exact .inl (.queued k hq)
      · have heq := List.mem_singleton.1 hq
        exact .inr ⟨rfl, hpc, (Prod.mk.inj heq).2⟩
    | handled x hx hxr => exact .inl (.handled x hx hxr)
    | inFlight tr ht he => exact .inl (.inFlight tr ht he)
    | callback c hc he => exact .inl (.callback c hc he)
  | _ => exact .inl (ho.of_same ⟨rfl, rfl⟩ rfl rfl)

theorem Loop1Effect.outstanding {s t : Server} {ev : Submit} (h : Loop1Effect s t)
    (ho : t.Outstanding ev) : s.Outstanding ev := by
  cases h <;> exact ho.of_same ⟨rfl, rfl⟩ rfl rfl

theorem Loop2Effect.outstanding {s t : Server} {a : Loop2Action} {ev : Submit}
    (h : Loop2Effect s a t) (ho : t.Outstanding ev) : s.Outstanding ev := by
  cases h with
  | dispatch i l e hi =>
    cases ho with
    | queued k hq => exact .queued k (List.mem_of_mem_eraseIdx hq)
    | handled x hx hxr =>
      rcases List.mem_append.1 hx with hx | hx
      · exact .handled x hx hxr
      · rw [List.mem_singleton.1 hx] at hxr
        cases hxr
        exact .queued l (List.mem_of_getElem? hi)
    | inFlight tr ht he => exact .inFlight tr ht he
    | callback c hc he => exact .callback c hc he
  | fill j l e heap hj =>
    have hs : (s.setHandler2 j (.filled e (fillRetSubmit e heap))).Outstanding ev :=
      ho.of_same ⟨rfl, rfl⟩ rfl rfl
    exact hs.of_setHandler2 hj fun _ hr => hr
  | setSkt j l e ret hj =>
    have hs : (s.setHandler2 j (.sktSet e ret)).Outstanding ev := ho.of_same ⟨rfl, rfl⟩ rfl rfl
    exact hs.of_setHandler2 hj fun _ hr => hr
  | alloc j l e ret heap hj =>
    have hs : (s.setHandler2 j
        (.allocated (allocTransfer e ret heap s.driver.devHdl))).Outstanding ev :=
      ho.of_same ⟨rfl, rfl⟩ rfl rfl
    exact hs.of_setHandler2 hj fun _ hr => hr
  | control j l tr hj hep => exact ho.of_setHandler2 hj fun _ hr => hr
  | checked j l tr hj hep hp => exact ho.of_setHandler2 hj fun _ hr => hr
  | build j l tr beyond hj =>
    refine ho.of_setHandler2 hj fun e hr => ?_
    simp only [Handler2.request, buildBulk] at hr ⊢
    split_ifs at hr <;> exact hr
  | submitControl j l tr hj hc =>
    rcases ho.of_endHandler2.of_submitted with ho | rfl
    · exact ho
    · exact .handled _ (List.mem_of_getElem? hj) rfl
  | submitBulk j l tr hj hc =>
    have hmid := ho.of_setHandler2 (s := { s with inFlight := s.inFlight ++ [tr] }) hj
      fun _ hr => by cases hr
    rcases hmid.of_submitted with ho | rfl
    · exact ho
    · exact .handled _ (List.mem_of_getElem? hj) rfl
  | _ =>
    have hs : (s.endHandler2 _).Outstanding ev := ho.of_same ⟨rfl, rfl⟩ rfl rfl
    exact hs.of_endHandler2

theorem HostEffect.outstanding {s t : Server} {a : HostAction} {ev : Submit}
    (h : HostEffect s a t) (ho : t.Outstanding ev) : s.Outstanding ev := by
  cases h with
  | complete i tr status n data hcb hi =>
    cases ho with
    | queued k hq => exact .queued k hq
    | handled x hx hxr => exact .handled x hx hxr
    | inFlight tr' ht he => exact .inFlight tr' (List.mem_of_mem_eraseIdx ht) he
    | callback c hc he =>
      cases hc
      exact .inFlight tr (List.mem_of_getElem? hi) he
  | clear c hcb hcl =>
    cases ho with
    | queued k hq => exact .queued k hq
    | handled x hx hxr => exact .handled x hx hxr
    | inFlight tr ht he => exact .inFlight tr ht he
    | callback c' hc he =>
      cases hc
      exact .callback c hcb he
  | _ =>
    cases ho with
    | queued k hq => exact .queued k hq
    | handled x hx hxr => exact .handled x hx hxr
    | inFlight tr ht he => exact .inFlight tr ht he
    | callback c' hc he => cases hc

/-- Nothing becomes outstanding but by being posted. -/
theorem step_outstanding {s t : Server} {a : Action} {ev : Submit} (h : step s a = some t)
    (ho : t.Outstanding ev) :
    s.Outstanding ev ∨ a = .tcp (.post true) ∧ s.tcp.pc = .postSubmit ∧ ev = submitEvent s := by
  cases a with
  | tcp a =>
    rcases (tcpStep_effect h).2.outstanding ho with hev | ⟨rfl, hpost⟩
    · exact .inl hev
    · exact .inr ⟨rfl, hpost⟩
  | loop1 a => exact .inl ((loop1Step_effect h).2.outstanding ho)
  | loop2 a => exact .inl ((loop2Step_effect h).2.outstanding ho)
  | host a => exact .inl ((hostStep_effect h).2.outstanding ho)
  | driver a =>
    obtain ⟨-, -, d, e, -, rfl⟩ := driverStep_effect h
    left
    cases e <;> exact ho.of_same ⟨rfl, rfl⟩ rfl rfl

end UsbRepeater
