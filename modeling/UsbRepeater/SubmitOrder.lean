import UsbRepeater.Lib.Fifo
import UsbRepeater.Lib.Watch
import UsbRepeater.Replies

/-! The order of SUBMITs. Each loop that `loop_handle2` names delivers its own events, one at a
time; so each is a line of its own, and the host library is handed the transfers of a loop in the
order their events were posted, whatever the other tasks do. -/
namespace UsbRepeater

open Schedule Fifo

/-- What has gone through the loops, each with its loop: the events posted, the transfers that
the host library took, and the events dropped. -/
structure Traffic where
  posted : List (ℕ × Submit) := []
  handed : List (ℕ × UsbTransfer) := []
  dropped : List (ℕ × Submit) := []

def Server.drops (s : Server) : Loop2Action → Option (ℕ × Submit)
  | .malloc j none | .alloc j none | .submit j false =>
      s.loop2.handlers[j]?.bind fun x => x.2.request.map (Prod.mk x.1)
  | .check j =>
      match s.loop2.handlers[j]? with
      | some (l, .allocated t) =>
          if t.ev.header.ep ≠ 0 ∧ s.pending t.ev.header.ep then some (l, t.ev) else none
      | _ => none
  | _ => none

def Server.hands (s : Server) : Loop2Action → Option (ℕ × UsbTransfer)
  | .submit j true =>
      match s.loop2.handlers[j]? with
      | some (l, .built t) => some (l, t)
      | _ => none
  | _ => none

def noteTraffic (s : Server) (a : Action) (m : Traffic) : Traffic :=
  match a with
  | .tcp (.post true) =>
      if s.tcp.pc = .postSubmit then
        { m with posted := m.posted ++ [(s.loop2.count, submitEvent s)] }
      else m
  | .loop2 a =>
      { m with
        handed := m.handed ++ (s.hands a).toList
        dropped := m.dropped ++ (s.drops a).toList }
  | _ => m

def workItem (x : ℕ × Handler2) : Option (ℕ × Submit) := x.2.request.map (Prod.mk x.1)

def Server.working (s : Server) : List (ℕ × Submit) := s.loop2.handlers.filterMap workItem

def Server.line (s : Server) (m : Traffic) (l : ℕ) : Line (ℕ × Submit) where
  arrived := lane Prod.fst l m.posted
  waiting := lane Prod.fst l s.loop2.queue
  working := lane Prod.fst l s.working
  served := lane Prod.fst l (m.handed.map fun x => (x.1, x.2.ev))
  dropped := lane Prod.fst l m.dropped

/-- Every loop runs one handler at a time. -/
def Server.OneEach (s : Server) : Prop :=
  Workers (Prod.fst : ℕ × Submit → ℕ) Prod.fst workItem s.loop2.handlers

theorem workItem_own (x : ℕ × Handler2) (i : ℕ × Submit) (h : workItem x = some i) :
    i.1 = x.1 := by
  obtain ⟨ev, -, rfl⟩ := Option.map_eq_some_iff.1 h
  rfl

theorem workItem_of_request {l : ℕ} {h : Handler2} {ev : Submit} (hr : h.request = some ev) :
    workItem (l, h) = some (l, ev) := by
  rw [workItem, hr]
  rfl

theorem line_congr {s t : Server} (hq : t.loop2.queue = s.loop2.queue)
    (hw : t.working = s.working) (m : Traffic) (l : ℕ) : t.line m l = s.line m l := by
  rw [Server.line, hq, hw]
  rfl

theorem working_congr {s t : Server} (h : t.loop2.handlers = s.loop2.handlers) :
    t.working = s.working := by
  rw [Server.working, h]
  rfl

theorem working_setHandler2 {s : Server} {j l : ℕ} {h h' : Handler2}
    (hj : s.loop2.handlers[j]? = some (l, h)) (hr : h'.request = h.request) :
    (s.setHandler2 j h').working = s.working :=
  filterMap_modify hj (by simp only [workItem, hr])

theorem working_released {s : Server} {j l : ℕ} {h h' : Handler2}
    (hj : s.loop2.handlers[j]? = some (l, h)) (hr : h'.request = none) :
    (s.setHandler2 j h').working = (s.endHandler2 j).working :=
  filterMap_modify_none hj (by simp only [workItem, hr, Option.map_none])

theorem working_ended {s : Server} {j l : ℕ} {h : Handler2}
    (hj : s.loop2.handlers[j]? = some (l, h)) (hr : h.request = none) :
    (s.endHandler2 j).working = s.working :=
  filterMap_eraseIdx_none hj (by simp only [workItem, hr, Option.map_none])

theorem dispatch_guard {s t : Server} {i : ℕ}
    (h : usbIpEventHandler2 s (.dispatch i) = some t) :
    ∃ l ev, s.loop2.queue[i]? = some (l, ev) ∧ (∀ x ∈ s.loop2.queue.take i, x.1 ≠ l) ∧
      (∀ x ∈ s.loop2.handlers, x.1 ≠ l) ∧ t = { s with
        loop2 := { s.loop2 with
          queue := s.loop2.queue.eraseIdx i
          handlers := s.loop2.handlers ++ [(l, .entry ev)] } } := by
  simp only [usbIpEventHandler2] at h
  split at h
  · cases h
  · rename_i l ev hi
    simp only [Option.ite_none_right_eq_some, Option.some.injEq, List.all_eq_true,
      decide_eq_true_eq] at h
    exact ⟨l, ev, hi, h.1.1, h.1.2, h.2.symm⟩

section Leaving

variable {s t : Server} {j k l : ℕ} {h : Handler2} {ev : Submit} {m : Traffic}

structure Server.Released (s t : Server) (k : ℕ) (ev : Submit) : Prop where
  queue : t.loop2.queue = s.loop2.queue
  before : lane Prod.fst k s.working = [(k, ev)]
  after : lane Prod.fst k t.working = []
  others : ∀ l, k ≠ l → lane Prod.fst l t.working = lane Prod.fst l s.working

theorem Server.OneEach.released (hs : s.OneEach) (hj : s.loop2.handlers[j]? = some (k, h))
    (hr : h.request = some ev) (hq : t.loop2.queue = s.loop2.queue)
    (hw : t.working = (s.endHandler2 j).working) : s.Released t k ev where
  queue := hq
  before := hs.lane_self hj (workItem_of_request hr)
  after := by
    rw [hw]
    exact hs.lane_eraseIdx_self hj
  others l hk := by
    rw [hw]
    exact hs.lane_eraseIdx_of_ne hj hk

theorem Server.Released.serve (hrel : s.Released t k ev) (m : Traffic) (l : ℕ) {tr : UsbTransfer}
    (htr : tr.ev = ev) :
    (s.line m l).Step (t.line { m with handed := m.handed ++ [(k, tr)] } l) := by
  by_cases hk : k = l
  · subst hk
    have hline : t.line { m with handed := m.handed ++ [(k, tr)] } k =
        { s.line m k with working := [], served := (s.line m k).served ++ [(k, ev)] } := by
      simp only [Server.line, hrel.queue, hrel.after, List.map_append, List.map_singleton,
        lane_append, htr, lane_tagged]
    rw [hline]
    exact .serve (k, ev) hrel.before
  · have hline : t.line { m with handed := m.handed ++ [(k, tr)] } l = s.line m l := by
      simp only [Server.line, hrel.queue, hrel.others l hk, List.map_append, List.map_singleton,
        lane_append, lane_tagged_of_ne hk, List.append_nil]
    rw [hline]
    exact .stay

theorem Server.Released.drop (hrel : s.Released t k ev) (m : Traffic) (l : ℕ) :
    (s.line m l).Step (t.line { m with dropped := m.dropped ++ [(k, ev)] } l) := by
  by_cases hk : k = l
  · subst hk
    have hline : t.line { m with dropped := m.dropped ++ [(k, ev)] } k =
        { s.line m k with working := [], dropped := (s.line m k).dropped ++ [(k, ev)] } := by
      simp only [Server.line, hrel.queue, hrel.after, lane_append, lane_tagged]
    rw [hline]
    exact .drop (k, ev) hrel.before
  · have hline : t.line { m with dropped := m.dropped ++ [(k, ev)] } l = s.line m l := by
      simp only [Server.line, hrel.queue, hrel.others l hk, lane_append, lane_tagged_of_ne hk,
        List.append_nil]
    rw [hline]
    exact .stay

end Leaving

theorem line_dispatch {s t : Server} {i : ℕ} (h : usbIpEventHandler2 s (.dispatch i) = some t)
    (m : Traffic) (l : ℕ) : (s.line m l).Step (t.line m l) := by
  obtain ⟨k, ev, hi, hfirst, hidle, rfl⟩ := dispatch_guard h
  have hworking : Server.working { s with
      loop2 := { s.loop2 with
        queue := s.loop2.queue.eraseIdx i
        handlers := s.loop2.handlers ++ [(k, .entry ev)] } } = s.working ++ [(k, ev)] :=
    List.filterMap_append
  by_cases hk : k = l
  · subst hk
    have hnone : lane Prod.fst k s.working = [] := by
      refine lane_eq_nil fun x hx => ?_
      obtain ⟨w, hw, hitem⟩ := List.mem_filterMap.1 hx
      rw [workItem_own w x hitem]
      exact hidle w hw
    have hfront : (s.line m k).waiting = (k, ev) :: lane Prod.fst k (s.loop2.queue.eraseIdx i) :=
      lane_eraseIdx_self hi hfirst
    refine cast ?_ (Line.Step.take (l := s.line m k) (k, ev) _ hnone hfront)
    simp only [Server.line, hworking, lane_append, hnone, List.nil_append, lane_tagged]
  · have hline : Server.line { s with
        loop2 := { s.loop2 with
          queue := s.loop2.queue.eraseIdx i
          handlers := s.loop2.handlers ++ [(k, .entry ev)] } } m l = s.line m l := by
      have hqueue : lane Prod.fst l (s.loop2.queue.eraseIdx i) = lane Prod.fst l s.loop2.queue :=
        lane_eraseIdx_of_ne hi hk
      simp only [Server.line, hworking, lane_append, lane_tagged_of_ne hk, List.append_nil, hqueue]
    rw [hline]
    exact .stay

theorem line_post {s t : Server} (hq : t.loop2.queue =
      s.loop2.queue ++ [(s.loop2.count, submitEvent s)]) (hw : t.working = s.working)
    (m : Traffic) (l : ℕ) : (s.line m l).Step
      (t.line { m with posted := m.posted ++ [(s.loop2.count, submitEvent s)] } l) := by
  by_cases hk : s.loop2.count = l
  · subst hk
    have hline : t.line { m with posted := m.posted ++ [(s.loop2.count, submitEvent s)] }
        s.loop2.count = { s.line m s.loop2.count with
          arrived := (s.line m s.loop2.count).arrived ++ [(s.loop2.count, submitEvent s)]
          waiting := (s.line m s.loop2.count).waiting ++ [(s.loop2.count, submitEvent s)] } := by
      simp only [Server.line, hq, hw, lane_append, lane_tagged]
    rw [hline]
    exact .arrive (s.loop2.count, submitEvent s)
  · have hline : t.line { m with posted := m.posted ++ [(s.loop2.count, submitEvent s)] } l =
        s.line m l := by
      simp only [Server.line, hq, hw, lane_append, lane_tagged_of_ne hk, List.append_nil]
    rw [hline]
    exact .stay

section Notes

variable {s : Server} {a : Loop2Action} {m : Traffic} {l : ℕ}

theorem noteTraffic_quiet (hh : s.hands a = none) (hd : s.drops a = none) :
    noteTraffic s (.loop2 a) m = m := by
  simp only [noteTraffic, hh, hd, Option.toList_none, List.append_nil]

theorem noteTraffic_hands {tr : UsbTransfer} (hh : s.hands a = some (l, tr))
    (hd : s.drops a = none) :
    noteTraffic s (.loop2 a) m = { m with handed := m.handed ++ [(l, tr)] } := by
  simp only [noteTraffic, hh, hd, Option.toList_none, Option.toList_some, List.append_nil]

theorem noteTraffic_drops {ev : Submit} (hh : s.hands a = none) (hd : s.drops a = some (l, ev)) :
    noteTraffic s (.loop2 a) m = { m with dropped := m.dropped ++ [(l, ev)] } := by
  simp only [noteTraffic, hh, hd, Option.toList_none, Option.toList_some, List.append_nil]

/-- The handlers whose next failure, or refusal, drops their event. -/
theorem drops_eq_some {j : ℕ} {h : Handler2} {ev : Submit}
    (hj : s.loop2.handlers[j]? = some (l, h)) (hr : h.request = some ev)
    (ha : a = .malloc j none ∨ a = .alloc j none ∨ a = .submit j false) :
    s.drops a = some (l, ev) := by
  rcases ha with rfl | rfl | rfl <;> simp only [Server.drops, hj, Option.bind_some, hr,
    Option.map_some]

end Notes

/-- A step of a loop is a step of each line. -/
theorem usbIpEventHandler2_line {s t : Server} {a : Loop2Action} (hs : s.OneEach)
    (h : usbIpEventHandler2 s a = some t) (m : Traffic) (l : ℕ) :
    (s.line m l).Step (t.line (noteTraffic s (.loop2 a) m) l) := by
  have hstay : ∀ {u : Server}, u.loop2.queue = s.loop2.queue → u.working = s.working →
      s.hands a = none → s.drops a = none →
      (s.line m l).Step (u.line (noteTraffic s (.loop2 a) m) l) := by
    intro u hq hw hh hd
    rw [noteTraffic_quiet hh hd, line_congr hq hw]
    exact .stay
  have hdrop : ∀ {u : Server} {j k : ℕ} {x : Handler2} {ev : Submit},
      s.loop2.handlers[j]? = some (k, x) → x.request = some ev →
      u.loop2.queue = s.loop2.queue → u.working = (s.endHandler2 j).working →
      s.hands a = none → s.drops a = some (k, ev) →
      (s.line m l).Step (u.line (noteTraffic s (.loop2 a) m) l) := by
    intro u j k x ev hj hr hq hw hh hd
    rw [noteTraffic_drops hh hd]
    exact (hs.released hj hr hq hw).drop m l
  have hserve : ∀ {u : Server} {j k : ℕ} {tr : UsbTransfer},
      s.loop2.handlers[j]? = some (k, .built tr) → u.loop2.queue = s.loop2.queue →
      u.working = (s.endHandler2 j).working → a = .submit j true →
      (s.line m l).Step (u.line (noteTraffic s (.loop2 a) m) l) := by
    intro u j k tr hj hq hw ha
    have hhands : s.hands a = some (k, tr) := by simp only [ha, Server.hands, hj]
    rw [noteTraffic_hands hhands (by rw [ha]; rfl)]
    exact (hs.released hj rfl hq hw).serve m l rfl
  cases usbIpEventHandler2_effect h with
  | dispatch i k ev hi =>
    rw [noteTraffic_quiet rfl rfl]
    exact line_dispatch h m l
  | noReply j k ev hj => exact hdrop hj rfl rfl rfl rfl (drops_eq_some hj rfl (.inl rfl))
  | fill j k ev heap hj => exact hstay rfl (working_setHandler2 hj rfl) rfl rfl
  | setSkt j k ev ret hj => exact hstay rfl (working_setHandler2 hj rfl) rfl rfl
  | noTransfer j k ev ret hj =>
    exact hdrop hj rfl rfl rfl rfl (drops_eq_some hj rfl (.inr (.inl rfl)))
  | alloc j k ev ret heap hj => exact hstay rfl (working_setHandler2 hj rfl) rfl rfl
  | control j k tr hj hep =>
    refine hstay rfl (working_setHandler2 hj rfl) rfl ?_
    simp only [Server.drops, hj]
    exact if_neg fun hdrop => hdrop.1 hep
  | pending j k tr hj hep hp =>
    have hdrops : s.drops (.check j) = some (k, tr.ev) := by
      simp only [Server.drops, hj]
      exact if_pos ⟨hep, hp⟩
    exact hdrop hj rfl rfl rfl rfl hdrops
  | checked j k tr hj hep hp =>
    refine hstay rfl (working_setHandler2 hj rfl) rfl ?_
    simp only [Server.drops, hj]
    exact if_neg fun hdrop => absurd hdrop.2 (by simp [hp])
  | build j k tr beyond hj =>
    refine hstay rfl (working_setHandler2 hj ?_) rfl rfl
    simp only [Handler2.request, buildBulk_ev]
  | rejected j k tr hj => exact hdrop hj rfl rfl rfl rfl (drops_eq_some hj rfl (.inr (.inr rfl)))
  | submitControl j k tr hj hc => exact hserve hj rfl rfl rfl
  | submitBulk j k tr hj hc => exact hserve hj rfl (working_released hj rfl) rfl
  | setPending j k ep hj => exact hstay rfl (working_ended hj rfl) rfl rfl

theorem usbIpEventHandler2_oneEach {s t : Server} {a : Loop2Action} (hs : s.OneEach)
    (h : usbIpEventHandler2 s a = some t) : t.OneEach := by
  have hset : ∀ (j : ℕ) (x : Handler2), (s.setHandler2 j x).OneEach :=
    fun j x => Workers.modify hs j fun _ => rfl
  have hend : ∀ j : ℕ, (s.endHandler2 j).OneEach := fun j => Workers.eraseIdx hs j
  cases usbIpEventHandler2_effect h with
  | dispatch i l ev hi =>
    obtain ⟨k, ev', hi', -, hidle, -⟩ := dispatch_guard h
    obtain ⟨rfl, rfl⟩ := Prod.mk.inj (Option.some.inj (hi.symm.trans hi'))
    exact Workers.append hs hidle
  | noReply j l ev hj | noTransfer j l ev ret hj | pending j l tr hj hep hp | rejected j l tr hj
  | setPending j l ep hj | submitControl j l tr hj hc => exact hend j
  | fill j l ev heap hj | setSkt j l ev ret hj | alloc j l ev ret heap hj | control j l tr hj hep
  | checked j l tr hj hep hp | build j l tr beyond hj | submitBulk j l tr hj hc => exact hset j _

theorem usbIpEventHandler2_dropped {s t : Server} {a : Loop2Action}
    (h : usbIpEventHandler2 s a = some t) :
    t.history.dropped.map Prod.fst =
      s.history.dropped.map Prod.fst ++ (s.drops a).toList.map Prod.snd := by
  have hdrop : ∀ {ev : Submit} {l : ℕ} (reason : DropReason), s.drops a = some (l, ev) →
      (s.history.dropped ++ [(ev, reason)]).map Prod.fst =
        s.history.dropped.map Prod.fst ++ (s.drops a).toList.map Prod.snd := by
    intro ev l reason hd
    rw [hd, List.map_append]
    rfl
  have hkeep : s.drops a = none → s.history.dropped.map Prod.fst =
      s.history.dropped.map Prod.fst ++ (s.drops a).toList.map Prod.snd := by
    intro hd
    rw [hd]
    exact (List.append_nil _).symm
  cases usbIpEventHandler2_effect h with
  | noReply j l ev hj => exact hdrop _ (drops_eq_some hj rfl (.inl rfl))
  | noTransfer j l ev ret hj => exact hdrop _ (drops_eq_some hj rfl (.inr (.inl rfl)))
  | rejected j l tr hj => exact hdrop _ (drops_eq_some hj rfl (.inr (.inr rfl)))
  | pending j l tr hj hep hp =>
    have hdrops : s.drops (.check j) = some (l, tr.ev) := by
      simp only [Server.drops, hj]
      exact if_pos ⟨hep, hp⟩
    exact hdrop _ hdrops
  | control j l tr hj hep =>
    refine hkeep ?_
    simp only [Server.drops, hj]
    exact if_neg fun hdrop => hdrop.1 hep
  | checked j l tr hj hep hp =>
    refine hkeep ?_
    simp only [Server.drops, hj]
    exact if_neg fun hdrop => absurd hdrop.2 (by simp [hp])
  | _ => exact hkeep rfl

structure Server.Tracked (s : Server) (m : Traffic) : Prop where
  oneEach : s.OneEach
  posted : m.posted.map Prod.snd = s.history.posted
  dropped : m.dropped.map Prod.snd = s.history.dropped.map Prod.fst
  ordered : ∀ l, (s.line m l).Ordered

theorem Server.Tracked.of_same {s t : Server} {m : Traffic} (hs : s.Tracked m)
    (hq : t.loop2.queue = s.loop2.queue) (hh : t.loop2.handlers = s.loop2.handlers)
    (hp : t.history.posted = s.history.posted) (hd : t.history.dropped = s.history.dropped) :
    t.Tracked m where
  oneEach := by
    have hone := hs.oneEach
    rwa [Server.OneEach, ← hh] at hone
  posted := hs.posted.trans hp.symm
  dropped := by rw [hs.dropped, hd]
  ordered l := by
    rw [line_congr hq (working_congr hh)]
    exact hs.ordered l

theorem Server.Tracked.post {s t : Server} {m : Traffic} (hs : s.Tracked m)
    (hq : t.loop2.queue = s.loop2.queue ++ [(s.loop2.count, submitEvent s)])
    (hh : t.loop2.handlers = s.loop2.handlers)
    (hp : t.history.posted = s.history.posted ++ [submitEvent s])
    (hd : t.history.dropped = s.history.dropped) :
    t.Tracked { m with posted := m.posted ++ [(s.loop2.count, submitEvent s)] } where
  oneEach := by
    have hone := hs.oneEach
    rwa [Server.OneEach, ← hh] at hone
  posted := by
    rw [List.map_append, hs.posted, hp]
    rfl
  dropped := by rw [hs.dropped, hd]
  ordered l := (line_post hq (working_congr hh) m l).ordered (hs.ordered l)

theorem TcpStep.tracked {s t : Server} {a : TcpAction} {m : Traffic} (h : TcpStep s a t)
    (hs : s.Tracked m) : t.Tracked (noteTraffic s (.tcp a) m) := by
  cases h with
  | postSubmit hpc hloop =>
    have hnote : noteTraffic s (.tcp (.post true)) m =
        { m with posted := m.posted ++ [(s.loop2.count, submitEvent s)] } := if_pos hpc
    rw [hnote]
    exact hs.post rfl rfl rfl rfl
  | postCommand hpc =>
    have hnote : noteTraffic s (.tcp (.post true)) m = m :=
      if_neg fun hpost => by rw [hpc] at hpost; cases hpost
    rw [hnote]
    exact hs.of_same rfl rfl rfl rfl
  | _ => exact hs.of_same rfl rfl rfl rfl

theorem step_tracked {s t : Server} {a : Action} {m : Traffic} (hs : s.Tracked m)
    (h : step s a = some t) : t.Tracked (noteTraffic s a m) := by
  cases a with
  | tcp a => exact (tcpStep h).2.tracked hs
  | loop1 a =>
    obtain ⟨-, heff⟩ := loop1Step_effect h
    cases heff <;> exact hs.of_same rfl rfl rfl rfl
  | loop2 a =>
    simp only [step] at h
    split_ifs at h
    refine ⟨usbIpEventHandler2_oneEach hs.oneEach h, ?_, ?_, fun l =>
      (usbIpEventHandler2_line hs.oneEach h m l).ordered (hs.ordered l)⟩
    · have hposted : t.history.posted = s.history.posted := by
        cases usbIpEventHandler2_effect h <;> rfl
      exact hs.posted.trans hposted.symm
    · rw [usbIpEventHandler2_dropped h, ← hs.dropped, ← List.map_append]
      rfl
  | host a =>
    obtain ⟨-, heff⟩ := hostStep_effect h
    cases heff <;> exact hs.of_same rfl rfl rfl rfl
  | driver a =>
    obtain ⟨-, -, d, e, -, rfl⟩ := driverStep_effect h
    cases e <;> exact hs.of_same rfl rfl rfl rfl

/-- The events of one loop that were not dropped, from the host library back to the queue. -/
theorem Server.Tracked.handed_eq {s : Server} {m : Traffic} (hs : s.Tracked m)
    (hacc : s.Accounted) (l : ℕ) :
    lane Prod.fst l (m.handed.map fun x => (x.1, x.2.ev)) ++
        (lane Prod.fst l s.working ++ lane Prod.fst l s.loop2.queue) =
      (lane Prod.fst l m.posted).filter fun x => x ∉ m.dropped := by
  have hnodup : m.posted.Nodup := by
    have hposted := hacc.posted_nodup
    rw [← hs.posted] at hposted
    exact hposted.of_map _
  have hkept := (hs.ordered l).kept_eq (hnodup.sublist (lane_sublist l m.posted))
  refine hkept.trans (List.filter_congr fun x hx => ?_)
  -- an event of this loop is among those dropped when it is among those this loop dropped
  have hl : x.1 = l := of_decide_eq_true (List.mem_filter.1 hx).2
  have hmem : x ∈ lane Prod.fst l m.dropped ↔ x ∈ m.dropped := by
    rw [lane, List.mem_filter]
    simp [hl]
  exact decide_eq_decide.2 (not_congr hmem)

section Boot

variable {lib : HostLib} {devRecv header cmdSubmit transferBuffer cmdUnlink : Bytes}

theorem boot_tracked :
    (Server.boot lib devRecv header cmdSubmit transferBuffer cmdUnlink).Tracked {} where
  oneEach := ⟨workItem_own, List.nodup_nil⟩
  posted := rfl
  dropped := rfl
  ordered _ := ⟨List.Sublist.refl [], List.Perm.refl []⟩

end Boot

end UsbRepeater
