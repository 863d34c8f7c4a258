import UsbRepeater.Lib.Fifo
import UsbRepeater.Lib.Watch
import UsbRepeater.ImportContract
import UsbRepeater.DeviceBusy
import UsbRepeater.Client

/-! The order of the answers to commands. `_usb_ip_event_handler_1` serves one command at a time;
what it sends answers distinct commands, each by a reply of its kind, in the order of the
commands, and what it does not answer it has given up. -/
namespace UsbRepeater

open Schedule Fifo

/-- The command an active handler has neither answered nor given up. -/
def Handler1.unanswered (h : Handler1) : Option TcpData := if h.replied then none else h.event

structure Answers where
  answered : List (TcpData × Message) := []
  failed : List TcpData := []

def Message.toCommand : Message → Bool
  | .repDevlist | .repImport _ => true
  | .retSubmit _ _ | .retUnlink _ _ _ => false

def Server.answers (s : Server) : Loop1Action → Option (TcpData × Message)
  | .devlist stack r =>
      match s.loop1.handler with
      | .devlist ev =>
          if (devlistReply s.lib s.driver stack).isSome ∧ r ≠ .failed then some (ev, .repDevlist)
          else none
      | _ => none
  | .send r =>
      match s.loop1.handler with
      | .importSend ev _ rep => if r ≠ .failed then some (ev, .repImport rep) else none
      | _ => none
  | _ => none

def Server.givesUp (s : Server) : Loop1Action → Option TcpData
  | .dispatch => s.loop1.queue.head?.filter fun ev => deliver1 ev = .idle
  | .devlist stack r =>
      match s.loop1.handler with
      | .devlist ev =>
          if (devlistReply s.lib s.driver stack).isSome ∧ r = .failed then some ev else none
      | _ => none
  | .recv r =>
      match s.loop1.handler with
      | .importRecv ev _ => if r ≠ .data (opReqImportSize - ev.len) then some ev else none
      | _ => none
  | .send r =>
      match s.loop1.handler with
      | .importSend ev _ _ => if r = .failed then some ev else none
      | _ => none
  | _ => none

def noteAnswers (s : Server) (a : Action) (m : Answers) : Answers :=
  match a with
  | .loop1 a => ⟨m.answered ++ (s.answers a).toList, m.failed ++ (s.givesUp a).toList⟩
  | _ => m

def Server.commandLine (s : Server) (m : Answers) : Line TcpData where
  arrived := s.history.commands
  waiting := s.loop1.queue
  working := s.loop1.handler.unanswered.toList
  served := m.answered.map Prod.fst
  dropped := m.failed

def Message.Answers (m : Message) (ev : TcpData) : Prop :=
  m = .repDevlist ∧ ev.eventId = opReqDevlist ∨ (∃ rep, m = .repImport rep) ∧
    ev.eventId = opReqImport

def Handler1.Fits : Handler1 → Prop
  | .idle => True
  | .devlist ev => ev.eventId = opReqDevlist
  | .importCopy ev | .importRecv ev _ | .importBuild ev _ | .importSend ev _ _
  | .importBusy ev _ _ => ev.eventId = opReqImport

theorem deliver1_fits (ev : TcpData) : (deliver1 ev).Fits := by
  unfold deliver1
  split_ifs with hdevlist himport
  · exact hdevlist
  · exact himport
  · trivial

theorem deliver1_unanswered (ev : TcpData) :
    (deliver1 ev).unanswered = if deliver1 ev = .idle then none else some ev := by
  unfold deliver1
  split_ifs <;> first | rfl | contradiction

section Effects

variable {s t : Server} {a : Loop1Action} {m : Answers}

theorem noteAnswers_quiet (ha : s.answers a = none) (hg : s.givesUp a = none) :
    noteAnswers s (.loop1 a) m = m := by
  simp only [noteAnswers, ha, hg, Option.toList_none, List.append_nil]

theorem noteAnswers_answers {ev : TcpData} {msg : Message} (ha : s.answers a = some (ev, msg))
    (hg : s.givesUp a = none) :
    noteAnswers s (.loop1 a) m = ⟨m.answered ++ [(ev, msg)], m.failed⟩ := by
  simp only [noteAnswers, ha, hg, Option.toList_none, Option.toList_some, List.append_nil]

theorem noteAnswers_givesUp {ev : TcpData} (ha : s.answers a = none)
    (hg : s.givesUp a = some ev) :
    noteAnswers s (.loop1 a) m = ⟨m.answered, m.failed ++ [ev]⟩ := by
  simp only [noteAnswers, ha, hg, Option.toList_none, Option.toList_some, List.append_nil]

end Effects

structure Server.InLine (s : Server) (m : Answers) : Prop where
  fits : s.loop1.handler.Fits
  ordered : (s.commandLine m).Ordered
  sent : m.answered.map Prod.snd = (s.history.sent.map Sent.message).filter Message.toCommand
  answers : ∀ x ∈ m.answered, x.2.Answers x.1

section Moves

variable {s t : Server} {m : Answers}

theorem Server.InLine.stay (hs : s.InLine m) (hfits : t.loop1.handler.Fits)
    (hu : t.loop1.handler.unanswered = s.loop1.handler.unanswered)
    (hq : t.loop1.queue = s.loop1.queue) (hc : t.history.commands = s.history.commands)
    (hsent : (t.history.sent.map Sent.message).filter Message.toCommand =
      (s.history.sent.map Sent.message).filter Message.toCommand) : t.InLine m where
  fits := hfits
  ordered := by
    have hline : t.commandLine m = s.commandLine m := by
      simp only [Server.commandLine, hu, hq, hc]
    rw [hline]
    exact hs.ordered
  sent := hs.sent.trans hsent.symm
  answers := hs.answers

theorem Server.InLine.post (hs : s.InLine m) {ev : TcpData}
    (hh : t.loop1.handler = s.loop1.handler) (hq : t.loop1.queue = s.loop1.queue ++ [ev])
    (hc : t.history.commands = s.history.commands ++ [ev])
    (hsent : t.history.sent = s.history.sent) : t.InLine m where
  fits := hh ▸ hs.fits
  ordered := by
    have hline : t.commandLine m = { s.commandLine m with
        arrived := (s.commandLine m).arrived ++ [ev]
        waiting := (s.commandLine m).waiting ++ [ev] } := by
      simp only [Server.commandLine, hh, hq, hc]
    rw [hline]
    exact (Line.Step.arrive ev).ordered hs.ordered
  sent := by
    rw [hsent]
    exact hs.sent
  answers := hs.answers

theorem Server.InLine.answer (hs : s.InLine m) {ev : TcpData} {x : Sent}
    (hu : s.loop1.handler.unanswered = some ev) (hfits : t.loop1.handler.Fits)
    (hdone : t.loop1.handler.unanswered = none) (hq : t.loop1.queue = s.loop1.queue)
    (hc : t.history.commands = s.history.commands)
    (hsent : t.history.sent = s.history.sent ++ [x]) (hanswers : x.message.Answers ev) :
    t.InLine ⟨m.answered ++ [(ev, x.message)], m.failed⟩ where
  fits := hfits
  ordered := by
    have hworking : (s.commandLine m).working = [ev] := by
      simp only [Server.commandLine, hu, Option.toList_some]
    have hline : t.commandLine ⟨m.answered ++ [(ev, x.message)], m.failed⟩ =
        { s.commandLine m with
          working := [], served := (s.commandLine m).served ++ [ev] } := by
      simp only [Server.commandLine, hdone, hq, hc, Option.toList_none, List.map_append,
        List.map_singleton]
    rw [hline]
    exact (Line.Step.serve ev hworking).ordered hs.ordered
  sent := by
    have hto : x.message.toCommand = true := by
      rcases hanswers with ⟨h, -⟩ | ⟨⟨rep, h⟩, -⟩ <;> rw [h] <;> rfl
    rw [hsent, List.map_append, List.map_append, List.filter_append, hs.sent]
    simp [hto]
  answers y hy := by
    rcases List.mem_append.1 hy with hy | hy
    · exact hs.answers y hy
    · rw [List.mem_singleton.1 hy]
      exact hanswers

theorem Server.InLine.giveUp (hs : s.InLine m) {ev : TcpData}
    (hu : s.loop1.handler.unanswered = some ev) (hidle : t.loop1.handler = .idle)
    (hq : t.loop1.queue = s.loop1.queue) (hc : t.history.commands = s.history.commands)
    (hsent : t.history.sent = s.history.sent) : t.InLine ⟨m.answered, m.failed ++ [ev]⟩ where
  fits := by
    rw [hidle]
    trivial
  ordered := by
    have hworking : (s.commandLine m).working = [ev] := by
      simp only [Server.commandLine, hu, Option.toList_some]
    have hline : t.commandLine ⟨m.answered, m.failed ++ [ev]⟩ =
        { s.commandLine m with
          working := [], dropped := (s.commandLine m).dropped ++ [ev] } := by
      rw [Server.commandLine, hidle, hq, hc]
      rfl
    rw [hline]
    exact (Line.Step.drop ev hworking).ordered hs.ordered
  sent := by
    rw [hsent]
    exact hs.sent
  answers := hs.answers

end Moves

theorem dispatch_inLine {s : Server} {m : Answers} {ev : TcpData} {queue : List TcpData}
    (hs : s.InLine m) (hh : s.loop1.handler = .idle) (hq : s.loop1.queue = ev :: queue) :
    Server.InLine { s with loop1 := ⟨queue, deliver1 ev⟩ }
      (noteAnswers s (.loop1 .dispatch) m) := by
  have hidle : (s.commandLine m).working = [] := by
    simp only [Server.commandLine, hh]
    rfl
  have htake := (Line.Step.take (l := s.commandLine m) ev queue hidle hq).ordered hs.ordered
  have hunanswered := deliver1_unanswered ev
  by_cases hd : deliver1 ev = .idle
  · have hgives : s.givesUp .dispatch = some ev := by
      simp only [Server.givesUp, hq, List.head?_cons, hd, decide_true, Option.filter_some_pos]
    rw [noteAnswers_givesUp rfl hgives]
    refine ⟨deliver1_fits ev, ?_, hs.sent, hs.answers⟩
    have hdrop := (Line.Step.drop (l := { s.commandLine m with
      waiting := queue, working := [ev] }) ev rfl).ordered htake
    have hline : Server.commandLine { s with loop1 := ⟨queue, deliver1 ev⟩ }
        ⟨m.answered, m.failed ++ [ev]⟩ = { s.commandLine m with
          waiting := queue, working := [], dropped := (s.commandLine m).dropped ++ [ev] } := by
      simp only [Server.commandLine, hd]
      rfl
    rw [hline]
    exact hdrop
  · have hgives : s.givesUp .dispatch = none := by
      simp [Server.givesUp, hq, hd]
    rw [noteAnswers_quiet rfl hgives]
    refine ⟨deliver1_fits ev, ?_, hs.sent, hs.answers⟩
    rw [if_neg hd] at hunanswered
    have hline : Server.commandLine { s with loop1 := ⟨queue, deliver1 ev⟩ } m =
        { s.commandLine m with waiting := queue, working := [ev] } := by
      simp only [Server.commandLine, hunanswered]
      rfl
    rw [hline]
    exact htake

theorem sentMessages_append {s t : Server} {x : Sent} (hx : x.message.toCommand = false)
    (h : t.history.sent = s.history.sent ++ [x]) :
    (t.history.sent.map Sent.message).filter Message.toCommand =
      (s.history.sent.map Sent.message).filter Message.toCommand := by
  rw [h, List.map_append, List.filter_append]
  simp [hx]

theorem sockRecv_of_data {conn conn' : Option Conn} {sock : ℤ} {want n : ℕ} {o : RecvOutcome}
    (h : sockRecv conn sock want (.data n) = some (conn', o)) :
    ∃ bytes, o = .got bytes ∧ bytes.length = n := by
  unfold sockRecv at h
  cases hc : openOn conn sock with
  | none =>
    rw [hc] at h
    cases h
  | some c =>
    rw [hc] at h
    simp only [Option.ite_none_right_eq_some, Option.some.injEq, Prod.mk.injEq] at h
    obtain ⟨hn, -, rfl⟩ := h
    exact ⟨_, rfl, by rw [List.length_take, min_eq_left hn.2.2]⟩

theorem Loop1Step.inLine {s t : Server} {a : Loop1Action} {m : Answers} (h : Loop1Step s a t)
    (hsized : s.EventsSized) (hs : s.InLine m) : t.InLine (noteAnswers s (.loop1 a) m) := by
  have hfits := hs.fits
  cases h with
  | dispatch ev queue hh hq => exact dispatch_inLine hs hh hq
  | devlistCrash ev stack r hh hd =>
    rw [noteAnswers_quiet (by simp [Server.answers, hh, hd]) (by simp [Server.givesUp, hh, hd])]
    exact hs.stay hfits rfl rfl rfl rfl
  | devlistFailed ev stack frame hh hd =>
    have hgives : s.givesUp (.devlist stack .failed) = some ev := by
      simp [Server.givesUp, hh, hd]
    rw [noteAnswers_givesUp (by simp [Server.answers, hh]) hgives]
    exact hs.giveUp (by rw [hh]; rfl) rfl rfl rfl rfl
  | devlistSent ev stack frame r c n hh hd hc hr =>
    have hsent : r ≠ .failed := by
      rcases hr with ⟨rfl, -⟩ | rfl <;> exact nofun
    have hanswers : s.answers (.devlist stack r) = some (ev, .repDevlist) := by
      simp [Server.answers, hh, hd, hsent]
    rw [noteAnswers_answers hanswers (by simp [Server.givesUp, hh, hsent])]
    rw [hh] at hfits
    exact hs.answer (x := ⟨c.id, .repDevlist, frame, n⟩) (by rw [hh]; rfl) trivial rfl rfl rfl rfl
      (.inl ⟨rfl, hfits⟩)
  | copy ev hh =>
    rw [noteAnswers_quiet rfl rfl]
    rw [hh] at hfits
    exact hs.stay hfits (by rw [hh]; rfl) rfl rfl rfl
  | recv ev devImport r conn bytes hh hrecv hlen =>
    have hsize : ev.len = headerCommonSize := hsized.handler ev (by rw [hh]; rfl)
    have hr : r = .data (opReqImportSize - ev.len) := by
      have hne : bytes ≠ [] := by
        rintro rfl
        rw [hsize] at hlen
        cases hlen
      obtain ⟨-, -, -, -, hr, -⟩ := sockRecv_got hrecv hne
      rw [hr, hlen]
    rw [noteAnswers_quiet rfl (by simp [Server.givesUp, hh, hr])]
    rw [hh] at hfits
    exact hs.stay hfits (by rw [hh]; rfl) rfl rfl rfl
  | recvFailed ev devImport r conn o hh hrecv ho =>
    have hr : r ≠ .data (opReqImportSize - ev.len) := by
      rintro rfl
      obtain ⟨bytes, rfl, hlen⟩ := sockRecv_of_data hrecv
      exact ho bytes rfl hlen
    have hgives : s.givesUp (.recv r) = some ev := by simp [Server.givesUp, hh, hr]
    rw [noteAnswers_givesUp rfl hgives]
    exact hs.giveUp (by rw [hh]; rfl) rfl rfl rfl rfl
  | buildCrash ev devImport hh hb =>
    rw [noteAnswers_quiet rfl rfl]
    exact hs.stay hfits rfl rfl rfl rfl
  | build ev devImport rep hh hb =>
    rw [noteAnswers_quiet rfl rfl]
    rw [hh] at hfits
    exact hs.stay hfits (by rw [hh]; rfl) rfl rfl rfl
  | sendFailed ev devImport rep hh =>
    have hgives : s.givesUp (.send .failed) = some ev := by simp [Server.givesUp, hh]
    rw [noteAnswers_givesUp (by simp [Server.answers, hh]) hgives]
    exact hs.giveUp (by rw [hh]; rfl) rfl rfl rfl rfl
  | sendShort ev devImport rep c n hh hc =>
    have hanswers : s.answers (.send (.short n)) = some (ev, .repImport rep) := by
      simp [Server.answers, hh]
    rw [noteAnswers_answers hanswers (by simp [Server.givesUp, hh])]
    rw [hh] at hfits
    exact hs.answer (x := ⟨c.id, .repImport rep, rep.toBytes, n⟩) (by rw [hh]; rfl) trivial rfl rfl
      rfl rfl (.inr ⟨⟨rep, rfl⟩, hfits⟩)
  | send ev devImport rep c hh hc hnum =>
    have hanswers : s.answers (.send .full) = some (ev, .repImport rep) := by
      simp [Server.answers, hh]
    rw [noteAnswers_answers hanswers (by simp [Server.givesUp, hh])]
    rw [hh] at hfits
    exact hs.answer (x := ⟨c.id, .repImport rep, rep.toBytes, rep.toBytes.length⟩) (by rw [hh]; rfl)
      hfits rfl rfl rfl rfl (.inr ⟨⟨rep, rfl⟩, hfits⟩)
  | busy ev devImport rep hh =>
    rw [noteAnswers_quiet rfl rfl]
    exact hs.stay trivial (by rw [hh]; rfl) rfl rfl rfl

theorem step_inLine {s t : Server} {a : Action} {m : Answers} (hsized : s.EventsSized)
    (hs : s.InLine m) (h : step s a = some t) : t.InLine (noteAnswers s a m) := by
  cases a with
  | tcp a =>
    obtain ⟨-, heff⟩ := tcpStep_effect h
    cases heff with
    | postCommand tcp htcp hpc => exact hs.post rfl rfl rfl rfl
    | unlink tcp c r n htcp hpc hc hn hr =>
      exact hs.stay hs.fits rfl rfl rfl (sentMessages_append rfl rfl)
    | _ => exact hs.stay hs.fits rfl rfl rfl rfl
  | loop1 a => exact (loop1Step h).2.inLine hsized hs
  | loop2 a =>
    obtain ⟨-, heff⟩ := loop2Step_effect h
    cases heff <;> exact hs.stay hs.fits rfl rfl rfl rfl
  | host a =>
    obtain ⟨-, heff⟩ := hostStep_effect h
    cases heff with
    | reply c conn heap r n hcb hskt hconn hnum hn hr =>
      exact hs.stay hs.fits rfl rfl rfl (sentMessages_append rfl rfl)
    | _ => exact hs.stay hs.fits rfl rfl rfl rfl
  | driver a =>
    obtain ⟨-, -, d, e, -, rfl⟩ := driverStep_effect h
    cases e <;> exact hs.stay hs.fits rfl rfl rfl rfl

section Boot

variable {lib : HostLib} {devRecv header cmdSubmit transferBuffer cmdUnlink : Bytes}

/-- In every run the commands answered so far, the one at work and those that wait are the
commands posted, in this order, without those given up; and the device-list and import replies
sent are the answers, one for each and of its kind, in the same order. -/
theorem answered_in_order {as : List Action} {t : Server} {m : Answers}
    (h : exec (watch step noteAnswers)
      (.boot lib devRecv header cmdSubmit transferBuffer cmdUnlink, {}) as = some (t, m)) :
    (m.answered.map Prod.fst ++
        (t.loop1.handler.unanswered.toList ++ t.loop1.queue)).Sublist t.history.commands ∧
      (m.answered.map Prod.fst ++
        (t.loop1.handler.unanswered.toList ++ t.loop1.queue) ++ m.failed).Perm
          t.history.commands ∧
      m.answered.map Prod.snd = (t.history.sent.map Sent.message).filter Message.toCommand ∧
      ∀ x ∈ m.answered, x.2.Answers x.1 := by
  have hstep : ∀ s m a u, Server.EventsSized s ∧ s.InLine m → True → step s a = some u →
      u.EventsSized ∧ u.InLine (noteAnswers s a m) :=
    fun s m a u hs _ hu => ⟨step_eventsSized hs.1 hu, step_inLine hs.1 hs.2 hu⟩
  have hboot : (Server.boot lib devRecv header cmdSubmit transferBuffer cmdUnlink).InLine {} :=
    ⟨trivial, ⟨List.Sublist.refl [], List.Perm.refl []⟩, rfl, fun x hx => by cases hx⟩
  have hsized := (Reachable.boot lib devRecv header cmdSubmit transferBuffer cmdUnlink).eventsSized
  obtain ⟨-, hline⟩ := watch_invariant (I := fun s m => Server.EventsSized s ∧ s.InLine m) hstep
    ⟨hsized, hboot⟩ (Always.of_forall (fun _ _ => trivial) _ _) h
  exact ⟨hline.ordered.order, hline.ordered.all, hline.sent, hline.answers⟩

end Boot

def connecting (number : ℕ) (stream : Bytes) : List Action :=
  [.tcp (.accept (some number) stream), .tcp .run]

def commanding : List Action :=
  [.tcp .run, .tcp (.recv (.data 8)), .tcp (.post true), .tcp .run]

def answering : List Action :=
  [.dispatch, .devlist [⟨0, 0, 0, 0⟩] .full, .dispatch, .dispatch, .run, .recv (.data 32), .run,
    .send .full].map Action.loop1

def threeCommands : List Action :=
  keyboardEnumeration ++ connecting 3 (requestHeader opReqDevlist 0 ++
    (requestHeader 0x8009 0 ++ (importSession []).importRequest)) ++ commanding ++ commanding ++
    commanding ++ answering

theorem answered_in_order_threeCommands :
    ∃ t m, exec (watch step noteAnswers) (coldBoot, {}) threeCommands = some (t, m) ∧
      m.answered.length = 2 ∧ m.failed.length = 1 ∧
      (m.answered.map Prod.fst ++
        (t.loop1.handler.unanswered.toList ++ t.loop1.queue)).Sublist t.history.commands := by
  have hrun : (exec (watch step noteAnswers) (coldBoot, {}) threeCommands).map (fun x =>
      (x.2.answered.length, x.2.failed.length)) = some (2, 1) := by
    decide +kernel
  obtain ⟨⟨t, m⟩, ht, hcount⟩ := Option.map_eq_some_iff.1 hrun
  simp only [Prod.mk.injEq] at hcount
  exact ⟨t, m, ht, hcount.1, hcount.2, (answered_in_order ht).1⟩

end UsbRepeater
