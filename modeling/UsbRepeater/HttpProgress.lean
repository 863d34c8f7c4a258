import UsbRepeater.Lib.Potential
import UsbRepeater.HttpResponses
import UsbRepeater.HttpRefinement

/-! The web server gets on. Whatever its calls come to and whatever the other tasks do meanwhile, a
request takes at most five steps of the server task, and there is always a next one. What could
stop it is a stream that a failed `log_clear` has taken from under a `log_write`. -/
namespace UsbRepeater

open Schedule

def HttpAction.receives : HttpAction → Bool
  | .receive _ _ => true
  | _ => false

def HttpAction.serves : HttpAction → Bool
  | .logs _ | .clear _ | .store _ | .timeout | .send | .reboot => true
  | .task _ | .receive _ _ => false

/-- The steps that `logs_get_handler` has left at most. -/
def LogsGet.left : LogsGet → ℕ
  | .idle => 0
  | .sizing => 5
  | .sized _ => 4
  | .allocated _ => 3
  | .reading _ => 2
  | .sending _ => 1

def Worker.left (get : LogsGet) : Worker → ℕ
  | .idle => 0
  | .sendRoot => 1
  | .logs => get.left
  | .clearing => 2
  | .sendCleared => 1
  | .restarting _ => 3
  | .sendRestarting => 2
  | .rebooting => 1

def HttpServer.left (s : HttpServer) : ℕ :=
  if s.restarted then 0 else s.worker.left s.log.get

theorem HttpServer.left_of_running {s : HttpServer} (h : s.restarted = false) :
    s.left = s.worker.left s.log.get := by
  rw [HttpServer.left, h]
  rfl

theorem HttpServer.left_le (s : HttpServer) : s.left ≤ s.worker.left s.log.get := by
  rw [HttpServer.left]
  split_ifs
  · exact Nat.zero_le _
  · exact le_rfl

theorem LogStep.get_left {s t : LogServer} {a : GetAction} (h : LogStep s (.get a) t)
    (hbegin : a ≠ .begin) : t.get.left + 1 ≤ s.get.left := by
  cases h with
  | begin hget => exact absurd rfl hbegin
  | size measured hget => rw [hget]; exact le_rfl
  | malloc ok logSize hget =>
    rw [hget]
    dsimp only
    split_ifs <;> simp [LogsGet.left]
  | enter logSize hget =>
    rw [hget]
    dsimp only
    split_ifs <;> simp [LogsGet.left]
  | read r logSize log fill hget hlog => rw [hget]; exact le_rfl
  | send response hget => rw [hget]; exact le_rfl

theorem LogStep.begin_left {s t : LogServer} (h : LogStep s (.get .begin) t) :
    t.get ≠ .idle ∧ t.get.left ≤ 5 := by
  cases h with
  | begin hget =>
    dsimp only
    split_ifs
    · exact ⟨nofun, le_rfl⟩
    · exact ⟨nofun, by simp [LogsGet.left]⟩

theorem LogStep.writes_get {s t : LogServer} {a : LogAction} (h : LogStep s a t)
    (ha : a.writes = true) : t.get = s.get := by
  cases h with
  | refused c hnull | call c hopen | timeout i f hi | write i stored f log hi hlog => rfl
  | _ => cases ha

/-- Each step on a request is one fewer left, and a request received brings five at most. -/
theorem httpStep_left {s t : HttpServer} {a : HttpAction} (h : httpStep s a = some t) :
    t.left + a.serves.toNat ≤ s.left + 5 * a.receives.toNat := by
  obtain ⟨hrunning, hstep⟩ := httpStep_cases h
  rw [s.left_of_running hrunning]
  have hle : t.left + a.serves.toNat ≤ t.worker.left t.log.get + a.serves.toNat :=
    Nat.add_le_add_right t.left_le _
  cases hstep with
  | task b log hb hlog =>
    refine hle.trans ?_
    rw [hlog.writes_get hb]
    exact le_rfl
  | library req stack hworker hreq | root req stack hworker hreq
  | restart req stack hworker hreq hopen | restartUnlogged req stack hworker hreq =>
    refine hle.trans ?_
    simp [hworker, Worker.left, HttpAction.serves, HttpAction.receives]
  | logs req stack log hworker hreq hlog =>
    refine hle.trans ?_
    have hfive : log.get.left ≤ 5 := hlog.begin_left.2
    simpa [hworker, Worker.left, HttpAction.serves, HttpAction.receives] using hfive
  | clear req stack hworker hreq =>
    refine hle.trans ?_
    dsimp only
    split_ifs <;> simp [hworker, Worker.left, HttpAction.serves, HttpAction.receives]
  | get b log hworker hsend hbegin hlog =>
    refine hle.trans ?_
    have hless : log.get.left + 1 ≤ s.log.get.left := hlog.get_left hbegin
    simpa [hworker, Worker.left, HttpAction.serves, HttpAction.receives] using hless
  | answer response hworker hget =>
    refine hle.trans ?_
    simp [hworker, hget, Worker.left, LogsGet.left, HttpServer.serve, HttpAction.serves,
      HttpAction.receives]
  | cleared reopened hworker | store stored f log hworker hlog | timeout f hworker =>
    refine hle.trans ?_
    simp [hworker, Worker.left, HttpAction.serves, HttpAction.receives]
  | sendRoot hworker | sendCleared hworker | sendRestarting hworker =>
    refine hle.trans ?_
    simp [hworker, Worker.left, HttpServer.serve, HttpAction.serves, HttpAction.receives]
  | reboot hworker =>
    simp [hworker, Worker.left, HttpServer.left, HttpAction.serves, HttpAction.receives]

structure HttpServer.Waits (s : HttpServer) (m : HttpNotes) : Prop where
  inOrder : m.requests = s.served.map Prod.fst ++ s.request.toList
  waiting : s.worker.handler = none → s.request = none
  reading : s.worker = .logs → s.log.get ≠ .idle
  restarted : s.restarted = true → s.worker = .rebooting

section Moves

variable {s t : HttpServer} {m : HttpNotes}

theorem HttpServer.Waits.goOn {k : HttpNotes} (hs : s.Waits m) (hserved : t.served = s.served)
    (hrequest : t.request = s.request) (hnotes : k.requests = m.requests)
    (hhandler : t.worker.handler = none → s.worker.handler = none)
    (hreading : t.worker = .logs → t.log.get ≠ .idle) (hrestarted : t.restarted = false) :
    t.Waits k where
  inOrder := by rw [hnotes, hserved, hrequest, hs.inOrder]
  waiting h := hrequest.trans (hs.waiting (hhandler h))
  reading := hreading
  restarted h := absurd h (by rw [hrestarted]; exact Bool.false_ne_true)

theorem HttpServer.Waits.receive (hs : s.Waits m) {req : HttpReq} {stack : Bytes}
    (hworker : s.worker = .idle) (hserved : t.served = s.served) (hrequest : t.request = some req)
    (hhandler : t.worker.handler ≠ none) (hreading : t.worker = .logs → t.log.get ≠ .idle)
    (hrestarted : t.restarted = false) : t.Waits (noteHttp s (.receive req stack) m) where
  inOrder := by
    have hnone : s.request = none := hs.waiting (by rw [hworker]; rfl)
    rw [noteHttp, hserved, hrequest, hs.inOrder, hnone]
    simp
  waiting h := absurd h hhandler
  reading := hreading
  restarted h := absurd h (by rw [hrestarted]; exact Bool.false_ne_true)

theorem HttpServer.Waits.serve (hs : s.Waits m) (resp : HttpResp)
    (hserved : t.served = s.served ++ s.request.toList.map fun req => (req, some resp))
    (hrequest : t.request = none) (hworker : t.worker = .idle ∨ t.worker = .rebooting)
    (hrestarted : t.restarted = false) : t.Waits m where
  inOrder := by
    rw [hs.inOrder, hserved, hrequest]
    cases s.request <;> simp
  waiting _ := hrequest
  reading h := by
    rcases hworker with hworker | hworker <;> rw [hworker] at h <;> cases h
  restarted h := absurd h (by rw [hrestarted]; exact Bool.false_ne_true)

end Moves

theorem noteHttp_requests {a : HttpAction} (ha : a.receives = false) (s : HttpServer)
    (m : HttpNotes) : (noteHttp s a m).requests = m.requests := by
  cases a with
  | receive req stack => cases ha
  | logs b => cases b <;> rfl
  | _ => rfl

theorem LogStep.get_busy {s t : LogServer} {a : GetAction} (h : LogStep s (.get a) t)
    (hsend : a ≠ .send) : t.get ≠ .idle := by
  cases h with
  | begin hget | malloc ok logSize hget | enter logSize hget =>
    dsimp only
    split_ifs <;> simp
  | size measured hget | read r logSize log fill hget hlog => simp
  | send response hget => exact absurd rfl hsend

theorem httpStep_waits {s t : HttpServer} {a : HttpAction} {m : HttpNotes} (hs : s.Waits m)
    (h : httpStep s a = some t) : t.Waits (noteHttp s a m) := by
  obtain ⟨hrunning, hstep⟩ := httpStep_cases h
  cases hstep with
  | task b log hb hlog =>
    refine hs.goOn rfl rfl rfl id (fun hworker => ?_) hrunning
    rw [hlog.writes_get hb]
    exact hs.reading hworker
  | library req stack hworker hreq =>
    have hnone : s.request = none := hs.waiting (by rw [hworker]; rfl)
    refine ⟨?_, fun _ => rfl, fun h => ?_, fun h => ?_⟩
    · rw [noteHttp, hs.inOrder, hnone]
      simp
    · simp [hworker] at h
    · simp [hrunning] at h
  | root req stack hworker hreq =>
    exact hs.receive hworker rfl rfl (by simp [Worker.handler]) (by simp) hrunning
  | logs req stack log hworker hreq hlog =>
    exact hs.receive hworker rfl rfl (by simp [Worker.handler]) (fun _ => hlog.begin_left.1)
      hrunning
  | clear req stack hworker hreq =>
    refine hs.receive hworker rfl rfl ?_ (fun h => ?_) hrunning
    · dsimp only
      split_ifs <;> simp [Worker.handler]
    · dsimp only at h
      split_ifs at h
  | restart req stack hworker hreq hopen | restartUnlogged req stack hworker hreq =>
    exact hs.receive hworker rfl rfl (by simp [Worker.handler]) (by simp) hrunning
  | get b log hworker hsend hbegin hlog =>
    have hnotes : (noteHttp s (.logs b) m).requests = m.requests := noteHttp_requests rfl s m
    exact hs.goOn rfl rfl hnotes id (fun _ => hlog.get_busy hsend) hrunning
  | answer response hworker hget => exact hs.serve _ rfl rfl (.inl rfl) hrunning
  | cleared reopened hworker =>
    exact hs.goOn rfl rfl rfl (by simp [Worker.handler]) (by simp) hrunning
  | store stored f log hworker hlog | timeout f hworker =>
    exact hs.goOn rfl rfl rfl (by simp [Worker.handler]) (by simp) hrunning
  | sendRoot hworker | sendCleared hworker => exact hs.serve _ rfl rfl (.inl rfl) hrunning
  | sendRestarting hworker => exact hs.serve _ rfl rfl (.inr rfl) hrunning
  | reboot hworker =>
    exact ⟨hs.inOrder, hs.waiting, hs.reading, fun _ => hworker⟩

/-- A handler always has a step to take: the mutex is free between two critical sections, and each
call that fails has its branch. -/
theorem HttpServer.Waits.enabled {s : HttpServer} {m : HttpNotes} (hs : s.Waits m)
    (hleft : s.left ≠ 0) :
    ∃ a, a.serves = true ∧ ReopensAlone s a ∧ (httpStep s a).isSome = true := by
  have hrunning : s.restarted = false := by
    by_contra hrestarted
    rw [Bool.not_eq_false] at hrestarted
    exact hleft (by rw [HttpServer.left, if_pos hrestarted])
  rw [HttpServer.left_of_running hrunning] at hleft
  cases hworker : s.worker with
  | idle => exact absurd (by rw [hworker]; rfl) hleft
  | sendRoot | sendCleared | sendRestarting =>
    exact ⟨.send, rfl, trivial, by simp [httpStep, hrunning, hworker]⟩
  | clearing => exact ⟨.clear true, rfl, trivial, by simp [httpStep, hrunning, hworker]⟩
  | restarting f => exact ⟨.timeout, rfl, trivial, by simp [httpStep, hrunning, hworker]⟩
  | rebooting => exact ⟨.reboot, rfl, trivial, by simp [httpStep, hrunning, hworker]⟩
  | logs =>
    cases hget : s.log.get with
    | idle => exact absurd hget (hs.reading hworker)
    | sizing =>
      exact ⟨.logs (.size true), rfl, trivial,
        by simp [httpStep, hrunning, hworker, hget, logsGetStep]⟩
    | sized logSize =>
      exact ⟨.logs (.malloc true), rfl, trivial,
        by simp [httpStep, hrunning, hworker, hget, logsGetStep]⟩
    | allocated logSize =>
      exact ⟨.logs .enter, rfl, trivial, by simp [httpStep, hrunning, hworker, hget, logsGetStep]⟩
    | reading logSize =>
      exact ⟨.logs (.read none), rfl, trivial,
        by simp [httpStep, hrunning, hworker, hget, logsGetStep, logGetBuffer]⟩
    | sending response =>
      exact ⟨.logs .send, rfl, trivial, by simp [httpStep, hrunning, hworker, hget, logsGetStep]⟩

theorem HttpServer.Waits.request_eq_none {s : HttpServer} {m : HttpNotes} (hs : s.Waits m)
    (hleft : s.left = 0) : s.request = none := by
  refine hs.waiting ?_
  cases hrestarted : s.restarted with
  | true =>
    rw [hs.restarted hrestarted]
    rfl
  | false =>
    rw [HttpServer.left_of_running hrestarted] at hleft
    cases hworker : s.worker with
    | idle | rebooting => rfl
    | logs =>
      have hget := hs.reading hworker
      rw [hworker] at hleft
      cases hplace : s.log.get <;> simp_all [Worker.left, LogsGet.left]
    | _ => simp [hworker, Worker.left] at hleft

theorem noteHttp_length (s : HttpServer) (a : HttpAction) (m : HttpNotes) :
    (noteHttp s a m).requests.length = m.requests.length + a.receives.toNat := by
  cases a with
  | receive req stack => simp [noteHttp, HttpAction.receives]
  | logs b => cases b <;> rfl
  | _ => rfl

/-- A run that takes as many steps of the server task as there are left has answered everything. -/
theorem HttpServer.Waits.answered {s t : HttpServer} {m : HttpNotes} {bs : List HttpAction}
    (hs : s.Waits m) (hbs : exec httpStep s bs = some t)
    (hreceives : bs.countP HttpAction.receives = 0)
    (hserves : s.left ≤ bs.countP HttpAction.serves) : t.served.map Prod.fst = m.requests := by
  obtain ⟨k, hk⟩ : ∃ k, exec (watch httpStep noteHttp) (s, m) bs = some (t, k) :=
    exists_watch hbs m
  have hkeep : ∀ s k a t, HttpServer.Waits s k ∧ k.requests = m.requests →
      a.receives = false → httpStep s a = some t →
        HttpServer.Waits t (noteHttp s a k) ∧ (noteHttp s a k).requests = m.requests :=
    fun s k a t hs ha h => ⟨httpStep_waits hs.1 h, (noteHttp_requests ha s k).trans hs.2⟩
  have hnone : Always httpStep (fun _ a => a.receives = false) s bs :=
    .of_forall_mem fun a ha _ => by
      simpa using List.countP_eq_zero.1 hreceives a ha
  obtain ⟨ht, hsame⟩ := watch_invariant (I := fun s k => s.Waits k ∧ k.requests = m.requests)
    hkeep ⟨hs, rfl⟩ hnone hk
  have hpaid : t.left + bs.countP HttpAction.serves ≤
      s.left + 5 * bs.countP HttpAction.receives :=
    exec_potential (I := fun _ => True) (P := fun _ _ => True) (fun _ _ _ _ _ _ => trivial)
      (fun _ _ _ _ _ h => httpStep_left h) trivial (.of_forall (fun _ _ => trivial) _ _) hbs
  have hdone : t.request = none := ht.request_eq_none (by omega)
  have horder := ht.inOrder
  rw [hdone, hsame] at horder
  simpa using horder.symm

/-- While each `log_clear` whose `fopen` fails has no `log_write` beside it, no stream is used that
is not open, and whatever else the calls of the handlers come to: a request is kept until it is
answered; all of them together take the server task at most five steps each; it has one to take
while a request is open; and a request is answered once it has taken `s.left` of them, whatever
the other tasks do. -/
theorem requests_answered {r : InitResults} {file old : Option Bytes} {log : LogState}
    {as : List HttpAction} {s : HttpServer} {m : HttpNotes}
    (hinit : logHandlerInit r (.boot file old) = some log)
    (hrun : exec (watch httpStep noteHttp) (.start log, {}) as = some (s, m))
    (halone : Always httpStep ReopensAlone (.start log) as) :
    s.log.log.Sound ∧ m.requests = s.served.map Prod.fst ++ s.request.toList ∧
      as.countP HttpAction.serves + s.left ≤ 5 * m.requests.length ∧
      (s.request ≠ none →
        ∃ a, a.serves = true ∧ ReopensAlone s a ∧ (httpStep s a).isSome = true) ∧
      ∀ bs t, exec httpStep s bs = some t → Always httpStep ReopensAlone s bs →
        bs.countP HttpAction.receives = 0 → s.left ≤ bs.countP HttpAction.serves →
          t.log.log.Sound ∧ t.served.map Prod.fst = m.requests := by
  have hstep : ∀ s m a t, HttpServer.Waits s m → True → httpStep s a = some t →
      t.Waits (noteHttp s a m) := fun _ _ _ _ hs _ h => httpStep_waits hs h
  have hstart : (HttpServer.start log).Waits {} := ⟨rfl, fun _ => rfl, nofun, nofun⟩
  have hs : s.Waits m := watch_invariant (P := fun _ _ => True) hstep hstart
    (.of_forall (fun _ _ => trivial) _ _) hrun
  have hserver : exec httpStep (.start log) as = some s := exec_of_watch hrun
  refine ⟨http_log_sound hinit hserver halone, hs.inOrder, ?_,
    fun hopen => hs.enabled fun hleft => hopen (hs.request_eq_none hleft), ?_⟩
  · have hpay : ∀ (x : HttpServer × HttpNotes) a y, watch httpStep noteHttp x a = some y →
        y.1.left + a.serves.toNat + 5 * x.2.requests.length ≤
          x.1.left + 5 * y.2.requests.length := by
      intro x a y h
      obtain ⟨ht, hnotes⟩ := watch_eq_some.1 h
      have hleft := httpStep_left ht
      rw [hnotes, noteHttp_length]
      omega
    have hearned := exec_earned (m := fun x : HttpServer × HttpNotes => x.1.left)
      (g := fun x => 5 * x.2.requests.length) hpay hrun
    have hzero : (HttpServer.start log).left = 0 := rfl
    simp only [hzero, List.length_nil] at hearned
    omega
  · intro bs t hbs hbsalone hreceives hserves
    have hwhole : exec httpStep (.start log) (as ++ bs) = some t :=
      exec_append.2 ⟨s, hserver, hbs⟩
    exact ⟨http_log_sound hinit hwhole (halone.append hserver hbsalone),
      hs.answered hbs hreceives hserves⟩

/-- The log file cannot be read; it is cleared with no call beside it, and cannot be opened
again. -/
def unreadable : List HttpAction :=
  [.receive ⟨.get, "/logs"⟩ [], .logs (.size true), .logs (.malloc true), .logs .enter,
    .logs (.read none), .logs .send, .receive ⟨.get, "/clear"⟩ [], .clear false, .send,
    .task (.call (.write [104, 105] [])), .receive ⟨.get, "/logs"⟩ []]

theorem requests_answered_unreadable : ∃ log s m,
    logHandlerInit initWorks (.boot none none) = some log ∧
      exec (watch httpStep noteHttp) (.start log, {}) unreadable = some (s, m) ∧ s.left = 4 ∧
        ∀ bs t, exec httpStep s bs = some t → Always httpStep ReopensAlone s bs →
          bs.countP HttpAction.receives = 0 → 4 ≤ bs.countP HttpAction.serves →
            t.log.log.Sound ∧ t.served.length = 3 := by
  have hrun : ((logHandlerInit initWorks (.boot none none)).bind fun log =>
      (exec (watch httpStep noteHttp) (.start log, {}) unreadable).map fun x =>
        decide (x.1.left = 4 ∧ x.2.requests.length = 3 ∧
          Always httpStep ReopensAlone (.start log) unreadable)) = some true := by
    decide +kernel
  obtain ⟨log, hinit, hrest⟩ := Option.bind_eq_some_iff.1 hrun
  obtain ⟨⟨s, m⟩, hs, hdecide⟩ := Option.map_eq_some_iff.1 hrest
  obtain ⟨hleft, hlength, halone⟩ := of_decide_eq_true hdecide
  obtain ⟨-, -, -, -, hanswered⟩ := requests_answered hinit hs halone
  refine ⟨log, s, m, hinit, hs, hleft, fun bs t hbs hbsalone hreceives hserves => ?_⟩
  obtain ⟨hsound, hserved⟩ := hanswered bs t hbs hbsalone hreceives (hleft ▸ hserves)
  exact ⟨hsound, by rw [← hlength, ← hserved, List.length_map]⟩

end UsbRepeater
