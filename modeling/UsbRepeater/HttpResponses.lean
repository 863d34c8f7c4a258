import UsbRepeater.HttpServer

/-! What the web server answers. Each request is answered once and by its own handler, in order;
and since no request is handled beside another, a GET /logs gets the whole log as it was at one
instant, whatever the other tasks write meanwhile. -/
namespace UsbRepeater

open Schedule

/-- The requests received, and the content of the log at each `stat` of a GET /logs. -/
structure HttpNotes where
  requests : List HttpReq := []
  sized : List Bytes := []
  deriving DecidableEq, Repr

def noteHttp (s : HttpServer) (a : HttpAction) (m : HttpNotes) : HttpNotes :=
  match a with
  | .receive req _ => { m with requests := m.requests ++ [req] }
  | .logs (.size _) => { m with sized := m.sized ++ [s.log.log.content] }
  | _ => m

/-- `fread` returns all the bytes asked for that exist. -/
def LogServer.readsAll (s : LogServer) (r : Option ℕ) : Bool :=
  match s.get with
  | .reading logSize =>
      r == some (min (readSize (logSize + 1) s.log.content).toNat s.log.content.length)
  | _ => true

/-- The calls of `logs_get_handler` and the `fopen` of a `log_clear` succeed. -/
def ReadsLog (s : HttpServer) : HttpAction → Prop
  | .logs (.size ok) | .logs (.malloc ok) | .clear ok => ok = true
  | .logs (.read r) => s.log.readsAll r = true
  | _ => True

instance (s : HttpServer) : ∀ a, Decidable (ReadsLog s a)
  | .logs (.size ok) | .logs (.malloc ok) | .clear ok => inferInstanceAs (Decidable (ok = true))
  | .logs (.read r) => inferInstanceAs (Decidable (s.log.readsAll r = true))
  | .logs .begin | .logs .enter | .logs .send | .task _ | .receive _ _ | .store _ | .timeout
  | .send | .reboot => isTrue trivial

def shownLog (content : Bytes) : Bytes := if content = [] then noLogs else content

def HttpServer.logBodies (s : HttpServer) : List Bytes :=
  s.served.filterMap fun x =>
    if findUriHandler x.1 = some .logsGetHandler then x.2.map HttpResp.body else none

def AnsweredBy (x : HttpReq × Option HttpResp) : Prop :=
  match findUriHandler x.1 with
  | none => x.2 = none
  | some .rootGetHandler => x.2 = some rootResp
  | some .logsGetHandler => ∃ body, x.2 = some (logsResp body)
  | some .clearLogsHandler => x.2 = some clearedResp
  | some .restartHandler => x.2 = some restartingResp

def Worker.handler : Worker → Option UriHandler
  | .idle | .rebooting => none
  | .sendRoot => some .rootGetHandler
  | .logs => some .logsGetHandler
  | .clearing | .sendCleared => some .clearLogsHandler
  | .restarting _ | .sendRestarting => some .restartHandler

/-- How far a GET /logs is with the content `x` it has measured. -/
def LogsGet.Reads (content : Bytes) : LogsGet → Option Bytes → Prop
  | .idle, x | .sizing, x => x = none
  | .sized logSize, x => ∃ y, x = some y ∧ logSize = UInt32.ofNat y.length ∧ y <+: content
  | .allocated logSize, x | .reading logSize, x =>
      ∃ y, x = some y ∧ logSize = UInt32.ofNat y.length ∧ y <+: content ∧ y ≠ []
  | .sending response, x => ∃ y, x = some y ∧ response.bytes = shownLog y

structure HttpServer.Truthful (s : HttpServer) (m : HttpNotes) : Prop where
  holds : s.log.log.Holds s.log.log.content
  inOrder : m.requests = s.served.map Prod.fst ++ s.request.toList
  running : s.request.bind findUriHandler = s.worker.handler
  waiting : s.worker.handler = none → s.request = none
  quiet : s.worker ≠ .logs → s.log.get = .idle
  answers : ∀ x ∈ s.served, AnsweredBy x
  reads : ∃ x, s.log.get.Reads s.log.log.content x ∧
    m.sized.map shownLog = s.logBodies ++ (x.map shownLog).toList

theorem LogState.Holds.self {s : LogState} {text : Bytes} (h : s.Holds text) :
    s.Holds s.content := by
  rwa [h.content]

theorem LogsGet.Reads.mono {content more : Bytes} {get : LogsGet} {x : Option Bytes}
    (h : get.Reads content x) : get.Reads (content ++ more) x := by
  cases get with
  | idle | sizing | sending response => exact h
  | sized logSize =>
    obtain ⟨y, hx, hsize, hprefix⟩ := h
    exact ⟨y, hx, hsize, hprefix.trans (List.prefix_append _ _)⟩
  | allocated logSize | reading logSize =>
    obtain ⟨y, hx, hsize, hprefix, hne⟩ := h
    exact ⟨y, hx, hsize, hprefix.trans (List.prefix_append _ _), hne⟩

theorem LogStep.writes {s t : LogServer} {a : LogAction} (h : LogStep s a t)
    (ha : a.writes = true) (hs : s.log.Holds s.log.content) :
    t.get = s.get ∧ ∃ more, t.log.Holds (s.log.content ++ more) := by
  have hsame : ∃ more, s.log.Holds (s.log.content ++ more) := ⟨[], by rwa [List.append_nil]⟩
  cases h with
  | refused c hnull => exact ⟨rfl, hsame⟩
  | call c hopen =>
    obtain ⟨more, hlive, hnumbered, hfile, hroom, hcapacity⟩ := hsame
    exact ⟨rfl, more, hlive, hnumbered, hfile, hroom, hcapacity⟩
  | timeout i f hi => exact ⟨rfl, hsame⟩
  | write i stored f log hi hlog => exact ⟨rfl, _, hs.write hlog⟩
  | _ => cases ha

section Moves

variable {s t : HttpServer} {m : HttpNotes}

theorem HttpServer.Truthful.of_log (hs : s.Truthful m) {text : Bytes}
    (hholds : t.log.log.Holds text) (hworker : t.worker.handler = s.worker.handler)
    (hrequest : t.request = s.request) (hserved : t.served = s.served)
    (hquiet : t.worker ≠ .logs → t.log.get = .idle)
    (hreads : ∀ x, s.log.get.Reads s.log.log.content x → t.log.get.Reads t.log.log.content x) :
    t.Truthful m where
  holds := hholds.self
  inOrder := by rw [hserved, hrequest]; exact hs.inOrder
  running := by rw [hrequest, hworker]; exact hs.running
  waiting := by rw [hrequest, hworker]; exact hs.waiting
  quiet := hquiet
  answers := by rw [hserved]; exact hs.answers
  reads := by
    obtain ⟨x, hx, hbodies⟩ := hs.reads
    have hsame : t.logBodies = s.logBodies := by simp only [HttpServer.logBodies, hserved]
    exact ⟨x, hreads x hx, hsame ▸ hbodies⟩

theorem logBodies_append {req : HttpReq} {resp : Option HttpResp}
    (hserved : t.served = s.served ++ [(req, resp)]) :
    t.logBodies = s.logBodies ++
      if findUriHandler req = some .logsGetHandler then (resp.map HttpResp.body).toList
      else [] := by
  simp only [HttpServer.logBodies, hserved, List.filterMap_append, List.append_cancel_left_eq]
  split_ifs with hreq <;> cases resp <;> simp [hreq]

theorem HttpServer.Truthful.receive (hs : s.Truthful m) {req : HttpReq} {h : UriHandler}
    (hidle : s.worker = .idle) (hreq : findUriHandler req = some h)
    (hworker : t.worker.handler = some h) (hholds : t.log.log.Holds t.log.log.content)
    (hrequest : t.request = some req) (hserved : t.served = s.served)
    (hquiet : t.worker ≠ .logs → t.log.get = .idle)
    (hreads : t.log.get.Reads t.log.log.content none) :
    t.Truthful { m with requests := m.requests ++ [req] } where
  holds := hholds
  inOrder := by
    have hnone := hs.waiting (by rw [hidle]; rfl)
    rw [hserved, hrequest, hs.inOrder, hnone]
    simp
  running := by rw [hrequest, hworker]; exact hreq
  waiting hnone := by rw [hworker] at hnone; cases hnone
  quiet := hquiet
  answers := by rw [hserved]; exact hs.answers
  reads := by
    obtain ⟨x, hx, hbodies⟩ := hs.reads
    rw [hs.quiet (by rw [hidle]; nofun)] at hx
    obtain rfl : x = none := hx
    have hsame : t.logBodies = s.logBodies := by simp only [HttpServer.logBodies, hserved]
    exact ⟨none, hreads, hsame ▸ hbodies⟩

theorem HttpServer.Truthful.serve (hs : s.Truthful m) {resp : HttpResp} {worker : Worker}
    (hworker : worker.handler = none)
    (hanswer : ∀ req, findUriHandler req = s.worker.handler → AnsweredBy (req, some resp))
    (hget : s.log.get = .idle)
    (hlogs : s.worker.handler ≠ some .logsGetHandler) : (s.serve resp worker).Truthful m := by
  obtain ⟨x, hx, hbodies⟩ := hs.reads
  cases hrequest : s.request with
  | none =>
    have hserved : (s.serve resp worker).served = s.served := by
      simp [HttpServer.serve, hrequest]
    refine ⟨hs.holds, ?_, hworker.symm, fun _ => rfl, fun _ => hget, ?_, x, hx, ?_⟩
    · rw [hserved, hs.inOrder, hrequest]
      rfl
    · rw [hserved]
      exact hs.answers
    · have hsame : (s.serve resp worker).logBodies = s.logBodies := by
        simp only [HttpServer.logBodies, hserved]
      rw [hsame]
      exact hbodies
  | some req =>
    have hserved : (s.serve resp worker).served = s.served ++ [(req, some resp)] := by
      simp [HttpServer.serve, hrequest]
    have hreq : findUriHandler req = s.worker.handler := by
      have hrunning := hs.running
      rwa [hrequest] at hrunning
    refine ⟨hs.holds, ?_, hworker.symm, fun _ => rfl, fun _ => hget, ?_, x, hx, ?_⟩
    · rw [hserved, hs.inOrder, hrequest]
      simp [HttpServer.serve]
    · rw [hserved]
      intro y hy
      rcases List.mem_append.1 hy with hy | hy
      · exact hs.answers y hy
      · rw [List.mem_singleton.1 hy]
        exact hanswer req hreq
    · rw [logBodies_append hserved, if_neg (by rw [hreq]; exact hlogs), List.append_nil]
      exact hbodies

theorem HttpServer.Truthful.answer (hs : s.Truthful m) {response : BufferFill}
    (hworker : s.worker = .logs) (hget : s.log.get = .sending response) :
    (HttpServer.serve { s with log := { s.log with get := .idle } } (logsResp response.bytes)
      .idle).Truthful m := by
  obtain ⟨x, hx, hbodies⟩ := hs.reads
  rw [hget] at hx
  obtain ⟨y, rfl, hshown⟩ := hx
  have hrunning : s.request.bind findUriHandler = some .logsGetHandler := by
    rw [hs.running, hworker]
    rfl
  obtain ⟨req, hrequest, hreq⟩ := Option.bind_eq_some_iff.1 hrunning
  have hserved : (HttpServer.serve { s with log := { s.log with get := .idle } }
      (logsResp response.bytes) .idle).served =
        s.served ++ [(req, some (logsResp response.bytes))] := by
    simp [HttpServer.serve, hrequest]
  refine ⟨hs.holds, ?_, rfl, fun _ => rfl, fun _ => rfl, ?_, none, rfl, ?_⟩
  · rw [hserved, hs.inOrder, hrequest]
    simp [HttpServer.serve]
  · rw [hserved]
    intro z hz
    rcases List.mem_append.1 hz with hz | hz
    · exact hs.answers z hz
    · rw [List.mem_singleton.1 hz, AnsweredBy]
      simp only [hreq]
      exact ⟨_, rfl⟩
  · rw [logBodies_append hserved, if_pos hreq, hbodies]
    simp [logsResp, hshown]

end Moves

/-- A size that the file system has room for is zero only for an empty text. -/
theorem ofNat_length_eq_zero {text : Bytes} (h : text.length ≤ spiffsSize) :
    UInt32.ofNat text.length = 0 ↔ text = [] := by
  constructor
  · intro hzero
    have hnat : (UInt32.ofNat text.length).toNat = text.length :=
      UInt32.toNat_ofNat_of_lt (h.trans_lt (by decide))
    rw [hzero] at hnat
    exact List.length_eq_zero_iff.1 hnat.symm
  · rintro rfl
    rfl

theorem LogState.Holds.prefix_small {s : LogState} {text y : Bytes} (h : s.Holds text)
    (hy : y <+: text) : y.length ≤ spiffsSize := hy.length_le.trans h.small

theorem LogStep.reads {s : HttpServer} {log : LogServer} {a : GetAction} {x : Option Bytes}
    (h : LogStep s.log (.get a) log) (hs : s.log.log.Holds s.log.log.content)
    (hx : s.log.get.Reads s.log.log.content x) (ha : ReadsLog s (.logs a))
    (hsize : ∀ measured, a ≠ .size measured) (hbegin : a ≠ .begin) (hsend : a ≠ .send) :
    log.log.Holds s.log.log.content ∧ log.get.Reads s.log.log.content x := by
  have hopen : s.log.log.logFile.isSome = true := LogState.isSome_of_live hs.live
  cases h with
  | begin => exact absurd rfl hbegin
  | size measured => exact absurd rfl (hsize measured)
  | send => exact absurd rfl hsend
  | malloc ok logSize hget =>
    rw [hget] at hx
    obtain ⟨y, rfl, rfl, hprefix⟩ := hx
    obtain rfl : ok = true := ha
    refine ⟨hs, ?_⟩
    have hzero := ofNat_length_eq_zero (hs.prefix_small hprefix)
    simp only [hzero, if_true]
    split_ifs with hempty
    · exact ⟨y, rfl, by rw [shownLog, if_pos hempty]⟩
    · exact ⟨y, rfl, rfl, hprefix, hempty⟩
  | enter logSize hget =>
    rw [hget] at hx
    obtain ⟨y, rfl, rfl, hprefix, hne⟩ := hx
    refine ⟨hs, ?_⟩
    have hfits := toNat_bufferSize (hs.prefix_small hprefix)
    have hno : ¬ (UInt32.ofNat y.length + 1 = 0 ∨ s.log.log.logFile.isNone = true) := by
      rintro (hzero | hnull)
      · rw [hzero] at hfits
        cases hfits
      · rw [Option.isNone_iff_eq_none.1 hnull] at hopen
        cases hopen
    dsimp only
    rw [if_neg hno]
    exact ⟨y, rfl, rfl, hprefix, hne⟩
  | read r logSize log fill hget hlog =>
    have hr : s.log.readsAll r = true := ha
    rw [LogServer.readsAll, hget, beq_iff_eq] at hr
    rw [hget] at hx
    obtain ⟨y, rfl, rfl, hprefix, hne⟩ := hx
    refine ⟨hs.getBuffer hlog, y, rfl, ?_⟩
    have hcount : min (readSize (UInt32.ofNat y.length + 1) s.log.log.content).toNat
        s.log.log.content.length = y.length := by
      rw [readSize_eq (hs.prefix_small hprefix) hs.small, Nat.min_assoc, Nat.min_self,
        Nat.min_eq_left hprefix.length_le]
    rw [hcount] at hr
    subst hr
    rcases logGetBuffer_eq_some hlog with ⟨hnone, -⟩ | ⟨n, hn, -, -, -, rfl⟩
    · cases hnone
    · obtain rfl := Option.some.inj hn
      rw [shownLog, if_neg hne]
      exact (List.prefix_iff_eq_take.1 hprefix).symm

theorem httpStep_truthful {s t : HttpServer} {m : HttpNotes} {a : HttpAction}
    (hs : s.Truthful m) (ha : ReadsLog s a) (h : httpStep s a = some t) :
    t.Truthful (noteHttp s a m) := by
  obtain ⟨-, hstep⟩ := httpStep_cases h
  have hopen : s.log.log.logFile.isSome = true := LogState.isSome_of_live hs.holds.live
  cases hstep with
  | task b log hb hlog =>
    obtain ⟨hget, more, hholds⟩ := hlog.writes hb hs.holds
    refine hs.of_log hholds rfl rfl rfl (fun hne => hget.trans (hs.quiet hne)) fun x hx => ?_
    rw [hget, hholds.content]
    exact hx.mono
  | library req stack hworker hreq =>
    have hnone := hs.waiting (by rw [hworker]; rfl)
    obtain ⟨x, hx, hbodies⟩ := hs.reads
    refine ⟨hs.holds, ?_, by rw [hworker]; rfl, fun _ => rfl, hs.quiet, ?_, x, hx, ?_⟩
    · simp [noteHttp, hs.inOrder, hnone]
    · intro y hy
      rcases List.mem_append.1 hy with hy | hy
      · exact hs.answers y hy
      · rw [List.mem_singleton.1 hy, AnsweredBy, hreq]
    · rw [logBodies_append rfl, if_neg (by rw [hreq]; nofun), List.append_nil]
      exact hbodies
  | root req stack hworker hreq =>
    have hget := hs.quiet (by rw [hworker]; nofun)
    exact hs.receive hworker hreq rfl hs.holds rfl rfl (fun _ => hget) (by rw [hget]; rfl)
  | logs req stack log hworker hreq hlog =>
    cases hlog with
    | begin hget =>
      refine hs.receive hworker hreq rfl hs.holds rfl rfl (fun hne => absurd rfl hne) ?_
      rw [if_pos hopen]
      rfl
  | clear req stack hworker hreq =>
    have hget := hs.quiet (by rw [hworker]; nofun)
    rw [hopen]
    exact hs.receive hworker hreq rfl hs.holds rfl rfl (fun _ => hget) (by rw [hget]; rfl)
  | restart req stack hworker hreq hopened =>
    have hget := hs.quiet (by rw [hworker]; nofun)
    obtain ⟨hlive, hnumbered, hfile, hroom, hcapacity⟩ := hs.holds
    exact hs.receive hworker hreq rfl ⟨hlive, hnumbered, hfile, hroom, hcapacity⟩ rfl rfl
      (fun _ => hget) (by rw [hget]; rfl)
  | restartUnlogged req stack hworker hreq =>
    have hget := hs.quiet (by rw [hworker]; nofun)
    exact hs.receive hworker hreq rfl hs.holds rfl rfl (fun _ => hget) (by rw [hget]; rfl)
  | get b log hworker hsend hbegin hlog =>
    by_cases hsize : ∃ measured, b = .size measured
    · obtain ⟨measured, rfl⟩ := hsize
      obtain rfl : measured = true := ha
      cases hlog with
      | size measured hget =>
        obtain ⟨x, hx, hbodies⟩ := hs.reads
        rw [hget] at hx
        obtain rfl : x = none := hx
        refine ⟨hs.holds.getSize true, hs.inOrder, hs.running, hs.waiting,
          fun hne => absurd hworker hne, hs.answers, some s.log.log.content, ?_, ?_⟩
        · exact ⟨_, rfl, rfl, List.prefix_rfl⟩
        · simp only [noteHttp, List.map_append, List.map_singleton, hbodies, Option.map_none,
            Option.toList_none, List.append_nil, Option.map_some, Option.toList_some]
          rfl
    · have hno : ∀ measured, b ≠ .size measured := fun measured hb => hsize ⟨measured, hb⟩
      have hsame : noteHttp s (.logs b) m = m := by
        unfold noteHttp
        split
        · contradiction
        · rename_i heq
          exact absurd (HttpAction.logs.inj heq) (hno _)
        · rfl
      obtain ⟨x, hx, hbodies⟩ := hs.reads
      obtain ⟨hholds, hreads⟩ := hlog.reads hs.holds hx ha hno hbegin hsend
      rw [hsame]
      refine ⟨hholds.self, hs.inOrder, hs.running, hs.waiting, fun hne => absurd hworker hne,
        hs.answers, x, ?_, hbodies⟩
      rw [hholds.content]
      exact hreads
  | answer response hworker hget => exact hs.answer hworker hget
  | cleared reopened hworker =>
    obtain rfl : reopened = true := ha
    have hget := hs.quiet (by rw [hworker]; nofun)
    refine hs.of_log hs.holds.clear (by rw [hworker]; rfl) rfl rfl (fun _ => hget) fun x hx => ?_
    rw [hget] at hx ⊢
    exact hx
  | store stored f log hworker hlog =>
    have hget := hs.quiet (by rw [hworker]; nofun)
    refine hs.of_log (hs.holds.write hlog) (by rw [hworker]; rfl) rfl rfl (fun _ => hget)
      fun x hx => ?_
    rw [hget] at hx ⊢
    exact hx
  | timeout f hworker =>
    have hget := hs.quiet (by rw [hworker]; nofun)
    exact hs.of_log hs.holds (by rw [hworker]; rfl) rfl rfl (fun _ => hget) fun x hx => hx
  | sendRoot hworker =>
    refine hs.serve rfl (fun req hreq => ?_) (hs.quiet (by rw [hworker]; nofun))
      (by rw [hworker]; nofun)
    rw [AnsweredBy, hreq, hworker]
    rfl
  | sendCleared hworker =>
    refine hs.serve rfl (fun req hreq => ?_) (hs.quiet (by rw [hworker]; nofun))
      (by rw [hworker]; nofun)
    rw [AnsweredBy, hreq, hworker]
    rfl
  | sendRestarting hworker =>
    refine hs.serve rfl (fun req hreq => ?_) (hs.quiet (by rw [hworker]; nofun))
      (by rw [hworker]; nofun)
    rw [AnsweredBy, hreq, hworker]
    rfl
  | reboot hworker =>
    exact ⟨hs.holds, hs.inOrder, hs.running, hs.waiting, hs.quiet, hs.answers, hs.reads⟩

/-- Whatever the tasks that write the log and the library do: the requests are answered one after
the other in the order received, each by its own handler; and the answers to GET /logs are, in
order, the contents of the log at the moments their handlers asked for its size. -/
theorem responses_truthful {r : InitResults} {file old : Option Bytes} {log : LogState}
    {as : List HttpAction} {s : HttpServer} {m : HttpNotes}
    (hinit : logHandlerInit r (.boot file old) = some log)
    (hreads : Always httpStep ReadsLog (.start log) as)
    (hrun : exec (watch httpStep noteHttp) (.start log, {}) as = some (s, m)) :
    m.requests = s.served.map Prod.fst ++ s.request.toList ∧ (∀ x ∈ s.served, AnsweredBy x) ∧
      s.logBodies <+: m.sized.map shownLog ∧
        (s.worker ≠ .logs → s.logBodies = m.sized.map shownLog) := by
  have hstart : (HttpServer.start log).Truthful {} := by
    obtain ⟨hholds, -, -⟩ := logHandlerInit_snapshot hinit
    exact ⟨hholds, rfl, rfl, fun _ => rfl, fun _ => rfl, nofun, none, rfl, rfl⟩
  have hstep : ∀ s m a t, HttpServer.Truthful s m → ReadsLog s a → httpStep s a = some t →
      t.Truthful (noteHttp s a m) := fun _ _ _ _ => httpStep_truthful
  have hs : s.Truthful m := watch_invariant hstep hstart hreads hrun
  obtain ⟨x, hx, hbodies⟩ := hs.reads
  refine ⟨hs.inOrder, hs.answers, hbodies ▸ List.prefix_append _ _, fun hquiet => ?_⟩
  rw [hs.quiet hquiet] at hx
  obtain rfl : x = none := hx
  rw [hbodies]
  exact (List.append_nil _).symm

def readWriteClear : List HttpAction :=
  [.task (.call (.write [104, 105] [])), .receive ⟨.get, "/logs"⟩ [], .logs (.size true),
    .logs (.malloc true), .task (.write 0 3), .logs .enter, .logs (.read (some 110)),
    .logs .send, .receive ⟨.get, "/clear"⟩ [], .clear true, .send, .receive ⟨.get, "/logs"⟩ [],
    .logs (.size true), .logs (.malloc true), .logs .send]

theorem responses_truthful_readWriteClear : ∃ log s m,
    logHandlerInit initWorks (.boot none none) = some log ∧
      exec (watch httpStep noteHttp) (.start log, {}) readWriteClear = some (s, m) ∧
        s.served.length = 3 ∧ s.logBodies = [log.content, noLogs] := by
  have hrun : ((logHandlerInit initWorks (.boot none none)).bind fun log =>
      (exec (watch httpStep noteHttp) (.start log, {}) readWriteClear).map fun x =>
        decide (Always httpStep ReadsLog (.start log) readWriteClear ∧ x.1.served.length = 3 ∧
          x.1.worker = .idle ∧ x.2.sized = [log.content, []] ∧ log.content ≠ [])) = some true := by
    decide +kernel
  obtain ⟨log, hinit, hrest⟩ := Option.bind_eq_some_iff.1 hrun
  obtain ⟨⟨s, m⟩, hs, hdecide⟩ := Option.map_eq_some_iff.1 hrest
  obtain ⟨hreads, hserved, hworker, hsized, hne⟩ := of_decide_eq_true hdecide
  obtain ⟨-, -, -, hbodies⟩ := responses_truthful hinit hreads hs
  refine ⟨log, s, m, hinit, hs, hserved, ?_⟩
  rw [hbodies (by rw [hworker]; nofun), hsized]
  simp [shownLog, hne]

end UsbRepeater
