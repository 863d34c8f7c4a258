import UsbRepeater.Lib.Fifo
import UsbRepeater.Lib.Simulation
import UsbRepeater.HttpServer

/-! The web server as one of the users of the log. Its runs are runs of the calls of
log_handler.c in which every `log_clear` falls between two GET /logs. -/
namespace UsbRepeater

open Schedule Fifo

/-- The call of log_handler.c that the server task is in. -/
def Worker.call : Worker → Option LogCall
  | .clearing => some .clear
  | .restarting f => some (.write f)
  | _ => none

/-- The log as its calls see it: those of the server task are among the others. -/
structure HttpServer.OnLog (s : HttpServer) (u : LogServer) : Prop where
  log : u.log = s.log.log
  get : u.get = s.log.get
  calls : u.calls.Perm (s.worker.call.toList ++ s.log.calls)
  quiet : s.worker ≠ .logs → s.log.get = .idle

/-- No `log_clear` gets the mutex while a GET /logs is under way. -/
def ClearsBetween (s : LogServer) : LogAction → Prop
  | .clear _ _ => s.get = .idle
  | _ => True

/-- A `log_clear` whose `fopen` fails has no call of another task beside it. -/
def ReopensAlone (s : HttpServer) : HttpAction → Prop
  | .clear false => s.log.calls = []
  | _ => True

instance (s : HttpServer) : ∀ a, Decidable (ReopensAlone s a)
  | .clear false => inferInstanceAs (Decidable (s.log.calls = []))
  | .clear true | .task _ | .receive _ _ | .logs _ | .store _ | .timeout | .send | .reboot =>
    isTrue trivial

theorem LogStep.get_of {s t u : LogServer} {a : GetAction} (h : LogStep s (.get a) t)
    (hlog : u.log = s.log) (hget : u.get = s.get) :
    ∃ v, logStep u (.get a) = some v ∧ v.log = t.log ∧ v.get = t.get ∧ v.calls = u.calls ∧
      t.calls = s.calls := by
  cases h with
  | begin h => simp [logStep, logsGetStep, hget, h, hlog]
  | size measured h => simp [logStep, logsGetStep, hget, h, hlog]
  | malloc ok logSize h => simp [logStep, logsGetStep, hget, h, hlog]
  | enter logSize h => simp [logStep, logsGetStep, hget, h, hlog]
  | read r logSize log fill h hread => simp [logStep, logsGetStep, hget, h, hlog, hread]
  | send response h => simp [logStep, logsGetStep, hget, h, hlog]

section Step

variable {s t : HttpServer} {u : LogServer}

theorem HttpServer.OnLog.of_same (h : s.OnLog u) (hlog : t.log = s.log)
    (hcall : t.worker.call = s.worker.call) (hquiet : t.worker ≠ .logs → s.log.get = .idle) :
    t.OnLog u where
  log := by rw [hlog]; exact h.log
  get := by rw [hlog]; exact h.get
  calls := by rw [hlog, hcall]; exact h.calls
  quiet := by rw [hlog]; exact hquiet

theorem HttpServer.OnLog.call (h : s.OnLog u) (c : LogRequest)
    (hopen : s.log.log.logFile.isSome = true) :
    ∃ v, logStep u (.call c) = some v ∧ HttpServer.OnLog { s with log := { s.log with
      log := { s.log.log with accesses := s.log.log.accesses ++ c.enter.2 }
      calls := s.log.calls ++ c.enter.1 } } v := by
  refine ⟨{ u with
    log := { u.log with accesses := u.log.accesses ++ c.enter.2 }
    calls := u.calls ++ c.enter.1 }, ?_, ?_, h.get, ?_, h.quiet⟩
  · rw [logStep, h.log, if_pos hopen]
  · rw [h.log]
  · have hperm := h.calls.append_right c.enter.1
    rwa [List.append_assoc] at hperm

theorem HttpServer.OnLog.ends (h : s.OnLog u) {i : ℕ} {c : LogCall} (log : LogState)
    (hi : s.log.calls[i]? = some c) : ∃ j, u.calls[j]? = some c ∧
      HttpServer.OnLog { s with log := { s.log with log := log, calls := s.log.calls.eraseIdx i } }
        { u with log := log, calls := u.calls.eraseIdx j } := by
  obtain ⟨j, hj, hperm⟩ := exists_eraseIdx_perm (h.calls.trans (append_perm_cons_eraseIdx hi))
  exact ⟨j, hj, rfl, h.get, hperm, h.quiet⟩

theorem HttpServer.OnLog.ends_own (h : s.OnLog u) {c : LogCall} (worker : Worker)
    (log : LogState) (hc : s.worker.call = some c) (hworker : worker.call = none)
    (hquiet : worker ≠ .logs → s.log.get = .idle) : ∃ j, u.calls[j]? = some c ∧
      HttpServer.OnLog { s with log := { s.log with log := log }, worker := worker }
        { u with log := log, calls := u.calls.eraseIdx j } := by
  have hcalls := h.calls
  rw [hc, Option.toList_some, List.singleton_append] at hcalls
  obtain ⟨j, hj, hperm⟩ := exists_eraseIdx_perm hcalls
  refine ⟨j, hj, rfl, h.get, ?_, hquiet⟩
  rw [hworker]
  exact hperm

theorem HttpServer.OnLog.calls_own (h : s.OnLog u) (c : LogRequest) (call : LogCall)
    (worker : Worker) (hopen : s.log.log.logFile.isSome = true) (hidle : s.worker.call = none)
    (hc : c.enter.1 = [call]) (hworker : worker.call = some call) (hget : s.log.get = .idle) :
    ∃ v, logStep u (.call c) = some v ∧ ∀ request, HttpServer.OnLog { s with
      request := request
      log := { s.log with
        log := { s.log.log with accesses := s.log.log.accesses ++ c.enter.2 } }
      worker := worker } v := by
  refine ⟨{ u with
    log := { u.log with accesses := u.log.accesses ++ c.enter.2 }
    calls := u.calls ++ c.enter.1 }, ?_, fun request => ⟨?_, h.get, ?_, fun _ => hget⟩⟩
  · rw [logStep, h.log, if_pos hopen]
  · rw [h.log]
  · have hperm := h.calls
    rw [hidle, Option.toList_none, List.nil_append] at hperm
    rw [hc, hworker, Option.toList_some, List.singleton_append]
    exact (List.perm_append_singleton call u.calls).trans (hperm.cons call)

theorem HttpServer.OnLog.timeout_eq (h : s.OnLog u) {j : ℕ} {f : Formatted}
    (hj : u.calls[j]? = some (.write f)) : logStep u (.timeout j) =
      some { u with log := s.log.log, calls := u.calls.eraseIdx j } := by
  simp only [logStep, hj]
  rw [← h.log]

theorem HttpServer.OnLog.write_eq (h : s.OnLog u) {j stored : ℕ} {f : Formatted} {log : LogState}
    (hj : u.calls[j]? = some (.write f)) (hlog : logWrite s.log.log f stored = some log) :
    logStep u (.write j stored) = some { u with log := log, calls := u.calls.eraseIdx j } := by
  simp only [logStep, hj, h.log, hlog, Option.map_some]

end Step

/-- Under `p` the failing reopenings are assumed to have no call beside them. -/
theorem httpStep_simulated (p : Prop) :
    Simulates httpStep logStep HttpServer.OnLog (fun s a => p → ReopensAlone s a)
      (fun u b => ClearsBetween u b ∧ (p → ClearsAlone u b)) := by
  intro s a t u h halone hstep
  obtain ⟨-, hstep⟩ := httpStep_cases hstep
  cases hstep with
  | task b log hb hlog =>
    cases hlog with
    | refused c hnull =>
      have hrefused : logStep u (.call c) = some u := by
        rw [logStep, h.log, hnull]
        rfl
      exact exists_exec_one hrefused ⟨trivial, fun _ => trivial⟩ h
    | call c hopen =>
      obtain ⟨v, hv, hR⟩ := h.call c hopen
      exact exists_exec_one hv ⟨trivial, fun _ => trivial⟩ hR
    | timeout i f hi =>
      obtain ⟨j, hj, hR⟩ := h.ends s.log.log hi
      exact exists_exec_one (h.timeout_eq hj) ⟨trivial, fun _ => trivial⟩ hR
    | write i stored f log hi hlog =>
      obtain ⟨j, hj, hR⟩ := h.ends log hi
      exact exists_exec_one (h.write_eq hj hlog) ⟨trivial, fun _ => trivial⟩ hR
    | _ => cases hb
  | library req stack hworker hreq => exact exists_exec_none (h.of_same rfl rfl h.quiet)
  | root req stack hworker hreq =>
    refine exists_exec_none (h.of_same rfl (by rw [hworker]; rfl) fun _ => ?_)
    exact h.quiet (by simp [hworker])
  | logs req stack log hworker hreq hlog =>
    obtain ⟨v, hv, hvlog, hvget, hvcalls, hcalls⟩ := hlog.get_of h.log h.get
    refine exists_exec_one hv ⟨trivial, fun _ => trivial⟩
      ⟨hvlog, hvget, ?_, fun hne => absurd rfl hne⟩
    rw [hvcalls, hcalls]
    have hperm := h.calls
    rw [hworker] at hperm
    exact hperm
  | clear req stack hworker hreq =>
    have hget := h.quiet (by simp [hworker])
    split_ifs with hopen
    · obtain ⟨v, hv, hR⟩ := h.calls_own .clear .clear .clearing hopen
        (by rw [hworker]; rfl) rfl rfl hget
      refine exists_exec_one hv ⟨trivial, fun _ => trivial⟩ ?_
      have hcleared := hR (some req)
      simp only [LogRequest.enter, List.append_nil] at hcleared
      exact hcleared
    · exact exists_exec_none (h.of_same rfl (by rw [hworker]; rfl) fun _ => hget)
  | restart req stack hworker hreq hopen =>
    have hget := h.quiet (by simp [hworker])
    obtain ⟨v, hv, hR⟩ := h.calls_own (.write restartText stack)
      (.write (formatRecord restartText stack)) (.restarting (formatRecord restartText stack))
      hopen (by rw [hworker]; rfl) rfl rfl hget
    exact exists_exec_one hv ⟨trivial, fun _ => trivial⟩ (hR (some req))
  | restartUnlogged req stack hworker hreq =>
    refine exists_exec_none (h.of_same rfl (by rw [hworker]; rfl) fun _ => ?_)
    exact h.quiet (by simp [hworker])
  | get b log hworker hsend hbegin hlog =>
    obtain ⟨v, hv, hvlog, hvget, hvcalls, hcalls⟩ := hlog.get_of h.log h.get
    refine exists_exec_one hv ⟨trivial, fun _ => trivial⟩
      ⟨hvlog, hvget, ?_, fun hne => absurd hworker hne⟩
    rw [hvcalls, hcalls]
    exact h.calls
  | answer response hworker hget =>
    obtain ⟨v, hv, hvlog, hvget, hvcalls, -⟩ := (LogStep.send response hget).get_of h.log h.get
    refine exists_exec_one hv ⟨trivial, fun _ => trivial⟩ ⟨hvlog, hvget, ?_, fun _ => rfl⟩
    rw [hvcalls]
    have hperm := h.calls
    rw [hworker] at hperm
    exact hperm
  | cleared reopened hworker =>
    have hget := h.quiet (by simp [hworker])
    obtain ⟨j, hj, hR⟩ := h.ends_own .sendCleared (logClear s.log.log reopened)
      (by rw [hworker]; rfl) rfl fun _ => hget
    have hclear : logStep u (.clear j reopened) =
        some { u with log := logClear s.log.log reopened, calls := u.calls.eraseIdx j } := by
      simp only [logStep, hj, h.log]
    have hidle : u.get = .idle := h.get.trans hget
    refine exists_exec_one hclear ⟨hidle, fun hp => ?_⟩ hR
    cases reopened with
    | true => trivial
    | false =>
      have hnone : s.log.calls = [] := halone hp
      have hlength := h.calls.length_eq
      rw [hnone, hworker] at hlength
      exact ⟨hlength.le, by rw [hidle]; rfl⟩
  | store stored f log hworker hlog =>
    obtain ⟨j, hj, hR⟩ := h.ends_own .sendRestarting log (by rw [hworker]; rfl) rfl
      fun _ => h.quiet (by simp [hworker])
    exact exists_exec_one (h.write_eq hj hlog) ⟨trivial, fun _ => trivial⟩ hR
  | timeout f hworker =>
    obtain ⟨j, hj, hR⟩ := h.ends_own .sendRestarting s.log.log (by rw [hworker]; rfl)
      rfl fun _ => h.quiet (by simp [hworker])
    exact exists_exec_one (h.timeout_eq hj) ⟨trivial, fun _ => trivial⟩ hR
  | sendRoot hworker | sendCleared hworker | sendRestarting hworker =>
    refine exists_exec_none (h.of_same rfl (by rw [hworker]; rfl) fun _ => ?_)
    exact h.quiet (by simp [hworker])
  | reboot hworker => exact exists_exec_none (h.of_same rfl rfl h.quiet)

theorem start_onLog (log : LogState) : (HttpServer.start log).OnLog (.start log) :=
  ⟨rfl, rfl, .nil, fun _ => rfl⟩

theorem http_log_sound {r : InitResults} {file old : Option Bytes} {log : LogState}
    {as : List HttpAction} {s : HttpServer}
    (hinit : logHandlerInit r (.boot file old) = some log)
    (h : exec httpStep (.start log) as = some s)
    (halone : Always httpStep ReopensAlone (.start log) as) : s.log.log.Sound := by
  obtain ⟨bs, u, hu, hclears, hon⟩ := (httpStep_simulated True).exec (start_onLog log)
    (halone.mono fun _ _ h _ => h) h
  have hguarded : u.Guarded := exec_invariant (P := ClearsAlone)
    (fun _ _ _ hs ha hstep => (logStep_cases hstep).guarded hs ha)
    (logHandlerInit_guarded hinit) (hclears.mono fun _ _ h => h.2 trivial) hu
  rw [← hon.log]
  exact hguarded.sound

/-- Every run of the web server beside tasks that write the log is a run of the calls of
log_handler.c, with the same log, the same uses of its streams and the same calls waiting, in
which each `log_clear` gets the mutex between two GET /logs. -/
theorem http_runs_on_log {log : LogState} {as : List HttpAction} {s : HttpServer}
    (h : exec httpStep (.start log) as = some s) :
    ∃ bs u, exec logStep (.start log) bs = some u ∧ Always logStep ClearsBetween (.start log) bs ∧
      s.OnLog u := by
  obtain ⟨bs, u, hu, hclears, hon⟩ := (httpStep_simulated False).exec (start_onLog log)
    (.of_forall (fun _ _ => False.elim) _ _) h
  exact ⟨bs, u, hu, hclears.mono fun _ _ h => h.1, hon⟩

def clearRestart : List HttpAction :=
  [.receive ⟨.get, "/clear"⟩ [], .task (.call (.write [104, 105] [])), .clear true, .send,
    .receive ⟨.get, "/restart"⟩ [], .task (.write 0 3), .store 58, .send, .reboot]

theorem http_runs_on_log_clearRestart : ∃ log s bs u,
    logHandlerInit initWorks (.boot none none) = some log ∧
      exec httpStep (.start log) clearRestart = some s ∧ s.log.log.content.length = 61 ∧
        exec logStep (.start log) bs = some u ∧ u.log.content.length = 61 ∧
          Always logStep ClearsBetween (.start log) bs := by
  have hrun : ((logHandlerInit initWorks (.boot none none)).bind fun log =>
      (exec httpStep (.start log) clearRestart).map fun s =>
        decide (s.log.log.content.length = 61)) = some true := by
    decide +kernel
  obtain ⟨log, hinit, hrest⟩ := Option.bind_eq_some_iff.1 hrun
  obtain ⟨s, hs, hdecide⟩ := Option.map_eq_some_iff.1 hrest
  have hcontent := of_decide_eq_true hdecide
  obtain ⟨bs, u, hu, hclears, hon⟩ := http_runs_on_log hs
  exact ⟨log, s, bs, u, hinit, hs, hcontent, hu, by rw [hon.log, hcontent], hclears⟩

end UsbRepeater
