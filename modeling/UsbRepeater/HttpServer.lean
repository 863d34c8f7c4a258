import UsbRepeater.Lib.Watch
import UsbRepeater.LogSnapshot

/-! The web server of http_server.c beside the tasks that write the log. The HTTP library runs its
handlers in one task, one request at a time; no other task clears the log. -/
namespace UsbRepeater

open Schedule

inductive HttpMethod
  | get | other
  deriving DecidableEq, Repr

structure HttpReq where
  method : HttpMethod
  uri : String
  deriving DecidableEq, Repr

inductive UriHandler
  | rootGetHandler | logsGetHandler | clearLogsHandler | restartHandler
  deriving DecidableEq, Repr

structure HttpdUri where
  uri : String
  method : HttpMethod
  handler : UriHandler
  deriving DecidableEq, Repr

def rootUri : HttpdUri := ⟨"/", .get, .rootGetHandler⟩

def logsUri : HttpdUri := ⟨"/logs", .get, .logsGetHandler⟩

def clearUri : HttpdUri := ⟨"/clear", .get, .clearLogsHandler⟩

def restartUri : HttpdUri := ⟨"/restart", .get, .restartHandler⟩

/-- The handlers in the order in which `http_server_init` registers them. -/
def uriHandlers : List HttpdUri := [rootUri, logsUri, clearUri, restartUri]

/-- The handler the library runs for a request: the first one of its path and method. Without one
the library answers by itself, 404 or 405. -/
def findUriHandler (req : HttpReq) : Option UriHandler :=
  (uriHandlers.find? fun u => u.uri == req.uri && u.method == req.method).map HttpdUri.handler

structure HttpResp where
  contentType : String
  headers : List (String × String)
  body : Bytes
  deriving DecidableEq, Repr

def rootResp : HttpResp where
  contentType := "text/html"
  headers := []
  body := ascii "<html><head>" ++
    ascii "<meta http-equiv=\x27refresh\x27 content=\x270;url=/logs\x27></head>" ++
    ascii "<body>Redirecting to logs...</body></html>"

def logsResp (body : Bytes) : HttpResp := ⟨"text/plain", [], body⟩

def clearedResp : HttpResp where
  contentType := "text/plain"
  headers := [("Access-Control-Allow-Origin", "*")]
  body := ascii "Logs cleared successfully\n"

def restartingResp : HttpResp := ⟨"text/plain", [], ascii "System restarting...\n"⟩

def restartText : Bytes := ascii "[HTTP] Restart request received, rebooting in 1 second..."

/-- Where the server task is. In `logs_get_handler` its place is that of the request to the log. -/
inductive Worker
  | idle
  | sendRoot
  | logs
  /-- In `log_clear`, past its test. -/
  | clearing
  | sendCleared
  /-- In `log_write`, about to take the mutex. -/
  | restarting (f : Formatted)
  | sendRestarting
  /-- The second before `esp_restart`. -/
  | rebooting
  deriving DecidableEq, Repr

/-- `log` holds the calls of `log_write` in other tasks and the place in `logs_get_handler`.
`started` says whether `httpd_start` has succeeded. `served` are the requests answered, with what
their handler has passed to the library. -/
structure HttpServer where
  started : Bool
  log : LogServer
  worker : Worker
  request : Option HttpReq
  served : List (HttpReq × Option HttpResp)
  restarted : Bool
  deriving DecidableEq, Repr

inductive HttpAction
  /-- A step of another task. -/
  | task (a : LogAction)
  /-- The next request is read and its handler called; `stack` is what lies from `temp_buffer` on
  when the handler calls `log_write`. -/
  | receive (req : HttpReq) (stack : Bytes)
  | logs (a : GetAction)
  | clear (reopened : Bool)
  /-- The critical section of the `log_write` of `restart_handler`, or no mutex in time. -/
  | store (stored : ℕ)
  | timeout
  | send
  | reboot
  deriving DecidableEq, Repr

/-- The other tasks only write to the log. -/
def LogAction.writes : LogAction → Bool
  | .call (.write _ _) | .timeout _ | .write _ _ => true
  | _ => false

def HttpServer.serve (s : HttpServer) (resp : HttpResp) (worker : Worker) : HttpServer :=
  { s with
    worker := worker
    request := none
    served := s.served ++ s.request.toList.map fun req => (req, some resp) }

/-- The call of a handler, up to where it waits for the first time. -/
def HttpServer.enter (s : HttpServer) (req : HttpReq) (stack : Bytes) : Option HttpServer :=
  let opened := s.log.log.logFile.isSome
  let s := { s with request := some req }
  match findUriHandler req with
  | none => some { s with request := none, served := s.served ++ [(req, none)] }
  | some .rootGetHandler => some { s with worker := .sendRoot }
  | some .logsGetHandler =>
      (logsGetStep s.log .begin).map fun log => { s with log := log, worker := .logs }
  | some .clearLogsHandler => some { s with worker := if opened then .clearing else .sendCleared }
  | some .restartHandler =>
      let f := formatRecord restartText stack
      some (if opened then
        { s with
          log := { s.log with
            log := { s.log.log with accesses := s.log.log.accesses ++ f.accesses } }
          worker := .restarting f }
      else { s with worker := .sendRestarting })

def httpStep (s : HttpServer) (a : HttpAction) : Option HttpServer :=
  if s.restarted then none
  else match a, s.worker with
    | .task a, _ =>
        if a.writes then (logStep s.log a).map fun log => { s with log := log } else none
    | .receive req stack, .idle => if s.started then s.enter req stack else none
    | .logs a, .logs =>
        match a, s.log.get with
        | .send, .sending response =>
            (logsGetStep s.log .send).map fun log =>
              { s with log := log }.serve (logsResp response.bytes) .idle
        | .begin, _ => none
        | a, _ => (logsGetStep s.log a).map fun log => { s with log := log }
    | .clear reopened, .clearing =>
        some { s with
          log := { s.log with log := logClear s.log.log reopened }, worker := .sendCleared }
    | .store stored, .restarting f =>
        (logWrite s.log.log f stored).map fun log =>
          { s with log := { s.log with log := log }, worker := .sendRestarting }
    | .timeout, .restarting _ => some { s with worker := .sendRestarting }
    | .send, .sendRoot => some (s.serve rootResp .idle)
    | .send, .sendCleared => some (s.serve clearedResp .idle)
    | .send, .sendRestarting => some (s.serve restartingResp .rebooting)
    | .reboot, .rebooting => some { s with restarted := true }
    | _, _ => none

/-- Behind a successful `log_handler_init` and `http_server_init`. -/
def HttpServer.start (log : LogState) : HttpServer where
  started := true
  log := .start log
  worker := .idle
  request := none
  served := []
  restarted := false

inductive HttpStep (s : HttpServer) : HttpAction → HttpServer → Prop
  | task (a : LogAction) (log : LogServer) (ha : a.writes = true) (hlog : LogStep s.log a log) :
      HttpStep s (.task a) { s with log := log }
  | library (req : HttpReq) (stack : Bytes) (hworker : s.worker = .idle)
      (hreq : findUriHandler req = none) :
      HttpStep s (.receive req stack)
        { s with request := none, served := s.served ++ [(req, none)] }
  | root (req : HttpReq) (stack : Bytes) (hworker : s.worker = .idle)
      (hreq : findUriHandler req = some .rootGetHandler) :
      HttpStep s (.receive req stack) { s with request := some req, worker := .sendRoot }
  | logs (req : HttpReq) (stack : Bytes) (log : LogServer) (hworker : s.worker = .idle)
      (hreq : findUriHandler req = some .logsGetHandler)
      (hlog : LogStep s.log (.get .begin) log) :
      HttpStep s (.receive req stack)
        { s with request := some req, log := log, worker := .logs }
  | clear (req : HttpReq) (stack : Bytes) (hworker : s.worker = .idle)
      (hreq : findUriHandler req = some .clearLogsHandler) :
      HttpStep s (.receive req stack) { s with
        request := some req
        worker := if s.log.log.logFile.isSome then .clearing else .sendCleared }
  | restart (req : HttpReq) (stack : Bytes) (hworker : s.worker = .idle)
      (hreq : findUriHandler req = some .restartHandler)
      (hopen : s.log.log.logFile.isSome = true) :
      HttpStep s (.receive req stack) { s with
        request := some req
        log := { s.log with log := { s.log.log with
          accesses := s.log.log.accesses ++ (formatRecord restartText stack).accesses } }
        worker := .restarting (formatRecord restartText stack) }
  | restartUnlogged (req : HttpReq) (stack : Bytes) (hworker : s.worker = .idle)
      (hreq : findUriHandler req = some .restartHandler) :
      HttpStep s (.receive req stack) { s with request := some req, worker := .sendRestarting }
  | get (a : GetAction) (log : LogServer) (hworker : s.worker = .logs) (hsend : a ≠ .send)
      (hbegin : a ≠ .begin) (hlog : LogStep s.log (.get a) log) :
      HttpStep s (.logs a) { s with log := log }
  | answer (response : BufferFill) (hworker : s.worker = .logs)
      (hget : s.log.get = .sending response) :
      HttpStep s (.logs .send)
        (HttpServer.serve { s with log := { s.log with get := .idle } } (logsResp response.bytes)
          .idle)
  | cleared (reopened : Bool) (hworker : s.worker = .clearing) :
      HttpStep s (.clear reopened) { s with
        log := { s.log with log := logClear s.log.log reopened }, worker := .sendCleared }
  | store (stored : ℕ) (f : Formatted) (log : LogState) (hworker : s.worker = .restarting f)
      (hlog : logWrite s.log.log f stored = some log) :
      HttpStep s (.store stored)
        { s with log := { s.log with log := log }, worker := .sendRestarting }
  | timeout (f : Formatted) (hworker : s.worker = .restarting f) :
      HttpStep s .timeout { s with worker := .sendRestarting }
  | sendRoot (hworker : s.worker = .sendRoot) : HttpStep s .send (s.serve rootResp .idle)
  | sendCleared (hworker : s.worker = .sendCleared) : HttpStep s .send (s.serve clearedResp .idle)
  | sendRestarting (hworker : s.worker = .sendRestarting) :
      HttpStep s .send (s.serve restartingResp .rebooting)
  | reboot (hworker : s.worker = .rebooting) : HttpStep s .reboot { s with restarted := true }

theorem HttpServer.enter_cases {s t : HttpServer} {req : HttpReq} {stack : Bytes}
    (hworker : s.worker = .idle) (h : s.enter req stack = some t) :
    HttpStep s (.receive req stack) t := by
  simp only [HttpServer.enter] at h
  split at h
  case h_1 hreq =>
    obtain rfl := Option.some.inj h
    exact .library req stack hworker hreq
  case h_2 hreq =>
    obtain rfl := Option.some.inj h
    exact .root req stack hworker hreq
  case h_3 hreq =>
    obtain ⟨log, hlog, rfl⟩ := Option.map_eq_some_iff.1 h
    exact .logs req stack log hworker hreq (logsGetStep_cases hlog)
  case h_4 hreq =>
    obtain rfl := Option.some.inj h
    exact .clear req stack hworker hreq
  case h_5 hreq =>
    obtain rfl := Option.some.inj h
    split_ifs with hopen
    · exact .restart req stack hworker hreq hopen
    · exact .restartUnlogged req stack hworker hreq

theorem httpStep_cases {s t : HttpServer} {a : HttpAction} (h : httpStep s a = some t) :
    s.restarted = false ∧ HttpStep s a t := by
  unfold httpStep at h
  rw [Option.ite_none_left_eq_some] at h
  obtain ⟨hrestarted, h⟩ := h
  refine ⟨by simpa using hrestarted, ?_⟩
  split at h
  case h_1 w a =>
    rw [Option.ite_none_right_eq_some] at h
    obtain ⟨ha, h⟩ := h
    obtain ⟨log, hlog, rfl⟩ := Option.map_eq_some_iff.1 h
    exact .task a log ha (logStep_cases hlog)
  case h_2 req stack hworker =>
    rw [Option.ite_none_right_eq_some] at h
    exact HttpServer.enter_cases hworker h.2
  case h_3 a hworker =>
    split at h
    · rename_i response hget
      obtain ⟨log, hlog, rfl⟩ := Option.map_eq_some_iff.1 h
      cases logsGetStep_cases hlog with
      | send response' hget' =>
        exact .answer response hworker hget
    · cases h
    · rename_i hbegin hsend
      obtain ⟨log, hlog, rfl⟩ := Option.map_eq_some_iff.1 h
      have hstep := logsGetStep_cases hlog
      refine .get _ log hworker ?_ hbegin hstep
      rintro rfl
      cases hstep with
      | send response hget => exact hsend response rfl hget
  case h_4 reopened hworker =>
    obtain rfl := Option.some.inj h
    exact .cleared reopened hworker
  case h_5 stored f hworker =>
    obtain ⟨log, hlog, rfl⟩ := Option.map_eq_some_iff.1 h
    exact .store stored f log hworker hlog
  case h_6 f hworker =>
    obtain rfl := Option.some.inj h
    exact .timeout f hworker
  case h_7 hworker =>
    obtain rfl := Option.some.inj h
    exact .sendRoot hworker
  case h_8 hworker =>
    obtain rfl := Option.some.inj h
    exact .sendCleared hworker
  case h_9 hworker =>
    obtain rfl := Option.some.inj h
    exact .sendRestarting hworker
  case h_10 hworker =>
    obtain rfl := Option.some.inj h
    exact .reboot hworker
  case h_11 => cases h

end UsbRepeater
