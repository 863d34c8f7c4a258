import UsbRepeater.Lib.Watch
import UsbRepeater.Effects
import UsbRepeater.Client

/-! The start of the firmware: `app_main`, with `tcp_server_init` and `usbip_server_init`, and the
part of `tcp_server_start` before its loop. The tasks that `app_main` creates run beside it from
there on; where a creation fails, `app_main` goes on. -/
namespace UsbRepeater

open Schedule

/-- How far `app_main` is: `log_handler_init`; the four calls of `tcp_server_init`; the event loop
and the two tasks of `usbip_server_init`; the TCP task; `http_server_init`. -/
inductive MainPc
  | logHandler
  | nvsFlash | netif | eventLoop | connect
  | usbipLoop | daemonTask | classTask
  | tcpTask
  | http
  | done
  deriving DecidableEq, Repr

inductive ListenPc
  | absent
  | mutex | socket | bind | listen
  /-- In its loop, where the steps are those of the server. -/
  | serving
  | cleanUp
  | deleted
  deriving DecidableEq, Repr

structure Firmware where
  main : MainPc
  listen : ListenPc
  network : Bool
  daemonTask : Bool
  classTask : Bool
  sockMutex : Bool
  listenSock : Bool
  listening : Bool
  httpServer : Bool
  aborted : Bool
  server : Server

/-- A step of `app_main` or of the set-up of the TCP task carries whether its call succeeds. -/
inductive BootAction
  | main (ok : Bool)
  | listen (ok : Bool)
  | server (a : Action)
  deriving DecidableEq, Repr

def Firmware.check (f : Firmware) (ok : Bool) (next : MainPc) : Firmware :=
  if ok then { f with main := next } else { f with aborted := true }

def appMain (f : Firmware) (ok : Bool) : Option Firmware :=
  match f.main with
  | .logHandler => some { f with main := .nvsFlash }
  | .nvsFlash => some (f.check ok .netif)
  | .netif => some (f.check ok .eventLoop)
  | .eventLoop => some (f.check ok .connect)
  | .connect => some { f.check ok .usbipLoop with network := ok }
  | .usbipLoop =>
      some { f with main := .daemonTask, server := { f.server with loopHandle := ok } }
  | .daemonTask => some { f with main := .classTask, daemonTask := ok }
  | .classTask => some { f with main := .tcpTask, classTask := ok }
  | .tcpTask => some { f with main := .http, listen := if ok then .mutex else .absent }
  | .http => some { f with main := .done, httpServer := ok }
  | .done => none

def listenStep (f : Firmware) (ok : Bool) : Option Firmware :=
  match f.listen with
  | .mutex => some { f with sockMutex := ok, listen := if ok then .socket else .deleted }
  | .socket => some { f with listenSock := ok, listen := if ok then .bind else .deleted }
  | .bind => some { f with listen := if ok then .listen else .cleanUp }
  | .listen => some { f with listening := ok, listen := if ok then .serving else .cleanUp }
  | .cleanUp => some { f with listenSock := false, listen := .deleted }
  | .absent | .serving | .deleted => none

/-- The task that takes a step of the server exists. The class driver waits for the daemon before
it registers. -/
def Firmware.runs (f : Firmware) : Action → Bool
  | .tcp _ => f.listen = .serving
  | .loop1 _ => f.server.loopHandle
  | .loop2 _ => f.server.loop2.count ≠ 0
  | .host _ => f.classTask
  | .driver _ => f.classTask && (f.server.driver.pc ≠ .start || f.daemonTask)

def bootStep (f : Firmware) (a : BootAction) : Option Firmware :=
  if f.aborted ∨ f.server.crashed then none
  else match a with
    | .main ok => appMain f ok
    | .listen ok => listenStep f ok
    | .server a =>
        if f.runs a then (step f.server a).map fun s => { f with server := s } else none

/-- A reset: `loop_handle` is NULL and no task exists. -/
def Firmware.reset (lib : HostLib) (devRecv header cmdSubmit transferBuffer cmdUnlink : Bytes) :
    Firmware where
  main := .logHandler
  listen := .absent
  network := false
  daemonTask := false
  classTask := false
  sockMutex := false
  listenSock := false
  listening := false
  httpServer := false
  aborted := false
  server := { Server.boot lib devRecv header cmdSubmit transferBuffer cmdUnlink with
    loopHandle := false }

def noteServer (_ : Firmware) (a : BootAction) (as : List Action) : List Action :=
  match a with
  | .server a => as ++ [a]
  | .main _ | .listen _ => as

structure Server.Unasked (s : Server) : Prop where
  loop1 : s.loop1 = ⟨[], .idle⟩
  queue : s.loop2.queue = []
  handlers : s.loop2.handlers = []
  inFlight : s.inFlight = []
  callback : s.callback = none

theorem Server.Unasked.not_loop1 {s t : Server} {a : Loop1Action} (hs : s.Unasked)
    (h : step s (.loop1 a) = some t) : False := by
  have hstep := (loop1Step h).2
  cases hstep <;> simp_all [hs.loop1]

theorem Server.Unasked.not_loop2 {s t : Server} {a : Loop2Action} (hs : s.Unasked)
    (h : step s (.loop2 a) = some t) : False := by
  have hqueue : ∀ (i : ℕ) (x : ℕ × Submit), s.loop2.queue[i]? ≠ some x := by
    intro i x
    rw [hs.queue]
    exact nofun
  have hhandlers : ∀ (j : ℕ) (x : ℕ × Handler2), s.loop2.handlers[j]? ≠ some x := by
    intro j x
    rw [hs.handlers]
    exact nofun
  cases (loop2Step_effect h).2 with
  | dispatch i l ev hi => exact hqueue i _ hi
  | noReply j l ev hj | fill j l ev heap hj | setSkt j l ev ret hj | noTransfer j l ev ret hj
  | alloc j l ev ret heap hj | control j l tr hj hep | pending j l tr hj hep hp
  | checked j l tr hj hep hp | build j l tr beyond hj | rejected j l tr hj
  | submitControl j l tr hj hc | submitBulk j l tr hj hc | setPending j l ep hj =>
    exact hhandlers j _ hj

theorem Server.Unasked.not_host {s t : Server} {a : HostAction} (hs : s.Unasked)
    (h : step s (.host a) = some t) : False := by
  have hcallback : ∀ c, s.callback ≠ some c := by
    intro c
    rw [hs.callback]
    exact nofun
  cases (hostStep_effect h).2 with
  | complete i tr status n data hcb hi =>
    rw [hs.inFlight] at hi
    cases hi
  | clear c hcb hcl | silent c heap r hcb hr | reply c conn heap r n hcb hskt hconn hnum hn hr =>
    exact hcallback c hcb

structure Server.Quiet (s : Server) : Prop where
  unasked : s.Unasked
  pc : s.tcp.pc = .accepting
  conn : s.conn = none
  busy : s.deviceBusy = false
  history : s.history = {}

/-- The places that the TCP task gets to without a loop to post to. -/
def TcpPc.unposted : TcpPc → Bool
  | .accepting | .begin | .outer | .command | .mode | .cleanupBusy | .cleanupEp1 | .cleanupEp2
  | .cleanupClose => true
  | _ => false

/-- There is no loop to post to: clients may have connected, and none has got a command through. -/
structure Server.Mute (s : Server) : Prop where
  handle : s.loopHandle = false
  pc : s.tcp.pc.unposted = true
  unasked : s.Unasked
  busy : s.deviceBusy = false
  commands : s.history.commands = []
  posted : s.history.posted = []
  sent : s.history.sent = []

theorem Server.Quiet.mute {s : Server} (hs : s.Quiet) (hloop : s.loopHandle = false) : s.Mute where
  handle := hloop
  pc := congrArg TcpPc.unposted hs.pc
  unasked := hs.unasked
  busy := hs.busy
  commands := congrArg History.commands hs.history
  posted := congrArg History.posted hs.history
  sent := congrArg History.sent hs.history

theorem driverStep_unasked {s t : Server} {b : DriverAction} (hs : s.Unasked)
    (h : step s (.driver b) = some t) :
    t.Unasked ∧ t.conn = s.conn ∧ (s.deviceBusy = false → t.deviceBusy = false) ∧
      t.history = s.history ∧ t.loopHandle = s.loopHandle ∧ t.tcp = s.tcp := by
  obtain ⟨-, -, d, e, -, rfl⟩ := driverStep_effect h
  obtain ⟨hloop1, hqueue, hhandlers, hinFlight, hcallback⟩ := hs
  cases e with
  | none | newLoop | abort =>
    exact ⟨⟨hloop1, hqueue, hhandlers, hinFlight, hcallback⟩, rfl, id, rfl, rfl, rfl⟩
  | clearBusy =>
    exact ⟨⟨hloop1, hqueue, hhandlers, hinFlight, hcallback⟩, rfl, fun _ => rfl, rfl, rfl, rfl⟩

theorem Server.Quiet.step {s t : Server} {a : Action} (hs : s.Quiet) (ha : ∀ b, a ≠ .tcp b)
    (h : step s a = some t) : (∃ b, a = .driver b) ∧ t.Quiet := by
  cases a with
  | tcp b => exact absurd rfl (ha b)
  | loop1 b => exact (hs.unasked.not_loop1 h).elim
  | loop2 b => exact (hs.unasked.not_loop2 h).elim
  | host b => exact (hs.unasked.not_host h).elim
  | driver b =>
    obtain ⟨hunasked, hconn, hbusy, hhistory, -, htcp⟩ := driverStep_unasked hs.unasked h
    exact ⟨⟨b, rfl⟩, hunasked, htcp.symm ▸ hs.pc, hconn.trans hs.conn, hbusy hs.busy,
      hhistory.trans hs.history⟩

theorem Server.Mute.of_same {s t : Server} (hs : s.Mute) (hpc : t.tcp.pc.unposted = true)
    (hhandle : t.loopHandle = s.loopHandle) (hloop1 : t.loop1 = s.loop1)
    (hloop2 : t.loop2 = s.loop2) (hinFlight : t.inFlight = s.inFlight)
    (hcallback : t.callback = s.callback) (hbusy : t.deviceBusy = false)
    (hcommands : t.history.commands = s.history.commands)
    (hposted : t.history.posted = s.history.posted) (hsent : t.history.sent = s.history.sent) :
    t.Mute where
  handle := hhandle.trans hs.handle
  pc := hpc
  unasked :=
    ⟨hloop1.trans hs.unasked.loop1, (congrArg Loop2.queue hloop2).trans hs.unasked.queue,
      (congrArg Loop2.handlers hloop2).trans hs.unasked.handlers,
      hinFlight.trans hs.unasked.inFlight, hcallback.trans hs.unasked.callback⟩
  busy := hbusy
  commands := hcommands.trans hs.commands
  posted := hposted.trans hs.posted
  sent := hsent.trans hs.sent

theorem Server.Mute.goto {s : Server} {pc : TcpPc} (hs : s.Mute) (hpc : pc.unposted = true) :
    (s.goto pc).Mute := hs.of_same hpc rfl rfl rfl rfl rfl hs.busy rfl rfl rfl

/-- `do_recv` breaks off at the first command it could post. -/
theorem TcpStep.mute {s t : Server} {a : TcpAction} (h : TcpStep s a t) (hs : s.Mute) :
    t.Mute := by
  have hpc := hs.pc
  cases h with
  | acceptFailed stream hold => exact hs.of_same hpc rfl rfl rfl rfl rfl hs.busy rfl rfl rfl
  | accept number stream hold => exact hs.of_same rfl rfl rfl rfl rfl rfl hs.busy rfl rfl rfl
  | begin hold | commandAgain r conn hold hrecv | commandEnds r conn o hold hrecv ho
  | leaveMode hold hbusy => exact hs.goto rfl
  | outer hold =>
    rw [hs.busy]
    exact hs.goto rfl
  | command r conn bytes hold hrecv hbytes =>
    refine hs.of_same ?_ rfl rfl rfl rfl rfl hs.busy rfl rfl rfl
    have hnext : commandNext s (overwrite bytes s.tcp.devRecv) = .cleanupBusy ∨
        commandNext s (overwrite bytes s.tcp.devRecv) = .mode := by
      rw [commandNext, hs.handle]
      by_cases hversion : ofBe16 (overwrite bytes s.tcp.devRecv) = usbipVersion
      · rw [if_pos hversion, if_neg Bool.false_ne_true]
        exact .inl rfl
      · rw [if_neg hversion]
        exact .inr rfl
    rcases hnext with hnext | hnext <;> exact congrArg TcpPc.unposted hnext
  | enterUrb hold hbusy =>
    rw [hs.busy] at hbusy
    cases hbusy
  | cleanupBusy hold => exact hs.of_same rfl rfl rfl rfl rfl rfl rfl rfl rfl rfl
  | cleanupEp1 hold | cleanupEp2 hold | close hold =>
    exact hs.of_same rfl rfl rfl rfl rfl rfl hs.busy rfl rfl rfl
  | postCommand hold | postCommandFailed hold | importWait n hold | urbAgain r conn hold hrecv
  | urbFailed r conn hold hrecv | urbClosed r conn hold hrecv | urbHeader r conn bytes hold hrecv hb
  | clientGone hold | submitBody r conn bytes hold hrecv | payload r conn bytes hold hrecv
  | postSubmit hold hcount | postSubmitFailed hold | unlinkBody r conn bytes hold hrecv
  | unlinkBodyFailed r conn o hold hrecv ho | unlinkReply c r n hold hc hn hr
  | unlinkReplyFailed hold =>
    rw [hold] at hpc
    cases hpc
  | bodyFailed r conn o want hold hrecv ho =>
    rcases hold with ⟨hold, -⟩ | ⟨hold, -⟩ <;>
      · rw [hold] at hpc
        cases hpc

theorem Server.Mute.step {s t : Server} {a : Action} (hs : s.Mute) (h : step s a = some t) :
    t.Mute := by
  cases a with
  | tcp b => exact (tcpStep h).2.mute hs
  | loop1 b => exact (hs.unasked.not_loop1 h).elim
  | loop2 b => exact (hs.unasked.not_loop2 h).elim
  | host b => exact (hs.unasked.not_host h).elim
  | driver b =>
    obtain ⟨hunasked, -, hbusy, hhistory, hhandle, htcp⟩ := driverStep_unasked hs.unasked h
    refine ⟨hhandle.trans hs.handle, htcp.symm ▸ hs.pc, hunasked, hbusy hs.busy, ?_, ?_, ?_⟩
    · rw [hhistory, hs.commands]
    · rw [hhistory, hs.posted]
    · rw [hhistory, hs.sent]

def MainPc.rank : MainPc → ℕ
  | .logHandler => 0
  | .nvsFlash => 1
  | .netif => 2
  | .eventLoop => 3
  | .connect => 4
  | .usbipLoop => 5
  | .daemonTask => 6
  | .classTask => 7
  | .tcpTask => 8
  | .http => 9
  | .done => 10

def ListenPc.locks : ListenPc → Bool
  | .socket | .bind | .listen | .serving | .cleanUp => true
  | .absent | .mutex | .deleted => false

def ListenPc.holds : ListenPc → Bool
  | .bind | .listen | .serving | .cleanUp => true
  | .absent | .mutex | .socket | .deleted => false

structure Firmware.InOrder (f : Firmware) : Prop where
  network : MainPc.connect.rank < f.main.rank → f.network = true
  loop : f.server.loopHandle = true → MainPc.usbipLoop.rank < f.main.rank
  classTask : f.classTask = true → MainPc.classTask.rank < f.main.rank
  tcpTask : f.listen ≠ .absent → MainPc.tcpTask.rank < f.main.rank
  sockMutex : f.listen.locks = true → f.sockMutex = true
  listenSock : f.listenSock = f.listen.holds
  listening : f.listen = .serving → f.listening = true
  quiet : f.listen ≠ .serving → f.server.Quiet
  mute : f.server.loopHandle = false → f.server.Mute

theorem reset_inOrder (lib : HostLib)
    (devRecv header cmdSubmit transferBuffer cmdUnlink : Bytes) :
    (Firmware.reset lib devRecv header cmdSubmit transferBuffer cmdUnlink).InOrder := by
  have hquiet : (Firmware.reset lib devRecv header cmdSubmit transferBuffer
      cmdUnlink).server.Quiet := ⟨⟨rfl, rfl, rfl, rfl, rfl⟩, rfl, rfl, rfl, rfl⟩
  exact ⟨nofun, nofun, nofun, fun h => absurd rfl h, nofun, rfl, nofun, fun _ => hquiet,
    fun _ => hquiet.mute rfl⟩

theorem Firmware.InOrder.absent {f : Firmware} (hf : f.InOrder)
    (hmain : f.main.rank ≤ MainPc.tcpTask.rank) : f.listen = .absent := by
  by_contra hlisten
  exact absurd (hf.tcpTask hlisten) (not_lt.2 hmain)

theorem Firmware.InOrder.advance {f g : Firmware} (hf : f.InOrder) (hlisten : g.listen = f.listen)
    (hmutex : g.sockMutex = f.sockMutex) (hsock : g.listenSock = f.listenSock)
    (hlistening : g.listening = f.listening) (hserver : g.server = f.server)
    (hrank : f.main.rank ≤ g.main.rank)
    (hnetwork : MainPc.connect.rank < g.main.rank → g.network = true)
    (hclass : g.classTask = true → MainPc.classTask.rank < g.main.rank) : g.InOrder where
  network := hnetwork
  loop h := (hf.loop (hserver ▸ h)).trans_le hrank
  classTask := hclass
  tcpTask h := (hf.tcpTask (hlisten ▸ h)).trans_le hrank
  sockMutex h := hmutex.trans (hf.sockMutex (hlisten ▸ h))
  listenSock := by rw [hsock, hlisten, hf.listenSock]
  listening h := hlistening.trans (hf.listening (hlisten ▸ h))
  quiet h := hserver.symm ▸ hf.quiet (hlisten ▸ h)
  mute h := hserver.symm ▸ hf.mute (hserver ▸ h)

theorem Firmware.InOrder.check {f : Firmware} (hf : f.InOrder) (ok : Bool) {next : MainPc}
    (hrank : f.main.rank ≤ next.rank) (hnext : next.rank ≤ MainPc.connect.rank) :
    (f.check ok next).InOrder := by
  have hclass : f.classTask = true → MainPc.classTask.rank < next.rank := fun h =>
    (hf.classTask h).trans_le hrank
  cases ok with
  | true => exact hf.advance rfl rfl rfl rfl rfl hrank (fun h => absurd h (not_lt.2 hnext)) hclass
  | false => exact hf.advance rfl rfl rfl rfl rfl le_rfl hf.network hf.classTask

theorem Server.Quiet.setHandle {s : Server} (hs : s.Quiet) (ok : Bool) :
    Server.Quiet { s with loopHandle := ok } := by
  obtain ⟨⟨hloop1, hqueue, hhandlers, hinFlight, hcallback⟩, hpc, hconn, hbusy, hhistory⟩ := hs
  exact ⟨⟨hloop1, hqueue, hhandlers, hinFlight, hcallback⟩, hpc, hconn, hbusy, hhistory⟩

theorem appMain_inOrder {f g : Firmware} {ok : Bool} (hf : f.InOrder)
    (h : appMain f ok = some g) : g.InOrder := by
  have hclass : f.main.rank ≤ MainPc.classTask.rank → f.classTask ≠ true := fun hrank h =>
    absurd (hf.classTask h) (not_lt.2 hrank)
  unfold appMain at h
  split at h
  case h_1 hmain =>
    obtain rfl := Option.some.inj h
    have hrank : f.main.rank ≤ MainPc.nvsFlash.rank := by rw [hmain]; decide
    have hearly : ¬ MainPc.connect.rank < MainPc.nvsFlash.rank := by decide
    exact hf.advance rfl rfl rfl rfl rfl hrank (fun h => absurd h hearly)
      fun h => absurd h (hclass (by rw [hmain]; decide))
  case h_2 hmain | h_3 hmain | h_4 hmain =>
    obtain rfl := Option.some.inj h
    exact hf.check ok (by rw [hmain]; decide) (by decide)
  case h_5 hmain =>
    obtain rfl := Option.some.inj h
    have hrank : f.main.rank ≤ MainPc.usbipLoop.rank := by rw [hmain]; decide
    have hnone : f.classTask ≠ true := hclass (by rw [hmain]; decide)
    cases ok with
    | true =>
      exact hf.advance rfl rfl rfl rfl rfl hrank (fun _ => rfl) fun h => absurd h hnone
    | false =>
      refine hf.advance rfl rfl rfl rfl rfl le_rfl (fun h => ?_) hf.classTask
      have hpast : MainPc.connect.rank < f.main.rank := h
      rw [hmain] at hpast
      exact absurd hpast (lt_irrefl _)
  case h_6 hmain =>
    obtain rfl := Option.some.inj h
    have habsent : f.listen = .absent := hf.absent (by rw [hmain]; decide)
    have hnetwork : f.network = true := hf.network (by rw [hmain]; decide)
    have hnone : f.classTask ≠ true := hclass (by rw [hmain]; decide)
    have hpast : MainPc.usbipLoop.rank < MainPc.daemonTask.rank := by decide
    have hquiet := (hf.quiet (by rw [habsent]; decide)).setHandle ok
    exact ⟨fun _ => hnetwork, fun _ => hpast, fun h => absurd h hnone,
      fun h => absurd habsent h, hf.sockMutex, hf.listenSock, hf.listening, fun _ => hquiet,
      hquiet.mute⟩
  case h_7 hmain =>
    obtain rfl := Option.some.inj h
    have hrank : f.main.rank ≤ MainPc.classTask.rank := by rw [hmain]; decide
    exact hf.advance rfl rfl rfl rfl rfl hrank (fun _ => hf.network (by rw [hmain]; decide))
      fun h => absurd h (hclass (by rw [hmain]; decide))
  case h_8 hmain =>
    obtain rfl := Option.some.inj h
    have hrank : f.main.rank ≤ MainPc.tcpTask.rank := by rw [hmain]; decide
    have hpast : MainPc.classTask.rank < MainPc.tcpTask.rank := by decide
    exact hf.advance rfl rfl rfl rfl rfl hrank (fun _ => hf.network (by rw [hmain]; decide))
      fun _ => hpast
  case h_9 hmain =>
    obtain rfl := Option.some.inj h
    have habsent : f.listen = .absent := hf.absent (by rw [hmain])
    have hnetwork : f.network = true := hf.network (by rw [hmain]; decide)
    have hquiet : f.server.Quiet := hf.quiet (by rw [habsent]; decide)
    have hsock : f.listenSock = false := by rw [hf.listenSock, habsent]; rfl
    have hpast : ∀ pc : MainPc, pc.rank ≤ MainPc.tcpTask.rank → pc.rank < MainPc.http.rank :=
      fun pc hpc => hpc.trans_lt (by decide)
    cases ok with
    | true =>
      exact ⟨fun _ => hnetwork, fun _ => hpast .usbipLoop (by decide),
        fun _ => hpast .classTask (by decide), fun _ => hpast .tcpTask le_rfl, nofun, hsock, nofun,
        fun _ => hquiet, hquiet.mute⟩
    | false =>
      exact ⟨fun _ => hnetwork, fun _ => hpast .usbipLoop (by decide),
        fun _ => hpast .classTask (by decide), fun _ => hpast .tcpTask le_rfl, nofun, hsock, nofun,
        fun _ => hquiet, hquiet.mute⟩
  case h_10 hmain =>
    obtain rfl := Option.some.inj h
    have hrank : f.main.rank ≤ MainPc.done.rank := by rw [hmain]; decide
    have hpast : MainPc.classTask.rank < MainPc.done.rank := by decide
    exact hf.advance rfl rfl rfl rfl rfl hrank (fun _ => hf.network (by rw [hmain]; decide))
      fun _ => hpast
  case h_11 => cases h

theorem Firmware.InOrder.setUp {f g : Firmware} (hf : f.InOrder) (hcreated : f.listen ≠ .absent)
    (hwaits : f.listen ≠ .serving) (hmain : g.main = f.main) (hnetwork : g.network = f.network)
    (hclass : g.classTask = f.classTask) (hserver : g.server = f.server)
    (hmutex : g.listen.locks = true → g.sockMutex = true)
    (hsock : g.listenSock = g.listen.holds)
    (hlistening : g.listen = .serving → g.listening = true) : g.InOrder where
  network h := hnetwork.trans (hf.network (hmain ▸ h))
  loop h := hmain.symm ▸ hf.loop (hserver ▸ h)
  classTask h := hmain.symm ▸ hf.classTask (hclass ▸ h)
  tcpTask _ := hmain.symm ▸ hf.tcpTask hcreated
  sockMutex := hmutex
  listenSock := hsock
  listening := hlistening
  quiet _ := hserver.symm ▸ hf.quiet hwaits
  mute h := hserver.symm ▸ hf.mute (hserver ▸ h)

theorem listenStep_inOrder {f g : Firmware} {ok : Bool} (hf : f.InOrder)
    (h : listenStep f ok = some g) : g.InOrder := by
  have hmutex : f.listen.locks = true → f.sockMutex = true := hf.sockMutex
  have hsock : f.listenSock = f.listen.holds := hf.listenSock
  unfold listenStep at h
  split at h
  case h_1 hlisten | h_2 hlisten | h_3 hlisten | h_4 hlisten | h_5 hlisten =>
    obtain rfl := Option.some.inj h
    rw [hlisten] at hmutex hsock
    have hcreated : f.listen ≠ .absent := by rw [hlisten]; decide
    have hwaits : f.listen ≠ .serving := by rw [hlisten]; decide
    refine hf.setUp hcreated hwaits rfl rfl rfl rfl ?_ ?_ ?_ <;> cases ok <;>
      simp_all [ListenPc.locks, ListenPc.holds]
  case h_6 | h_7 | h_8 => cases h

theorem step_loopHandle {s t : Server} {a : Action} (h : step s a = some t) :
    t.loopHandle = s.loopHandle := by
  cases a with
  | tcp a =>
    obtain ⟨-, heff⟩ := tcpStep_effect h
    cases heff <;> rfl
  | loop1 a =>
    obtain ⟨-, heff⟩ := loop1Step_effect h
    cases heff <;> rfl
  | loop2 a =>
    obtain ⟨-, heff⟩ := loop2Step_effect h
    cases heff <;> rfl
  | host a =>
    obtain ⟨-, heff⟩ := hostStep_effect h
    cases heff <;> rfl
  | driver a =>
    obtain ⟨-, -, d, e, -, rfl⟩ := driverStep_effect h
    cases e <;> rfl

theorem serverStep_inOrder {f : Firmware} {a : Action} {s : Server} (hf : f.InOrder)
    (hruns : f.runs a = true) (h : step f.server a = some s) :
    Firmware.InOrder { f with server := s } := by
  have hloop : s.loopHandle = f.server.loopHandle := step_loopHandle h
  refine ⟨hf.network, fun h => hf.loop (hloop ▸ h), hf.classTask, hf.tcpTask, hf.sockMutex,
    hf.listenSock, hf.listening, fun hwaits => ?_, fun hnone => ?_⟩
  · refine ((hf.quiet hwaits).step ?_ h).2
    rintro b rfl
    exact hwaits (of_decide_eq_true hruns)
  · exact (hf.mute (hloop ▸ hnone)).step h

inductive BootStep (f : Firmware) : BootAction → Firmware → Prop
  | main (ok : Bool) (g : Firmware) (hmain : appMain f ok = some g) : BootStep f (.main ok) g
  | listen (ok : Bool) (g : Firmware) (hlisten : listenStep f ok = some g) :
      BootStep f (.listen ok) g
  | server (a : Action) (s : Server) (hruns : f.runs a = true) (hstep : step f.server a = some s) :
      BootStep f (.server a) { f with server := s }

theorem bootStep_cases {f g : Firmware} {a : BootAction} (h : bootStep f a = some g) :
    BootStep f a g := by
  unfold bootStep at h
  rw [Option.ite_none_left_eq_some] at h
  cases a with
  | main ok => exact .main ok g h.2
  | listen ok => exact .listen ok g h.2
  | server a =>
    obtain ⟨hruns, hmap⟩ := Option.ite_none_right_eq_some.1 h.2
    obtain ⟨s, hs, rfl⟩ := Option.map_eq_some_iff.1 hmap
    exact .server a s hruns hs

theorem bootStep_inOrder {f g : Firmware} {a : BootAction} (hf : f.InOrder)
    (h : bootStep f a = some g) : g.InOrder := by
  cases bootStep_cases h with
  | main ok g hmain => exact appMain_inOrder hf hmain
  | listen ok g hlisten => exact listenStep_inOrder hf hlisten
  | server a s hruns hstep => exact serverStep_inOrder hf hruns hstep

theorem check_server (f : Firmware) (ok : Bool) (next : MainPc) :
    (f.check ok next).server = f.server := by
  cases ok <;> rfl

theorem check_rank {f : Firmware} {next : MainPc} (ok : Bool) (h : f.main.rank ≤ next.rank) :
    f.main.rank ≤ (f.check ok next).main.rank := by
  cases ok with
  | true => exact h
  | false => exact le_rfl

theorem appMain_server {f g : Firmware} {ok : Bool} (h : appMain f ok = some g) :
    (g.server = f.server ∧ f.main.rank ≤ g.main.rank) ∨
      (f.main = .usbipLoop ∧ g.server = { f.server with loopHandle := ok } ∧
        MainPc.usbipLoop.rank < g.main.rank) := by
  unfold appMain at h
  split at h
  case h_2 hmain | h_3 hmain | h_4 hmain | h_5 hmain =>
    obtain rfl := Option.some.inj h
    exact .inl ⟨check_server f ok _, check_rank ok (by rw [hmain]; decide)⟩
  case h_6 hmain =>
    obtain rfl := Option.some.inj h
    have hpast : MainPc.usbipLoop.rank < MainPc.daemonTask.rank := by decide
    exact .inr ⟨hmain, rfl, hpast⟩
  case h_1 hmain | h_7 hmain | h_8 hmain | h_9 hmain | h_10 hmain =>
    obtain rfl := Option.some.inj h
    refine .inl ⟨rfl, ?_⟩
    simp only [hmain, MainPc.rank]
    omega
  case h_11 => cases h

theorem listenStep_same {f g : Firmware} {ok : Bool} (h : listenStep f ok = some g) :
    g.main = f.main ∧ g.server = f.server := by
  unfold listenStep at h
  split at h
  case h_1 | h_2 | h_3 | h_4 | h_5 =>
    obtain rfl := Option.some.inj h
    exact ⟨rfl, rfl⟩
  case h_6 | h_7 | h_8 => cases h

/-- The server is the one of `boot` after its steps `as`, and has taken none before
`usbip_server_init` sets `loop_handle`. -/
structure Firmware.Runs (boot : Server) (f : Firmware) (as : List Action) : Prop where
  order : f.InOrder
  before : f.main.rank ≤ MainPc.usbipLoop.rank →
    f.server = { boot with loopHandle := false } ∧ as = []
  after : f.server.loopHandle = true → run boot as = some f.server

/-- No task that steps the server exists before `loop_handle` is set. -/
theorem Firmware.InOrder.not_runs {f : Firmware} (hf : f.InOrder)
    (hmain : f.main.rank ≤ MainPc.usbipLoop.rank) (hcount : f.server.loop2.count = 0)
    (a : Action) : f.runs a = false := by
  have hclass : f.classTask = false := by
    by_contra hclass
    rw [Bool.not_eq_false] at hclass
    exact absurd (hf.classTask hclass) (not_lt.2 (hmain.trans (by decide)))
  have habsent : f.listen = .absent := hf.absent (hmain.trans (by decide))
  cases a with
  | tcp a => simp [Firmware.runs, habsent]
  | loop1 a =>
    by_contra hloop
    rw [Bool.not_eq_false] at hloop
    exact absurd (hf.loop hloop) (not_lt.2 hmain)
  | loop2 a => simp [Firmware.runs, hcount]
  | host a => exact hclass
  | driver a => simp [Firmware.runs, hclass]

theorem Firmware.Runs.step {boot : Server} {f g : Firmware} {as : List Action} {a : BootAction}
    (hf : f.Runs boot as) (hloop : boot.loopHandle = true) (hcount : boot.loop2.count = 0)
    (h : bootStep f a = some g) : g.Runs boot (noteServer f a as) := by
  have horder : g.InOrder := bootStep_inOrder hf.order h
  cases bootStep_cases h with
  | main ok g hmain =>
    rcases appMain_server hmain with ⟨hserver, hrank⟩ | ⟨hpc, hserver, hrank⟩
    · exact ⟨horder, fun h => hserver.symm ▸ hf.before (hrank.trans h),
        fun h => hserver.symm ▸ hf.after (hserver ▸ h)⟩
    · obtain ⟨hboot, rfl⟩ := hf.before (by rw [hpc])
      refine ⟨horder, fun h => absurd hrank (not_lt.2 h), fun h => ?_⟩
      rw [hserver] at h
      obtain rfl : ok = true := h
      rw [hserver, hboot, ← hloop]
      rfl
  | listen ok g hlisten =>
    obtain ⟨hmain, hserver⟩ := listenStep_same hlisten
    exact ⟨horder, fun h => hserver.symm ▸ hf.before (hmain ▸ h),
      fun h => hserver.symm ▸ hf.after (hserver ▸ h)⟩
  | server b s hruns hstep =>
    refine ⟨horder, fun h => ?_, fun h => ?_⟩
    · have hzero : f.server.loop2.count = 0 := by rw [(hf.before h).1, hcount]
      exact absurd hruns (by rw [hf.order.not_runs h hzero b]; exact Bool.false_ne_true)
    · have hboot : run boot as = some f.server := hf.after ((step_loopHandle hstep) ▸ h)
      exact exec_append.2 ⟨f.server, hboot, exec_cons.2 ⟨s, hstep, exec_nil s⟩⟩

/-- What the firmware has when a task takes a step: the network; and where the task may use a socket
or the mutex of `tcp_send_locked`, both of them. -/
def Firmware.Provided (f : Firmware) : BootAction → Prop
  | .server (.driver _) => f.network = true
  | .server _ =>
      f.network = true ∧ f.sockMutex = true ∧ f.listenSock = true ∧ f.listening = true
  | .main _ | .listen _ => True

theorem Firmware.InOrder.serving {f : Firmware} (hf : f.InOrder) (hserving : f.listen = .serving) :
    f.network = true ∧ f.sockMutex = true ∧ f.listenSock = true ∧ f.listening = true := by
  have hcreated : MainPc.tcpTask.rank < f.main.rank := hf.tcpTask (by rw [hserving]; decide)
  have hnetwork : MainPc.connect.rank < f.main.rank := hcreated.trans_le' (by decide)
  have hsock : f.listenSock = true := by rw [hf.listenSock, hserving]; rfl
  exact ⟨hf.network hnetwork, hf.sockMutex (by rw [hserving]; rfl), hsock, hf.listening hserving⟩

theorem Firmware.InOrder.provided {f g : Firmware} {a : BootAction} (hf : f.InOrder)
    (h : bootStep f a = some g) : f.Provided a := by
  have hasked : ∀ b s, step f.server b = some s → (∀ c, b ≠ .tcp c) → (∀ c, b ≠ .driver c) →
      f.listen = .serving := by
    intro b s hstep htcp hdriver
    by_contra hwaits
    obtain ⟨⟨c, rfl⟩, -⟩ := (hf.quiet hwaits).step htcp hstep
    exact hdriver c rfl
  cases bootStep_cases h with
  | main ok g hmain => trivial
  | listen ok g hlisten => trivial
  | server b s hruns hstep =>
    cases b with
    | tcp b => exact hf.serving (of_decide_eq_true hruns)
    | loop1 b => exact hf.serving (hasked _ s hstep nofun nofun)
    | loop2 b => exact hf.serving (hasked _ s hstep nofun nofun)
    | host b => exact hf.serving (hasked _ s hstep nofun nofun)
    | driver b =>
      have hclass : f.classTask = true := (Bool.and_eq_true_iff.1 hruns).1
      have hpast : MainPc.connect.rank < f.main.rank :=
        (hf.classTask hclass).trans_le' (by decide)
      exact hf.network hpast

/-- From a reset on, whatever fails: no task uses a socket or the mutex of `tcp_send_locked` before
they exist; the server, once its event loop exists, is the one whose runs begin at `Server.boot`;
without the loop no command gets through, and without a listening socket nobody connects. -/
theorem firmware_starts_server {lib : HostLib}
    {devRecv header cmdSubmit transferBuffer cmdUnlink : Bytes} {as : List BootAction}
    {f : Firmware} {bs : List Action}
    (hrun : exec (watch bootStep noteServer)
      (.reset lib devRecv header cmdSubmit transferBuffer cmdUnlink, []) as = some (f, bs)) :
    Always bootStep Firmware.Provided
        (.reset lib devRecv header cmdSubmit transferBuffer cmdUnlink) as ∧
      (f.server.loopHandle = true →
        run (.boot lib devRecv header cmdSubmit transferBuffer cmdUnlink) bs = some f.server) ∧
      (f.server.loopHandle = false → f.server.Mute) ∧
      (f.listen ≠ .serving → f.server.Quiet) ∧ f.listenSock = f.listen.holds := by
  have hreset := reset_inOrder lib devRecv header cmdSubmit transferBuffer cmdUnlink
  have hprovided : Always bootStep Firmware.Provided
      (.reset lib devRecv header cmdSubmit transferBuffer cmdUnlink) as :=
    Always.of_taken (I := Firmware.InOrder) (P := fun _ _ => True)
      (fun f a g hf _ h => bootStep_inOrder hf h) (fun f a g hf _ h => hf.provided h) hreset
      (.of_forall (fun _ _ => trivial) _ _) (exec_of_watch hrun)
  have hstart : (Firmware.reset lib devRecv header cmdSubmit transferBuffer cmdUnlink).Runs
      (.boot lib devRecv header cmdSubmit transferBuffer cmdUnlink) [] :=
    ⟨hreset, fun _ => ⟨rfl, rfl⟩, nofun⟩
  have hruns : f.Runs (.boot lib devRecv header cmdSubmit transferBuffer cmdUnlink) bs :=
    watch_invariant (I := fun f bs =>
        f.Runs (.boot lib devRecv header cmdSubmit transferBuffer cmdUnlink) bs)
      (P := fun _ _ => True) (fun f bs a g hf _ h => hf.step rfl rfl h) hstart
      (.of_forall (fun _ _ => trivial) _ _) hrun
  exact ⟨hprovided, hruns.after, hruns.order.mute, hruns.order.quiet, hruns.order.listenSock⟩

def starting : List BootAction :=
  List.replicate 9 (.main true) ++ .listen true :: keyboardEnumeration.map BootAction.server ++
    [.listen true, .main true, .listen true, .listen true]

def firstClient : List Action :=
  [.tcp (.accept (some 3) (requestHeader opReqDevlist 0)), .tcp .run, .tcp .run,
    .tcp (.recv (.data 8)), .tcp (.post true), .loop1 .dispatch,
    .loop1 (.devlist [⟨0, 0, 0, 0⟩] .full)]

theorem firmware_starts_server_firstClient : ∃ f bs,
    exec (watch bootStep noteServer) (.reset idfLibrary [] [] [] [] [], [])
        (starting ++ firstClient.map BootAction.server) = some (f, bs) ∧
      run coldBoot bs = some f.server ∧ f.server.history.sent.length = 1 := by
  have hrun : (exec (watch bootStep noteServer) (.reset idfLibrary [] [] [] [] [], [])
      (starting ++ firstClient.map BootAction.server)).map (fun x =>
        (x.1.server.loopHandle, x.1.server.history.sent.length)) = some (true, 1) := by
    decide +kernel
  obtain ⟨⟨f, bs⟩, hf, hend⟩ := Option.map_eq_some_iff.1 hrun
  simp only [Prod.mk.injEq] at hend
  obtain ⟨-, hboot, -⟩ := firmware_starts_server hf
  exact ⟨f, bs, hf, hboot hend.1, hend.2⟩

end UsbRepeater
