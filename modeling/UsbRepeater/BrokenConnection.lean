import UsbRepeater.Termination

/-! A connection that breaks. In command mode a failing receive ends the connection; in the inner
loop it leads back to the test of `device_busy`, and with the flag still set into the inner loop
again. -/
namespace UsbRepeater

open Schedule

/-- Every receive of `do_recv` fails, and no other client comes. -/
def Broken (_ : Server) : Action → Prop
  | .tcp (.accept _ _) => False
  | .tcp (.recv r) => r = .error
  | _ => True

instance (s : Server) : ∀ a, Decidable (Broken s a)
  | .tcp (.accept _ _) => isFalse id
  | .tcp (.recv r) => inferInstanceAs (Decidable (r = .error))
  | .tcp .run | .tcp (.post _) | .tcp (.send _) | .loop1 _ | .loop2 _ | .host _
  | .driver _ => isTrue trivial

theorem Broken.ne_accept {s : Server} {a : Action} (h : Broken s a) (number : Option ℕ)
    (stream : Bytes) : a ≠ .tcp (.accept number stream) := by
  rintro rfl
  exact h

structure Server.NoImportComing (s : Server) : Prop where
  pending : s.pendingImports = []
  posting : s.tcp.pc = .postCommand → (commandEvent s).eventId ≠ opReqImport

/-- Once the connection is broken, `do_recv` takes a bounded number of steps, goes on until it is
done, and has then cleaned up. -/
def Server.GivesUp (s : Server) : Prop :=
  ∃ n, ∀ as t done, exec (watch step noteCleanup) (s, s.tcp.pc.cleaned) as = some (t, done) →
    Always step Broken s as →
      as.countP Action.isTcp ≤ n ∧
        (t.tcp.pc ≠ .accepting → t.crashed = false →
          ∃ a, Broken t (.tcp a) ∧ (step t (.tcp a)).isSome = true) ∧
        (t.tcp.pc = .accepting →
          done = [.clearBusy, .clearEp1, .clearEp2, .closeSocket] ∧
            t.conn = none ∧ t.tcp.sock = -1)

/-- The places from which `do_recv` clears `device_busy` whatever its value. -/
def TcpPc.leaves : TcpPc → Bool
  | .command | .urbClosed | .cleanupBusy | .cleanupEp1 | .cleanupEp2 | .cleanupClose
  | .accepting => true
  | _ => false

structure Server.Ending (s : Server) : Prop where
  noImport : s.NoImportComing
  flag : s.deviceBusy = false ∨ s.tcp.pc.leaves = true

theorem Broken.no_bytes {s : Server} {r : RecvResult} (h : Broken s (.tcp (.recv r)))
    {conn conn' : Option Conn} {sock : ℤ} {want : ℕ} {bytes : Bytes} :
    sockRecv conn sock want r ≠ some (conn', .got bytes) := by
  intro hrecv
  obtain rfl : r = .error := h
  rw [sockRecv_error] at hrecv
  cases hrecv

theorem TcpStep.deviceBusy_eq_false {s t : Server} {a : TcpAction} (h : TcpStep s a t)
    (hs : s.deviceBusy = false) : t.deviceBusy = false := by
  cases h with
  | clientGone => rfl
  | cleanupBusy => rfl
  | _ => exact hs

theorem TcpStep.ne_postCommand {s t : Server} {a : TcpAction} (h : TcpStep s a t)
    (ha : Broken s (.tcp a)) : t.tcp.pc ≠ .postCommand := by
  intro hpc
  cases h with
  | acceptFailed stream hold => exact absurd (hold.symm.trans hpc) (by decide)
  | outer | postCommand | postCommandFailed | importWait =>
    simp only [Server.goto] at hpc
    split_ifs at hpc
  | command r conn bytes hold hrecv => exact ha.no_bytes hrecv
  | urbAgain r conn hold => exact absurd (hold.symm.trans hpc) (by decide)
  | urbHeader r conn bytes hold hrecv => exact ha.no_bytes hrecv
  | submitBody r conn bytes hold hrecv => exact ha.no_bytes hrecv
  | payload r conn bytes hold hrecv => exact ha.no_bytes hrecv
  | _ => cases hpc

theorem TcpStep.ending {s t : Server} {a : TcpAction} (h : TcpStep s a t)
    (ha : Broken s (.tcp a)) (hs : s.Ending) : t.Ending := by
  have hpending := h.pendingImports hs.noImport.posting
  refine ⟨⟨hpending.trans hs.noImport.pending, fun hpc => absurd hpc (h.ne_postCommand ha)⟩, ?_⟩
  rcases hs.flag with hbusy | hleaves
  · exact .inl (h.deviceBusy_eq_false hbusy)
  · cases h with
    | acceptFailed => exact absurd ha id
    | accept => exact absurd ha id
    | commandEnds => exact .inr rfl
    | clientGone => exact .inl rfl
    | cleanupBusy => exact .inl rfl
    | cleanupEp1 => exact .inr rfl
    | cleanupEp2 => exact .inr rfl
    | close => exact .inr rfl
    | commandAgain r conn hpc hrecv =>
      obtain rfl : r = .error := ha
      rw [sockRecv_error] at hrecv
      cases hrecv
    | command r conn bytes hpc hrecv => exact absurd hrecv ha.no_bytes
    | bodyFailed r conn o want hpc =>
      rcases hpc with ⟨hpc, -⟩ | ⟨hpc, -⟩ <;> rw [hpc] at hleaves <;> cases hleaves
    | _ => simp_all [TcpPc.leaves]

theorem step_ending {s t : Server} {a : Action} (ha : Broken s a) (hs : s.Ending)
    (h : step s a = some t) : t.Ending := by
  rcases step_tcp_or_other h with ⟨b, rfl, hstep⟩ | ⟨hother, heq⟩
  · exact hstep.ending ha hs
  · obtain ⟨hpending, -, hbusy⟩ := step_no_import hs.noImport.pending hother h
    refine ⟨⟨hpending, fun hpc => ?_⟩, ?_⟩
    · rw [heq] at hpc
      have hcode := hs.noImport.posting hpc
      simpa only [commandEvent, heq] using hcode
    · rw [heq]
      rcases hbusy with hsame | hclear
      · rw [hsame]
        exact hs.flag
      · exact .inl hclear

theorem broken_enabled {s : Server} (hrunning : s.crashed = false) (hpc : s.tcp.pc ≠ .accepting) :
    ∃ a, Broken s (.tcp a) ∧ (step s (.tcp a)).isSome = true := by
  cases hplace : s.tcp.pc with
  | accepting => exact absurd hplace hpc
  | command | urbHeader | submitBody | payload | unlinkBody =>
    refine ⟨.recv .error, rfl, ?_⟩
    simp [step, hrunning, hplace, doRecv, sockRecv_error]
  | postCommand =>
    refine ⟨.post true, trivial, ?_⟩
    simp [step, hrunning, hplace, doRecv]
  | postSubmit =>
    refine ⟨.post false, trivial, ?_⟩
    simp [step, hrunning, hplace, doRecv]
  | unlinkReply =>
    refine ⟨.send .failed, trivial, ?_⟩
    simp [step, hrunning, hplace, doRecv, tcpSendLocked, sockSend]
  | begin =>
    refine ⟨.run, trivial, ?_⟩
    simp [step, hrunning, hplace, tcpServerStart]
  | mode =>
    refine ⟨.run, trivial, ?_⟩
    cases hbusy : s.deviceBusy <;> simp [step, hrunning, hplace, doRecv, hbusy]
  | _ =>
    refine ⟨.run, trivial, ?_⟩
    simp [step, hrunning, hplace, doRecv]

theorem Broken.isTimeout {s : Server} {a : Action} (h : Broken s a) : a.isTimeout = false := by
  unfold Action.isTimeout
  split
  · cases h
  · rfl

theorem Server.Ending.givesUp {s : Server} (hs : s.Ending) (hpc : s.tcp.pc ≠ .accepting) :
    s.GivesUp := by
  refine ⟨s.potential, fun as t done h hbroken => ?_⟩
  have hrun := exec_of_watch h
  have hkeep : ∀ s a u, Server.Ending s → Broken s a → step s a = some u → u.Ending :=
    fun s a u hs ha hu => step_ending ha hs hu
  have hclear : ∀ s, Server.Ending s → s.tcp.pc = .urbHeader → s.deviceBusy = false := by
    intro s hs hplace
    rcases hs.flag with hbusy | hleaves
    · exact hbusy
    · rw [hplace] at hleaves
      cases hleaves
  have hpaid : t.potential + as.countP Action.isTcp ≤
      s.potential + 0 * as.countP Action.isTimeout := by
    refine exec_potential hkeep (fun s a u hs ha hu => ?_) hs hbroken hrun
    have hstep := step_potential ha.ne_accept (fun _ => hclear s hs) hu
    rw [ha.isTimeout] at hstep ⊢
    exact hstep
  refine ⟨by omega, fun hne hrunning => broken_enabled hrunning hne, fun hacc => ?_⟩
  have hdone : done = t.tcp.pc.cleaned := by
    refine watch_invariant (I := fun s done => done = s.tcp.pc.cleaned) ?_ rfl hbroken h
    rintro s done a u rfl ha hu
    exact step_cleaned ha.ne_accept hu
  have hclosed : t.tcp.pc = .accepting → t.conn = none ∧ t.tcp.sock = -1 := by
    refine exec_invariant
      (I := fun s => s.tcp.pc = .accepting → s.conn = none ∧ s.tcp.sock = -1)
      (fun s a u hs ha hu => step_closed hs ha.ne_accept hu) ?_ hbroken hrun
    intro hstart
    exact absurd hstart hpc
  rw [hdone, hacc]
  exact ⟨rfl, hclosed hacc⟩

structure Server.Looping (s : Server) : Prop where
  place : s.tcp.pc = .urbHeader
  busy : s.deviceBusy = true
  running : s.crashed = false

def brokenRound : List Action := [.tcp (.recv .error), .tcp .run, .tcp .run]

theorem Server.Looping.round {s : Server} (hs : s.Looping) :
    ∃ t, run s brokenRound = some t ∧ Always step Broken s brokenRound ∧ t.Looping := by
  obtain ⟨hplace, hbusy, hrunning⟩ := hs
  have hfail : step s (.tcp (.recv .error)) = some (s.goto .outer) := by
    simp [step, hplace, hrunning, doRecv, sockRecv_error]
  have houter : step (s.goto .outer) (.tcp .run) = some ((s.goto .outer).goto .mode) := by
    simp [step, hrunning, hbusy, doRecv, Server.goto]
  obtain ⟨t, ht⟩ : ∃ t, step ((s.goto .outer).goto .mode) (.tcp .run) = some t := by
    simp [step, hrunning, hbusy, doRecv, Server.goto]
  refine ⟨t, exec_cons.2 ⟨_, hfail, exec_cons.2 ⟨_, houter, exec_cons.2 ⟨t, ht, rfl⟩⟩⟩, ?_, ?_⟩
  · exact .of_forall_mem fun a ha u => by
      simp only [brokenRound, List.mem_cons, List.not_mem_nil, or_false] at ha
      rcases ha with rfl | rfl | rfl
      · rfl
      · trivial
      · trivial
  · simp only [step, hrunning, hbusy, doRecv, Server.goto] at ht
    cases ht
    exact ⟨rfl, rfl, rfl⟩

/-- The connection may break in such a way that `do_recv` gets into the inner loop. -/
def Server.ComesToLoop (s : Server) : Prop :=
  ∃ as t, run s as = some t ∧ Always step Broken s as ∧ t.Looping

theorem Server.ComesToLoop.of_step {s t : Server} {a : Action} (h : step s a = some t)
    (ha : Broken s a) (ht : t.ComesToLoop) : s.ComesToLoop := by
  obtain ⟨as, u, hu, hbroken, hloop⟩ := ht
  refine ⟨a :: as, u, exec_cons.2 ⟨t, h, hu⟩, ⟨ha, fun v hv => ?_⟩, hloop⟩
  obtain rfl : t = v := Option.some.inj (h.symm.trans hv)
  exact hbroken

section

variable {s : Server} (hbusy : s.deviceBusy = true) (hrunning : s.crashed = false)
include hbusy hrunning

theorem comesToLoop_urbHeader (hpc : s.tcp.pc = .urbHeader) : s.ComesToLoop :=
  ⟨[], s, exec_nil s, trivial, hpc, hbusy, hrunning⟩

theorem comesToLoop_mode (hpc : s.tcp.pc = .mode) : s.ComesToLoop := by
  obtain ⟨t, ht⟩ : ∃ t, step s (.tcp .run) = some t := by
    simp [step, hpc, hrunning, hbusy, doRecv]
  refine .of_step ht trivial ?_
  simp only [step, hpc, hrunning, hbusy, doRecv] at ht
  cases ht
  exact comesToLoop_urbHeader hbusy hrunning rfl

theorem comesToLoop_outer (hpc : s.tcp.pc = .outer) : s.ComesToLoop := by
  refine .of_step (t := s.goto .mode) (a := .tcp .run) ?_ trivial ?_
  · simp [step, hpc, hrunning, hbusy, doRecv]
  · exact comesToLoop_mode hbusy hrunning rfl

theorem comesToLoop_importWait {n : ℕ} (hpc : s.tcp.pc = .importWait n) : s.ComesToLoop := by
  refine .of_step (t := s.goto .mode) (a := .tcp .run) ?_ trivial ?_
  · simp [step, hpc, hrunning, hbusy, doRecv]
  · exact comesToLoop_mode hbusy hrunning rfl

theorem comesToLoop_postCommand (hpc : s.tcp.pc = .postCommand) : s.ComesToLoop := by
  obtain ⟨t, ht⟩ : ∃ t, step s (.tcp (.post false)) = some t := by
    simp [step, hpc, hrunning, doRecv]
  refine .of_step ht trivial ?_
  simp only [step, hpc, hrunning, doRecv] at ht
  cases ht
  by_cases himport : (commandEvent s).eventId = opReqImport
  · refine comesToLoop_importWait (n := 0) hbusy hrunning ?_
    simp [Server.goto, himport]
  · refine comesToLoop_mode hbusy hrunning ?_
    simp [Server.goto, himport]

theorem comesToLoop_unlinkReply (hpc : s.tcp.pc = .unlinkReply) : s.ComesToLoop := by
  refine .of_step (t := s.goto .urbHeader) (a := .tcp (.send .failed)) ?_ trivial ?_
  · simp [step, hpc, hrunning, doRecv, tcpSendLocked, sockSend]
  · exact comesToLoop_urbHeader hbusy hrunning rfl

/-- A receive that fails within a command leads back to the inner loop. -/
theorem comesToLoop_body (hpc : s.tcp.pc = .submitBody ∨ s.tcp.pc = .payload) :
    s.ComesToLoop := by
  refine .of_step (t := s.goto .urbHeader) (a := .tcp (.recv .error)) ?_ rfl ?_
  · rcases hpc with hpc | hpc <;> simp [step, hpc, hrunning, doRecv, sockRecv_error]
  · exact comesToLoop_urbHeader hbusy hrunning rfl

theorem Server.comesToLoop (hpc : s.tcp.pc.leaves = false) : s.ComesToLoop := by
  cases hplace : s.tcp.pc with
  | begin =>
    refine .of_step (t := s.goto .outer) (a := .tcp .run) ?_ trivial ?_
    · simp [step, hplace, hrunning, tcpServerStart]
    · exact comesToLoop_outer hbusy hrunning rfl
  | outer => exact comesToLoop_outer hbusy hrunning hplace
  | postCommand => exact comesToLoop_postCommand hbusy hrunning hplace
  | importWait n => exact comesToLoop_importWait hbusy hrunning hplace
  | mode => exact comesToLoop_mode hbusy hrunning hplace
  | urbHeader => exact comesToLoop_urbHeader hbusy hrunning hplace
  | submitBody => exact comesToLoop_body hbusy hrunning (.inl hplace)
  | payload => exact comesToLoop_body hbusy hrunning (.inr hplace)
  | postSubmit =>
    refine .of_step (t := s.goto .urbHeader) (a := .tcp (.post false)) ?_ trivial ?_
    · simp [step, hplace, hrunning, doRecv]
    · exact comesToLoop_urbHeader hbusy hrunning rfl
  | unlinkBody =>
    refine .of_step (t := (s.goto .unlinkReply).noteUnlink) (a := .tcp (.recv .error)) ?_ rfl ?_
    · simp [step, hplace, hrunning, doRecv, sockRecv_error]
    · exact comesToLoop_unlinkReply hbusy hrunning rfl
  | unlinkReply => exact comesToLoop_unlinkReply hbusy hrunning hplace
  | command | urbClosed | cleanupBusy | cleanupEp1 | cleanupEp2 | cleanupClose | accepting =>
    rw [hplace] at hpc
    cases hpc

end

/-- From there no number of steps is enough. -/
theorem Server.ComesToLoop.not_givesUp {s : Server} (hs : s.ComesToLoop) : ¬ s.GivesUp := by
  rintro ⟨n, hbound⟩
  obtain ⟨as, t, ht, hbroken, hloop⟩ := hs
  have hcost : 0 < brokenRound.countP Action.isTcp := by decide
  obtain ⟨bs, u, hu, hrest, hn⟩ :=
    exists_exec_of_loop (I := Server.Looping) hcost (fun _ hs => hs.round) hloop (n + 1)
  have hrun : run s (as ++ bs) = some u := exec_append.2 ⟨t, ht, hu⟩
  obtain ⟨done, hwatch⟩ : ∃ done, exec (watch step noteCleanup) (s, s.tcp.pc.cleaned) (as ++ bs) =
      some (u, done) := exists_watch hrun _
  obtain ⟨hle, -⟩ := hbound (as ++ bs) u done hwatch (hbroken.append ht hrest)
  rw [List.countP_append] at hle
  omega

/-- From any place of `do_recv`, and with no import to come: a broken connection is given up
exactly when the flag is clear already, or `do_recv` is past the last test of it. -/
theorem gives_up_iff {s : Server} (hrunning : s.crashed = false) (hpc : s.tcp.pc ≠ .accepting)
    (himport : s.NoImportComing) :
    s.GivesUp ↔ s.deviceBusy = false ∨ s.tcp.pc.leaves = true := by
  constructor
  · intro hgives
    by_contra hnot
    rw [not_or, Bool.not_eq_false, Bool.not_eq_true] at hnot
    exact (Server.comesToLoop hnot.1 hrunning hnot.2).not_givesUp hgives
  · intro hflag
    exact Server.Ending.givesUp ⟨himport, hflag⟩ hpc

def BrokenAlwaysGivenUp : Prop :=
  ∀ s, Reachable s → s.crashed = false → s.tcp.pc ≠ .accepting → s.NoImportComing → s.GivesUp

/-- The client of an imported keyboard is gone without a close. -/
theorem broken_connection_kept : ¬ BrokenAlwaysGivenUp := by
  intro hall
  have hrun : (run coldBoot (keyboardEnumeration ++ importing 3 (importSession []).stream)).map
      (fun s => (s.tcp.pc, s.crashed, s.deviceBusy, s.pendingImports)) =
      some (.urbHeader, false, true, []) := by
    decide +kernel
  obtain ⟨s, hs, hstate⟩ := Option.map_eq_some_iff.1 hrun
  simp only [Prod.mk.injEq] at hstate
  obtain ⟨hpc, hrunning, hbusy, hpending⟩ := hstate
  have himport : s.NoImportComing := by
    refine ⟨hpending, fun hpost => ?_⟩
    rw [hpc] at hpost
    cases hpost
  refine (comesToLoop_urbHeader hbusy hrunning hpc).not_givesUp ?_
  apply hall s ⟨_, _, _, _, _, _, _, hs⟩ hrunning _ himport
  rw [hpc]
  nofun

theorem gives_up_silentClient :
    ∃ s, run coldBoot [.tcp (.accept (some 3) []), .tcp .run, .tcp .run] = some s ∧
      s.tcp.pc = .command ∧ s.GivesUp := by
  have hrun : (run coldBoot [.tcp (.accept (some 3) []), .tcp .run, .tcp .run]).map
      (fun s => (s.tcp.pc, s.crashed, s.deviceBusy, s.pendingImports)) =
      some (.command, false, false, []) := by
    decide +kernel
  obtain ⟨s, hs, hstate⟩ := Option.map_eq_some_iff.1 hrun
  simp only [Prod.mk.injEq] at hstate
  obtain ⟨hpc, hrunning, hbusy, hpending⟩ := hstate
  have hne : s.tcp.pc ≠ .accepting := by
    rw [hpc]
    nofun
  have himport : s.NoImportComing := by
    refine ⟨hpending, fun hpost => ?_⟩
    rw [hpc] at hpost
    cases hpost
  exact ⟨s, hs, hpc, (gives_up_iff hrunning hne himport).2 (.inl hbusy)⟩

end UsbRepeater
