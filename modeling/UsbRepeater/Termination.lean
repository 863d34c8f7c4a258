import UsbRepeater.Lib.Potential
import UsbRepeater.Lib.Watch
import UsbRepeater.ImportHandOver
import UsbRepeater.Client

/-! `do_recv` comes to an end. Its two loops select each other by a flag that other tasks write;
a potential of the whole firmware, made of the unread bytes, the imports that may still set the
flag, and the place of `do_recv`, pays for each of its steps. -/
namespace UsbRepeater

open Schedule

def unreadOn (conn : Option Conn) : ℕ := (conn.map fun c => c.unread.length).getD 0

/-- What the place of `do_recv` adds: at least the steps from there to the next receive. -/
def TcpPc.weight : TcpPc → ℕ
  | .accepting => 0
  | .cleanupClose => 1
  | .cleanupEp2 => 2
  | .cleanupEp1 => 3
  | .cleanupBusy => 4
  | .urbClosed => 1
  | .urbHeader => 2
  | .postSubmit => 3
  | .unlinkReply => 3
  | .payload => 4
  | .unlinkBody => 4
  | .submitBody => 5
  | .command => 5
  | .mode => 6
  | .outer => 7
  | .begin => 8
  | .importWait n => 7 + (100 - n)
  | .postCommand => 115

/-- The places from which `do_recv` comes back to the test of `device_busy` without having cleared
it, or having just seen it set. -/
def TcpPc.flagged : TcpPc → Bool
  | .postCommand | .importWait _ | .mode | .urbHeader | .submitBody | .payload | .postSubmit
  | .unlinkBody | .unlinkReply | .urbClosed => true
  | _ => false

/-- How often `device_busy` may yet be found set: by imports that are pending, and now. -/
def Server.flags (s : Server) : ℕ :=
  s.pendingImports.length + (s.tcp.pc.flagged || s.deviceBusy).toNat

def Server.potential (s : Server) : ℕ := 128 * unreadOn s.conn + 7 * s.flags + s.tcp.pc.weight

def RecvOutcome.length : RecvOutcome → ℕ
  | .got bytes => bytes.length
  | _ => 0

theorem sockRecv_unread {conn conn' : Option Conn} {sock : ℤ} {want : ℕ} {r : RecvResult}
    {o : RecvOutcome} (h : sockRecv conn sock want r = some (conn', o)) :
    unreadOn conn' + o.length = unreadOn conn := by
  unfold sockRecv at h
  split at h
  · rename_i c n hc
    obtain ⟨rfl, -⟩ := openOn_eq_some.1 hc
    split_ifs at h with hn
    cases h
    have hle := hn.2.2
    simp only [unreadOn, Option.map_some, Option.getD_some, RecvOutcome.length, Conn.unread,
      List.length_take, List.length_drop] at hle ⊢
    omega
  · split_ifs at h
    cases h
    rfl
  · cases h
    rfl
  · cases h
    rfl
  · cases h

/-- A step of `do_recv` that costs nothing: a receive that runs into its timeout. -/
def Action.isTimeout : Action → Bool
  | .tcp (.recv .timeout) => true
  | _ => false

def Action.isTcp : Action → Bool
  | .tcp _ => true
  | _ => false

theorem TcpPc.weight_le (pc : TcpPc) : pc.weight ≤ 115 := by
  cases pc with
  | importWait n =>
    simp only [TcpPc.weight]
    omega
  | _ => decide

/-- Bytes pay for any place they lead to. -/
theorem potential_read {s t : Server} {n : ℕ} (hn : 0 < n)
    (hunread : unreadOn t.conn + n = unreadOn s.conn) (hloop : t.loop1 = s.loop1) (income : ℕ) :
    t.potential + 1 ≤ s.potential + income := by
  have hpending : t.pendingImports = s.pendingImports := by
    rw [Server.pendingImports, Server.pendingImports, hloop]
  have hweight := t.tcp.pc.weight_le
  have hflag := Bool.toNat_le (t.tcp.pc.flagged || t.deviceBusy)
  simp only [Server.potential, Server.flags, hpending]
  omega

/-- Without them, the place `do_recv` leaves has to pay. -/
theorem potential_move {s t : Server} (hunread : unreadOn t.conn ≤ unreadOn s.conn)
    (hloop : t.loop1 = s.loop1)
    (hpay : 7 * (t.tcp.pc.flagged || t.deviceBusy).toNat + t.tcp.pc.weight + 1 ≤
      7 * (s.tcp.pc.flagged || s.deviceBusy).toNat + s.tcp.pc.weight) (income : ℕ) :
    t.potential + 1 ≤ s.potential + income := by
  have hpending : t.pendingImports = s.pendingImports := by
    rw [Server.pendingImports, Server.pendingImports, hloop]
  simp only [Server.potential, Server.flags, hpending]
  omega

theorem potential_body {s t : Server} {n : ℕ} (hunread : unreadOn t.conn + n = unreadOn s.conn)
    (hloop : t.loop1 = s.loop1) (hflagged : s.tcp.pc.flagged = true)
    (hpay : t.tcp.pc.weight + 1 ≤ s.tcp.pc.weight) (income : ℕ) :
    t.potential + 1 ≤ s.potential + income := by
  refine potential_move (by omega) hloop ?_ income
  have hflag := Bool.toNat_le (t.tcp.pc.flagged || t.deviceBusy)
  rw [hflagged, Bool.true_or, Bool.toNat_true]
  omega

/-- What a step of `do_recv` costs. It is not paid for when a receive fails in the inner loop
while `device_busy` is set. -/
theorem TcpStep.potential {s t : Server} {a : TcpAction} (h : TcpStep s a t)
    (haccept : ∀ number stream, a ≠ .accept number stream)
    (hfail : a = .recv .error → s.tcp.pc = .urbHeader → s.deviceBusy = false) :
    t.potential + 1 ≤ s.potential + 3 * (Action.tcp a).isTimeout.toNat := by
  cases h with
  | acceptFailed stream => exact absurd rfl (haccept none stream)
  | accept number stream => exact absurd rfl (haccept (some number) stream)
  -- each of these only goes on to a place of less weight
  | begin hpc | commandEnds r conn o hpc | enterUrb hpc | urbClosed r conn hpc | clientGone hpc
  | postSubmit hpc | postSubmitFailed hpc | unlinkReplyFailed hpc | cleanupBusy hpc
  | cleanupEp1 hpc | cleanupEp2 hpc =>
    apply potential_move
    · exact le_rfl
    · rfl
    · simp [hpc, Server.goto, TcpPc.flagged, TcpPc.weight]
  | outer hpc =>
    apply potential_move
    · exact le_rfl
    · rfl
    · cases hbusy : s.deviceBusy <;> simp [hpc, hbusy, Server.goto, TcpPc.flagged, TcpPc.weight]
  | commandAgain r conn hpc hrecv =>
    rw [sockRecv_again hrecv]
    simp [Server.potential, Server.flags, hpc, Server.goto, TcpPc.flagged, TcpPc.weight,
      Server.pendingImports, Action.isTimeout]
  | command r conn bytes hpc hrecv hbytes =>
    apply potential_read (List.length_pos_of_ne_nil hbytes)
    · exact sockRecv_unread hrecv
    · rfl
  | postCommand hpc =>
    -- the import just posted may set the flag
    simp only [Server.potential, Server.flags, Server.pendingImports, hpc, Server.goto,
      List.filter_append, List.length_append]
    by_cases himport : (commandEvent s).eventId = opReqImport
    · simp [TcpData.isImport, himport, TcpPc.flagged, TcpPc.weight]
      omega
    · simp [TcpData.isImport, himport, TcpPc.flagged, TcpPc.weight]
      omega
  | postCommandFailed hpc =>
    apply potential_move
    · exact le_rfl
    · rfl
    · by_cases himport : (commandEvent s).eventId = opReqImport
      · simp [hpc, himport, Server.goto, TcpPc.flagged, TcpPc.weight]
      · simp [hpc, himport, Server.goto, TcpPc.flagged, TcpPc.weight]
  | importWait n hpc =>
    apply potential_move
    · exact le_rfl
    · rfl
    · simp only [hpc, Server.goto]
      split_ifs
      · simp [TcpPc.flagged, TcpPc.weight]
        omega
      · simp [TcpPc.flagged, TcpPc.weight]
        omega
      · simp [TcpPc.flagged, TcpPc.weight]
        omega
  | leaveMode hpc hbusy =>
    apply potential_move
    · exact le_rfl
    · rfl
    · simp [hpc, hbusy, Server.goto, TcpPc.flagged, TcpPc.weight]
  | urbAgain r conn hpc hrecv =>
    rw [sockRecv_again hrecv]
    simp [Action.isTimeout]
  | urbFailed r conn hpc hrecv =>
    obtain rfl := sockRecv_failed hrecv
    have hbusy := hfail rfl hpc
    apply potential_move
    · exact le_rfl
    · rfl
    · simp [hpc, hbusy, Server.goto, TcpPc.flagged, TcpPc.weight]
  | urbHeader r conn bytes hpc hrecv hbytes =>
    apply potential_read (List.length_pos_of_ne_nil hbytes)
    · exact sockRecv_unread hrecv
    · rfl
  | submitBody r conn bytes hpc hrecv =>
    apply potential_body
    · exact sockRecv_unread hrecv
    · rfl
    · rw [hpc]
      rfl
    · rw [hpc]
      simp only [Server.setTcp]
      split_ifs
      · unfold submitNext
        split_ifs <;> decide
      · decide
  | payload r conn bytes hpc hrecv =>
    apply potential_body
    · exact sockRecv_unread hrecv
    · rfl
    · rw [hpc]
      rfl
    · rw [hpc]
      simp only [Server.setTcp]
      split_ifs <;> decide
  | bodyFailed r conn o want hpc hrecv ho =>
    apply potential_move
    · exact le_rfl
    · rfl
    · rcases hpc with ⟨hpc, -⟩ | ⟨hpc, -⟩
      · simp [hpc, Server.goto, TcpPc.flagged, TcpPc.weight]
      · simp [hpc, Server.goto, TcpPc.flagged, TcpPc.weight]
  | unlinkBody r conn bytes hpc hrecv =>
    apply potential_body
    · exact sockRecv_unread hrecv
    · rfl
    · rw [hpc]
      rfl
    · simp [hpc, Server.noteUnlink, Server.setTcp, TcpPc.weight]
  | unlinkBodyFailed r conn o hpc hrecv ho =>
    apply potential_move
    · exact le_rfl
    · rfl
    · simp [hpc, Server.goto, Server.noteUnlink, TcpPc.flagged, TcpPc.weight]
  | unlinkReply c r n hpc hc hn hr =>
    apply potential_move
    · exact le_rfl
    · rfl
    · simp [hpc, Server.goto, Server.emit, TcpPc.flagged, TcpPc.weight]
  | close hpc =>
    apply potential_move
    · exact Nat.zero_le _
    · rfl
    · simp [hpc, TcpPc.flagged, TcpPc.weight]

/-- What the other tasks do to the potential: they read, they clear the flag, and they set it in
exchange for an import. -/
theorem potential_le {s t : Server} (htcp : t.tcp = s.tcp)
    (hunread : unreadOn t.conn ≤ unreadOn s.conn)
    (hpending : t.pendingImports.length ≤ s.pendingImports.length)
    (hflag : t.pendingImports.length + t.deviceBusy.toNat ≤
      s.pendingImports.length + s.deviceBusy.toNat) : t.potential ≤ s.potential := by
  simp only [Server.potential, Server.flags, htcp]
  cases s.tcp.pc.flagged with
  | true =>
    simp only [Bool.true_or]
    omega
  | false =>
    simp only [Bool.false_or]
    omega

theorem potential_handle1 {s t : Server} {h : Handler1}
    (hsame : t.tcp = s.tcp ∧ t.deviceBusy = s.deviceBusy ∧
      t.loop1 = { s.loop1 with handler := h })
    (hunread : unreadOn t.conn ≤ unreadOn s.conn)
    (himport : h.importEvent.toList.length ≤ s.loop1.handler.importEvent.toList.length) :
    t.potential ≤ s.potential := by
  obtain ⟨htcp, hbusy, hloop⟩ := hsame
  have hpending : t.pendingImports.length ≤ s.pendingImports.length := by
    simp only [Server.pendingImports, hloop, List.length_append]
    omega
  apply potential_le htcp hunread hpending
  rw [hbusy]
  omega

theorem Loop1Step.potential {s t : Server} {a : Loop1Action} (h : Loop1Step s a t) :
    t.potential ≤ s.potential := by
  cases h with
  | dispatch ev queue hh hq =>
    have hpending : Server.pendingImports { s with loop1 := ⟨queue, deliver1 ev⟩ } =
        s.pendingImports := by
      rw [Server.pendingImports, Server.pendingImports, deliver1_importEvent, hh, hq,
        ← List.filter_append]
      rfl
    apply potential_le
    · rfl
    · exact le_rfl
    · rw [hpending]
    · rw [hpending]
  | devlistCrash => exact le_rfl
  | devlistFailed ev stack frame hh hd =>
    apply potential_handle1
    · exact ⟨rfl, rfl, rfl⟩
    · exact le_rfl
    · rw [hh]
      exact le_rfl
  | devlistSent ev stack frame r c n hh hd hc hr =>
    apply potential_handle1
    · exact ⟨rfl, rfl, rfl⟩
    · exact le_rfl
    · rw [hh]
      exact le_rfl
  | copy ev hh =>
    apply potential_handle1
    · exact ⟨rfl, rfl, rfl⟩
    · exact le_rfl
    · rw [hh]
      exact le_rfl
  | recv ev devImport r conn bytes hh hrecv hlen =>
    have hread := sockRecv_unread hrecv
    apply potential_handle1
    · exact ⟨rfl, rfl, rfl⟩
    · exact Nat.le.intro hread
    · rw [hh]
      exact le_rfl
  | recvFailed ev devImport r conn o hh hrecv ho =>
    have hread := sockRecv_unread hrecv
    apply potential_handle1
    · exact ⟨rfl, rfl, rfl⟩
    · exact Nat.le.intro hread
    · exact Nat.zero_le _
  | buildCrash => exact le_rfl
  | build ev devImport rep hh hb =>
    apply potential_handle1
    · exact ⟨rfl, rfl, rfl⟩
    · exact le_rfl
    · rw [hh]
      exact le_rfl
  | sendFailed =>
    apply potential_handle1
    · exact ⟨rfl, rfl, rfl⟩
    · exact le_rfl
    · exact Nat.zero_le _
  | sendShort =>
    apply potential_handle1
    · exact ⟨rfl, rfl, rfl⟩
    · exact le_rfl
    · exact Nat.zero_le _
  | send ev devImport rep c hh hc hnum =>
    apply potential_handle1
    · exact ⟨rfl, rfl, rfl⟩
    · exact le_rfl
    · rw [hh]
      exact le_rfl
  | busy ev devImport rep hh =>
    apply potential_le
    · rfl
    · exact le_rfl
    · simp [Server.pendingImports, Server.handle1, hh, Handler1.importEvent]
    · simp [Server.pendingImports, Server.handle1, hh, Handler1.importEvent]

theorem step_potential_of_ne {s t : Server} {a : Action} (h : step s a = some t)
    (ha : ∀ b, a ≠ .tcp b) : t.potential ≤ s.potential := by
  cases a with
  | tcp a => exact absurd rfl (ha a)
  | loop1 a => exact (loop1Step h).2.potential
  | loop2 a =>
    obtain ⟨-, heff⟩ := loop2Step_effect h
    cases heff <;> exact le_rfl
  | host a =>
    obtain ⟨-, heff⟩ := hostStep_effect h
    cases heff <;> exact le_rfl
  | driver a =>
    obtain ⟨-, -, d, e, -, rfl⟩ := driverStep_effect h
    cases e with
    | clearBusy =>
      apply potential_le
      · rfl
      · exact le_rfl
      · exact le_rfl
      · exact Nat.add_le_add_left (Nat.zero_le _) _
    | _ => exact le_rfl

inductive CleanupStep
  | clearBusy | clearEp1 | clearEp2 | closeSocket
  deriving DecidableEq, Repr

def noteCleanup (s : Server) (a : Action) (done : List CleanupStep) : List CleanupStep :=
  match s.tcp.pc, a with
  | .cleanupBusy, .tcp _ => done ++ [.clearBusy]
  | .cleanupEp1, .tcp _ => done ++ [.clearEp1]
  | .cleanupEp2, .tcp _ => done ++ [.clearEp2]
  | .cleanupClose, .tcp _ => done ++ [.closeSocket]
  | _, _ => done

def TcpPc.cleaned : TcpPc → List CleanupStep
  | .cleanupEp1 => [.clearBusy]
  | .cleanupEp2 => [.clearBusy, .clearEp1]
  | .cleanupClose => [.clearBusy, .clearEp1, .clearEp2]
  | .accepting => [.clearBusy, .clearEp1, .clearEp2, .closeSocket]
  | _ => []

/-- What each step of the cleanup does; the socket it closes is the open one. -/
def CleanupEffective (s : Server) : Action → Prop
  | .tcp a => ∀ t, step s (.tcp a) = some t →
      match s.tcp.pc with
      | .cleanupBusy => t.deviceBusy = false
      | .cleanupEp1 => t.ep1TransferPending = false
      | .cleanupEp2 => t.ep2TransferPending = false
      | .cleanupClose =>
          (openOn s.conn s.tcp.sock).isSome = true ∧ t.conn = none ∧ t.tcp.sock = -1
      | _ => True
  | _ => True

theorem TcpStep.cleaned {s t : Server} {a : TcpAction} (h : TcpStep s a t)
    (haccept : ∀ number stream, a ≠ .accept number stream) :
    noteCleanup s (.tcp a) s.tcp.pc.cleaned = t.tcp.pc.cleaned := by
  cases h with
  | acceptFailed stream => exact absurd rfl (haccept none stream)
  | accept number stream => exact absurd rfl (haccept (some number) stream)
  | outer hpc | postCommand hpc | postCommandFailed hpc | importWait n hpc =>
    simp only [noteCleanup, hpc, Server.goto]
    split_ifs <;> rfl
  | command r conn bytes hpc =>
    simp only [noteCleanup, hpc, Server.setTcp]
    exact commandNext_elim s _ rfl rfl rfl
  | urbHeader r conn bytes hpc =>
    simp only [noteCleanup, hpc, Server.setTcp]
    exact urbNext_elim _ rfl rfl rfl
  | submitBody r conn bytes hpc =>
    simp only [noteCleanup, hpc, Server.setTcp]
    split_ifs
    · exact submitNext_elim _ _ rfl rfl rfl
    · rfl
  | payload r conn bytes hpc =>
    simp only [noteCleanup, hpc, Server.setTcp]
    split_ifs <;> rfl
  | bodyFailed r conn o want hpc =>
    rcases hpc with ⟨hpc, -⟩ | ⟨hpc, -⟩ <;> simp only [noteCleanup, hpc] <;> rfl
  | urbAgain r conn hpc => simp only [noteCleanup, hpc]
  | begin hpc | commandAgain r conn hpc | commandEnds r conn o hpc | enterUrb hpc | leaveMode hpc
  | urbFailed r conn hpc | urbClosed r conn hpc | clientGone hpc | postSubmit hpc
  | postSubmitFailed hpc | unlinkBody r conn bytes hpc | unlinkBodyFailed r conn o hpc
  | unlinkReply c r n hpc | unlinkReplyFailed hpc | cleanupBusy hpc | cleanupEp1 hpc
  | cleanupEp2 hpc | close hpc =>
    simp only [noteCleanup, hpc]
    rfl

structure Server.Connected (s : Server) : Prop where
  serving : s.tcp.pc ≠ .accepting → ∃ c, s.conn = some c ∧ (c.number : ℤ) = s.tcp.sock
  closed : s.tcp.pc = .accepting → s.conn = none ∧ s.tcp.sock = -1
  payload : s.tcp.pc = .payload → s.cmdSubmit.transferBufferLength.toNat ≠ 0

/-- The client closes its side in the end: `do_recv` sees data, timeouts and the end of the
stream, but no error. No other client comes before it is done. -/
def EndsInClose (_ : Server) : Action → Prop
  | .tcp (.accept _ _) => False
  | .tcp (.recv r) => r ≠ .error
  | _ => True

instance (s : Server) : ∀ a, Decidable (EndsInClose s a)
  | .tcp (.accept _ _) => isFalse id
  | .tcp (.recv r) => inferInstanceAs (Decidable (r ≠ .error))
  | .tcp .run | .tcp (.post _) | .tcp (.send _) | .loop1 _ | .loop2 _ | .host _
  | .driver _ => isTrue trivial

theorem EndsInClose.ne_accept {s : Server} {a : Action} (h : EndsInClose s a) (number : Option ℕ)
    (stream : Bytes) : a ≠ .tcp (.accept number stream) := by
  rintro rfl
  exact h

theorem EndsInClose.ne_error {s : Server} {a : Action} (h : EndsInClose s a) :
    a ≠ .tcp (.recv .error) := by
  rintro rfl
  exact h rfl

theorem TcpEffect.closed {s t : Server} {a : TcpAction} (h : TcpEffect s a t)
    (haccept : ∀ number stream, a ≠ .accept number stream) (hpc : t.tcp.pc = .accepting) :
    t.conn = none ∧ t.tcp.sock = -1 := by
  cases h with
  | own a tcp conn recvBytes urbEntries unlinks htcp => exact absurd hpc htcp.target_ne_accepting
  | acceptFailed stream => exact absurd rfl (haccept none stream)
  | accept number stream => exact absurd rfl (haccept (some number) stream)
  | postCommand tcp htcp => exact absurd hpc htcp.target_ne_accepting
  | postSubmit tcp htcp => exact absurd hpc htcp.target_ne_accepting
  | unlink tcp c r n htcp => exact absurd hpc htcp.target_ne_accepting
  | close => exact ⟨rfl, rfl⟩
  | _ => cases hpc

theorem step_closed {s t : Server} {a : Action}
    (hs : s.tcp.pc = .accepting → s.conn = none ∧ s.tcp.sock = -1)
    (ha : ∀ number stream, a ≠ .tcp (.accept number stream)) (h : step s a = some t)
    (hpc : t.tcp.pc = .accepting) : t.conn = none ∧ t.tcp.sock = -1 := by
  rcases step_tcp_or_other h with ⟨b, rfl, hstep⟩ | ⟨hother, heq⟩
  · apply hstep.effect.closed _ hpc
    rintro number stream rfl
    exact ha number stream rfl
  · have hconn := step_sameConn h hother
    rw [heq] at hpc ⊢
    obtain ⟨hnone, hsock⟩ := hs hpc
    rw [SameConn, hnone, Option.map_none, Option.map_eq_none_iff] at hconn
    exact ⟨hconn, hsock⟩

theorem step_connected {s t : Server} {a : Action} (hs : s.Connected) (ha : EndsInClose s a)
    (h : step s a = some t) : t.Connected := by
  have hclosed := step_closed hs.closed ha.ne_accept h
  rcases step_tcp_or_other h with ⟨b, rfl, hstep⟩ | ⟨hother, heq⟩
  · refine ⟨hstep.effect.serving hs.serving, hclosed, fun hpc => ?_⟩
    have hne := (hstep.at_payload hpc).2.1
    exact fun hzero => hne (UInt32.toNat_inj.1 hzero)
  · refine ⟨fun hpc => ?_, hclosed, ?_⟩
    · rw [heq] at hpc ⊢
      obtain ⟨c, hc, hnum⟩ := hs.serving hpc
      obtain ⟨d, hd, -, hnum', -⟩ := (step_sameConn h hother).exists hc
      exact ⟨d, hd, by rw [hnum', hnum]⟩
    · simpa only [Server.cmdSubmit, heq] using hs.payload

/-- On an open connection a receive either brings data or finds the end of the stream. -/
theorem sockRecv_enabled {s : Server} {c : Conn} {want : ℕ} (hc : s.conn = some c)
    (hnum : (c.number : ℤ) = s.tcp.sock) (hwant : want ≠ 0) :
    ∃ r, r ≠ .error ∧ r ≠ .timeout ∧ (sockRecv s.conn s.tcp.sock want r).isSome = true := by
  have hopen : openOn s.conn s.tcp.sock = some c := openOn_eq_some.2 ⟨hc, hnum⟩
  by_cases hunread : c.unread = []
  · exact ⟨.closed, by simp, by simp, by simp [sockRecv, hopen, hunread]⟩
  · have hlen := List.length_pos_of_ne_nil hunread
    refine ⟨.data 1, by simp, by simp, ?_⟩
    rw [sockRecv_data hopen Nat.one_pos (Nat.one_le_iff_ne_zero.2 hwant) hlen]
    rfl

theorem Server.Connected.enabled {s : Server} (hs : s.Connected) (hrunning : s.crashed = false)
    (hpc : s.tcp.pc ≠ .accepting) :
    ∃ a, EndsInClose s (.tcp a) ∧ (Action.tcp a).isTimeout = false ∧
      (step s (.tcp a)).isSome = true := by
  obtain ⟨c, hc, hnum⟩ := hs.serving hpc
  have hrecv : ∀ want, want ≠ 0 →
      (∀ r, (sockRecv s.conn s.tcp.sock want r).isSome = true →
        (step s (.tcp (.recv r))).isSome = true) →
      ∃ a, EndsInClose s (.tcp a) ∧ (Action.tcp a).isTimeout = false ∧
        (step s (.tcp a)).isSome = true := by
    intro want hwant hstep
    obtain ⟨r, herror, htimeout, henabled⟩ := sockRecv_enabled hc hnum hwant
    refine ⟨.recv r, herror, ?_, hstep r henabled⟩
    cases r <;> first | rfl | exact absurd rfl htimeout
  cases hplace : s.tcp.pc with
  | accepting => exact absurd hplace hpc
  | command =>
    refine hrecv headerCommonSize (by decide) fun r h => ?_
    simp [step, hrunning, hplace, doRecv, h]
  | urbHeader =>
    refine hrecv headerBasicSize (by decide) fun r h => ?_
    simp [step, hrunning, hplace, doRecv, h]
  | submitBody =>
    refine hrecv cmdHeaderSize (by decide) fun r h => ?_
    simp [step, hrunning, hplace, doRecv, h]
  | payload =>
    refine hrecv _ (hs.payload hplace) fun r h => ?_
    simp [step, hrunning, hplace, doRecv, h]
  | unlinkBody =>
    refine hrecv cmdUnlinkSize (by decide) fun r h => ?_
    simp [step, hrunning, hplace, doRecv, h]
  | postCommand => exact ⟨.post true, trivial, rfl, by simp [step, hrunning, hplace, doRecv]⟩
  | postSubmit => exact ⟨.post false, trivial, rfl, by simp [step, hrunning, hplace, doRecv]⟩
  | unlinkReply =>
    refine ⟨.send .failed, trivial, rfl, ?_⟩
    simp [step, hrunning, hplace, doRecv, tcpSendLocked, sockSend]
  | begin => exact ⟨.run, trivial, rfl, by simp [step, hrunning, hplace, tcpServerStart]⟩
  | mode =>
    refine ⟨.run, trivial, rfl, ?_⟩
    cases hbusy : s.deviceBusy <;> simp [step, hrunning, hplace, doRecv, hbusy]
  | _ => exact ⟨.run, trivial, rfl, by simp [step, hrunning, hplace, doRecv]⟩

theorem step_potential {s t : Server} {a : Action}
    (ha : ∀ number stream, a ≠ .tcp (.accept number stream))
    (hfail : a = .tcp (.recv .error) → s.tcp.pc = .urbHeader → s.deviceBusy = false)
    (h : step s a = some t) :
    t.potential + a.isTcp.toNat ≤ s.potential + 3 * a.isTimeout.toNat := by
  rcases step_tcp_or_other h with ⟨b, rfl, hstep⟩ | ⟨hother, -⟩
  · apply hstep.potential
    · rintro number stream rfl
      exact ha number stream rfl
    · rintro rfl
      exact hfail rfl
  · have hle := step_potential_of_ne h hother
    have hno : a.isTcp = false := by
      cases a with
      | tcp b => exact absurd rfl (hother b)
      | _ => rfl
    rw [hno]
    exact hle.trans (Nat.le_add_right _ _)

theorem step_cleaned {s t : Server} {a : Action}
    (ha : ∀ number stream, a ≠ .tcp (.accept number stream)) (h : step s a = some t) :
    noteCleanup s a s.tcp.pc.cleaned = t.tcp.pc.cleaned := by
  rcases step_tcp_or_other h with ⟨b, rfl, hstep⟩ | ⟨hother, heq⟩
  · apply hstep.cleaned
    rintro number stream rfl
    exact ha number stream rfl
  · rw [heq]
    unfold noteCleanup
    split <;> first | rfl | exact absurd rfl (hother _)

theorem Server.Connected.cleanupEffective {s : Server} (hs : s.Connected) (a : Action) :
    CleanupEffective s a := by
  unfold CleanupEffective
  split
  · rename_i a
    intro t h
    have hstep := (tcpStep h).2
    split
    · cases hstep with
      | cleanupBusy => rfl
      | _ => simp_all
    · cases hstep with
      | cleanupEp1 => rfl
      | _ => simp_all
    · cases hstep with
      | cleanupEp2 => rfl
      | _ => simp_all
    · rename_i hpc
      obtain ⟨c, hc, hnum⟩ := hs.serving (by rw [hpc]; nofun)
      have hopen : openOn s.conn s.tcp.sock = some c := openOn_eq_some.2 ⟨hc, hnum⟩
      cases hstep with
      | close => exact ⟨by rw [hopen]; rfl, rfl, rfl⟩
      | _ => simp_all
    · trivial
  · trivial

/-- A connection is served from any state of the firmware: whatever the client has sent, however it
arrives and whatever the other tasks do, `do_recv` takes no more steps than the potential and the
timeouts pay for, is never stuck before it is done, and then has cleaned up once. -/
theorem do_recv_terminates {s t : Server} {c : Conn} {as : List Action} {done : List CleanupStep}
    (hpc : s.tcp.pc = .begin) (hconn : s.conn = some c) (hsock : s.tcp.sock = c.number)
    (hclose : Always step EndsInClose s as)
    (h : exec (watch step noteCleanup) (s, []) as = some (t, done)) :
    as.countP Action.isTcp ≤ s.potential + 3 * as.countP Action.isTimeout ∧
      (t.tcp.pc ≠ .accepting → t.crashed = false →
        ∃ a, EndsInClose t (.tcp a) ∧ (Action.tcp a).isTimeout = false ∧
          (step t (.tcp a)).isSome = true) ∧
      (t.tcp.pc = .accepting →
        done = [.clearBusy, .clearEp1, .clearEp2, .closeSocket] ∧
          t.conn = none ∧ t.tcp.sock = -1) ∧
      Always step CleanupEffective s as := by
  have hstart : s.Connected := by
    refine ⟨fun _ => ⟨c, hconn, hsock.symm⟩, fun h => ?_, fun h => ?_⟩
    · rw [hpc] at h
      cases h
    · rw [hpc] at h
      cases h
  have hrun := exec_of_watch h
  have hkeep : ∀ s a u, Server.Connected s → EndsInClose s a → step s a = some u → u.Connected :=
    fun s a u hs ha hu => step_connected hs ha hu
  have hend : t.Connected := exec_invariant hkeep hstart hclose hrun
  have hpaid : t.potential + as.countP Action.isTcp ≤
      s.potential + 3 * as.countP Action.isTimeout :=
    exec_potential hkeep (fun s a u _ ha hu => step_potential ha.ne_accept
      (fun herror => absurd herror ha.ne_error) hu) hstart hclose hrun
  have hnote : ∀ s (done : List CleanupStep) a u, done = s.tcp.pc.cleaned → EndsInClose s a →
      step s a = some u → noteCleanup s a done = u.tcp.pc.cleaned := by
    rintro s done a u rfl ha hu
    exact step_cleaned ha.ne_accept hu
  have hdone : done = t.tcp.pc.cleaned :=
    watch_invariant (I := fun s done => done = s.tcp.pc.cleaned) hnote (by rw [hpc]; rfl) hclose h
  refine ⟨by omega, fun hne hrunning => hend.enabled hrunning hne, fun hacc => ?_, ?_⟩
  · rw [hdone, hacc]
    exact ⟨rfl, hend.closed hacc⟩
  · exact (hclose.with_invariant hkeep hstart).mono fun s a hs => hs.1.cleanupEffective a

def shortVisit : List Action :=
  [.tcp .run, .tcp .run, .tcp (.recv .timeout), .tcp .run, .tcp (.recv (.data 8)),
    .tcp (.post true), .tcp .run, .tcp .run, .loop1 .dispatch, .loop1 (.devlist [] .full),
    .tcp (.recv .closed), .tcp .run, .tcp .run, .tcp .run, .tcp .run]

theorem do_recv_terminates_shortVisit :
    ∃ s t done, run coldBoot [.tcp (.accept (some 3) (requestHeader opReqDevlist 0))] = some s ∧
      exec (watch step noteCleanup) (s, []) shortVisit = some (t, done) ∧
      t.conn = none ∧ t.tcp.sock = -1 := by
  have haccept : (run coldBoot [.tcp (.accept (some 3) (requestHeader opReqDevlist 0))]).map
      (fun s => (s.tcp.pc, s.conn, s.tcp.sock)) =
      some (.begin, some ⟨0, 3, requestHeader opReqDevlist 0, 0⟩, 3) := by
    decide +kernel
  obtain ⟨s, hs, hstate⟩ := Option.map_eq_some_iff.1 haccept
  simp only [Prod.mk.injEq] at hstate
  obtain ⟨hpc, hconn, hsock⟩ := hstate
  have hrun : (run coldBoot ([.tcp (.accept (some 3) (requestHeader opReqDevlist 0))] ++
      shortVisit)).map (fun t => t.tcp.pc) = some .accepting := by
    decide +kernel
  obtain ⟨t, ht, hdone⟩ := Option.map_eq_some_iff.1 hrun
  obtain ⟨s', hs', ht⟩ := exec_append.1 ht
  obtain rfl : s = s' := Option.some.inj (hs.symm.trans hs')
  obtain ⟨done, hwatch⟩ : ∃ done, exec (watch step noteCleanup) (s, []) shortVisit =
      some (t, done) := exists_watch ht []
  have hall : ∀ a ∈ shortVisit, EndsInClose coldBoot a := by decide +kernel
  have hclose : Always step EndsInClose s shortVisit := .of_forall_mem fun a ha _ => hall a ha
  obtain ⟨-, -, hend, -⟩ := do_recv_terminates hpc hconn hsock hclose hwatch
  exact ⟨s, t, done, hs, hwatch, (hend hdone).2⟩

end UsbRepeater
