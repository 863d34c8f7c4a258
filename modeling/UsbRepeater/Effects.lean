import UsbRepeater.Server

/-! What one step of each task can do to the state the other tasks see. Every invariant of the
server is derived from these case lemmas; none of them looks into the step functions again. -/
namespace UsbRepeater

/-- Two states of the socket in which the same connection is open. -/
def SameConn (c d : Option Conn) : Prop :=
  c.map (fun c => (c.id, c.number, c.stream)) = d.map fun c => (c.id, c.number, c.stream)

theorem SameConn.refl (c : Option Conn) : SameConn c c := rfl

theorem openOn_eq_some {conn : Option Conn} {sock : ℤ} {c : Conn} :
    openOn conn sock = some c ↔ conn = some c ∧ (c.number : ℤ) = sock := by
  simp [openOn, Option.filter_eq_some_iff]

theorem sockRecv_sameConn {conn conn' : Option Conn} {sock : ℤ} {want : ℕ} {r : RecvResult}
    {o : RecvOutcome} (h : sockRecv conn sock want r = some (conn', o)) : SameConn conn' conn := by
  unfold sockRecv at h
  split at h
  · rename_i c n hc
    obtain ⟨rfl, -⟩ := openOn_eq_some.1 hc
    split_ifs at h
    simp only [Option.some.injEq, Prod.mk.injEq] at h
    rw [← h.1]
    rfl
  · split_ifs at h
    simp only [Option.some.injEq, Prod.mk.injEq] at h
    rw [h.1]
    rfl
  · simp only [Option.some.injEq, Prod.mk.injEq] at h
    rw [h.1]
    rfl
  · simp only [Option.some.injEq, Prod.mk.injEq] at h
    rw [h.1]
    rfl
  · cases h

theorem sockRecv_got {conn conn' : Option Conn} {sock : ℤ} {want : ℕ} {r : RecvResult}
    {bytes : Bytes} (h : sockRecv conn sock want r = some (conn', .got bytes))
    (hb : bytes ≠ []) :
    ∃ c, conn = some c ∧ (c.number : ℤ) = sock ∧ bytes.length ≤ want ∧
      r = .data bytes.length ∧ bytes.length ≤ c.unread.length ∧
      bytes = c.unread.take bytes.length ∧
      conn' = some { c with consumed := c.consumed + bytes.length } := by
  unfold sockRecv at h
  split at h
  · rename_i c n hc
    obtain ⟨rfl, hnum⟩ := openOn_eq_some.1 hc
    split_ifs at h with hn
    simp only [Option.some.injEq, Prod.mk.injEq, RecvOutcome.got.injEq] at h
    obtain ⟨hconn, rfl⟩ := h
    have hlen : (c.unread.take n).length = n := by
      rw [List.length_take, min_eq_left hn.2.2]
    refine ⟨c, rfl, hnum, ?_, ?_, ?_, ?_, ?_⟩
    · rw [hlen]
      exact hn.2.1
    · rw [hlen]
    · rw [hlen]
      exact hn.2.2
    · rw [hlen]
    · rw [hlen]
      exact hconn.symm
  · split_ifs at h
    simp only [Option.some.injEq, Prod.mk.injEq, RecvOutcome.got.injEq] at h
    exact absurd h.2.symm hb
  · simp at h
  · simp at h
  · cases h

theorem sockRecv_length_le {conn conn' : Option Conn} {sock : ℤ} {want : ℕ} {r : RecvResult}
    {bytes : Bytes} (h : sockRecv conn sock want r = some (conn', .got bytes)) :
    bytes.length ≤ want := by
  by_cases hb : bytes = []
  · rw [hb]
    exact Nat.zero_le _
  · obtain ⟨c, -, -, hle, -⟩ := sockRecv_got h hb
    exact hle

theorem sockRecv_data {conn : Option Conn} {sock : ℤ} {want n : ℕ} {c : Conn}
    (hc : openOn conn sock = some c) (hpos : 0 < n) (hn : n ≤ want) (hlen : n ≤ c.unread.length) :
    sockRecv conn sock want (.data n) =
      some (some { c with consumed := c.consumed + n }, .got (c.unread.take n)) := by
  simp only [sockRecv, hc]
  rw [if_pos ⟨hpos, hn, hlen⟩]

theorem sockRecv_error (conn : Option Conn) (sock : ℤ) (want : ℕ) :
    sockRecv conn sock want .error = some (conn, .failed) := by
  unfold sockRecv
  cases openOn conn sock <;> rfl

theorem sockRecv_again {conn conn' : Option Conn} {sock : ℤ} {want : ℕ} {r : RecvResult}
    (h : sockRecv conn sock want r = some (conn', .again)) : r = .timeout := by
  unfold sockRecv at h
  split at h
  · split_ifs at h
    cases h
  · split_ifs at h
    cases h
  · rfl
  · cases h
  · cases h

theorem sockRecv_failed {conn conn' : Option Conn} {sock : ℤ} {want : ℕ} {r : RecvResult}
    (h : sockRecv conn sock want r = some (conn', .failed)) : r = .error := by
  unfold sockRecv at h
  split at h
  · split_ifs at h
    cases h
  · split_ifs at h
    cases h
  · cases h
  · rfl
  · cases h

theorem sockRecv_closed {conn conn' : Option Conn} {sock : ℤ} {want : ℕ} {r : RecvResult}
    (h : sockRecv conn sock want r = some (conn', .got [])) : r = .closed := by
  unfold sockRecv at h
  split at h
  · rename_i c n hc
    split_ifs at h with hn
    simp only [Option.some.injEq, Prod.mk.injEq, RecvOutcome.got.injEq] at h
    have hlen := congrArg List.length h.2
    simp only [List.length_take, List.length_nil] at hlen
    omega
  · rfl
  · simp at h
  · simp at h
  · cases h

theorem sockSend_some {conn : Option Conn} {sock : ℤ} {frame : Bytes} {r : SendResult} {id n : ℕ}
    (h : sockSend conn sock frame r = some (some (id, n))) :
    ∃ c, conn = some c ∧ (c.number : ℤ) = sock ∧ c.id = id ∧ n ≤ frame.length ∧
      (r = .full ∧ n = frame.length ∨ r = .short n) := by
  cases r with
  | full =>
    simp only [sockSend, Option.map_eq_some_iff, Option.some.injEq, Prod.mk.injEq] at h
    obtain ⟨c, hc, rfl, rfl⟩ := h
    obtain ⟨hconn, hnum⟩ := openOn_eq_some.1 hc
    exact ⟨c, hconn, hnum, rfl, le_rfl, .inl ⟨rfl, rfl⟩⟩
  | short k =>
    simp only [sockSend] at h
    split_ifs at h with hk
    simp only [Option.map_eq_some_iff, Option.some.injEq, Prod.mk.injEq] at h
    obtain ⟨c, hc, rfl, rfl⟩ := h
    obtain ⟨hconn, hnum⟩ := openOn_eq_some.1 hc
    exact ⟨c, hconn, hnum, rfl, hk.le, .inr rfl⟩
  | failed => simp [sockSend] at h

theorem sockSend_none {conn : Option Conn} {sock : ℤ} {frame : Bytes} {r : SendResult}
    (h : sockSend conn sock frame r = some none) : r = .failed := by
  cases r with
  | full => simp [sockSend] at h
  | short k => simp [sockSend] at h
  | failed => rfl

/-- The steps of `tcp_server_start` and `do_recv`, one constructor for each branch. -/
inductive TcpStep (s : Server) : TcpAction → Server → Prop
  | acceptFailed (stream : Bytes) (hpc : s.tcp.pc = .accepting) :
      TcpStep s (.accept none stream) (s.setTcp { s.tcp with sock := -1 })
  | accept (number : ℕ) (stream : Bytes) (hpc : s.tcp.pc = .accepting) :
      TcpStep s (.accept (some number) stream) { s with
        conn := some ⟨s.history.accepted, number, stream, 0⟩
        tcp := { s.tcp with pc := .begin, sock := number }
        history := { s.history with accepted := s.history.accepted + 1 } }
  | begin (hpc : s.tcp.pc = .begin) : TcpStep s .run (s.goto .outer)
  | outer (hpc : s.tcp.pc = .outer) :
      TcpStep s .run (s.goto (if s.deviceBusy then .mode else .command))
  | commandAgain (r : RecvResult) (conn : Option Conn) (hpc : s.tcp.pc = .command)
      (hrecv : sockRecv s.conn s.tcp.sock headerCommonSize r = some (conn, .again)) :
      TcpStep s (.recv r) (s.goto .outer)
  | commandEnds (r : RecvResult) (conn : Option Conn) (o : RecvOutcome)
      (hpc : s.tcp.pc = .command)
      (hrecv : sockRecv s.conn s.tcp.sock headerCommonSize r = some (conn, o))
      (ho : o = .failed ∨ o = .got []) : TcpStep s (.recv r) (s.goto .cleanupBusy)
  | command (r : RecvResult) (conn : Option Conn) (bytes : Bytes) (hpc : s.tcp.pc = .command)
      (hrecv : sockRecv s.conn s.tcp.sock headerCommonSize r = some (conn, .got bytes))
      (hbytes : bytes ≠ []) :
      TcpStep s (.recv r) ((s.took conn bytes.length).setTcp
        { s.tcp with
          pc := commandNext s (overwrite bytes s.tcp.devRecv)
          devRecv := overwrite bytes s.tcp.devRecv })
  | postCommand (hpc : s.tcp.pc = .postCommand) :
      TcpStep s (.post true)
        { s.goto (if (commandEvent s).eventId = opReqImport then .importWait 0 else .mode) with
          loop1 := { s.loop1 with queue := s.loop1.queue ++ [commandEvent s] }
          history := { s.history with commands := s.history.commands ++ [commandEvent s] } }
  | postCommandFailed (hpc : s.tcp.pc = .postCommand) :
      TcpStep s (.post false)
        (s.goto (if (commandEvent s).eventId = opReqImport then .importWait 0 else .mode))
  | importWait (n : ℕ) (hpc : s.tcp.pc = .importWait n) :
      TcpStep s .run
        (s.goto (if s.deviceBusy then .mode else if n < 100 then .importWait (n + 1) else .mode))
  | enterUrb (hpc : s.tcp.pc = .mode) (hbusy : s.deviceBusy = true) :
      TcpStep s .run { s.goto .urbHeader with
        history := { s.history with
          urbEntries := s.history.urbEntries ++
            (s.conn.map fun c => (c.id, c.consumed)).toList } }
  | leaveMode (hpc : s.tcp.pc = .mode) (hbusy : s.deviceBusy = false) :
      TcpStep s .run (s.goto .outer)
  | urbAgain (r : RecvResult) (conn : Option Conn) (hpc : s.tcp.pc = .urbHeader)
      (hrecv : sockRecv s.conn s.tcp.sock headerBasicSize r = some (conn, .again)) :
      TcpStep s (.recv r) s
  | urbFailed (r : RecvResult) (conn : Option Conn) (hpc : s.tcp.pc = .urbHeader)
      (hrecv : sockRecv s.conn s.tcp.sock headerBasicSize r = some (conn, .failed)) :
      TcpStep s (.recv r) (s.goto .outer)
  | urbClosed (r : RecvResult) (conn : Option Conn) (hpc : s.tcp.pc = .urbHeader)
      (hrecv : sockRecv s.conn s.tcp.sock headerBasicSize r = some (conn, .got [])) :
      TcpStep s (.recv r) (s.goto .urbClosed)
  | urbHeader (r : RecvResult) (conn : Option Conn) (bytes : Bytes) (hpc : s.tcp.pc = .urbHeader)
      (hrecv : sockRecv s.conn s.tcp.sock headerBasicSize r = some (conn, .got bytes))
      (hbytes : bytes ≠ []) :
      TcpStep s (.recv r) ((s.took conn bytes.length).setTcp
        { s.tcp with
          pc := urbNext (.ofBytes (overwrite bytes s.tcp.header))
          header := overwrite bytes s.tcp.header })
  | clientGone (hpc : s.tcp.pc = .urbClosed) :
      TcpStep s .run { s.goto .outer with deviceBusy := false }
  | submitBody (r : RecvResult) (conn : Option Conn) (bytes : Bytes)
      (hpc : s.tcp.pc = .submitBody)
      (hrecv : sockRecv s.conn s.tcp.sock cmdHeaderSize r = some (conn, .got bytes)) :
      TcpStep s (.recv r) ((s.took conn bytes.length).setTcp
        { s.tcp with
          pc := if bytes.length = cmdHeaderSize then
              submitNext s.header (.ofBytes (overwrite bytes s.tcp.cmdSubmit) s.tcp.transferBuffer)
            else .urbHeader
          cmdSubmit := overwrite bytes s.tcp.cmdSubmit })
  | payload (r : RecvResult) (conn : Option Conn) (bytes : Bytes) (hpc : s.tcp.pc = .payload)
      (hrecv : sockRecv s.conn s.tcp.sock s.cmdSubmit.transferBufferLength.toNat r =
        some (conn, .got bytes)) :
      TcpStep s (.recv r) ((s.took conn bytes.length).setTcp
        { s.tcp with
          pc := if bytes.length = s.cmdSubmit.transferBufferLength.toNat then .postSubmit
            else .urbHeader
          transferBuffer := overwrite bytes s.tcp.transferBuffer })
  | bodyFailed (r : RecvResult) (conn : Option Conn) (o : RecvOutcome) (want : ℕ)
      (hpc : s.tcp.pc = .submitBody ∧ want = cmdHeaderSize ∨
        s.tcp.pc = .payload ∧ want = s.cmdSubmit.transferBufferLength.toNat)
      (hrecv : sockRecv s.conn s.tcp.sock want r = some (conn, o))
      (ho : ∀ bytes, o ≠ .got bytes) : TcpStep s (.recv r) (s.goto .urbHeader)
  | postSubmit (hpc : s.tcp.pc = .postSubmit) (hloop : s.loop2.count ≠ 0) :
      TcpStep s (.post true) { s.goto .urbHeader with
        loop2 := { s.loop2 with queue := s.loop2.queue ++ [(s.loop2.count, submitEvent s)] }
        history := { s.history with posted := s.history.posted ++ [submitEvent s] } }
  | postSubmitFailed (hpc : s.tcp.pc = .postSubmit) :
      TcpStep s (.post false) (s.goto .urbHeader)
  | unlinkBody (r : RecvResult) (conn : Option Conn) (bytes : Bytes)
      (hpc : s.tcp.pc = .unlinkBody)
      (hrecv : sockRecv s.conn s.tcp.sock cmdUnlinkSize r = some (conn, .got bytes)) :
      TcpStep s (.recv r) (Server.noteUnlink ((s.took conn bytes.length).setTcp
        { s.tcp with pc := .unlinkReply, cmdUnlink := overwrite bytes s.tcp.cmdUnlink }))
  | unlinkBodyFailed (r : RecvResult) (conn : Option Conn) (o : RecvOutcome)
      (hpc : s.tcp.pc = .unlinkBody)
      (hrecv : sockRecv s.conn s.tcp.sock cmdUnlinkSize r = some (conn, o))
      (ho : ∀ bytes, o ≠ .got bytes) : TcpStep s (.recv r) (s.goto .unlinkReply).noteUnlink
  | unlinkReply (c : Conn) (r : SendResult) (n : ℕ) (hpc : s.tcp.pc = .unlinkReply)
      (hc : s.conn = some c) (hn : n ≤ retUnlink.toBytes.length)
      (hr : r = .full ∧ n = retUnlink.toBytes.length ∨ r = .short n) :
      TcpStep s (.send r) ((s.goto .urbHeader).emit
        ⟨c.id, .retUnlink s.header.seqnum s.victim retUnlink, retUnlink.toBytes, n⟩)
  | unlinkReplyFailed (hpc : s.tcp.pc = .unlinkReply) :
      TcpStep s (.send .failed) (s.goto .urbHeader)
  | cleanupBusy (hpc : s.tcp.pc = .cleanupBusy) :
      TcpStep s .run { s.goto .cleanupEp1 with deviceBusy := false }
  | cleanupEp1 (hpc : s.tcp.pc = .cleanupEp1) :
      TcpStep s .run { s.goto .cleanupEp2 with ep1TransferPending := false }
  | cleanupEp2 (hpc : s.tcp.pc = .cleanupEp2) :
      TcpStep s .run { s.goto .cleanupClose with ep2TransferPending := false }
  | close (hpc : s.tcp.pc = .cleanupClose) :
      TcpStep s .run { s with conn := none, tcp := { s.tcp with pc := .accepting, sock := -1 } }

theorem tcpServerStart_step {s t : Server} {a : TcpAction} (h : tcpServerStart s a = some t) :
    TcpStep s a t := by
  unfold tcpServerStart at h
  split at h
  · rename_i stream hpc
    cases h
    exact .acceptFailed stream hpc
  · rename_i number stream hpc
    cases h
    exact .accept number stream hpc
  · rename_i hpc
    cases h
    exact .begin hpc
  · cases h

theorem doRecv_step {s t : Server} {a : TcpAction} (h : doRecv s a = some t) : TcpStep s a t := by
  unfold doRecv at h
  split at h
  case h_1 hpc => cases h; exact .outer hpc
  case h_2 r hpc =>
    obtain ⟨⟨conn, o⟩, hrecv, rfl⟩ := Option.map_eq_some_iff.1 h
    split
    · rename_i heq
      cases heq
      exact .commandAgain r _ hpc hrecv
    · rename_i heq
      cases heq
      exact .commandEnds r _ _ hpc hrecv (.inl rfl)
    · rename_i heq
      cases heq
      exact .commandEnds r _ _ hpc hrecv (.inr rfl)
    · rename_i hne heq
      cases heq
      exact .command r _ _ hpc hrecv fun hnil => hne (by rw [hnil])
  case h_3 ok hpc =>
    cases ok with
    | true =>
      cases h
      exact .postCommand hpc
    | false =>
      cases h
      exact .postCommandFailed hpc
  case h_4 n hpc => cases h; exact .importWait n hpc
  case h_5 hpc =>
    split_ifs at h with hbusy
    · cases h
      exact .enterUrb hpc hbusy
    · cases h
      exact .leaveMode hpc (by simpa using hbusy)
  case h_6 r hpc =>
    obtain ⟨⟨conn, o⟩, hrecv, rfl⟩ := Option.map_eq_some_iff.1 h
    split
    · rename_i heq
      cases heq
      exact .urbAgain r _ hpc hrecv
    · rename_i heq
      cases heq
      exact .urbFailed r _ hpc hrecv
    · rename_i heq
      cases heq
      exact .urbClosed r _ hpc hrecv
    · rename_i hne heq
      cases heq
      exact .urbHeader r _ _ hpc hrecv fun hnil => hne (by rw [hnil])
  case h_7 hpc => cases h; exact .clientGone hpc
  case h_8 r hpc =>
    obtain ⟨⟨conn, o⟩, hrecv, rfl⟩ := Option.map_eq_some_iff.1 h
    split
    · rename_i heq
      cases heq
      exact .submitBody r _ _ hpc hrecv
    · rename_i hno
      exact .bodyFailed r conn o _ (.inl ⟨hpc, rfl⟩) hrecv fun bytes ho => hno _ _ (by rw [ho])
  case h_9 r hpc =>
    obtain ⟨⟨conn, o⟩, hrecv, rfl⟩ := Option.map_eq_some_iff.1 h
    split
    · rename_i heq
      cases heq
      exact .payload r _ _ hpc hrecv
    · rename_i hno
      exact .bodyFailed r conn o _ (.inr ⟨hpc, rfl⟩) hrecv fun bytes ho => hno _ _ (by rw [ho])
  case h_10 ok hpc =>
    cases ok with
    | true =>
      simp only [if_true] at h
      split_ifs at h with hloop
      cases h
      exact .postSubmit hpc hloop
    | false =>
      cases h
      exact .postSubmitFailed hpc
  case h_11 r hpc =>
    obtain ⟨⟨conn, o⟩, hrecv, rfl⟩ := Option.map_eq_some_iff.1 h
    split
    · rename_i heq
      cases heq
      exact .unlinkBody r _ _ hpc hrecv
    · rename_i hno
      exact .unlinkBodyFailed r conn o hpc hrecv fun bytes ho => hno _ _ (by rw [ho])
  case h_12 r hpc =>
    simp only [tcpSendLocked, Option.map_map, Option.map_eq_some_iff] at h
    obtain ⟨o, hsend, rfl⟩ := h
    cases o with
    | none =>
      rw [sockSend_none hsend]
      exact .unlinkReplyFailed hpc
    | some p =>
      obtain ⟨id, n⟩ := p
      obtain ⟨c, hc, -, rfl, hn, hr⟩ := sockSend_some hsend
      exact .unlinkReply c r n hpc hc hn hr
  case h_13 hpc => cases h; exact .cleanupBusy hpc
  case h_14 hpc => cases h; exact .cleanupEp1 hpc
  case h_15 hpc => cases h; exact .cleanupEp2 hpc
  case h_16 hpc => cases h; exact .close hpc
  case h_17 => cases h

theorem tcpStep {s t : Server} {a : TcpAction} (h : step s (.tcp a) = some t) :
    s.crashed = false ∧ TcpStep s a t := by
  simp only [step] at h
  split_ifs at h with hc
  refine ⟨by simpa using hc, ?_⟩
  split at h
  · exact tcpServerStart_step h
  · exact tcpServerStart_step h
  · exact doRecv_step h

/-- The places of `do_recv` between the first look at `device_busy` and its cleanup. -/
def TcpPc.serving : TcpPc → Bool
  | .accepting | .begin | .cleanupEp1 | .cleanupEp2 | .cleanupClose => false
  | _ => true

@[elab_as_elim]
theorem commandNext_elim {motive : TcpPc → Prop} (s : Server) (devRecv : Bytes)
    (post : motive .postCommand) (busy : motive .cleanupBusy) (mode : motive .mode) :
    motive (commandNext s devRecv) := by
  unfold commandNext
  split_ifs
  · exact post
  · exact busy
  · exact mode

@[elab_as_elim]
theorem urbNext_elim {motive : TcpPc → Prop} (header : UsbipHeaderBasic)
    (submit : motive .submitBody) (unlink : motive .unlinkBody) (skip : motive .urbHeader) :
    motive (urbNext header) := by
  unfold urbNext
  split_ifs
  · exact submit
  · exact unlink
  · exact skip

@[elab_as_elim]
theorem submitNext_elim {motive : TcpPc → Prop} (header : UsbipHeaderBasic) (cmd : UsbipCmdSubmit)
    (reject : motive .urbHeader) (payload : motive .payload) (post : motive .postSubmit) :
    motive (submitNext header cmd) := by
  unfold submitNext
  split_ifs
  · exact reject
  · exact payload
  · exact post

structure TcpTask.Serves (old new : TcpTask) : Prop where
  sock : new.sock = old.sock
  source : old.pc = .begin ∨ old.pc.serving = true
  target : new.pc.serving = true

theorem TcpTask.Serves.source_ne_accepting {old new : TcpTask} (h : old.Serves new) :
    old.pc ≠ .accepting := by
  intro hpc
  rcases h.source with h | h <;> rw [hpc] at h <;> cases h

theorem TcpTask.Serves.target_ne_accepting {old new : TcpTask} (h : old.Serves new) :
    new.pc ≠ .accepting := by
  intro hpc
  have h := h.target
  rw [hpc] at h
  cases h

inductive TcpEffect (s : Server) : TcpAction → Server → Prop
  /-- Locals, the stream offset and the notes on both; everything else stays. -/
  | own (a : TcpAction) (tcp : TcpTask) (conn : Option Conn) (recvBytes : ℕ)
      (urbEntries : List (ℕ × ℕ)) (unlinks : List (UInt32 × UInt32)) (htcp : s.tcp.Serves tcp)
      (hconn : SameConn conn s.conn) :
      TcpEffect s a { s with
        tcp := tcp, conn := conn
        history := { s.history with
          recvBytes := recvBytes, urbEntries := urbEntries, unlinks := unlinks } }
  | acceptFailed (stream : Bytes) (hpc : s.tcp.pc = .accepting) :
      TcpEffect s (.accept none stream) (s.setTcp { s.tcp with sock := -1 })
  | accept (number : ℕ) (stream : Bytes) (hpc : s.tcp.pc = .accepting) :
      TcpEffect s (.accept (some number) stream) { s with
        conn := some ⟨s.history.accepted, number, stream, 0⟩
        tcp := { s.tcp with pc := .begin, sock := number }
        history := { s.history with accepted := s.history.accepted + 1 } }
  | postCommand (tcp : TcpTask) (htcp : s.tcp.Serves tcp) (hpc : s.tcp.pc = .postCommand) :
      TcpEffect s (.post true) { s with
        tcp := tcp
        loop1 := { s.loop1 with queue := s.loop1.queue ++ [commandEvent s] }
        history := { s.history with commands := s.history.commands ++ [commandEvent s] } }
  | postSubmit (tcp : TcpTask) (htcp : s.tcp.Serves tcp) (hpc : s.tcp.pc = .postSubmit)
      (hloop : s.loop2.count ≠ 0) :
      TcpEffect s (.post true) { s with
        tcp := tcp
        loop2 := { s.loop2 with queue := s.loop2.queue ++ [(s.loop2.count, submitEvent s)] }
        history := { s.history with posted := s.history.posted ++ [submitEvent s] } }
  | unlink (tcp : TcpTask) (c : Conn) (r : SendResult) (n : ℕ) (htcp : s.tcp.Serves tcp)
      (hpc : s.tcp.pc = .unlinkReply) (hc : s.conn = some c)
      (hn : n ≤ retUnlink.toBytes.length)
      (hr : r = .full ∧ n = retUnlink.toBytes.length ∨ r = .short n) :
      TcpEffect s (.send r) ({ s with tcp := tcp }.emit
        ⟨c.id, .retUnlink s.header.seqnum s.victim retUnlink, retUnlink.toBytes, n⟩)
  | clientGone (hpc : s.tcp.pc = .urbClosed) :
      TcpEffect s .run { s.goto .outer with deviceBusy := false }
  | cleanupBusy (hpc : s.tcp.pc = .cleanupBusy) :
      TcpEffect s .run { s.goto .cleanupEp1 with deviceBusy := false }
  | cleanupEp1 (hpc : s.tcp.pc = .cleanupEp1) :
      TcpEffect s .run { s.goto .cleanupEp2 with ep1TransferPending := false }
  | cleanupEp2 (hpc : s.tcp.pc = .cleanupEp2) :
      TcpEffect s .run { s.goto .cleanupClose with ep2TransferPending := false }
  | close (hpc : s.tcp.pc = .cleanupClose) :
      TcpEffect s .run { s with conn := none, tcp := { s.tcp with pc := .accepting, sock := -1 } }

theorem TcpEffect.goto {s : Server} {a : TcpAction} {old pc : TcpPc} (hold : s.tcp.pc = old)
    (hs : old = .begin ∨ old.serving = true) (ht : pc.serving = true) :
    TcpEffect s a (s.goto pc) :=
  .own a { s.tcp with pc := pc } s.conn s.history.recvBytes s.history.urbEntries
    s.history.unlinks ⟨rfl, hold ▸ hs, ht⟩ rfl

theorem TcpEffect.recv {s : Server} {a : TcpAction} {old : TcpPc} {tcp : TcpTask} {want n : ℕ}
    {r : RecvResult} {conn : Option Conn} {o : RecvOutcome} (hold : s.tcp.pc = old)
    (hs : old.serving = true) (ht : tcp.pc.serving = true) (hsock : tcp.sock = s.tcp.sock)
    (hrecv : sockRecv s.conn s.tcp.sock want r = some (conn, o)) :
    TcpEffect s a ((s.took conn n).setTcp tcp) :=
  .own a tcp conn _ s.history.urbEntries s.history.unlinks ⟨hsock, .inr (hold ▸ hs), ht⟩
    (sockRecv_sameConn hrecv)

theorem TcpStep.effect {s t : Server} {a : TcpAction} (h : TcpStep s a t) : TcpEffect s a t := by
  have hnext : (if (commandEvent s).eventId = opReqImport then TcpPc.importWait 0
      else .mode).serving = true := by
    split_ifs <;> rfl
  cases h with
  | acceptFailed stream hpc => exact .acceptFailed stream hpc
  | accept number stream hpc => exact .accept number stream hpc
  | begin hpc => exact .goto hpc (.inl rfl) rfl
  | outer hpc =>
    refine .goto hpc (.inr rfl) ?_
    split_ifs <;> rfl
  | commandAgain r conn hpc hrecv | commandEnds r conn o hpc hrecv ho | leaveMode hpc hbusy
  | urbFailed r conn hpc hrecv | urbClosed r conn hpc hrecv | postSubmitFailed hpc
  | unlinkReplyFailed hpc =>
    exact .goto hpc (.inr rfl) rfl
  | command r conn bytes hpc hrecv hbytes =>
    exact .recv hpc rfl (commandNext_elim s _ rfl rfl rfl) rfl hrecv
  | postCommand hpc => exact .postCommand _ ⟨rfl, .inr (by rw [hpc]; rfl), hnext⟩ hpc
  | postCommandFailed hpc => exact .goto hpc (.inr rfl) hnext
  | importWait n hpc =>
    refine .goto hpc (.inr rfl) ?_
    split_ifs <;> rfl
  | enterUrb hpc hbusy => exact .own _ _ _ _ _ _ ⟨rfl, .inr (by rw [hpc]; rfl), rfl⟩ rfl
  | urbAgain r conn hpc hrecv =>
    have hsame : TcpEffect s (.recv r) (s.goto s.tcp.pc) :=
      .goto rfl (.inr (by rw [hpc]; rfl)) (by rw [hpc]; rfl)
    exact hsame
  | urbHeader r conn bytes hpc hrecv hbytes =>
    exact .recv hpc rfl (urbNext_elim _ rfl rfl rfl) rfl hrecv
  | clientGone hpc => exact .clientGone hpc
  | submitBody r conn bytes hpc hrecv =>
    refine .recv hpc rfl ?_ rfl hrecv
    dsimp only
    split_ifs
    · exact submitNext_elim _ _ rfl rfl rfl
    · rfl
  | payload r conn bytes hpc hrecv =>
    refine .recv hpc rfl ?_ rfl hrecv
    dsimp only
    split_ifs <;> rfl
  | bodyFailed r conn o want hpc hrecv ho =>
    rcases hpc with ⟨hpc, -⟩ | ⟨hpc, -⟩ <;> exact .goto hpc (.inr rfl) rfl
  | postSubmit hpc hloop => exact .postSubmit _ ⟨rfl, .inr (by rw [hpc]; rfl), rfl⟩ hpc hloop
  | unlinkBody r conn bytes hpc hrecv =>
    exact .own _ _ _ _ _ _ ⟨rfl, .inr (by rw [hpc]; rfl), rfl⟩ (sockRecv_sameConn hrecv)
  | unlinkBodyFailed r conn o hpc hrecv ho =>
    exact .own _ _ _ _ _ _ ⟨rfl, .inr (by rw [hpc]; rfl), rfl⟩ rfl
  | unlinkReply c r n hpc hc hn hr =>
    exact .unlink _ c r n ⟨rfl, .inr (by rw [hpc]; rfl), rfl⟩ hpc hc hn hr
  | cleanupBusy hpc => exact .cleanupBusy hpc
  | cleanupEp1 hpc => exact .cleanupEp1 hpc
  | cleanupEp2 hpc => exact .cleanupEp2 hpc
  | close hpc => exact .close hpc

theorem tcpStep_effect {s t : Server} {a : TcpAction} (h : step s (.tcp a) = some t) :
    s.crashed = false ∧ TcpEffect s a t :=
  ⟨(tcpStep h).1, (tcpStep h).2.effect⟩

inductive Loop1Step (s : Server) : Loop1Action → Server → Prop
  | dispatch (ev : TcpData) (queue : List TcpData) (hh : s.loop1.handler = .idle)
      (hq : s.loop1.queue = ev :: queue) :
      Loop1Step s .dispatch { s with loop1 := ⟨queue, deliver1 ev⟩ }
  | devlistCrash (ev : TcpData) (stack : List UsbipInterface) (r : SendResult)
      (hh : s.loop1.handler = .devlist ev) (hd : devlistReply s.lib s.driver stack = none) :
      Loop1Step s (.devlist stack r) { s with crashed := true }
  | devlistFailed (ev : TcpData) (stack : List UsbipInterface) (frame : Bytes)
      (hh : s.loop1.handler = .devlist ev) (hd : devlistReply s.lib s.driver stack = some frame) :
      Loop1Step s (.devlist stack .failed) (s.handle1 .idle)
  | devlistSent (ev : TcpData) (stack : List UsbipInterface) (frame : Bytes) (r : SendResult)
      (c : Conn) (n : ℕ) (hh : s.loop1.handler = .devlist ev)
      (hd : devlistReply s.lib s.driver stack = some frame) (hc : s.conn = some c)
      (hr : r = .full ∧ n = frame.length ∨ r = .short n) :
      Loop1Step s (.devlist stack r) ((s.handle1 .idle).emit ⟨c.id, .repDevlist, frame, n⟩)
  | copy (ev : TcpData) (hh : s.loop1.handler = .importCopy ev) :
      Loop1Step s .run (s.handle1 (.importRecv ev
        (overwrite (s.tcp.devRecv.take ev.len) (List.replicate opReqImportSize 0))))
  | recv (ev : TcpData) (devImport : Bytes) (r : RecvResult) (conn : Option Conn) (bytes : Bytes)
      (hh : s.loop1.handler = .importRecv ev devImport)
      (hrecv : sockRecv s.conn ev.sock (opReqImportSize - ev.len) r = some (conn, .got bytes))
      (hlen : bytes.length = opReqImportSize - ev.len) :
      Loop1Step s (.recv r)
        { s.handle1 (.importBuild ev (devImport.take ev.len ++ bytes)) with conn := conn }
  | recvFailed (ev : TcpData) (devImport : Bytes) (r : RecvResult) (conn : Option Conn)
      (o : RecvOutcome) (hh : s.loop1.handler = .importRecv ev devImport)
      (hrecv : sockRecv s.conn ev.sock (opReqImportSize - ev.len) r = some (conn, o))
      (ho : ∀ bytes, o = .got bytes → bytes.length ≠ opReqImportSize - ev.len) :
      Loop1Step s (.recv r) { s.handle1 .idle with conn := conn }
  | buildCrash (ev : TcpData) (devImport : Bytes)
      (hh : s.loop1.handler = .importBuild ev devImport)
      (hb : (importBuild s.driver devImport).reply = none) :
      Loop1Step s .run { s with crashed := true }
  | build (ev : TcpData) (devImport : Bytes) (rep : OpRepImport)
      (hh : s.loop1.handler = .importBuild ev devImport)
      (hb : (importBuild s.driver devImport).reply = some rep) :
      Loop1Step s .run (s.handle1 (.importSend ev devImport rep))
  | sendFailed (ev : TcpData) (devImport : Bytes) (rep : OpRepImport)
      (hh : s.loop1.handler = .importSend ev devImport rep) :
      Loop1Step s (.send .failed) (s.handle1 .idle)
  | sendShort (ev : TcpData) (devImport : Bytes) (rep : OpRepImport) (c : Conn) (n : ℕ)
      (hh : s.loop1.handler = .importSend ev devImport rep) (hc : s.conn = some c) :
      Loop1Step s (.send (.short n))
        (Server.handle1 (s.emit ⟨c.id, .repImport rep, rep.toBytes, n⟩) .idle)
  | send (ev : TcpData) (devImport : Bytes) (rep : OpRepImport) (c : Conn)
      (hh : s.loop1.handler = .importSend ev devImport rep) (hc : s.conn = some c)
      (hnum : (c.number : ℤ) = ev.sock) :
      Loop1Step s (.send .full)
        (Server.handle1 (s.emit ⟨c.id, .repImport rep, rep.toBytes, rep.toBytes.length⟩)
          (.importBusy ev devImport rep))
  | busy (ev : TcpData) (devImport : Bytes) (rep : OpRepImport)
      (hh : s.loop1.handler = .importBusy ev devImport rep) :
      Loop1Step s .run { s.handle1 .idle with deviceBusy := true }

theorem sockRecv_conn_eq {conn conn' : Option Conn} {sock : ℤ} {want : ℕ} {r : RecvResult}
    {o : RecvOutcome} (h : sockRecv conn sock want r = some (conn', o))
    (ho : ∀ bytes, o = .got bytes → bytes = []) : conn' = conn := by
  unfold sockRecv at h
  split at h
  · rename_i c n hc
    split_ifs at h with hn
    simp only [Option.some.injEq, Prod.mk.injEq] at h
    have hnil := ho _ h.2.symm
    have hlen := congrArg List.length hnil
    simp only [List.length_take, List.length_nil] at hlen
    omega
  · split_ifs at h
    simp only [Option.some.injEq, Prod.mk.injEq] at h
    exact h.1.symm
  · simp only [Option.some.injEq, Prod.mk.injEq] at h
    exact h.1.symm
  · simp only [Option.some.injEq, Prod.mk.injEq] at h
    exact h.1.symm
  · cases h

theorem usbIpEventHandler1_step {s t : Server} {a : Loop1Action}
    (h : usbIpEventHandler1 s a = some t) : Loop1Step s a t := by
  unfold usbIpEventHandler1 at h
  split at h
  case h_1 hh =>
    split at h
    · cases h
    · rename_i ev queue hq
      cases h
      exact .dispatch ev queue hh hq
  case h_2 ev stack r hh =>
    split at h
    · rename_i hd
      cases h
      exact .devlistCrash ev stack r hh hd
    · rename_i frame hd
      obtain ⟨o, hsend, rfl⟩ := Option.map_eq_some_iff.1 h
      cases o with
      | none =>
        rw [sockSend_none hsend]
        exact .devlistFailed ev stack frame hh hd
      | some p =>
        obtain ⟨id, n⟩ := p
        obtain ⟨c, hc, -, rfl, -, hr⟩ := sockSend_some hsend
        exact .devlistSent ev stack frame r c n hh hd hc hr
  case h_3 ev hh => cases h; exact .copy ev hh
  case h_4 ev devImport r hh =>
    obtain ⟨⟨conn, o⟩, hrecv, rfl⟩ := Option.map_eq_some_iff.1 h
    split
    · rename_i heq
      cases heq
      split_ifs with hlen
      · exact .recv ev devImport r _ _ hh hrecv hlen
      · exact .recvFailed ev devImport r _ _ hh hrecv fun _ ho => by cases ho; exact hlen
    · rename_i hno
      have hconn : conn = s.conn := by
        refine sockRecv_conn_eq hrecv fun bytes ho => ?_
        exact absurd (by rw [ho]) (hno conn bytes)
      subst hconn
      refine .recvFailed ev devImport r _ o hh hrecv fun bytes ho => ?_
      exact absurd (by rw [ho]) (hno _ bytes)
  case h_5 ev devImport hh =>
    split at h
    · rename_i hb
      cases h
      exact .buildCrash ev devImport hh hb
    · rename_i rep hb
      cases h
      exact .build ev devImport rep hh hb
  case h_6 ev devImport rep r hh =>
    simp only [tcpSendLocked, Option.map_map, Option.map_eq_some_iff] at h
    obtain ⟨o, hsend, rfl⟩ := h
    cases o with
    | none =>
      rw [sockSend_none hsend]
      exact .sendFailed ev devImport rep hh
    | some p =>
      obtain ⟨id, n⟩ := p
      obtain ⟨c, hc, hnum, rfl, -, hr⟩ := sockSend_some hsend
      rcases hr with ⟨rfl, rfl⟩ | rfl
      · simp only [Function.comp_apply, beq_self_eq_true]
        exact .send ev devImport rep c hh hc hnum
      · have hlt : n ≠ rep.toBytes.length := by
          simp only [sockSend] at hsend
          split_ifs at hsend with hn
          exact hn.ne
        have hshort : (n == rep.toBytes.length) = false := by simpa using hlt
        simp only [Function.comp_apply, hshort]
        exact .sendShort ev devImport rep c n hh hc
  case h_7 ev devImport rep hh => cases h; exact .busy ev devImport rep hh
  case h_8 => cases h

inductive Loop1Effect (s : Server) : Server → Prop
  | own (loop1 : Loop1) (conn : Option Conn) (hconn : SameConn conn s.conn) :
      Loop1Effect s { s with loop1 := loop1, conn := conn }
  | send (loop1 : Loop1) (c : Conn) (m : Sent) (hc : s.conn = some c) (hm : m.conn = c.id)
      (hmsg : m.message = .repDevlist ∨ ∃ rep, m.message = .repImport rep) :
      Loop1Effect s ({ s with loop1 := loop1 }.emit m)
  | busy (ev : TcpData) (devImport : Bytes) (rep : OpRepImport)
      (hh : s.loop1.handler = .importBusy ev devImport rep) :
      Loop1Effect s { s.handle1 .idle with deviceBusy := true }
  | crash : Loop1Effect s { s with crashed := true }

theorem Loop1Effect.handle1 (s : Server) (h : Handler1) : Loop1Effect s (s.handle1 h) :=
  .own { s.loop1 with handler := h } s.conn (SameConn.refl _)

theorem Loop1Step.effect {s t : Server} {a : Loop1Action} (h : Loop1Step s a t) :
    Loop1Effect s t := by
  cases h with
  | dispatch ev queue hh hq => exact .own _ _ (SameConn.refl _)
  | devlistCrash => exact .crash
  | devlistFailed => exact .handle1 s .idle
  | devlistSent ev stack frame r c n hh hd hc hr => exact .send _ c _ hc rfl (.inl rfl)
  | copy => exact .handle1 s _
  | recv ev devImport r conn bytes hh hrecv hlen => exact .own _ _ (sockRecv_sameConn hrecv)
  | recvFailed ev devImport r conn o hh hrecv => exact .own _ _ (sockRecv_sameConn hrecv)
  | buildCrash => exact .crash
  | build => exact .handle1 s _
  | sendFailed => exact .handle1 s .idle
  | sendShort ev devImport rep c n hh hc => exact .send _ c _ hc rfl (.inr ⟨rep, rfl⟩)
  | send ev devImport rep c hh hc => exact .send _ c _ hc rfl (.inr ⟨rep, rfl⟩)
  | busy ev devImport rep hh => exact .busy ev devImport rep hh

theorem loop1Step {s t : Server} {a : Loop1Action} (h : step s (.loop1 a) = some t) :
    s.crashed = false ∧ Loop1Step s a t := by
  simp only [step] at h
  split_ifs at h with hc
  exact ⟨by simpa using hc, usbIpEventHandler1_step h⟩

theorem loop1Step_effect {s t : Server} {a : Loop1Action} (h : step s (.loop1 a) = some t) :
    s.crashed = false ∧ Loop1Effect s t :=
  ⟨(loop1Step h).1, (loop1Step h).2.effect⟩

inductive Loop2Effect (s : Server) : Loop2Action → Server → Prop
  | dispatch (i l : ℕ) (ev : Submit) (hi : s.loop2.queue[i]? = some (l, ev)) :
      Loop2Effect s (.dispatch i) { s with
        loop2 := { s.loop2 with
          queue := s.loop2.queue.eraseIdx i
          handlers := s.loop2.handlers ++ [(l, .entry ev)] } }
  | noReply (j l : ℕ) (ev : Submit) (hj : s.loop2.handlers[j]? = some (l, .entry ev)) :
      Loop2Effect s (.malloc j none) (s.drop2 j ev .noReply)
  | fill (j l : ℕ) (ev : Submit) (heap : Bytes)
      (hj : s.loop2.handlers[j]? = some (l, .entry ev)) :
      Loop2Effect s (.malloc j (some heap))
        { s.setHandler2 j (.filled ev (fillRetSubmit ev heap)) with
          heap := { s.heap with rets := ev.id :: s.heap.rets } }
  | setSkt (j l : ℕ) (ev : Submit) (ret : UsbipRetSubmit)
      (hj : s.loop2.handlers[j]? = some (l, .filled ev ret)) :
      Loop2Effect s (.setSkt j) { s.setHandler2 j (.sktSet ev ret) with skt := ev.sock }
  | noTransfer (j l : ℕ) (ev : Submit) (ret : UsbipRetSubmit)
      (hj : s.loop2.handlers[j]? = some (l, .sktSet ev ret)) :
      Loop2Effect s (.alloc j none)
        { s.drop2 j ev .noTransfer with
          heap := { s.heap with rets := s.heap.rets.erase ev.id } }
  | alloc (j l : ℕ) (ev : Submit) (ret : UsbipRetSubmit) (heap : Bytes)
      (hj : s.loop2.handlers[j]? = some (l, .sktSet ev ret)) :
      Loop2Effect s (.alloc j (some heap))
        { s.setHandler2 j (.allocated (allocTransfer ev ret heap s.driver.devHdl)) with
          heap := { s.heap with transfers := ev.id :: s.heap.transfers } }
  | control (j l : ℕ) (tr : UsbTransfer) (hj : s.loop2.handlers[j]? = some (l, .allocated tr))
      (hep : tr.ev.header.ep = 0) :
      Loop2Effect s (.check j) (s.setHandler2 j (.built (buildControl tr)))
  | pending (j l : ℕ) (tr : UsbTransfer) (hj : s.loop2.handlers[j]? = some (l, .allocated tr))
      (hep : tr.ev.header.ep ≠ 0) (hp : s.pending tr.ev.header.ep = true) :
      Loop2Effect s (.check j)
        { s.drop2 j tr.ev .pending with
          heap := ⟨s.heap.rets.erase tr.ev.id, s.heap.transfers.erase tr.ev.id⟩ }
  | checked (j l : ℕ) (tr : UsbTransfer) (hj : s.loop2.handlers[j]? = some (l, .allocated tr))
      (hep : tr.ev.header.ep ≠ 0) (hp : s.pending tr.ev.header.ep = false) :
      Loop2Effect s (.check j) (s.setHandler2 j (.checked tr))
  | build (j l : ℕ) (tr : UsbTransfer) (beyond : UInt32)
      (hj : s.loop2.handlers[j]? = some (l, .checked tr)) :
      Loop2Effect s (.build j beyond)
        (s.setHandler2 j (.built (buildBulk s.lib s.driver.mps beyond tr)))
  | rejected (j l : ℕ) (tr : UsbTransfer) (hj : s.loop2.handlers[j]? = some (l, .built tr)) :
      Loop2Effect s (.submit j false) (s.drop2 j tr.ev .rejected)
  | submitControl (j l : ℕ) (tr : UsbTransfer)
      (hj : s.loop2.handlers[j]? = some (l, .built tr)) (hc : tr.control = true) :
      Loop2Effect s (.submit j true)
        (Server.endHandler2 { s with inFlight := s.inFlight ++ [tr] } j)
  | submitBulk (j l : ℕ) (tr : UsbTransfer)
      (hj : s.loop2.handlers[j]? = some (l, .built tr)) (hc : tr.control = false) :
      Loop2Effect s (.submit j true)
        (Server.setHandler2 { s with inFlight := s.inFlight ++ [tr] } j
          (.accepted tr.ev.header.ep))
  | setPending (j l : ℕ) (ep : UInt32) (hj : s.loop2.handlers[j]? = some (l, .accepted ep)) :
      Loop2Effect s (.setPending j)
        { s.endHandler2 j with
          ep1TransferPending := s.ep1TransferPending || ep == 1
          ep2TransferPending := s.ep2TransferPending || ep == 2 }

theorem usbIpEventHandler2_effect {s t : Server} {a : Loop2Action}
    (h : usbIpEventHandler2 s a = some t) : Loop2Effect s a t := by
  cases a with
  | dispatch i =>
    simp only [usbIpEventHandler2] at h
    split at h
    · cases h
    · rename_i l ev hi
      split_ifs at h
      cases h
      exact .dispatch i l ev hi
  | malloc j heap =>
    simp only [usbIpEventHandler2] at h
    split at h
    · rename_i l ev hj
      cases h
      exact .noReply j l ev hj
    · rename_i l ev heap hj
      cases h
      exact .fill j l ev heap hj
    · cases h
  | setSkt j =>
    simp only [usbIpEventHandler2] at h
    split at h
    · rename_i l ev ret hj
      cases h
      exact .setSkt j l ev ret hj
    · cases h
  | alloc j heap =>
    simp only [usbIpEventHandler2] at h
    split at h
    · rename_i l ev ret hj
      cases h
      exact .noTransfer j l ev ret hj
    · rename_i l ev ret heap hj
      cases h
      exact .alloc j l ev ret heap hj
    · cases h
  | check j =>
    simp only [usbIpEventHandler2] at h
    split at h
    · rename_i l tr hj
      split_ifs at h with hep hp
      · cases h
        exact .control j l tr hj hep
      · cases h
        exact .pending j l tr hj hep hp
      · cases h
        exact .checked j l tr hj hep (by simpa using hp)
    · cases h
  | build j beyond =>
    simp only [usbIpEventHandler2] at h
    split at h
    · rename_i l tr hj
      cases h
      exact .build j l tr beyond hj
    · cases h
  | submit j accepted =>
    simp only [usbIpEventHandler2] at h
    split at h
    · rename_i l tr hj
      cases accepted with
      | false =>
        cases h
        exact .rejected j l tr hj
      | true =>
        rw [if_pos rfl] at h
        by_cases hc : tr.control = true
        · rw [if_pos hc] at h
          cases h
          exact .submitControl j l tr hj hc
        · rw [if_neg hc] at h
          cases h
          exact .submitBulk j l tr hj (by simpa using hc)
    · cases h
  | setPending j =>
    simp only [usbIpEventHandler2] at h
    split at h
    · rename_i l ep hj
      cases h
      exact .setPending j l ep hj
    · cases h

theorem loop2Step_effect {s t : Server} {a : Loop2Action} (h : step s (.loop2 a) = some t) :
    s.crashed = false ∧ Loop2Effect s a t := by
  simp only [step] at h
  split_ifs at h with hc
  exact ⟨by simpa using hc, usbIpEventHandler2_effect h⟩

inductive HostEffect (s : Server) : HostAction → Server → Prop
  | complete (i : ℕ) (tr : UsbTransfer) (status : TransferStatus) (n : ℤ) (data : Bytes)
      (hcb : s.callback = none) (hi : s.inFlight[i]? = some tr) :
      HostEffect s (.complete i status n data) { s with
        inFlight := s.inFlight.eraseIdx i
        callback := some
          ⟨{ tr with dataBuffer := sized tr.dataBuffer.length data }, status, n, false⟩ }
  | clear (c : Callback) (hcb : s.callback = some c) (hcl : c.cleared = false) :
      HostEffect s .clear { s with
        ep1TransferPending :=
          s.ep1TransferPending && (c.transfer.control || callbackEp c.transfer != 1)
        ep2TransferPending :=
          s.ep2TransferPending && (c.transfer.control || callbackEp c.transfer != 2)
        callback := some { c with cleared := true } }
  | silent (c : Callback) (heap : Bytes) (r : SendResult) (hcb : s.callback = some c)
      (hr : s.skt < 0 ∨ r = .failed) :
      HostEffect s (.send heap r) ((s.endCallback c.transfer.ev).silence c.transfer.ev)
  | reply (c : Callback) (conn : Conn) (heap : Bytes) (r : SendResult) (n : ℕ)
      (hcb : s.callback = some c) (hskt : 0 ≤ s.skt) (hconn : s.conn = some conn)
      (hnum : (conn.number : ℤ) = s.skt) (hn : n ≤ (c.frame heap).length)
      (hr : r = .full ∧ n = (c.frame heap).length ∨ r = .short n) :
      HostEffect s (.send heap r)
        ((s.endCallback c.transfer.ev).emit
          ⟨conn.id, .retSubmit c.transfer.ev (c.reply heap), c.frame heap, n⟩)

theorem transferCallback_effect {s t : Server} {a : HostAction}
    (h : transferCallback s a = some t) : HostEffect s a t := by
  unfold transferCallback at h
  split at h
  case h_1 i status n data hcb =>
    split at h
    · rename_i tr hi
      split_ifs at h
      cases h
      exact .complete i tr status n data hcb hi
    · cases h
  case h_2 c hcb =>
    split_ifs at h with hcl
    cases h
    exact .clear c hcb (by simpa using hcl)
  case h_3 c heap r hcb =>
    split_ifs at h with hcl hskt
    · cases h
      exact .silent c heap r hcb (.inl hskt)
    · obtain ⟨o, hsend, rfl⟩ := Option.map_eq_some_iff.1 h
      cases o with
      | none => exact .silent c heap r hcb (.inr (sockSend_none hsend))
      | some p =>
        obtain ⟨conn, hconn, hnum, hid, hn, hr⟩ := sockSend_some hsend
        obtain ⟨id, n⟩ := p
        subst hid
        exact .reply c conn heap r n hcb (by omega) hconn hnum hn hr
  case h_4 => cases h

theorem hostStep_effect {s t : Server} {a : HostAction} (h : step s (.host a) = some t) :
    s.crashed = false ∧ HostEffect s a t := by
  simp only [step] at h
  split_ifs at h with hc
  exact ⟨by simpa using hc, transferCallback_effect h⟩

theorem driverStep_effect {s t : Server} {a : DriverAction} (h : step s (.driver a) = some t) :
    s.crashed = false ∧ s.callback = none ∧
      ∃ d e, usbClassDriverTask s.lib s.driver a = some (d, e) ∧
        t = applyEffect { s with driver := d } e := by
  simp only [step] at h
  split_ifs at h with hc
  simp only [driverStep] at h
  split_ifs at h with hcb
  obtain ⟨⟨d, e⟩, hd, rfl⟩ := Option.map_eq_some_iff.1 h
  exact ⟨by simpa using hc, by simpa using hcb, d, e, hd, rfl⟩

theorem step_running {s t : Server} {a : Action} (h : step s a = some t) : s.crashed = false := by
  by_contra hcrashed
  rw [Bool.not_eq_false] at hcrashed
  cases a <;> simp [step, hcrashed] at h

theorem step_lib {s t : Server} {a : Action} (h : step s a = some t) : t.lib = s.lib := by
  cases a with
  | tcp a =>
    obtain ⟨-, heff⟩ := tcpStep_effect h
    cases heff <;> rfl
  | loop1 a =>
    obtain ⟨-, heff⟩ := loop1Step_effect h
    cases heff <;> rfl
  | loop2 a =>
    obtain ⟨-, heff⟩ := loop2Step_effect h
    cases heff <;> rfl
  | host a =>
    obtain ⟨-, heff⟩ := hostStep_effect h
    cases heff <;> rfl
  | driver a =>
    obtain ⟨-, -, d, e, -, rfl⟩ := driverStep_effect h
    cases e <;> rfl

theorem run_lib {s t : Server} {as : List Action} (h : run s as = some t) : t.lib = s.lib :=
  Schedule.exec_invariant_all (I := fun u => u.lib = s.lib)
    (fun _ _ _ hu hstep => (step_lib hstep).trans hu) rfl h

theorem step_tcp_eq {s t : Server} {a : Action} (h : step s a = some t)
    (ha : ∀ b, a ≠ .tcp b) : t.tcp = s.tcp := by
  cases a with
  | tcp a => exact absurd rfl (ha a)
  | loop1 a =>
    obtain ⟨-, heff⟩ := loop1Step_effect h
    cases heff <;> rfl
  | loop2 a =>
    obtain ⟨-, heff⟩ := loop2Step_effect h
    cases heff <;> rfl
  | host a =>
    obtain ⟨-, heff⟩ := hostStep_effect h
    cases heff <;> rfl
  | driver a =>
    obtain ⟨-, -, d, e, -, rfl⟩ := driverStep_effect h
    cases e <;> rfl

/-- Every step is one of `do_recv` or leaves its state alone. -/
theorem step_tcp_or_other {s t : Server} {a : Action} (h : step s a = some t) :
    (∃ b, a = .tcp b ∧ TcpStep s b t) ∨ (∀ b, a ≠ .tcp b) ∧ t.tcp = s.tcp := by
  by_cases htcp : ∃ b, a = .tcp b
  · obtain ⟨b, rfl⟩ := htcp
    exact .inl ⟨b, rfl, (tcpStep h).2⟩
  · have hother : ∀ b, a ≠ .tcp b := fun b hb => htcp ⟨b, hb⟩
    exact .inr ⟨hother, step_tcp_eq h hother⟩

theorem step_posts {s t : Server} {a : Action} (h : step s a = some t) :
    (a = .tcp (.post true) ∧ s.tcp.pc = .postSubmit ∧
      t.history.posted = s.history.posted ++ [submitEvent s]) ∨
    (¬ (a = .tcp (.post true) ∧ s.tcp.pc = .postSubmit) ∧
      t.history.posted = s.history.posted) := by
  cases a with
  | tcp a =>
    obtain ⟨-, heff⟩ := tcpStep h
    cases heff with
    | postSubmit hpc => exact .inl ⟨rfl, hpc, rfl⟩
    | postCommand hpc =>
      refine .inr ⟨fun hpost => ?_, rfl⟩
      rw [hpost.2] at hpc
      cases hpc
    | _ => exact .inr ⟨nofun, rfl⟩
  | loop1 a =>
    obtain ⟨-, heff⟩ := loop1Step_effect h
    cases heff <;> exact .inr ⟨nofun, rfl⟩
  | loop2 a =>
    obtain ⟨-, heff⟩ := loop2Step_effect h
    cases heff <;> exact .inr ⟨nofun, rfl⟩
  | host a =>
    obtain ⟨-, heff⟩ := hostStep_effect h
    cases heff <;> exact .inr ⟨nofun, rfl⟩
  | driver a =>
    obtain ⟨-, -, d, e, -, rfl⟩ := driverStep_effect h
    cases e <;> exact .inr ⟨nofun, rfl⟩

structure Extends (s t : Server) : Prop where
  commands : s.history.commands <+: t.history.commands
  posted : s.history.posted <+: t.history.posted
  sent : s.history.sent <+: t.history.sent
  dropped : s.history.dropped <+: t.history.dropped
  silent : s.history.silent <+: t.history.silent

theorem Extends.of_history {s t : Server} (h : t.history = s.history) : Extends s t := by
  constructor <;> rw [h]

theorem Extends.refl (s : Server) : Extends s s := .of_history rfl

theorem Extends.trans {s t u : Server} (h : Extends s t) (g : Extends t u) : Extends s u where
  commands := h.commands.trans g.commands
  posted := h.posted.trans g.posted
  sent := h.sent.trans g.sent
  dropped := h.dropped.trans g.dropped
  silent := h.silent.trans g.silent

theorem TcpEffect.extends {s t : Server} {a : TcpAction} (h : TcpEffect s a t) : Extends s t := by
  cases h <;> constructor <;> first | exact List.prefix_rfl | exact List.prefix_append _ _

theorem Loop1Effect.extends {s t : Server} (h : Loop1Effect s t) : Extends s t := by
  cases h <;> constructor <;> first | exact List.prefix_rfl | exact List.prefix_append _ _

theorem Loop2Effect.extends {s t : Server} {a : Loop2Action} (h : Loop2Effect s a t) :
    Extends s t := by
  cases h <;> constructor <;> first | exact List.prefix_rfl | exact List.prefix_append _ _

theorem HostEffect.extends {s t : Server} {a : HostAction} (h : HostEffect s a t) :
    Extends s t := by
  cases h <;> constructor <;> first | exact List.prefix_rfl | exact List.prefix_append _ _

theorem step_extends {s t : Server} {a : Action} (h : step s a = some t) : Extends s t := by
  cases a with
  | tcp a => exact (tcpStep_effect h).2.extends
  | loop1 a => exact (loop1Step_effect h).2.extends
  | loop2 a => exact (loop2Step_effect h).2.extends
  | host a => exact (hostStep_effect h).2.extends
  | driver a =>
    obtain ⟨-, -, d, e, -, rfl⟩ := driverStep_effect h
    cases e <;> exact .of_history rfl

theorem run_extends {s t : Server} {as : List Action} (h : run s as = some t) : Extends s t :=
  Schedule.exec_invariant_all (I := fun u => Extends s u)
    (fun _ _ _ hu hstep => hu.trans (step_extends hstep)) (Extends.refl s) h

inductive SentStep (s : Server) : Action → Server → Prop
  | none (a : Action) (t : Server) (h : t.history.sent = s.history.sent) : SentStep s a t
  | command (a : Loop1Action) (t : Server) (m : Sent)
      (hm : m.message = .repDevlist ∨ ∃ rep, m.message = .repImport rep)
      (h : t.history.sent = s.history.sent ++ [m]) : SentStep s (.loop1 a) t
  | unlink (t : Server) (c : Conn) (r : SendResult) (n : ℕ) (hpc : s.tcp.pc = .unlinkReply)
      (hc : s.conn = some c) (hr : r = .full ∧ n = retUnlink.toBytes.length ∨ r = .short n)
      (h : t.history.sent = s.history.sent ++
        [⟨c.id, .retUnlink s.header.seqnum s.victim retUnlink, retUnlink.toBytes, n⟩]) :
      SentStep s (.tcp (.send r)) t
  | reply (t : Server) (cb : Callback) (c : Conn) (heap : Bytes) (r : SendResult) (n : ℕ)
      (hcb : s.callback = some cb) (hc : s.conn = some c) (hnum : (c.number : ℤ) = s.skt)
      (hr : r = .full ∧ n = (cb.frame heap).length ∨ r = .short n)
      (h : t.history.sent = s.history.sent ++
        [⟨c.id, .retSubmit cb.transfer.ev (cb.reply heap), cb.frame heap, n⟩]) :
      SentStep s (.host (.send heap r)) t

theorem step_sent {s t : Server} {a : Action} (h : step s a = some t) : SentStep s a t := by
  cases a with
  | tcp a =>
    obtain ⟨-, heff⟩ := tcpStep_effect h
    cases heff with
    | unlink tcp c r n htcp hpc hc hn hr => exact .unlink _ c r n hpc hc hr rfl
    | _ => exact .none _ _ rfl
  | loop1 a =>
    obtain ⟨-, heff⟩ := loop1Step_effect h
    cases heff with
    | send loop1 c m hc hm hmsg => exact .command a _ m hmsg rfl
    | _ => exact .none _ _ rfl
  | loop2 a =>
    obtain ⟨-, heff⟩ := loop2Step_effect h
    cases heff <;> exact .none _ _ rfl
  | host a =>
    obtain ⟨-, heff⟩ := hostStep_effect h
    cases heff with
    | reply cb c heap r n hcb hskt hconn hnum hn hr =>
      exact .reply _ cb c heap r n hcb hconn hnum hr rfl
    | _ => exact .none _ _ rfl
  | driver a =>
    obtain ⟨-, -, d, e, -, rfl⟩ := driverStep_effect h
    cases e <;> exact .none _ _ rfl

end UsbRepeater
