import UsbRepeater.Connections

/-! The URB phase of one connection: `do_recv` goes round its URB loop, and the connection is
neither closed nor replaced meanwhile. -/
namespace UsbRepeater

open Schedule

/-- The TCP task stays in the URB loop of the open connection. -/
def StaysInUrb (s : Server) : Action → Prop
  | .tcp (.recv r) => s.tcp.pc = .urbHeader → r ≠ .closed ∧ r ≠ .error
  | _ => True

def SendsSucceed (_ : Server) : Action → Prop
  | .host (.send _ r) | .tcp (.send r) => r = .full
  | _ => True

def Server.wanted (s : Server) : ℕ :=
  match s.tcp.pc with
  | .command => headerCommonSize
  | .urbHeader => headerBasicSize
  | .submitBody => cmdHeaderSize
  | .payload => s.cmdSubmit.transferBufferLength.toNat
  | .unlinkBody => cmdUnlinkSize
  | _ => 0

/-- Every receive of the TCP task returns all it asked for. -/
def ReadsWhole (s : Server) : Action → Prop
  | .tcp (.recv r) => r = .data s.wanted
  | _ => True

instance (s : Server) : ∀ a, Decidable (StaysInUrb s a)
  | .tcp (.recv r) =>
      inferInstanceAs (Decidable (s.tcp.pc = .urbHeader → r ≠ .closed ∧ r ≠ .error))
  | .tcp .run | .tcp (.accept _ _) | .tcp (.post _) | .tcp (.send _) | .loop1 _ | .loop2 _
  | .host _ | .driver _ => isTrue trivial

instance (s : Server) : ∀ a, Decidable (SendsSucceed s a)
  | .host (.send _ r) | .tcp (.send r) => inferInstanceAs (Decidable (r = .full))
  | .host (.complete _ _ _ _) | .host .clear | .tcp .run | .tcp (.accept _ _) | .tcp (.recv _)
  | .tcp (.post _) | .loop1 _ | .loop2 _ | .driver _ => isTrue trivial

instance (s : Server) : ∀ a, Decidable (ReadsWhole s a)
  | .tcp (.recv r) => inferInstanceAs (Decidable (r = .data s.wanted))
  | .tcp .run | .tcp (.accept _ _) | .tcp (.post _) | .tcp (.send _) | .loop1 _ | .loop2 _
  | .host _ | .driver _ => isTrue trivial

theorem ReadsWhole.staysInUrb {s : Server} {a : Action} (h : ReadsWhole s a) : StaysInUrb s a := by
  unfold StaysInUrb
  split
  · intro _
    have hr := h
    simp only [ReadsWhole] at hr
    rw [hr]
    exact ⟨by simp, by simp⟩
  · trivial

def TcpPc.inUrb : TcpPc → Bool
  | .urbHeader | .submitBody | .payload | .postSubmit | .unlinkBody | .unlinkReply => true
  | _ => false

theorem TcpStep.inUrb {s t : Server} {a : TcpAction} (h : TcpStep s a t)
    (ha : StaysInUrb s (.tcp a)) (hs : s.tcp.pc.inUrb = true) : t.tcp.pc.inUrb = true := by
  cases h with
  | urbAgain => exact hs
  | urbFailed r conn hpc hrecv => exact absurd (sockRecv_failed hrecv) (ha hpc).2
  | urbClosed r conn hpc hrecv => exact absurd (sockRecv_closed hrecv) (ha hpc).1
  | urbHeader => exact urbNext_elim _ rfl rfl rfl
  | submitBody =>
    simp only [Server.setTcp]
    split_ifs
    · exact submitNext_elim _ _ rfl rfl rfl
    · rfl
  | payload =>
    simp only [Server.setTcp]
    split_ifs <;> rfl
  | bodyFailed | postSubmit | postSubmitFailed | unlinkBody | unlinkBodyFailed | unlinkReply
  | unlinkReplyFailed =>
    rfl
  | acceptFailed stream hpc | accept number stream hpc | begin hpc | outer hpc
  | commandAgain r conn hpc | commandEnds r conn o hpc | command r conn bytes hpc
  | postCommand hpc | postCommandFailed hpc | importWait n hpc | enterUrb hpc | leaveMode hpc
  | clientGone hpc | cleanupBusy hpc | cleanupEp1 hpc | cleanupEp2 hpc | close hpc =>
    rw [hpc] at hs
    cases hs

structure Server.UrbPhase (s : Server) (k : ℕ) : Prop where
  sockets : s.SocketsOk
  contexts : s.ContextsOk
  inUrb : s.tcp.pc.inUrb = true
  accepted : s.history.accepted = k + 1

theorem Reachable.urbPhase {s : Server} (hs : Reachable s) (hpc : s.tcp.pc = .urbHeader) :
    ∃ c, s.conn = some c ∧ s.UrbPhase c.id := by
  obtain ⟨c, hc, -⟩ := hs.socketsOk.serving (by rw [hpc]; decide)
  exact ⟨c, hc, hs.socketsOk, hs.contextsOk, by rw [hpc]; rfl, (hs.socketsOk.latest c hc).symm⟩

theorem Server.UrbPhase.conn {s : Server} {k : ℕ} (hs : s.UrbPhase k) :
    ∃ c, s.conn = some c ∧ c.id = k := by
  have hne : s.tcp.pc ≠ .accepting := by
    intro hpc
    have hurb := hs.inUrb
    rw [hpc] at hurb
    cases hurb
  obtain ⟨c, hc, -⟩ := hs.sockets.serving hne
  have hlatest := hs.sockets.latest c hc
  have haccepted := hs.accepted
  exact ⟨c, hc, by omega⟩

theorem Server.UrbPhase.conn_id {s : Server} {k : ℕ} (hs : s.UrbPhase k) {c : Conn}
    (hc : s.conn = some c) : c.id = k := by
  obtain ⟨d, hd, hid⟩ := hs.conn
  rw [hd] at hc
  cases hc
  exact hid

theorem step_urbPhase {s t : Server} {a : Action} {k : ℕ} (hs : s.UrbPhase k)
    (ha : StaysInUrb s a) (h : step s a = some t) : t.UrbPhase k := by
  refine ⟨step_socketsOk hs.sockets h, step_contextsOk hs.contexts h, ?_, ?_⟩
  · rcases step_tcp_or_other h with ⟨b, rfl, hstep⟩ | ⟨-, heq⟩
    · exact hstep.inUrb ha hs.inUrb
    · rw [heq]
      exact hs.inUrb
  · rcases step_accepted h with heq | ⟨-, hpc⟩
    · rw [heq, hs.accepted]
    · have hurb := hs.inUrb
      rw [hpc] at hurb
      cases hurb

end UsbRepeater
