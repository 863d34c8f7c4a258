import UsbRepeater.Lib.Watch
import UsbRepeater.Session

/-! A submit that is too long for the buffer. `do_recv` leaves its payload in the stream and reads
the next URB header from it. -/
namespace UsbRepeater

open Schedule

/-- A CMD_SUBMIT with more data for the device than the transfer buffer holds; the data are in the
transfer buffer of `cmdSubmit`. -/
structure OversizedSubmit where
  header : UsbipHeaderBasic
  cmdSubmit : UsbipCmdSubmit
  command : header.command = usbipCmdSubmit
  direction : header.direction = 0
  setup : cmdSubmit.setup.length = 8
  tooLong : 1024 < cmdSubmit.transferBufferLength.toNat
  length : cmdSubmit.transferBuffer.length = cmdSubmit.transferBufferLength.toNat

def OversizedSubmit.payload (o : OversizedSubmit) : Bytes := o.cmdSubmit.transferBuffer

def OversizedSubmit.encode (o : OversizedSubmit) : Bytes :=
  o.header.toBytes ++ (o.cmdSubmit.fixedBytes ++ o.payload)

theorem OversizedSubmit.fixedBytes_length (o : OversizedSubmit) :
    o.cmdSubmit.fixedBytes.length = cmdHeaderSize :=
  UsbipCmdSubmit.fixedBytes_length o.setup

theorem OversizedSubmit.payload_length (o : OversizedSubmit) : 1024 < o.payload.length := by
  rw [OversizedSubmit.payload, o.length]
  exact o.tooLong

theorem OversizedSubmit.encode_length (o : OversizedSubmit) :
    o.encode.length = 48 + o.payload.length := by
  rw [OversizedSubmit.encode, List.length_append, List.length_append, o.fixedBytes_length,
    UsbipHeaderBasic.toBytes_length, headerBasicSize, cmdHeaderSize, ← Nat.add_assoc]

/-- The URB headers read, by the connection and the place in its stream. -/
def noteHeader (s : Server) (a : Action) (heads : List (ℕ × ℕ)) : List (ℕ × ℕ) :=
  match s.tcp.pc, a with
  | .urbHeader, .tcp (.recv (.data _)) =>
      heads ++ (s.conn.map fun c => (c.id, c.consumed)).toList
  | _, _ => heads

/-- When the reads are whole, no URB header after the one read first begins before the end of the
command `o`, and the next one of the connection begins there. -/
def Server.SkipsRejected (s : Server) (c : Conn) (o : OversizedSubmit) : Prop :=
  ∀ as t first heads, exec (watch step noteHeader) (s, []) as = some (t, first :: heads) →
    Always step ReadsWhole s as →
      (∀ x ∈ heads, x.1 = c.id → c.consumed + o.encode.length ≤ x.2) ∧
      (∀ x ∈ heads.head?, x.1 = c.id → x.2 = c.consumed + o.encode.length)

section

variable {s : Server} {c : Conn} {rest : Bytes}

structure Server.Receives (s : Server) (pc : TcpPc) (c : Conn) : Prop where
  place : s.tcp.pc = pc
  conn : s.conn = some c
  sock : (c.number : ℤ) = s.tcp.sock

theorem Server.Receives.sockRecv {pc : TcpPc} (hs : s.Receives pc c) {bytes : Bytes}
    (hne : bytes ≠ []) (hunread : c.unread = bytes ++ rest) :
    sockRecv s.conn s.tcp.sock bytes.length (.data bytes.length) =
      some (some (c.skip bytes.length), .got bytes) := by
  have hopen : openOn s.conn s.tcp.sock = some c := openOn_eq_some.2 ⟨hs.conn, hs.sock⟩
  have hlen : bytes.length ≤ c.unread.length := by
    rw [hunread, List.length_append]
    exact Nat.le_add_right _ _
  rw [sockRecv_data hopen (List.length_pos_of_ne_nil hne) le_rfl hlen, hunread, List.take_left]
  rfl

def Server.afterHeader (s : Server) (c : Conn) (bytes : Bytes) (next : TcpPc) : Server :=
  (s.took (some (c.skip bytes.length)) bytes.length).setTcp
    { s.tcp with pc := next, header := overwrite bytes s.tcp.header }

theorem afterHeader_header (s : Server) (c : Conn) (bytes : Bytes) (next : TcpPc) :
    (s.afterHeader c bytes next).header = .ofBytes (overwrite bytes s.tcp.header) := rfl

theorem Server.Receives.skip (hs : s.Receives .urbHeader c) (bytes : Bytes) (next : TcpPc) :
    (s.afterHeader c bytes next).Receives next (c.skip bytes.length) :=
  ⟨rfl, rfl, hs.sock⟩

theorem step_header (hrunning : s.crashed = false) (hs : s.Receives .urbHeader c) {bytes : Bytes}
    {next : TcpPc} (hlen : bytes.length = headerBasicSize)
    (hpc : urbNext (.ofBytes (overwrite bytes s.tcp.header)) = next)
    (hunread : c.unread = bytes ++ rest) :
    step s (.tcp (.recv (.data headerBasicSize))) = some (s.afterHeader c bytes next) := by
  have hne : bytes ≠ [] := List.ne_nil_of_length_pos (by rw [hlen]; decide)
  have hrecv : sockRecv s.conn s.tcp.sock headerBasicSize (.data headerBasicSize) =
      some (some (c.skip bytes.length), .got bytes) := by
    rw [← hlen]
    exact hs.sockRecv hne hunread
  rw [step_doRecv hrunning (by rw [hs.place]; rfl)]
  obtain ⟨b, bs, rfl⟩ := List.exists_cons_of_ne_nil hne
  simp only [doRecv, hs.place, hrecv, Option.map_some, Server.afterHeader, hpc]

theorem step_submitHeader (hrunning : s.crashed = false) (hs : s.Receives .urbHeader c)
    (o : OversizedSubmit) (hunread : c.unread = o.header.toBytes ++ rest) :
    step s (.tcp (.recv (.data headerBasicSize))) =
      some (s.afterHeader c o.header.toBytes .submitBody) := by
  refine step_header hrunning hs rfl ?_ hunread
  rw [overwrite, UsbipHeaderBasic.ofBytes_toBytes_append, urbNext, if_pos o.command]

theorem header_afterHeader (s : Server) (c : Conn) (o : OversizedSubmit) (next : TcpPc) :
    (s.afterHeader c o.header.toBytes next).header = o.header := by
  rw [afterHeader_header, overwrite, UsbipHeaderBasic.ofBytes_toBytes_append]

def Server.afterRejection (s : Server) (c : Conn) (bytes : Bytes) : Server :=
  (s.took (some (c.skip bytes.length)) bytes.length).setTcp
    { s.tcp with pc := .urbHeader, cmdSubmit := overwrite bytes s.tcp.cmdSubmit }

theorem submitNext_oversized (o : OversizedSubmit) (buffer : Bytes) :
    submitNext o.header { o.cmdSubmit with transferBuffer := buffer } = .urbHeader := by
  have hlong := o.tooLong
  have hne : o.cmdSubmit.transferBufferLength ≠ 0 := by
    intro hzero
    rw [hzero, UInt32.toNat_zero] at hlong
    exact absurd hlong (Nat.not_lt_zero _)
  rw [submitNext, if_pos ⟨o.direction, hne⟩, if_pos hlong]

theorem step_rejection (hrunning : s.crashed = false) (hs : s.Receives .submitBody c)
    (o : OversizedSubmit) (hheader : s.header = o.header)
    (hunread : c.unread = o.cmdSubmit.fixedBytes ++ rest) :
    step s (.tcp (.recv (.data cmdHeaderSize))) =
      some (s.afterRejection c o.cmdSubmit.fixedBytes) := by
  have hlen := o.fixedBytes_length
  have hne : o.cmdSubmit.fixedBytes ≠ [] := List.ne_nil_of_length_pos (by rw [hlen]; decide)
  have hrecv : sockRecv s.conn s.tcp.sock cmdHeaderSize (.data cmdHeaderSize) =
      some (some (c.skip o.cmdSubmit.fixedBytes.length), .got o.cmdSubmit.fixedBytes) := by
    rw [← hlen]
    exact hs.sockRecv hne hunread
  have hnext : submitNext s.header
      (.ofBytes (overwrite o.cmdSubmit.fixedBytes s.tcp.cmdSubmit) s.tcp.transferBuffer) =
        .urbHeader := by
    rw [overwrite, UsbipCmdSubmit.ofBytes_fixedBytes_append o.setup, hheader,
      submitNext_oversized]
  rw [step_doRecv hrunning (by rw [hs.place]; rfl)]
  simp only [doRecv, hs.place, hrecv, Option.map_some, Server.afterRejection]
  rw [if_pos hlen, hnext]

theorem Server.Receives.afterRejection (hs : s.Receives .submitBody c) (o : OversizedSubmit) :
    (s.afterRejection c o.cmdSubmit.fixedBytes).Receives .urbHeader (c.skip cmdHeaderSize) := by
  refine ⟨rfl, ?_, hs.sock⟩
  rw [← o.fixedBytes_length]
  rfl

theorem noteHeader_urbHeader (hs : s.Receives .urbHeader c) (n : ℕ) (heads : List (ℕ × ℕ)) :
    noteHeader s (.tcp (.recv (.data n))) heads = heads ++ [(c.id, c.consumed)] := by
  simp only [noteHeader, hs.place, hs.conn, Option.map_some, Option.toList_some]

theorem noteHeader_append (s : Server) (a : Action) (heads : List (ℕ × ℕ)) :
    ∃ more, noteHeader s a heads = heads ++ more := by
  unfold noteHeader
  split
  · exact ⟨_, rfl⟩
  · exact ⟨[], (List.append_nil heads).symm⟩

theorem noteHeader_other {a : Action} (heads : List (ℕ × ℕ)) (ha : ∀ b, a ≠ .tcp b) :
    noteHeader s a heads = heads := by
  unfold noteHeader
  split
  · exact absurd rfl (ha _)
  · rfl

theorem Server.Receives.wanted_header (hs : s.Receives .urbHeader c) :
    s.wanted = headerBasicSize := by
  rw [Server.wanted, hs.place]

theorem Server.Receives.wanted_body (hs : s.Receives .submitBody c) : s.wanted = cmdHeaderSize := by
  rw [Server.wanted, hs.place]

theorem Server.Receives.action {t : Server} {pc : TcpPc} (hs : s.Receives pc c)
    (hpc : pc = .urbHeader ∨ pc = .submitBody) {a : TcpAction} (h : step s (.tcp a) = some t)
    (ha : ReadsWhole s (.tcp a)) : a = .recv (.data s.wanted) := by
  have hrunning := (tcpStep h).1
  have hplace := hs.place
  cases a with
  | recv r => rw [show r = .data s.wanted from ha]
  | _ => rcases hpc with rfl | rfl <;> simp [step, hrunning, hplace, doRecv] at h

inductive Server.Derailing (c : Conn) (o : OversizedSubmit) (s : Server) :
    List (ℕ × ℕ) → Prop
  | start (hs : s.Receives .urbHeader c) : Derailing c o s []
  | header (hs : s.Receives .submitBody (c.skip headerBasicSize)) (hheader : s.header = o.header) :
      Derailing c o s [(c.id, c.consumed)]
  | rejected (hs : s.Receives .urbHeader (c.skip 48)) : Derailing c o s [(c.id, c.consumed)]
  | derailed (heads : List (ℕ × ℕ)) :
      Derailing c o s ((c.id, c.consumed) :: (c.id, c.consumed + 48) :: heads)

theorem Server.Derailing.of_same {t : Server} {o : OversizedSubmit} {heads : List (ℕ × ℕ)}
    (hs : Server.Derailing c o s heads) (htcp : t.tcp = s.tcp) (hconn : t.conn = s.conn) :
    Server.Derailing c o t heads := by
  have hreceives : ∀ {pc d}, s.Receives pc d → t.Receives pc d := by
    intro pc d h
    refine ⟨?_, hconn.trans h.conn, ?_⟩
    · rw [htcp]
      exact h.place
    · rw [htcp]
      exact h.sock
  cases hs with
  | start h => exact .start (hreceives h)
  | header h hheader => exact .header (hreceives h) (by rw [Server.header, htcp]; exact hheader)
  | rejected h => exact .rejected (hreceives h)
  | derailed heads => exact .derailed heads

theorem Server.Derailing.step {t : Server} {o : OversizedSubmit} {heads : List (ℕ × ℕ)}
    {a : TcpAction} (hunread : c.unread = o.encode ++ rest) (hs : Server.Derailing c o s heads)
    (ha : ReadsWhole s (.tcp a)) (h : step s (.tcp a) = some t) :
    Server.Derailing c o t (noteHeader s (.tcp a) heads) := by
  have hrunning := (tcpStep h).1
  rw [OversizedSubmit.encode, List.append_assoc, List.append_assoc] at hunread
  cases hs with
  | start hs =>
    obtain rfl := hs.action (.inl rfl) h ha
    rw [hs.wanted_header, step_submitHeader hrunning hs o hunread] at h
    obtain rfl := Option.some.inj h
    rw [noteHeader_urbHeader hs]
    exact .header (hs.skip _ _) (header_afterHeader _ _ _ _)
  | header hs hheader =>
    obtain rfl := hs.action (.inr rfl) h ha
    have hnext := Conn.skip_unread hunread
    rw [hs.wanted_body, step_rejection hrunning hs o hheader hnext] at h
    obtain rfl := Option.some.inj h
    have hskip := hs.afterRejection o
    rw [Conn.skip_skip] at hskip
    have hnote : noteHeader s (.tcp (.recv (.data s.wanted))) [(c.id, c.consumed)] =
        [(c.id, c.consumed)] := by
      simp only [noteHeader, hs.place]
    rw [hnote]
    exact .rejected hskip
  | rejected hs =>
    obtain rfl := hs.action (.inl rfl) h ha
    rw [noteHeader_urbHeader hs]
    exact .derailed []
  | derailed heads =>
    obtain ⟨more, hmore⟩ := noteHeader_append s (.tcp a)
      ((c.id, c.consumed) :: (c.id, c.consumed + 48) :: heads)
    rw [hmore]
    exact .derailed (heads ++ more)

theorem TcpStep.no_import {t : Server} {a : TcpAction} (h : TcpStep s a t)
    (hurb : s.tcp.pc.inUrb = true) (hs : s.pendingImports = []) : t.pendingImports = [] := by
  refine (h.pendingImports fun hpc => ?_).trans hs
  rw [hpc] at hurb
  cases hurb

theorem exec_derailing {t : Server} {o : OversizedSubmit} {as : List Action}
    {heads : List (ℕ × ℕ)} (hs : s.Receives .urbHeader c) (hunread : c.unread = o.encode ++ rest)
    (hpending : s.pendingImports = [])
    (h : exec (watch step noteHeader) (s, []) as = some (t, heads))
    (hwhole : Always step ReadsWhole s as) : Server.Derailing c o t heads := by
  have hkeep : ∀ s heads a u,
      (s.tcp.pc.inUrb = true ∧ s.pendingImports = []) ∧ Server.Derailing c o s heads →
        ReadsWhole s a → step s a = some u →
          (u.tcp.pc.inUrb = true ∧ u.pendingImports = []) ∧
            Server.Derailing c o u (noteHeader s a heads) := by
    rintro s heads a u ⟨⟨hurb, hnone⟩, hs⟩ ha hu
    rcases step_tcp_or_other hu with ⟨b, rfl, hstep⟩ | ⟨hother, heq⟩
    · exact ⟨⟨hstep.inUrb ha.staysInUrb hurb, hstep.no_import hurb hnone⟩, hs.step hunread ha hu⟩
    · obtain ⟨hnone', hconn, -⟩ := step_no_import hnone hother hu
      rw [noteHeader_other heads hother]
      refine ⟨⟨?_, hnone'⟩, hs.of_same heq hconn⟩
      rw [heq]
      exact hurb
  have hurb : s.tcp.pc.inUrb = true := by
    rw [hs.place]
    rfl
  exact (watch_invariant (I := fun s heads =>
    (s.tcp.pc.inUrb = true ∧ s.pendingImports = []) ∧ Server.Derailing c o s heads)
    hkeep ⟨⟨hurb, hpending⟩, .start hs⟩ hwhole h).2

theorem Server.Derailing.take {o : OversizedSubmit} {heads : List (ℕ × ℕ)}
    (hs : Server.Derailing c o s heads) :
    heads.take 2 <+: [(c.id, c.consumed), (c.id, c.consumed + 48)] := by
  cases hs with
  | start => exact List.nil_prefix
  | header => exact List.prefix_append [(c.id, c.consumed)] _
  | rejected => exact List.prefix_append [(c.id, c.consumed)] _
  | derailed heads => exact List.prefix_rfl

def derailing : List Action :=
  [.tcp (.recv (.data headerBasicSize)), .tcp (.recv (.data cmdHeaderSize)),
    .tcp (.recv (.data headerBasicSize))]

theorem readsWhole_header (hs : s.Receives .urbHeader c) :
    ReadsWhole s (.tcp (.recv (.data headerBasicSize))) := by
  rw [← hs.wanted_header]
  rfl

theorem readsWhole_body (hs : s.Receives .submitBody c) :
    ReadsWhole s (.tcp (.recv (.data cmdHeaderSize))) := by
  rw [← hs.wanted_body]
  rfl

theorem exists_derailed {o : OversizedSubmit} (hrunning : s.crashed = false)
    (hs : s.Receives .urbHeader c) (hunread : c.unread = o.encode ++ rest) :
    ∃ t, exec (watch step noteHeader) (s, []) derailing =
        some (t, [(c.id, c.consumed), (c.id, c.consumed + 48)]) ∧
      Always step ReadsWhole s derailing := by
  rw [OversizedSubmit.encode, List.append_assoc, List.append_assoc] at hunread
  let s₁ := s.afterHeader c o.header.toBytes .submitBody
  have h₁ : step s (.tcp (.recv (.data headerBasicSize))) = some s₁ :=
    step_submitHeader hrunning hs o hunread
  have hs₁ : s₁.Receives .submitBody (c.skip headerBasicSize) := hs.skip _ _
  let s₂ := s₁.afterRejection (c.skip headerBasicSize) o.cmdSubmit.fixedBytes
  have hunread₁ : (c.skip headerBasicSize).unread = _ := Conn.skip_unread hunread
  have h₂ : step s₁ (.tcp (.recv (.data cmdHeaderSize))) = some s₂ :=
    step_rejection (s := s₁) hrunning hs₁ o (header_afterHeader _ _ _ _) hunread₁
  have hs₂ : s₂.Receives .urbHeader (c.skip 48) := by
    have hskip := hs₁.afterRejection o
    rw [Conn.skip_skip] at hskip
    exact hskip
  -- the payload is long enough for a URB header
  have hunread₂ : (c.skip 48).unread = o.payload.take headerBasicSize ++
      (o.payload.drop headerBasicSize ++ rest) := by
    have hskip := Conn.skip_unread hunread₁
    rw [o.fixedBytes_length, Conn.skip_skip] at hskip
    rw [← List.append_assoc, List.take_append_drop]
    exact hskip
  have hlen : (o.payload.take headerBasicSize).length = headerBasicSize := by
    have hlong := o.payload_length
    rw [List.length_take, headerBasicSize]
    omega
  obtain ⟨s₃, h₃⟩ : ∃ s₃, step s₂ (.tcp (.recv (.data headerBasicSize))) = some s₃ :=
    ⟨_, step_header (s := s₂) hrunning hs₂ hlen rfl hunread₂⟩
  refine ⟨s₃, ?_, ?_⟩
  · refine exec_cons.2 ⟨(s₁, [(c.id, c.consumed)]), watch_eq_some.2 ⟨h₁, ?_⟩, ?_⟩
    · rw [noteHeader_urbHeader hs]
      rfl
    · refine exec_cons.2 ⟨(s₂, [(c.id, c.consumed)]), watch_eq_some.2 ⟨h₂, ?_⟩, ?_⟩
      · simp only [noteHeader, hs₁.place]
      · refine exec_cons.2 ⟨(s₃, _), watch_eq_some.2 ⟨h₃, ?_⟩, exec_nil _⟩
        rw [noteHeader_urbHeader hs₂]
        rfl
  · refine ⟨readsWhole_header hs, fun u hu => ?_⟩
    obtain rfl := Option.some.inj (h₁.symm.trans hu)
    refine ⟨readsWhole_body hs₁, fun v hv => ?_⟩
    obtain rfl := Option.some.inj (h₂.symm.trans hv)
    exact ⟨readsWhole_header hs₂, fun _ _ => trivial⟩

theorem Server.Receives.not_skipsRejected {o : OversizedSubmit} (hrunning : s.crashed = false)
    (hs : s.Receives .urbHeader c) (hunread : c.unread = o.encode ++ rest) :
    ¬ s.SkipsRejected c o := by
  intro hskips
  obtain ⟨t, ht, hwhole⟩ := exists_derailed hrunning hs hunread
  obtain ⟨hnone, -⟩ := hskips derailing t _ _ ht hwhole
  have hle := hnone (c.id, c.consumed + 48) List.mem_cons_self rfl
  have hlong := o.payload_length
  rw [o.encode_length] at hle
  omega

end

/-- Whatever the payload is and whatever follows it, the rejected command is not skipped: in every
run with whole reads the next URB header read begins with the first byte of the payload. -/
theorem rejected_submit_derails {s : Server} {c : Conn} {o : OversizedSubmit} {rest : Bytes}
    (hrunning : s.crashed = false) (hs : s.Receives .urbHeader c)
    (hunread : c.unread = o.encode ++ rest) :
    ¬ s.SkipsRejected c o ∧
      (s.pendingImports = [] → ∀ as t heads,
        exec (watch step noteHeader) (s, []) as = some (t, heads) → Always step ReadsWhole s as →
          heads.take 2 <+: [(c.id, c.consumed), (c.id, c.consumed + 48)]) := by
  refine ⟨hs.not_skipsRejected hrunning hunread, fun hpending as t heads h hwhole => ?_⟩
  exact (exec_derailing hs hunread hpending h hwhole).take

def RejectedAlwaysSkipped : Prop :=
  ∀ s c o rest, Reachable s → s.crashed = false → s.Receives .urbHeader c →
    c.unread = OversizedSubmit.encode o ++ rest → s.SkipsRejected c o

/-- One byte too many for the buffer; the payload begins like a CMD_UNLINK. -/
def oversizedReport : OversizedSubmit where
  header := ⟨usbipCmdSubmit, 8, 0x30002, 0, 2⟩
  cmdSubmit := ⟨0, 1025, 0, 0, 0, List.replicate 8 0,
    UsbipHeaderBasic.toBytes ⟨usbipCmdUnlink, 9, 0x30002, 0, 0⟩ ++ List.replicate 1005 0⟩
  command := rfl
  direction := rfl
  setup := rfl
  tooLong := by decide
  length := by decide +kernel

def oversizedSession : List Action :=
  keyboardEnumeration ++ importing 3 ((importSession []).stream ++ oversizedReport.encode)

theorem oversizedSession_receives :
    ∃ s c, run coldBoot oversizedSession = some s ∧ s.crashed = false ∧ s.pendingImports = [] ∧
      s.Receives .urbHeader c ∧ c.unread = oversizedReport.encode ++ [] := by
  let c : Conn := ⟨0, 3, (importSession []).stream ++ oversizedReport.encode, 40⟩
  have hrun : (run coldBoot oversizedSession).map
      (fun s => (s.crashed, s.pendingImports, s.tcp.pc, s.conn, s.tcp.sock)) =
      some (false, [], .urbHeader, some c, 3) := by
    decide +kernel
  obtain ⟨s, hs, hstate⟩ := Option.map_eq_some_iff.1 hrun
  simp only [Prod.mk.injEq] at hstate
  obtain ⟨hrunning, hpending, hpc, hconn, hsock⟩ := hstate
  refine ⟨s, c, hs, hrunning, hpending, ⟨hpc, hconn, hsock.symm⟩, ?_⟩
  decide +kernel

theorem payload_read_as_header : ¬ RejectedAlwaysSkipped := by
  intro hall
  obtain ⟨s, c, hs, hrunning, -, hreceives, hunread⟩ := oversizedSession_receives
  refine hreceives.not_skipsRejected hrunning hunread ?_
  exact hall s c oversizedReport [] ⟨_, _, _, _, _, _, _, hs⟩ hrunning hreceives hunread

theorem rejected_submit_derails_report :
    ∃ s c, run coldBoot oversizedSession = some s ∧ s.conn = some c ∧
      ¬ s.SkipsRejected c oversizedReport ∧
      ∀ as t heads, exec (watch step noteHeader) (s, []) as = some (t, heads) →
        Always step ReadsWhole s as →
          heads.take 2 <+: [(c.id, c.consumed), (c.id, c.consumed + 48)] := by
  obtain ⟨s, c, hs, hrunning, hpending, hreceives, hunread⟩ := oversizedSession_receives
  obtain ⟨hskips, hnext⟩ := rejected_submit_derails hrunning hreceives hunread
  exact ⟨s, c, hs, hreceives.conn, hskips, hnext hpending⟩

end UsbRepeater
