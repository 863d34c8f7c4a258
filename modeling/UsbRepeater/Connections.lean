import UsbRepeater.Replies

/-! Socket numbers. `do_recv` serves one open connection at a time and resets its own copy of
the number; the callbacks use the copy in `skt`, which nothing ever resets. -/
namespace UsbRepeater

open Schedule

structure Server.SocketsOk (s : Server) : Prop where
  serving : s.tcp.pc ≠ .accepting → ∃ c, s.conn = some c ∧ (c.number : ℤ) = s.tcp.sock
  accepting : s.tcp.pc = .accepting → s.conn = none
  latest : ∀ c, s.conn = some c → c.id + 1 = s.history.accepted
  skt : 0 ≤ s.skt
  outstanding : ∀ ev, s.Outstanding ev → 0 ≤ ev.sock

theorem SameConn.exists {conn conn' : Option Conn} {c : Conn} (h : SameConn conn' conn)
    (hc : conn = some c) : ∃ c', conn' = some c' ∧ c'.id = c.id ∧ c'.number = c.number ∧
      c'.stream = c.stream := by
  subst hc
  simp only [SameConn, Option.map_some, Option.map_eq_some_iff, Prod.mk.injEq] at h
  exact h

theorem SameConn.symm {conn conn' : Option Conn} (h : SameConn conn' conn) :
    SameConn conn conn' :=
  Eq.symm h

theorem TcpEffect.serving {s t : Server} {a : TcpAction} (h : TcpEffect s a t)
    (hs : s.tcp.pc ≠ .accepting → ∃ c, s.conn = some c ∧ (c.number : ℤ) = s.tcp.sock)
    (hpc : t.tcp.pc ≠ .accepting) : ∃ c, t.conn = some c ∧ (c.number : ℤ) = t.tcp.sock := by
  have hserves : ∀ {tcp : TcpTask}, s.tcp.Serves tcp →
      ∃ c, s.conn = some c ∧ (c.number : ℤ) = tcp.sock := by
    intro tcp htcp
    rw [htcp.sock]
    exact hs htcp.source_ne_accepting
  cases h with
  | own a tcp conn recvBytes urbEntries unlinks htcp hconn =>
    obtain ⟨c, hc, hnum⟩ := hs htcp.source_ne_accepting
    obtain ⟨d, hd, -, hnum', -⟩ := hconn.exists hc
    exact ⟨d, hd, by rw [hnum', hnum, htcp.sock]⟩
  | acceptFailed stream hold => exact absurd hold hpc
  | accept number stream => exact ⟨_, rfl, rfl⟩
  | postCommand tcp htcp => exact hserves htcp
  | postSubmit tcp htcp => exact hserves htcp
  | unlink tcp c r n htcp => exact hserves htcp
  | clientGone hold => exact hs (by rw [hold]; nofun)
  | cleanupBusy hold => exact hs (by rw [hold]; nofun)
  | cleanupEp1 hold => exact hs (by rw [hold]; nofun)
  | cleanupEp2 hold => exact hs (by rw [hold]; nofun)
  | close => exact absurd rfl hpc

theorem TcpEffect.unserved {s t : Server} {a : TcpAction} (h : TcpEffect s a t)
    (hs : s.tcp.pc = .accepting → s.conn = none) (hpc : t.tcp.pc = .accepting) :
    t.conn = none := by
  cases h with
  | own a tcp conn recvBytes urbEntries unlinks htcp => exact absurd hpc htcp.target_ne_accepting
  | acceptFailed stream hold => exact hs hold
  | postCommand tcp htcp => exact absurd hpc htcp.target_ne_accepting
  | postSubmit tcp htcp => exact absurd hpc htcp.target_ne_accepting
  | unlink tcp c r n htcp => exact absurd hpc htcp.target_ne_accepting
  | close => rfl
  | _ => cases hpc

theorem TcpEffect.latest {s t : Server} {a : TcpAction} (h : TcpEffect s a t)
    (hs : ∀ c, s.conn = some c → c.id + 1 = s.history.accepted) {c : Conn}
    (hc : t.conn = some c) : c.id + 1 = t.history.accepted := by
  cases h with
  | own a tcp conn recvBytes urbEntries unlinks htcp hconn =>
    obtain ⟨d, hd, hid, -⟩ := hconn.symm.exists hc
    rw [← hid]
    exact hs d hd
  | accept number stream hpc =>
    cases hc
    rfl
  | close => cases hc
  | _ => exact hs c hc

theorem step_sameConn {s t : Server} {a : Action} (h : step s a = some t)
    (ha : ∀ b, a ≠ .tcp b) : SameConn t.conn s.conn := by
  cases a with
  | tcp a => exact absurd rfl (ha a)
  | loop1 a =>
    obtain ⟨-, heff⟩ := loop1Step_effect h
    cases heff with
    | own loop1 conn hconn => exact hconn
    | _ => exact .refl _
  | loop2 a =>
    obtain ⟨-, heff⟩ := loop2Step_effect h
    cases heff <;> exact .refl _
  | host a =>
    obtain ⟨-, heff⟩ := hostStep_effect h
    cases heff <;> exact .refl _
  | driver a =>
    obtain ⟨-, -, d, e, -, rfl⟩ := driverStep_effect h
    cases e <;> exact .refl _

theorem step_accepted {s t : Server} {a : Action} (h : step s a = some t) :
    t.history.accepted = s.history.accepted ∨
      (∃ number stream, a = .tcp (.accept (some number) stream)) ∧ s.tcp.pc = .accepting := by
  cases a with
  | tcp a =>
    obtain ⟨-, heff⟩ := tcpStep_effect h
    cases heff with
    | accept number stream hpc => exact .inr ⟨⟨number, stream, rfl⟩, hpc⟩
    | _ => exact .inl rfl
  | loop1 a =>
    obtain ⟨-, heff⟩ := loop1Step_effect h
    left
    cases heff <;> rfl
  | loop2 a =>
    obtain ⟨-, heff⟩ := loop2Step_effect h
    left
    cases heff <;> rfl
  | host a =>
    obtain ⟨-, heff⟩ := hostStep_effect h
    left
    cases heff <;> rfl
  | driver a =>
    obtain ⟨-, -, d, e, -, rfl⟩ := driverStep_effect h
    left
    cases e <;> rfl

theorem step_accepted_le {s t : Server} {a : Action} (h : step s a = some t) :
    s.history.accepted ≤ t.history.accepted := by
  rcases step_accepted h with heq | ⟨⟨number, stream, rfl⟩, -⟩
  · exact heq.ge
  · obtain ⟨-, heff⟩ := tcpStep_effect h
    cases heff with
    | own a tcp conn recvBytes urbEntries unlinks htcp hconn => exact le_rfl
    | accept number stream hpc => exact Nat.le_succ _

/-- Only a handler changes `skt`, to the number its event came with. -/
theorem step_skt {s t : Server} {a : Action} (h : step s a = some t) :
    t.skt = s.skt ∨ ∃ (j l : ℕ) (ev : Submit) (ret : UsbipRetSubmit), a = .loop2 (.setSkt j) ∧
      s.loop2.handlers[j]? = some (l, .filled ev ret) ∧ t.skt = ev.sock := by
  cases a with
  | tcp a =>
    obtain ⟨-, heff⟩ := tcpStep_effect h
    cases heff <;> exact .inl rfl
  | loop1 a =>
    obtain ⟨-, heff⟩ := loop1Step_effect h
    cases heff <;> exact .inl rfl
  | loop2 a =>
    obtain ⟨-, heff⟩ := loop2Step_effect h
    cases heff with
    | setSkt j l ev ret hj => exact .inr ⟨j, l, ev, ret, rfl, hj, rfl⟩
    | _ => exact .inl rfl
  | host a =>
    obtain ⟨-, heff⟩ := hostStep_effect h
    cases heff <;> exact .inl rfl
  | driver a =>
    obtain ⟨-, -, d, e, -, rfl⟩ := driverStep_effect h
    cases e <;> exact .inl rfl

theorem Server.SocketsOk.of_same {s t : Server} (hs : s.SocketsOk) (htcp : t.tcp = s.tcp)
    (hconn : SameConn t.conn s.conn) (hacc : t.history.accepted = s.history.accepted)
    (hskt : 0 ≤ t.skt) (ho : ∀ ev, t.Outstanding ev → 0 ≤ ev.sock) : t.SocketsOk where
  serving hpc := by
    rw [htcp] at hpc
    obtain ⟨c, hc, hnum⟩ := hs.serving hpc
    obtain ⟨c', hc', -, hnum', -⟩ := hconn.exists hc
    exact ⟨c', hc', by rw [hnum', hnum, htcp]⟩
  accepting hpc := by
    rw [htcp] at hpc
    have hnone := hs.accepting hpc
    rw [hnone] at hconn
    simpa [SameConn] using hconn
  latest c' hc' := by
    obtain ⟨c, hc, hid, -⟩ := hconn.symm.exists hc'
    rw [← hid, hacc]
    exact hs.latest c hc
  skt := hskt
  outstanding := ho

theorem submitEvent_of_conn {s : Server} {c : Conn} (hc : s.conn = some c) :
    (submitEvent s).sock = s.tcp.sock ∧ (submitEvent s).conn = c.id := by
  simp [submitEvent, hc]

theorem step_socketsOk {s t : Server} {a : Action} (hs : s.SocketsOk)
    (h : step s a = some t) : t.SocketsOk := by
  have ho : ∀ ev, t.Outstanding ev → 0 ≤ ev.sock := by
    intro ev hev
    rcases step_outstanding h hev with hev | ⟨-, hpc, rfl⟩
    · exact hs.outstanding ev hev
    · obtain ⟨c, hc, hnum⟩ := hs.serving (by rw [hpc]; decide)
      rw [(submitEvent_of_conn hc).1, ← hnum]
      exact Int.natCast_nonneg _
  have hskt : 0 ≤ t.skt := by
    rcases step_skt h with heq | ⟨j, l, ev, ret, -, hj, heq⟩
    · rw [heq]
      exact hs.skt
    · rw [heq]
      exact hs.outstanding ev (.handled _ (List.mem_of_getElem? hj) rfl)
  rcases step_tcp_or_other h with ⟨b, rfl, hstep⟩ | ⟨hother, htcp⟩
  · have heff := hstep.effect
    exact ⟨heff.serving hs.serving, heff.unserved hs.accepting,
      fun c hc => heff.latest hs.latest hc, hskt, ho⟩
  · refine hs.of_same htcp (step_sameConn h hother) ?_ hskt ho
    rcases step_accepted h with heq | ⟨⟨number, stream, rfl⟩, -⟩
    · exact heq
    · exact absurd rfl (hother _)

section Boot

variable {lib : HostLib} {devRecv header cmdSubmit transferBuffer cmdUnlink : Bytes}

theorem boot_not_outstanding (ev : Submit) :
    ¬ (Server.boot lib devRecv header cmdSubmit transferBuffer cmdUnlink).Outstanding ev := by
  intro h
  cases h with
  | queued l h => cases h
  | handled x h hr => cases h
  | inFlight t h he => cases h
  | callback c h he => cases h

theorem boot_socketsOk :
    (Server.boot lib devRecv header cmdSubmit transferBuffer cmdUnlink).SocketsOk where
  serving h := absurd rfl h
  accepting _ := rfl
  latest c hc := by cases hc
  skt := le_rfl
  outstanding ev h := absurd h (boot_not_outstanding ev)

end Boot

theorem Reachable.socketsOk {s : Server} (h : Reachable s) : s.SocketsOk :=
  h.invariant (fun _ _ _ _ _ _ => boot_socketsOk) fun _ _ _ hs => step_socketsOk hs

/-- The test for a negative `skt` in the callbacks never succeeds. -/
theorem Reachable.skt_nonneg {s : Server} (h : Reachable s) : 0 ≤ s.skt := h.socketsOk.skt

/-- A RET_SUBMIT that reached another connection than its request's. -/
def Sent.astray (m : Sent) : Bool :=
  match m.message with
  | .retSubmit ev _ => m.conn != ev.conn
  | _ => false

/-- Every RET_SUBMIT was written to the connection its CMD_SUBMIT came from. A `send` reaches an
open connection only, so none was written after that connection was closed. -/
def Server.RepliesStay (s : Server) : Prop :=
  ∀ m ∈ s.history.sent, ∀ ev ret, m.message = .retSubmit ev ret → m.conn = ev.conn

/-- `skt` names the open connection, and the running callback serves an earlier one. -/
def Server.Stale (s : Server) : Prop :=
  ∃ cb c, s.callback = some cb ∧ s.conn = some c ∧ (c.number : ℤ) = s.skt ∧
    c.id ≠ cb.transfer.ev.conn

/-- While a request is outstanding its socket number is not handed out again, and no handler
sets `skt` for a request whose predecessors from earlier connections are outstanding. -/
def KeepsApart (s : Server) : Action → Prop
  | .tcp (.accept (some number) _) => ∀ ev, s.Outstanding ev → ev.sock ≠ number
  | .loop2 (.setSkt j) =>
      match s.loop2.handlers[j]? with
      | some (_, .filled ev _) => ∀ ev', s.Outstanding ev' → ev.conn ≤ ev'.conn
      | _ => True
  | _ => True

/-- A client is accepted only when every earlier request has left the pipeline. -/
def AcceptsIdle (s : Server) : Action → Prop
  | .tcp (.accept (some _) _) => ∀ ev, ¬ s.Outstanding ev
  | _ => True

instance (s : Server) : ∀ a, Decidable (KeepsApart s a)
  | .tcp (.accept (some number) _) =>
    decidable_of_iff (∀ ev ∈ s.outstanding, ev.sock ≠ (number : ℤ))
      (forall_congr' fun _ => imp_congr outstanding_iff.symm Iff.rfl)
  | .loop2 (.setSkt j) =>
    match h : s.loop2.handlers[j]? with
    | some (_, .filled ev _) =>
      decidable_of_iff (∀ ev' ∈ s.outstanding, ev.conn ≤ ev'.conn) (by
        simp only [KeepsApart, h, outstanding_iff])
    | none | some (_, .entry _) | some (_, .sktSet _ _) | some (_, .allocated _)
    | some (_, .checked _) | some (_, .built _) | some (_, .accepted _) =>
      isTrue (by simp only [KeepsApart, h])
  | .tcp (.accept none _) | .tcp .run | .tcp (.recv _) | .tcp (.send _) | .tcp (.post _)
  | .loop1 _ | .loop2 (.dispatch _) | .loop2 (.malloc _ _) | .loop2 (.alloc _ _)
  | .loop2 (.check _) | .loop2 (.build _ _) | .loop2 (.submit _ _) | .loop2 (.setPending _)
  | .host _ | .driver _ => isTrue trivial

def Server.strayCount (s : Server) : ℕ := s.history.sent.countP Sent.astray

theorem repliesStay_iff_strayCount (s : Server) : s.RepliesStay ↔ s.strayCount = 0 := by
  rw [Server.strayCount, List.countP_eq_zero]
  constructor
  · intro h m hm
    cases hmsg : m.message with
    | retSubmit ev ret => simp [Sent.astray, hmsg, h m hm ev ret hmsg]
    | _ => simp [Sent.astray, hmsg]
  · intro h m hm ev ret hmsg
    simpa [Sent.astray, hmsg] using h m hm

theorem strayCount_emit {s : Server} {m : Sent} :
    (s.emit m).strayCount = s.strayCount + if m.astray then 1 else 0 := by
  rw [Server.strayCount, Server.emit, List.countP_append, List.countP_singleton]
  rfl

/-- Only the send of a callback can put a reply into the wrong connection. -/
theorem step_strayCount {s t : Server} {a : Action} (h : step s a = some t)
    (ha : ∀ heap r, a ≠ .host (.send heap r)) : t.strayCount = s.strayCount := by
  cases a with
  | tcp a =>
    obtain ⟨-, heff⟩ := tcpStep_effect h
    cases heff with
    | unlink tcp c r n htcp hpc hc hn hr => exact strayCount_emit
    | _ => rfl
  | loop1 a =>
    obtain ⟨-, heff⟩ := loop1Step_effect h
    cases heff with
    | send loop1 c m hc hm hmsg =>
      rw [strayCount_emit]
      rcases hmsg with hmsg | ⟨rep, hmsg⟩ <;> simp [Sent.astray, hmsg] <;> rfl
    | _ => rfl
  | loop2 a =>
    obtain ⟨-, heff⟩ := loop2Step_effect h
    cases heff <;> rfl
  | host a =>
    obtain ⟨-, heff⟩ := hostStep_effect h
    cases heff with
    | silent c heap r hcb hr => exact absurd rfl (ha heap r)
    | reply c conn heap r n hcb hskt hconn hnum hn hr => exact absurd rfl (ha heap r)
    | _ => rfl
  | driver a =>
    obtain ⟨-, -, d, e, -, rfl⟩ := driverStep_effect h
    cases e <;> rfl

theorem step_strayCount_of_not_stale {s t : Server} {a : Action} (hstale : ¬ s.Stale)
    (h : step s a = some t) : t.strayCount = s.strayCount := by
  by_cases hsend : ∃ heap r, a = .host (.send heap r)
  · obtain ⟨heap, r, rfl⟩ := hsend
    obtain ⟨-, heff⟩ := hostStep_effect h
    cases heff with
    | silent => rfl
    | reply c conn heap r n hcb hskt hconn hnum hn hr =>
      have hid : conn.id = c.transfer.ev.conn := by
        by_contra hne
        exact hstale ⟨c, conn, hcb, hconn, hnum, hne⟩
      have hcount : ((s.endCallback c.transfer.ev).emit
          ⟨conn.id, .retSubmit c.transfer.ev (c.reply heap), c.frame heap, n⟩).strayCount =
          s.strayCount + if conn.id != c.transfer.ev.conn then 1 else 0 := strayCount_emit
      rw [hcount]
      simp [hid]
  · exact step_strayCount h fun heap r heq => hsend ⟨heap, r, heq⟩

/-- The request of a handler that has set `skt`. -/
def Handler2.routed : Handler2 → Option Submit
  | .sktSet ev _ => some ev
  | .allocated t | .checked t | .built t => some t.ev
  | .entry _ | .filled _ _ | .accepted _ => none

inductive Server.Routed (s : Server) (ev : Submit) : Prop
  | handled (x : ℕ × Handler2) (h : x ∈ s.loop2.handlers) (hr : x.2.routed = some ev)
  | inFlight (t : UsbTransfer) (h : t ∈ s.inFlight) (he : t.ev = ev)
  | callback (c : Callback) (h : s.callback = some c) (he : c.transfer.ev = ev)

theorem Handler2.request_of_routed {h : Handler2} {ev : Submit} (hr : h.routed = some ev) :
    h.request = some ev := by
  cases h <;> first | exact hr | cases hr

theorem Server.Routed.outstanding {s : Server} {ev : Submit} (h : s.Routed ev) :
    s.Outstanding ev := by
  cases h with
  | handled x hx hr => exact .handled x hx (Handler2.request_of_routed hr)
  | inFlight t ht he => exact .inFlight t ht he
  | callback c hc he => exact .callback c hc he

theorem Server.Routed.of_same {s t : Server} {ev : Submit} (h : t.Routed ev)
    (hl : t.loop2.handlers = s.loop2.handlers) (hf : t.inFlight = s.inFlight)
    (hc : t.callback = s.callback) : s.Routed ev := by
  cases h with
  | handled x h hr => exact .handled x (hl ▸ h) hr
  | inFlight tr h he => exact .inFlight tr (hf ▸ h) he
  | callback c h he => exact .callback c (hc ▸ h) he

theorem Server.Routed.of_setHandler2 {s : Server} {j : ℕ} {x : ℕ × Handler2} {h' : Handler2}
    {ev : Submit} (ho : (s.setHandler2 j h').Routed ev) (hj : s.loop2.handlers[j]? = some x) :
    s.Routed ev ∨ h'.routed = some ev := by
  cases ho with
  | handled y hy hr =>
    rcases Flow.mem_modify hj hy with rfl | hy
    · exact .inr hr
    · exact .inl (.handled y hy hr)
  | inFlight tr ht he => exact .inl (.inFlight tr ht he)
  | callback c hc he => exact .inl (.callback c hc he)

theorem Server.Routed.of_endHandler2 {s : Server} {j : ℕ} {ev : Submit}
    (ho : (s.endHandler2 j).Routed ev) : s.Routed ev := by
  cases ho with
  | handled x hx hr => exact .handled x (List.mem_of_mem_eraseIdx hx) hr
  | inFlight tr ht he => exact .inFlight tr ht he
  | callback c hc he => exact .callback c hc he

theorem Server.Routed.of_submitted {s : Server} {tr : UsbTransfer} {ev : Submit}
    (ho : Server.Routed { s with inFlight := s.inFlight ++ [tr] } ev) :
    s.Routed ev ∨ ev = tr.ev := by
  cases ho with
  | handled x hx hr => exact .inl (.handled x hx hr)
  | inFlight tr' ht he =>
    rcases List.mem_append.1 ht with ht | ht
    · exact .inl (.inFlight tr' ht he)
    · rw [List.mem_singleton.1 ht] at he
      exact .inr he.symm
  | callback c hc he => exact .inl (.callback c hc he)

theorem Loop2Effect.routed {s t : Server} {a : Loop2Action} {ev : Submit}
    (h : Loop2Effect s a t) (ho : t.Routed ev) :
    s.Routed ev ∨ ∃ (j l : ℕ) (ret : UsbipRetSubmit), a = .setSkt j ∧
      s.loop2.handlers[j]? = some (l, .filled ev ret) ∧ t.skt = ev.sock := by
  cases h with
  | dispatch i l e hi =>
    left
    cases ho with
    | handled x hx hr =>
      rcases List.mem_append.1 hx with hx | hx
      · exact .handled x hx hr
      · rw [List.mem_singleton.1 hx] at hr
        cases hr
    | inFlight tr ht he => exact .inFlight tr ht he
    | callback c hc he => exact .callback c hc he
  | fill j l e heap hj =>
    have hs : (s.setHandler2 j (.filled e (fillRetSubmit e heap))).Routed ev :=
      ho.of_same rfl rfl rfl
    exact .inl ((hs.of_setHandler2 hj).resolve_right (by simp [Handler2.routed]))
  | setSkt j l e ret hj =>
    have hs : (s.setHandler2 j (.sktSet e ret)).Routed ev := ho.of_same rfl rfl rfl
    refine (hs.of_setHandler2 hj).imp_right fun hr => ?_
    obtain rfl : e = ev := Option.some.inj hr
    exact ⟨j, l, ret, rfl, hj, rfl⟩
  | alloc j l e ret heap hj =>
    have hs : (s.setHandler2 j (.allocated (allocTransfer e ret heap s.driver.devHdl))).Routed
        ev := ho.of_same rfl rfl rfl
    exact .inl ((hs.of_setHandler2 hj).elim id
      fun hr => .handled _ (List.mem_of_getElem? hj) hr)
  | control j l tr hj hep =>
    exact .inl ((ho.of_setHandler2 hj).elim id
      fun hr => .handled _ (List.mem_of_getElem? hj) hr)
  | checked j l tr hj hep hp =>
    exact .inl ((ho.of_setHandler2 hj).elim id
      fun hr => .handled _ (List.mem_of_getElem? hj) hr)
  | build j l tr beyond hj =>
    refine .inl ((ho.of_setHandler2 hj).elim id fun hr =>
      .handled _ (List.mem_of_getElem? hj) ?_)
    simp only [Handler2.routed, buildBulk] at hr ⊢
    split_ifs at hr <;> exact hr
  | submitControl j l tr hj hc =>
    refine .inl ((ho.of_endHandler2.of_submitted).elim id ?_)
    rintro rfl
    exact .handled _ (List.mem_of_getElem? hj) rfl
  | submitBulk j l tr hj hc =>
    have hmid := (ho.of_setHandler2 (s := { s with inFlight := s.inFlight ++ [tr] })
      hj).resolve_right (by simp [Handler2.routed])
    refine .inl (hmid.of_submitted.elim id ?_)
    rintro rfl
    exact .handled _ (List.mem_of_getElem? hj) rfl
  | _ =>
    have hs : (s.endHandler2 _).Routed ev := ho.of_same rfl rfl rfl
    exact .inl hs.of_endHandler2

theorem HostEffect.routed {s t : Server} {a : HostAction} {ev : Submit} (h : HostEffect s a t)
    (ho : t.Routed ev) : s.Routed ev := by
  cases h with
  | complete i tr status n data hcb hi =>
    cases ho with
    | handled x hx hr => exact .handled x hx hr
    | inFlight tr' ht he => exact .inFlight tr' (List.mem_of_mem_eraseIdx ht) he
    | callback c hc he =>
      cases hc
      exact .inFlight tr (List.mem_of_getElem? hi) he
  | clear c hcb hcl =>
    cases ho with
    | handled x hx hr => exact .handled x hx hr
    | inFlight tr ht he => exact .inFlight tr ht he
    | callback c' hc he =>
      cases hc
      exact .callback c hcb he
  | _ =>
    cases ho with
    | handled x hx hr => exact .handled x hx hr
    | inFlight tr ht he => exact .inFlight tr ht he
    | callback c' hc he => cases hc

theorem step_routed {s t : Server} {a : Action} {ev : Submit} (h : step s a = some t)
    (ho : t.Routed ev) : s.Routed ev ∨ ∃ (j l : ℕ) (ret : UsbipRetSubmit),
      a = .loop2 (.setSkt j) ∧ s.loop2.handlers[j]? = some (l, .filled ev ret) ∧
      t.skt = ev.sock := by
  cases a with
  | tcp a =>
    obtain ⟨-, heff⟩ := tcpStep_effect h
    left
    cases heff <;> exact ho.of_same rfl rfl rfl
  | loop1 a =>
    obtain ⟨-, heff⟩ := loop1Step_effect h
    left
    cases heff <;> exact ho.of_same rfl rfl rfl
  | loop2 a =>
    refine ((loop2Step_effect h).2.routed ho).imp_right ?_
    rintro ⟨j, l, ret, rfl, hj, hskt⟩
    exact ⟨j, l, ret, rfl, hj, hskt⟩
  | host a => exact .inl ((hostStep_effect h).2.routed ho)
  | driver a =>
    obtain ⟨-, -, d, e, -, rfl⟩ := driverStep_effect h
    left
    cases e <;> exact ho.of_same rfl rfl rfl

/-- `skt` belongs to every request that is routed: they all come from one connection, and no
other one has its number while they are outstanding. -/
structure Server.Apart (s : Server) : Prop where
  posted : ∀ ev, s.Outstanding ev → ev.conn < s.history.accepted
  numbers : ∀ ev ev', s.Outstanding ev → s.Outstanding ev' → ev.conn = ev'.conn →
    ev.sock = ev'.sock
  own : ∀ ev c, s.Outstanding ev → s.conn = some c → (ev.conn = c.id ↔ ev.sock = c.number)
  order : ∀ ev ev', s.Routed ev → s.Outstanding ev' → ev.conn ≤ ev'.conn
  skt : ∀ ev, s.Routed ev → s.skt = ev.sock

theorem Server.Apart.not_stale {s : Server} (hs : s.Apart) : ¬ s.Stale := by
  rintro ⟨cb, c, hcb, hc, hnum, hne⟩
  have hrouted : s.Routed cb.transfer.ev := .callback cb hcb rfl
  refine hne ((hs.own _ c hrouted.outstanding hc).2 ?_).symm
  rw [hnum, hs.skt _ hrouted]

theorem step_conn {s t : Server} {a : Action} {c' : Conn} (h : step s a = some t)
    (hc' : t.conn = some c') :
    (∃ c, s.conn = some c ∧ c.id = c'.id ∧ c.number = c'.number) ∨
      ∃ stream, a = .tcp (.accept (some c'.number) stream) ∧ c'.id = s.history.accepted := by
  have hsame : SameConn t.conn s.conn →
      ∃ c, s.conn = some c ∧ c.id = c'.id ∧ c.number = c'.number := by
    intro heq
    obtain ⟨c, hc, hid, hnum, -⟩ := heq.symm.exists hc'
    exact ⟨c, hc, hid, hnum⟩
  by_cases htcp : ∃ b, a = .tcp b
  · obtain ⟨b, rfl⟩ := htcp
    obtain ⟨-, heff⟩ := tcpStep_effect h
    cases heff with
    | own a tcp conn recvBytes urbEntries unlinks htcp hconn => exact .inl (hsame hconn)
    | accept number stream hpc =>
      cases hc'
      exact .inr ⟨stream, rfl, rfl⟩
    | close => cases hc'
    | _ => exact .inl ⟨c', hc', rfl, rfl⟩
  · exact .inl (hsame (step_sameConn h fun b hb => htcp ⟨b, hb⟩))

theorem Server.SocketsOk.submitEvent {s : Server} (hs : s.SocketsOk)
    (hpc : s.tcp.pc = .postSubmit) : ∃ c, s.conn = some c ∧
      (submitEvent s).sock = c.number ∧ (submitEvent s).conn = c.id ∧
      c.id + 1 = s.history.accepted := by
  obtain ⟨c, hc, hnum⟩ := hs.serving (by rw [hpc]; decide)
  obtain ⟨hsock, hid⟩ := submitEvent_of_conn hc
  exact ⟨c, hc, by rw [hsock, hnum], hid, hs.latest c hc⟩

section Apart

variable {s t : Server} {a : Action}

theorem Server.Apart.step_posted (hs : s.Apart) (hok : s.SocketsOk) (h : step s a = some t) :
    ∀ ev, t.Outstanding ev → ev.conn < t.history.accepted := by
  intro ev hev
  have hacc : s.history.accepted ≤ t.history.accepted := step_accepted_le h
  rcases step_outstanding h hev with hev | ⟨-, hpc, rfl⟩
  · exact (hs.posted ev hev).trans_le hacc
  · obtain ⟨c, -, -, hid, hlatest⟩ := hok.submitEvent hpc
    omega

theorem Server.Apart.step_numbers (hs : s.Apart) (hok : s.SocketsOk) (h : step s a = some t) :
    ∀ ev ev', t.Outstanding ev → t.Outstanding ev' → ev.conn = ev'.conn →
      ev.sock = ev'.sock := by
  intro ev ev' hev hev' heq
  rcases step_outstanding h hev with hev | ⟨-, hpc, rfl⟩ <;>
    rcases step_outstanding h hev' with hev' | ⟨-, hpc', rfl⟩
  · exact hs.numbers ev ev' hev hev' heq
  · obtain ⟨c, hc, hsock, hid, -⟩ := hok.submitEvent hpc'
    rw [hsock]
    exact (hs.own ev c hev hc).1 (heq.trans hid)
  · obtain ⟨c, hc, hsock, hid, -⟩ := hok.submitEvent hpc
    rw [hsock]
    exact ((hs.own ev' c hev' hc).1 (heq.symm.trans hid)).symm
  · rfl

theorem Server.Apart.step_own (hs : s.Apart) (hok : s.SocketsOk) (ha : KeepsApart s a)
    (h : step s a = some t) : ∀ ev c, t.Outstanding ev → t.conn = some c →
      (ev.conn = c.id ↔ ev.sock = c.number) := by
  intro ev c' hev hc'
  rcases step_conn h hc' with ⟨c, hc, hid, hnum⟩ | ⟨stream, rfl, hid⟩
  · rw [← hid, ← hnum]
    rcases step_outstanding h hev with hev | ⟨-, hpc, rfl⟩
    · exact hs.own ev c hev hc
    · obtain ⟨d, hd, hsock, hconn, -⟩ := hok.submitEvent hpc
      obtain rfl : c = d := Option.some.inj (hc.symm.trans hd)
      exact iff_of_true hconn hsock
  · rcases step_outstanding h hev with hev | ⟨haction, -⟩
    · have hlt := hs.posted ev hev
      exact iff_of_false (by omega) (ha ev hev)
    · cases haction

theorem Server.Apart.step_order (hs : s.Apart) (hok : s.SocketsOk) (ha : KeepsApart s a)
    (h : step s a = some t) : ∀ ev ev', t.Routed ev → t.Outstanding ev' →
      ev.conn ≤ ev'.conn := by
  intro ev ev' hev hev'
  rcases step_routed h hev with hev | ⟨j, l, ret, rfl, hj, -⟩
  · rcases step_outstanding h hev' with hev' | ⟨-, hpc, rfl⟩
    · exact hs.order ev ev' hev hev'
    · obtain ⟨c, -, -, hid, hlatest⟩ := hok.submitEvent hpc
      have hlt := hs.posted ev hev.outstanding
      omega
  · rcases step_outstanding h hev' with hev' | ⟨haction, -⟩
    · simp only [KeepsApart, hj] at ha
      exact ha ev' hev'
    · cases haction

/-- Two requests between which the order of the handlers decides come from one connection. -/
theorem Server.Apart.step_skt_eq (hs : s.Apart) (ha : KeepsApart s a) (h : step s a = some t) :
    ∀ ev, t.Routed ev → t.skt = ev.sock := by
  intro ev hev
  rcases step_routed h hev with hev | ⟨j, l, ret, -, -, hskt⟩
  · rcases step_skt h with heq | ⟨j, l, e, ret, rfl, hj, heq⟩
    · rw [heq]
      exact hs.skt ev hev
    · have he : s.Outstanding e := .handled _ (List.mem_of_getElem? hj) rfl
      simp only [KeepsApart, hj] at ha
      have hle : e.conn ≤ ev.conn := ha ev hev.outstanding
      have hge : ev.conn ≤ e.conn := hs.order ev e hev he
      rw [heq]
      exact hs.numbers e ev he hev.outstanding (le_antisymm hle hge)
  · exact hskt

theorem step_apart (hs : s.Apart) (hok : s.SocketsOk) (ha : KeepsApart s a)
    (h : step s a = some t) : t.Apart where
  posted := hs.step_posted hok h
  numbers := hs.step_numbers hok h
  own := hs.step_own hok ha h
  order := hs.step_order hok ha h
  skt := hs.step_skt_eq ha h

/-- Every request in the pipeline came over the connection accepted last. -/
def Server.Recent (s : Server) : Prop :=
  ∀ ev, s.Outstanding ev → ev.conn + 1 = s.history.accepted

theorem step_recent (hok : s.SocketsOk) (hr : s.Recent) (ha : AcceptsIdle s a)
    (h : step s a = some t) : t.Recent := by
  intro ev hev
  have hbefore := step_outstanding h hev
  rcases step_accepted h with hsame | ⟨⟨number, stream, rfl⟩, hpc⟩
  · rw [hsame]
    rcases hbefore with hev | ⟨-, hpc, rfl⟩
    · exact hr ev hev
    · obtain ⟨c, -, -, hid, hlatest⟩ := hok.submitEvent hpc
      rw [hid, hlatest]
  · rcases hbefore with hev | ⟨-, hpost, -⟩
    · exact absurd hev (ha ev)
    · rw [hpc] at hpost
      cases hpost

theorem Server.Recent.keepsApart (hr : s.Recent) (ha : AcceptsIdle s a) : KeepsApart s a := by
  unfold KeepsApart
  split
  · intro ev hev
    exact absurd hev (ha ev)
  · split
    · rename_i l ev ret hj
      intro ev' hev'
      have hlast := hr ev (.handled _ (List.mem_of_getElem? hj) rfl)
      have hlast' := hr ev' hev'
      omega
    · trivial
  · trivial

end Apart

section Boot

variable {lib : HostLib} {devRecv header cmdSubmit transferBuffer cmdUnlink : Bytes}

theorem boot_apart :
    (Server.boot lib devRecv header cmdSubmit transferBuffer cmdUnlink).Apart where
  posted ev h := absurd h (boot_not_outstanding ev)
  numbers ev _ h := absurd h (boot_not_outstanding ev)
  own ev _ h := absurd h (boot_not_outstanding ev)
  order ev _ h := absurd h.outstanding (boot_not_outstanding ev)
  skt ev h := absurd h.outstanding (boot_not_outstanding ev)

theorem keepsApart_of_acceptsIdle {as : List Action}
    (h : Always step AcceptsIdle
      (.boot lib devRecv header cmdSubmit transferBuffer cmdUnlink) as) :
    Always step KeepsApart
      (.boot lib devRecv header cmdSubmit transferBuffer cmdUnlink) as := by
  have hstart : Server.SocketsOk (.boot lib devRecv header cmdSubmit transferBuffer cmdUnlink) ∧
      Server.Recent (.boot lib devRecv header cmdSubmit transferBuffer cmdUnlink) :=
    ⟨boot_socketsOk, fun ev hev => absurd hev (boot_not_outstanding ev)⟩
  have halways := Always.with_invariant (I := fun s => s.SocketsOk ∧ s.Recent)
    (fun s a u hs ha hu => ⟨step_socketsOk hs.1 hu, step_recent hs.1 hs.2 ha hu⟩) hstart h
  exact halways.mono fun s a ⟨⟨_, hrecent⟩, ha⟩ => hrecent.keepsApart ha

/-- The replies stay with their connections when no client is accepted under the number of an
outstanding request and the handlers set `skt` connection by connection. Accepting clients only
while no request is outstanding is enough for both. -/
theorem replies_stay_of_keepsApart {as : List Action} {t : Server}
    (h : run (.boot lib devRecv header cmdSubmit transferBuffer cmdUnlink) as = some t)
    (hapart : Always step KeepsApart
        (.boot lib devRecv header cmdSubmit transferBuffer cmdUnlink) as ∨
      Always step AcceptsIdle
        (.boot lib devRecv header cmdSubmit transferBuffer cmdUnlink) as) : t.RepliesStay := by
  have hkeeps := hapart.elim id keepsApart_of_acceptsIdle
  have hinv := exec_invariant (I := fun s => s.SocketsOk ∧ s.Apart ∧ s.strayCount = 0)
    (fun s a u hs ha hu => ⟨step_socketsOk hs.1 hu, step_apart hs.2.1 hs.1 ha hu,
      (step_strayCount_of_not_stale hs.2.1.not_stale hu).trans hs.2.2⟩)
    ⟨boot_socketsOk, boot_apart, rfl⟩ hkeeps h
  exact (repliesStay_iff_strayCount t).2 hinv.2.2

end Boot

/-- A transfer is in flight when its client disconnects; the next client gets the same socket
number, and the reply. -/
def reconnectSession : List Action :=
  keyboardEnumeration ++ importing 3 (importSession [submitIn 7 0 18]).stream ++ submitting ++
    handlingControl true ++ disconnecting ++ [.tcp (.accept (some 3) [])] ++ completing 26

theorem reply_reaches_other_connection :
    ¬ ∀ as t, run coldBoot as = some t → t.RepliesStay := by
  intro hall
  have hstray : (run coldBoot reconnectSession).map Server.strayCount = some 1 := by
    decide +kernel
  obtain ⟨t, ht, hone⟩ := Option.map_eq_some_iff.1 hstray
  have hzero := (repliesStay_iff_strayCount t).1 (hall reconnectSession t ht)
  omega

/-- The next client is accepted under another number while the transfer is still in flight. The
reply to its own request is sent. -/
def renumberSession : List Action :=
  keyboardEnumeration ++ importing 3 (importSession [submitIn 7 0 18]).stream ++ submitting ++
    handlingControl true ++ disconnecting ++
    importing 4 (importSession [submitIn 8 0 18]).stream ++ submitting ++
    [.host (.complete 0 .completed 26 []), .host .clear, .host (.send [] .failed)] ++
    handlingControl true ++ completing 26

theorem replies_stay_renumbered :
    ∃ t, run coldBoot renumberSession = some t ∧ t.replies.length = 1 ∧ t.RepliesStay := by
  have hlen : (run coldBoot renumberSession).map (fun t => t.replies.length) = some 1 := by
    decide +kernel
  obtain ⟨t, ht, hone⟩ := Option.map_eq_some_iff.1 hlen
  exact ⟨t, ht, hone, replies_stay_of_keepsApart ht (.inl (by decide +kernel))⟩

end UsbRepeater
