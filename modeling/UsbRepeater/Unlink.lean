import UsbRepeater.UrbPhase

/-! CMD_UNLINK. `do_recv` answers each one at once, with a constant sequence number and without
telling the task that completes the victim. -/
namespace UsbRepeater

open Schedule

def Message.unlinkAnswer : Message → Option UInt32
  | .retUnlink _ _ ret => some ret.base.seqnum
  | _ => none

def Message.victim : Message → Option UInt32
  | .retUnlink _ victim _ => some victim
  | _ => none

def Message.completed : Message → Option UInt32
  | .retSubmit _ ret => some ret.base.seqnum
  | _ => none

/-- The later message does not complete a request that the earlier one, on the same connection,
said to be gone. -/
def Sent.Respects (m later : Sent) : Prop :=
  later.conn = m.conn → ∀ victim ∈ m.message.victim, later.message.completed ≠ some victim

instance (m later : Sent) : Decidable (m.Respects later) := by
  unfold Sent.Respects
  infer_instance

/-- The unlink protocol between two states: whenever `do_recv` is back at its loop head, the
CMD_UNLINKs read have been answered one by one, each under its own sequence number; and nothing
unlinked is completed afterwards. -/
structure UnlinkProtocol (s t : Server) : Prop where
  answered : t.tcp.pc = .urbHeader →
    (t.history.sent.drop s.history.sent.length).filterMap (fun m => m.message.unlinkAnswer) =
      (t.history.unlinks.drop s.history.unlinks.length).map Prod.fst
  silenced : (t.history.sent.drop s.history.sent.length).Pairwise Sent.Respects

instance (s t : Server) : Decidable (UnlinkProtocol s t) :=
  decidable_of_iff _ ⟨fun h => ⟨h.1, h.2⟩, fun h => And.intro h.answered h.silenced⟩

/-- The unlink answered has the sequence number 2 and a victim that will not complete any more,
and no request that was unlinked on this connection is submitted again. -/
def UnlinkFits (s : Server) : Action → Prop
  | .tcp (.send _) => s.tcp.pc = .unlinkReply →
      s.header.seqnum = 2 ∧ ∀ ev, s.Outstanding ev → ev.header.seqnum ≠ s.victim
  | .tcp (.post _) => s.tcp.pc = .postSubmit → ∀ m ∈ s.history.sent,
      m.conn + 1 = s.history.accepted → m.message.victim ≠ some s.header.seqnum
  | _ => True

instance (s : Server) : Decidable (∀ ev, s.Outstanding ev → ev.header.seqnum ≠ s.victim) :=
  decidable_of_iff (∀ ev ∈ s.outstanding, ev.header.seqnum ≠ s.victim)
    (forall_congr' fun _ => imp_congr outstanding_iff.symm Iff.rfl)

instance (s : Server) : ∀ a, Decidable (UnlinkFits s a)
  | .tcp (.send _) =>
    inferInstanceAs (Decidable (s.tcp.pc = .unlinkReply →
      s.header.seqnum = 2 ∧ ∀ ev, s.Outstanding ev → ev.header.seqnum ≠ s.victim))
  | .tcp (.post _) =>
    inferInstanceAs (Decidable (s.tcp.pc = .postSubmit → ∀ m ∈ s.history.sent,
      m.conn + 1 = s.history.accepted → m.message.victim ≠ some s.header.seqnum))
  | .tcp .run | .tcp (.accept _ _) | .tcp (.recv _) | .loop1 _ | .loop2 _ | .host _
  | .driver _ => isTrue trivial

def Server.unanswered (s : Server) : List UInt32 :=
  if s.tcp.pc = .unlinkReply then [s.header.seqnum] else []

theorem unanswered_of_ne {s : Server} (h : s.tcp.pc ≠ .unlinkReply) : s.unanswered = [] :=
  if_neg h

inductive UnlinkStep (s : Server) : TcpAction → Server → Prop
  | read (r : RecvResult) (t : Server) (u : UInt32) (hs : s.unanswered = [])
      (ht : t.unanswered = [t.header.seqnum]) (hsent : t.history.sent = s.history.sent)
      (h : t.history.unlinks = s.history.unlinks ++ [(t.header.seqnum, u)]) :
      UnlinkStep s (.recv r) t
  | answer (c : Conn) (r : SendResult) (n : ℕ) (t : Server) (hpc : s.tcp.pc = .unlinkReply)
      (hc : s.conn = some c) (ht : t.unanswered = [])
      (hsent : t.history.sent = s.history.sent ++
        [⟨c.id, .retUnlink s.header.seqnum s.victim retUnlink, retUnlink.toBytes, n⟩])
      (h : t.history.unlinks = s.history.unlinks) : UnlinkStep s (.send r) t
  | failed (t : Server) : UnlinkStep s (.send .failed) t
  | neither (a : TcpAction) (t : Server) (hs : s.unanswered = []) (ht : t.unanswered = [])
      (hsent : t.history.sent = s.history.sent)
      (h : t.history.unlinks = s.history.unlinks) : UnlinkStep s a t

theorem TcpStep.unlinkStep {s t : Server} {a : TcpAction} (h : TcpStep s a t)
    (hs : s.tcp.pc.inUrb = true) (ha : StaysInUrb s (.tcp a)) : UnlinkStep s a t := by
  have hne : ∀ {pc : TcpPc}, s.tcp.pc = pc → pc ≠ .unlinkReply → s.unanswered = [] :=
    fun hpc h => unanswered_of_ne (hpc ▸ h)
  cases h with
  | urbAgain r conn hpc hrecv =>
    exact .neither _ _ (hne hpc (by decide)) (hne hpc (by decide)) rfl rfl
  | urbFailed r conn hpc hrecv => exact absurd (sockRecv_failed hrecv) (ha hpc).2
  | urbClosed r conn hpc hrecv => exact absurd (sockRecv_closed hrecv) (ha hpc).1
  | urbHeader r conn bytes hpc hrecv hbytes =>
    refine .neither _ _ (hne hpc (by decide)) (unanswered_of_ne ?_) rfl rfl
    simp only [Server.setTcp]
    exact urbNext_elim _ (by decide) (by decide) (by decide)
  | submitBody r conn bytes hpc hrecv =>
    refine .neither _ _ (hne hpc (by decide)) (unanswered_of_ne ?_) rfl rfl
    simp only [Server.setTcp]
    split_ifs
    · exact submitNext_elim _ _ (by decide) (by decide) (by decide)
    · decide
  | payload r conn bytes hpc hrecv =>
    refine .neither _ _ (hne hpc (by decide)) (unanswered_of_ne ?_) rfl rfl
    simp only [Server.setTcp]
    split_ifs <;> decide
  | bodyFailed r conn o want hpc hrecv ho =>
    rcases hpc with ⟨hpc, -⟩ | ⟨hpc, -⟩ <;>
      exact .neither _ _ (hne hpc (by decide)) rfl rfl rfl
  | postSubmit hpc hloop => exact .neither _ _ (hne hpc (by decide)) rfl rfl rfl
  | postSubmitFailed hpc => exact .neither _ _ (hne hpc (by decide)) rfl rfl rfl
  | unlinkBody r conn bytes hpc hrecv => exact .read _ _ _ (hne hpc (by decide)) rfl rfl rfl
  | unlinkBodyFailed r conn o hpc hrecv ho => exact .read _ _ _ (hne hpc (by decide)) rfl rfl rfl
  | unlinkReply c r n hpc hc hn hr => exact .answer c r n _ hpc hc rfl rfl rfl
  | unlinkReplyFailed hpc => exact .failed _
  | acceptFailed stream hpc | accept number stream hpc | begin hpc | outer hpc
  | commandAgain r conn hpc | commandEnds r conn o hpc | command r conn bytes hpc
  | postCommand hpc | postCommandFailed hpc | importWait n hpc | enterUrb hpc | leaveMode hpc
  | clientGone hpc | cleanupBusy hpc | cleanupEp1 hpc | cleanupEp2 hpc | close hpc =>
    rw [hpc] at hs
    cases hs

theorem step_unlinks_eq {s t : Server} {a : Action} (h : step s a = some t)
    (ha : ∀ b, a ≠ .tcp b) : t.history.unlinks = s.history.unlinks := by
  cases a with
  | tcp a => exact absurd rfl (ha a)
  | loop1 a =>
    obtain ⟨-, heff⟩ := loop1Step_effect h
    cases heff <;> rfl
  | loop2 a =>
    obtain ⟨-, heff⟩ := loop2Step_effect h
    cases heff <;> rfl
  | host a =>
    obtain ⟨-, heff⟩ := hostStep_effect h
    cases heff <;> rfl
  | driver a =>
    obtain ⟨-, -, d, e, -, rfl⟩ := driverStep_effect h
    cases e <;> rfl

structure UnlinksSettled (k : ℕ) (new : List Sent) (commands : List (UInt32 × UInt32))
    (s : Server) : Prop where
  answered : new.filterMap (fun m => m.message.unlinkAnswer) ++ s.unanswered =
    commands.map Prod.fst
  silenced : new.Pairwise Sent.Respects
  gone : ∀ m ∈ new, ∀ victim, m.message.victim = some victim → m.conn = k ∧
    ∀ ev, s.Outstanding ev → ev.header.seqnum ≠ victim

theorem UnlinksSettled.send {k : ℕ} {new : List Sent} {commands : List (UInt32 × UInt32)}
    {s t : Server} (hs : UnlinksSettled k new commands s) {m : Sent}
    (hvictim : m.message.victim = none) (hanswer : m.message.unlinkAnswer = none)
    (hun : t.unanswered = s.unanswered)
    (hout : ∀ ev, t.Outstanding ev → s.Outstanding ev)
    (hresp : ∀ seqnum, m.message.completed = some seqnum →
      ∃ e, s.Outstanding e ∧ e.header.seqnum = seqnum) :
    UnlinksSettled k (new ++ [m]) commands t where
  answered := by
    rw [List.filterMap_append, hun]
    simpa [hanswer] using hs.answered
  silenced := by
    rw [List.pairwise_append]
    refine ⟨hs.silenced, List.pairwise_singleton _ _, fun x hx y hy => ?_⟩
    rw [List.mem_singleton.1 hy]
    intro _ victim hv hdone
    obtain ⟨e, he, hseq⟩ := hresp victim hdone
    exact (hs.gone x hx victim hv).2 e he hseq
  gone x hx victim hv := by
    rcases List.mem_append.1 hx with hx | hx
    · obtain ⟨hk, hgone⟩ := hs.gone x hx victim hv
      exact ⟨hk, fun ev hev => hgone ev (hout ev hev)⟩
    · rw [List.mem_singleton.1 hx, hvictim] at hv
      cases hv

theorem UnlinksSettled.quiet {k : ℕ} {new : List Sent} {commands : List (UInt32 × UInt32)}
    {s t : Server} (hs : UnlinksSettled k new commands s) (hun : t.unanswered = s.unanswered)
    (hout : ∀ ev, t.Outstanding ev → ∀ m ∈ new, ∀ victim, m.message.victim = some victim →
      ev.header.seqnum ≠ victim) : UnlinksSettled k new commands t where
  answered := hun ▸ hs.answered
  silenced := hs.silenced
  gone m hm victim hv := ⟨(hs.gone m hm victim hv).1, fun ev hev => hout ev hev m hm victim hv⟩

theorem UnlinksSettled.answer {k : ℕ} {new : List Sent} {commands : List (UInt32 × UInt32)}
    {s t : Server} (hs : UnlinksSettled k new commands s) (hpc : s.tcp.pc = .unlinkReply)
    (hseq : s.header.seqnum = 2) (hvictim : ∀ ev, s.Outstanding ev → ev.header.seqnum ≠ s.victim)
    (n : ℕ) (ht : t.unanswered = []) (hout : ∀ ev, t.Outstanding ev → s.Outstanding ev) :
    UnlinksSettled k
      (new ++ [⟨k, .retUnlink s.header.seqnum s.victim retUnlink, retUnlink.toBytes, n⟩])
      commands t where
  answered := by
    have hwait : s.unanswered = [s.header.seqnum] := if_pos hpc
    have hret : retUnlink.base.seqnum = s.header.seqnum := by rw [hseq]; rfl
    rw [← hs.answered, hwait, ht, List.filterMap_append, List.append_nil, ← hret]
    rfl
  silenced := by
    rw [List.pairwise_append]
    refine ⟨hs.silenced, List.pairwise_singleton _ _, fun x _ y hy => ?_⟩
    rw [List.mem_singleton.1 hy]
    intro _ victim _ hdone
    cases hdone
  gone x hx victim hv := by
    rcases List.mem_append.1 hx with hx | hx
    · obtain ⟨hk, hgone⟩ := hs.gone x hx victim hv
      exact ⟨hk, fun ev hev => hgone ev (hout ev hev)⟩
    · rw [List.mem_singleton.1 hx] at hv ⊢
      cases hv
      exact ⟨rfl, fun ev hev => hvictim ev (hout ev hev)⟩

theorem UnlinksSettled.read {k : ℕ} {new : List Sent} {commands : List (UInt32 × UInt32)}
    {s t : Server} (hs : UnlinksSettled k new commands s) {seqnum victim : UInt32}
    (hun : s.unanswered = []) (ht : t.unanswered = [seqnum])
    (hout : ∀ ev, t.Outstanding ev → s.Outstanding ev) :
    UnlinksSettled k new (commands ++ [(seqnum, victim)]) t where
  answered := by
    have hall := hs.answered
    rw [hun, List.append_nil] at hall
    rw [ht, hall, List.map_append]
    rfl
  silenced := hs.silenced
  gone m hm u hu := ⟨(hs.gone m hm u hu).1, fun ev hev => (hs.gone m hm u hu).2 ev (hout ev hev)⟩

def Server.SettledSince (start : Server) (k : ℕ) (s : Server) : Prop :=
  ∃ new commands, s.history.sent = start.history.sent ++ new ∧
    s.history.unlinks = start.history.unlinks ++ commands ∧ UnlinksSettled k new commands s

theorem Server.SettledSince.extend {start s t : Server} {k : ℕ} {new m : List Sent}
    {commands c : List (UInt32 × UInt32)} (hsent : s.history.sent = start.history.sent ++ new)
    (hun : s.history.unlinks = start.history.unlinks ++ commands)
    (ht : t.history.sent = s.history.sent ++ m) (hc : t.history.unlinks = s.history.unlinks ++ c)
    (h : UnlinksSettled k (new ++ m) (commands ++ c) t) : start.SettledSince k t := by
  refine ⟨new ++ m, commands ++ c, ?_, ?_, h⟩
  · rw [ht, hsent, List.append_assoc]
  · rw [hc, hun, List.append_assoc]

theorem tcpStep_settled {start s t : Server} {k : ℕ} {a : TcpAction}
    (hs : start.SettledSince k s) (hurb : s.UrbPhase k) (hstay : StaysInUrb s (.tcp a))
    (hsend : SendsSucceed s (.tcp a)) (hfits : UnlinkFits s (.tcp a))
    (h : step s (.tcp a) = some t) : start.SettledSince k t := by
  obtain ⟨new, commands, hsent, hun, hset⟩ := hs
  have hstep := (tcpStep h).2.unlinkStep hurb.inUrb hstay
  cases hstep with
  | read r t u hunanswered ht hsame hc =>
    refine .extend hsent hun (by rw [hsame, List.append_nil]) hc ?_
    rw [List.append_nil]
    refine hset.read hunanswered ht fun ev hev => ?_
    rcases step_outstanding h hev with hev | ⟨hpost, -⟩
    · exact hev
    · cases hpost
  | answer c r n t hpc hconn ht hm hc =>
    obtain ⟨hseq, hvictim⟩ := hfits hpc
    rw [hurb.conn_id hconn] at hm
    refine .extend hsent hun hm (by rw [hc, List.append_nil]) ?_
    rw [List.append_nil]
    refine hset.answer hpc hseq hvictim n ht fun ev hev => ?_
    rcases step_outstanding h hev with hev | ⟨hpost, -⟩
    · exact hev
    · cases hpost
  | failed t => cases hsend
  | neither a t hunanswered ht hsame hc =>
    refine .extend hsent hun (by rw [hsame, List.append_nil]) (by rw [hc, List.append_nil]) ?_
    rw [List.append_nil, List.append_nil]
    refine hset.quiet (ht.trans hunanswered.symm) fun ev hev m hm victim hv => ?_
    rcases step_outstanding h hev with hev | ⟨hpost, hpc, rfl⟩
    · exact (hset.gone m hm victim hv).2 ev hev
    · -- a request posted now is not one that was unlinked
      cases hpost
      have hconn := (hset.gone m hm victim hv).1
      have hmem : m ∈ s.history.sent := by
        rw [hsent]
        exact List.mem_append_right _ hm
      have hne := hfits hpc m hmem (by rw [hconn, hurb.accepted])
      intro heq
      exact hne (by rw [hv, ← heq]; rfl)

theorem step_settled {start s t : Server} {k : ℕ} {a : Action} (hs : start.SettledSince k s)
    (hurb : s.UrbPhase k) (hstay : StaysInUrb s a) (hsend : SendsSucceed s a)
    (hfits : UnlinkFits s a) (h : step s a = some t) : start.SettledSince k t := by
  rcases step_tcp_or_other h with ⟨b, rfl, -⟩ | ⟨hother, heq⟩
  · exact tcpStep_settled hs hurb hstay hsend hfits h
  · obtain ⟨new, commands, hsent, hun, hset⟩ := hs
    have hsame : t.unanswered = s.unanswered := by
      simp only [Server.unanswered, Server.header, heq]
    have hunlinks : t.history.unlinks = s.history.unlinks ++ [] := by
      rw [step_unlinks_eq h hother, List.append_nil]
    have hout : ∀ ev, t.Outstanding ev → s.Outstanding ev := fun ev hev => by
      rcases step_outstanding h hev with hev | ⟨hpost, -⟩
      · exact hev
      · exact absurd hpost (hother _)
    have hquiet : UnlinksSettled k new commands t :=
      hset.quiet hsame fun ev hev m hm victim hv => (hset.gone m hm victim hv).2 ev (hout ev hev)
    cases step_sent h with
    | none a t hnone =>
      refine .extend hsent hun (by rw [hnone, List.append_nil]) hunlinks ?_
      rwa [List.append_nil, List.append_nil]
    | command a t m hm hone =>
      refine .extend hsent hun hone hunlinks ?_
      rw [List.append_nil]
      have hnone : m.message.victim = none ∧ m.message.unlinkAnswer = none ∧
          m.message.completed = none := by
        rcases hm with hm | ⟨rep, hm⟩ <;> rw [hm] <;> exact ⟨rfl, rfl, rfl⟩
      refine hset.send hnone.1 hnone.2.1 hsame hout fun seqnum hdone => ?_
      rw [hnone.2.2] at hdone
      cases hdone
    | unlink => exact absurd rfl (hother _)
    | reply t cb c heap r n hcb hconn hnum hr hone =>
      refine .extend hsent hun hone hunlinks ?_
      rw [List.append_nil]
      refine hset.send rfl rfl hsame hout fun seqnum hdone => ?_
      have hseq := (Callback.reply_identifies (hurb.contexts.callback cb hcb) heap).1
      exact ⟨cb.transfer.ev, .callback cb hcb rfl, by rw [← hseq]; exact Option.some.inj hdone⟩

/-- In URB mode with successful sends, the unlink protocol holds of every run whose unlinks have
the sequence number 2 and name requests that are gone already. -/
theorem unlinkProtocol_of_unlinkFits {s t : Server} {as : List Action} (hs : Reachable s)
    (hpc : s.tcp.pc = .urbHeader) (h : run s as = some t) (hstay : Always step StaysInUrb s as)
    (hsend : Always step SendsSucceed s as) (hfits : Always step UnlinkFits s as) :
    UnlinkProtocol s t := by
  obtain ⟨c, hc, hurb⟩ := hs.urbPhase hpc
  have hstart : s.SettledSince c.id s := by
    refine ⟨[], [], (List.append_nil _).symm, (List.append_nil _).symm, ?_, List.Pairwise.nil, ?_⟩
    · rw [unanswered_of_ne (by rw [hpc]; decide)]
      rfl
    · intro m hm
      cases hm
  have hall := (hstay.and hsend).and hfits
  have hend := exec_invariant (I := fun u => u.UrbPhase c.id ∧ s.SettledSince c.id u)
    (fun u a v hu ha huv => ⟨step_urbPhase hu.1 ha.1.1 huv,
      step_settled hu.2 hu.1 ha.1.1 ha.1.2 ha.2 huv⟩) ⟨hurb, hstart⟩ hall h
  obtain ⟨new, commands, hnew, hcommands, hset⟩ := hend.2
  refine ⟨fun hhead => ?_, ?_⟩
  · rw [hnew, hcommands, List.drop_left, List.drop_left, ← hset.answered,
      unanswered_of_ne (by rw [hhead]; decide), List.append_nil]
  · rw [hnew, List.drop_left]
    exact hset.silenced

def unlinking : List Action :=
  [.recv (.data headerBasicSize), .recv (.data cmdUnlinkSize), .send .full].map Action.tcp

def unlinkPrelude (seqnum victim : UInt32) : List Action :=
  keyboardEnumeration ++
    importing 3 (importSession [submitIn 7 0 18, unlinkOf seqnum victim]).stream

/-- The request 7 is unlinked by the command 8 while the host library has it, and completes. -/
theorem unlinked_request_completes :
    ¬ ∀ s as t, Reachable s → s.tcp.pc = .urbHeader → run s as = some t →
      Always step ReadsWhole s as → Always step SendsSucceed s as → UnlinkProtocol s t := by
  intro hall
  have hrun : ((run coldBoot (unlinkPrelude 8 7)).bind fun s =>
      (run s (submitting ++ handlingControl true ++ unlinking ++ completing 26)).map fun t =>
        decide (s.tcp.pc = .urbHeader ∧ t.history.unlinks = [(8, 7)] ∧
          Always step ReadsWhole s
            (submitting ++ handlingControl true ++ unlinking ++ completing 26) ∧
          Always step SendsSucceed s
            (submitting ++ handlingControl true ++ unlinking ++ completing 26) ∧
          ¬ UnlinkProtocol s t)) = some true := by
    decide +kernel
  obtain ⟨s, t, hs, ht, hend⟩ := exec_check hrun
  obtain ⟨hpc, -, hreads, hsends, hbroken⟩ := of_decide_eq_true hend
  exact hbroken (hall s _ t ⟨_, _, _, _, _, _, _, hs⟩ hpc ht hreads hsends)

/-- The command 2 unlinks a request that has been answered. -/
theorem unlinkProtocol_afterReply :
    ∃ s t, run coldBoot (unlinkPrelude 2 7) = some s ∧
      run s (submitting ++ handlingControl true ++ completing 26 ++ unlinking) = some t ∧
      t.history.unlinks = [(2, 7)] ∧ UnlinkProtocol s t := by
  have hrun : ((run coldBoot (unlinkPrelude 2 7)).bind fun s =>
      (run s (submitting ++ handlingControl true ++ completing 26 ++ unlinking)).map fun t =>
        decide (s.tcp.pc = .urbHeader ∧ t.history.unlinks = [(2, 7)] ∧
          Always step StaysInUrb s
            (submitting ++ handlingControl true ++ completing 26 ++ unlinking) ∧
          Always step SendsSucceed s
            (submitting ++ handlingControl true ++ completing 26 ++ unlinking) ∧
          Always step UnlinkFits s
            (submitting ++ handlingControl true ++ completing 26 ++ unlinking))) = some true := by
    decide +kernel
  obtain ⟨s, t, hs, ht, hend⟩ := exec_check hrun
  obtain ⟨hpc, hunlinks, hstay, hsend, hfits⟩ := of_decide_eq_true hend
  exact ⟨s, t, hs, ht, hunlinks,
    unlinkProtocol_of_unlinkFits ⟨_, _, _, _, _, _, _, hs⟩ hpc ht hstay hsend hfits⟩

end UsbRepeater
