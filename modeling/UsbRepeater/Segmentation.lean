import UsbRepeater.Reader

/-! How the stream is cut into receives. `do_recv` takes what a receive returns for a whole
command, so a cut changes what the server does; without cuts the delivery does not matter. -/
namespace UsbRepeater

open Schedule Determ

/-- The commands and SUBMITs posted, the entries into URB mode and the replies to what was read,
in `s` and in `t`. -/
structure Precedes (s t : Server) : Prop where
  commands : s.history.commands <+: t.history.commands
  posted : s.history.posted <+: t.history.posted
  urbEntries : s.history.urbEntries <+: t.history.urbEntries
  replies : s.history.sent.filter Sent.answersRead <+: t.history.sent.filter Sent.answersRead

theorem Precedes.refl (s : Server) : Precedes s s :=
  ⟨List.prefix_rfl, List.prefix_rfl, List.prefix_rfl, List.prefix_rfl⟩

theorem Precedes.trans {s t u : Server} (h : Precedes s t) (g : Precedes t u) : Precedes s u where
  commands := h.commands.trans g.commands
  posted := h.posted.trans g.posted
  urbEntries := h.urbEntries.trans g.urbEntries
  replies := h.replies.trans g.replies

theorem precedes_reader {s t : Server} : Precedes s.reader t.reader ↔ Precedes s t := by
  have hsent : ∀ u : Server, u.reader.history.sent.filter Sent.answersRead =
      u.history.sent.filter Sent.answersRead := by
    intro u
    simp only [Server.reader, History.read, List.filter_filter, Bool.and_self]
  constructor
  · rintro ⟨hcommands, hposted, hentries, hreplies⟩
    rw [hsent, hsent] at hreplies
    exact ⟨hcommands, hposted, hentries, hreplies⟩
  · rintro ⟨hcommands, hposted, hentries, hreplies⟩
    rw [← hsent s, ← hsent t] at hreplies
    exact ⟨hcommands, hposted, hentries, hreplies⟩

theorem step_urbEntries {s t : Server} {a : Action} (h : step s a = some t) :
    s.history.urbEntries <+: t.history.urbEntries := by
  cases a with
  | tcp a => cases (tcpStep h).2 <;> first | exact List.prefix_rfl | exact List.prefix_append _ _
  | loop1 a => cases (loop1Step h).2 <;> exact List.prefix_rfl
  | loop2 a => cases (loop2Step_effect h).2 <;> exact List.prefix_rfl
  | host a => cases (hostStep_effect h).2 <;> exact List.prefix_rfl
  | driver a =>
    obtain ⟨-, -, d, e, -, rfl⟩ := driverStep_effect h
    cases e <;> exact List.prefix_rfl

theorem advance_precedes {s t : Server} (h : s.advance = some t) : Precedes s t := by
  obtain ⟨u, hu, rfl⟩ := Option.map_eq_some_iff.1 h
  have hext := step_extends hu
  have hentries := step_urbEntries hu
  refine ⟨hext.commands, hext.posted, hentries, ?_⟩
  simp only [Server.reader, History.read, List.filter_filter, Bool.and_self]
  exact hext.sent.filter _

theorem leads_precedes {s t : Server} (h : Leads Server.advance s t) : Precedes s t := by
  induction h with
  | refl => exact Precedes.refl s
  | tail _ h ih => exact ih.trans (advance_precedes h)

def Handler1.receiving : Handler1 → Bool
  | .importRecv _ _ => true
  | _ => false

def TcpPc.receiving : TcpPc → Bool
  | .command | .urbHeader | .submitBody | .payload | .unlinkBody => true
  | _ => false

/-- Everything sent has been read, no command is waiting for its handler, and the task whose turn
it is to read waits for more. -/
structure Server.Drained (s : Server) : Prop where
  conn : ∃ c ∈ s.conn, c.unread = []
  queue : s.loop1.queue = []
  waits : s.loop1.handler.receiving = true ∨
    s.loop1.handler = .idle ∧ s.tcp.pc.receiving = true

instance (s : Server) : Decidable s.Drained :=
  decidable_of_iff ((∃ c ∈ s.conn, c.unread = []) ∧ s.loop1.queue = [] ∧
      (s.loop1.handler.receiving = true ∨ s.loop1.handler = .idle ∧ s.tcp.pc.receiving = true))
    ⟨fun h => ⟨h.1, h.2.1, h.2.2⟩, fun h => ⟨h.conn, h.queue, h.waits⟩⟩

theorem sockRecv_zero (conn : Option Conn) (sock : ℤ) (want : ℕ) :
    sockRecv conn sock want (.data 0) = none := by
  unfold sockRecv
  cases openOn conn sock <;> simp

theorem arriving_zero {s : Server} (hread : ∃ c ∈ s.conn, c.unread = []) (want : ℕ) :
    s.reader.arriving want = .data 0 := by
  obtain ⟨c, hc, hempty⟩ := hread
  have hconn : s.reader.conn = some c := hc
  simp [Server.arriving, hconn, hempty]

theorem advance_of_receiving {s : Server} (hread : ∃ c ∈ s.conn, c.unread = [])
    (hnone : s.pendingImports = []) (hreceiving : s.tcp.pc.receiving = true) :
    s.reader.advance = none := by
  have hcrashed : s.reader.crashed = false := rfl
  rw [Server.advance, nextAction_of_idle hnone]
  cases hpc : s.tcp.pc <;> rw [hpc] at hreceiving <;> cases hreceiving
  all_goals
    have hpc' : s.reader.tcp.pc = s.tcp.pc := by
      simp only [Server.reader, TcpTask.settle, hpc, TcpPc.settle]
    rw [hpc] at hpc'
    simp only [Server.nextTcp, hpc', arriving_zero hread, step, doRecv, sockRecv_zero,
      Option.map_none, hcrashed, Bool.false_eq_true, if_false]

theorem Server.Drained.stopped {s : Server} (hs : s.Drained) : s.reader.advance = none := by
  have hcrashed : s.reader.crashed = false := rfl
  rcases hs.waits with hreceiving | ⟨hh, hreceiving⟩
  · cases hh : s.loop1.handler <;> rw [hh] at hreceiving <;> cases hreceiving
    rename_i ev devImport
    have hl : s.reader.loop1.handler = .importRecv ev devImport := by
      simp only [Server.reader, Loop1.onImport, hh, Handler1.onImport]
    simp only [Server.advance, Server.nextAction, hl, arriving_zero hs.conn, step,
      usbIpEventHandler1, sockRecv_zero, Option.map_none, hcrashed, Bool.false_eq_true, if_false]
  · refine advance_of_receiving hs.conn ?_ hreceiving
    simp [Server.pendingImports, hh, hs.queue, Handler1.importEvent]

/-- The commands handled, the SUBMITs posted, and the replies to imports and unlinks. -/
def Server.transcript (s : Server) : List TcpData × List Submit × List Sent :=
  (s.history.commands, s.history.posted, s.history.sent.filter Sent.answersRead)

theorem transcript_reader (s : Server) : s.reader.transcript = s.transcript := by
  simp only [Server.transcript, Server.reader, History.read, List.filter_filter, Bool.and_self]

/-- Two ways to deliver a stream without cutting a receive: one run is at every time as far as the
other or behind it, and when both have come to the end of the stream they have done the same. -/
theorem segmentation_independent {s t u : Server} {as bs : List Action} (hreach : Reachable s)
    (hs : s.HandedOver) (ht : run s as = some t) (hu : run s bs = some u)
    (has : Always step Ordered s as) (hbs : Always step Ordered s bs) :
    (Precedes t u ∨ Precedes u t) ∧ (t.Drained → u.Drained → t.transcript = u.transcript) := by
  have hleft := run_reader hreach hs has ht
  have hright := run_reader hreach hs hbs hu
  constructor
  · rcases hleft.total hright with h | h
    · exact .inl (precedes_reader.1 (leads_precedes h))
    · exact .inr (precedes_reader.1 (leads_precedes h))
  · intro hdt hdu
    have hsame : t.reader = u.reader := hleft.stopped_unique hright hdt.stopped hdu.stopped
    rw [← transcript_reader, ← transcript_reader u, hsame]

def listPrelude : List Action := [.tcp (.accept (some 3) (requestHeader opReqDevlist 0))]

def listWhole : List Action :=
  [.tcp .run, .tcp .run, .tcp (.recv (.data 8)), .tcp (.post true), .tcp .run, .tcp .run,
    .loop1 .dispatch, .loop1 (.devlist [] .full)]

/-- The request arrives as one byte and seven. -/
def listCut : List Action :=
  [.tcp .run, .tcp .run, .tcp (.recv (.data 1)), .tcp .run, .tcp .run, .tcp (.recv (.data 7)),
    .tcp .run, .tcp .run]

theorem cut_changes_commands :
    ¬ ∀ s t u as bs, Reachable s → s.HandedOver → run s as = some t → run s bs = some u →
      Always step (fun s a => Undisturbed s a ∧ KeepsWaiting s a) s as →
      Always step (fun s a => Undisturbed s a ∧ KeepsWaiting s a) s bs →
      t.Drained → u.Drained → t.transcript = u.transcript := by
  intro hall
  have hwhole : ((run coldBoot listPrelude).bind fun s => (run s listWhole).map fun t =>
      decide (s.tcp.pc = .begin ∧ s.pendingImports = [] ∧
        Always step (fun s a => Undisturbed s a ∧ KeepsWaiting s a) s listWhole ∧ t.Drained ∧
        t.history.commands.length = 1)) = some true := by
    decide +kernel
  have hcut : ((run coldBoot listPrelude).bind fun s => (run s listCut).map fun t =>
      decide (Always step (fun s a => Undisturbed s a ∧ KeepsWaiting s a) s listCut ∧ t.Drained ∧
        t.history.commands = [])) = some true := by
    decide +kernel
  obtain ⟨s, t, hs, ht, hend⟩ := exec_check hwhole
  obtain ⟨s', u, hs', hu, hend'⟩ := exec_check hcut
  obtain rfl : s' = s := Option.some.inj (hs'.symm.trans hs)
  obtain ⟨hpc, hpending, has, hdt, hone⟩ := of_decide_eq_true hend
  obtain ⟨hbs, hdu, hnone⟩ := of_decide_eq_true hend'
  have hover : s'.HandedOver := ⟨.inl hpending, fun hcmd => by rw [hpc] at hcmd; cases hcmd⟩
  have hsame := hall s' t u listWhole listCut ⟨_, _, _, _, _, _, _, hs⟩ hover ht hu has hbs hdt hdu
  have hcommands : t.history.commands = u.history.commands := congrArg Prod.fst hsame
  rw [hcommands, hnone] at hone
  cases hone

def promptDelivery : List Action :=
  (importing 3 []).tail ++ submitting

/-- The same with timeouts before the headers, and with `do_recv` polling in between. -/
def slowDelivery : List Action :=
  [.tcp .run, .tcp .run, .tcp (.recv .timeout), .tcp .run, .tcp (.recv (.data 8)),
    .tcp (.post true), .tcp .run, .loop1 .dispatch, .tcp .run, .loop1 .run,
    .loop1 (.recv (.data 32)), .loop1 .run, .tcp .run, .loop1 (.send .full), .loop1 .run,
    .tcp .run, .tcp .run, .tcp (.recv .timeout)] ++ submitting

theorem segmentation_independent_delays :
    ∃ s t u, run coldBoot (keyboardEnumeration ++
        [.tcp (.accept (some 3) (importSession [submitIn 7 0 18]).stream)]) = some s ∧
      run s promptDelivery = some t ∧ run s slowDelivery = some u ∧
      t.history.posted.length = 1 ∧ t.transcript = u.transcript := by
  have hprompt : ((run coldBoot (keyboardEnumeration ++
      [.tcp (.accept (some 3) (importSession [submitIn 7 0 18]).stream)])).bind fun s =>
      (run s promptDelivery).map fun t => decide (s.tcp.pc = .begin ∧ s.pendingImports = [] ∧
        Always step Ordered s promptDelivery ∧ t.Drained ∧ t.history.posted.length = 1)) =
      some true := by
    decide +kernel
  have hslow : ((run coldBoot (keyboardEnumeration ++
      [.tcp (.accept (some 3) (importSession [submitIn 7 0 18]).stream)])).bind fun s =>
      (run s slowDelivery).map fun t => decide (Always step Ordered s slowDelivery ∧ t.Drained)) =
      some true := by
    decide +kernel
  obtain ⟨s, t, hs, ht, hend⟩ := exec_check hprompt
  obtain ⟨s', u, hs', hu, hend'⟩ := exec_check hslow
  obtain rfl : s' = s := Option.some.inj (hs'.symm.trans hs)
  obtain ⟨hpc, hpending, has, hdt, hone⟩ := of_decide_eq_true hend
  obtain ⟨hbs, hdu⟩ := of_decide_eq_true hend'
  have hover : s'.HandedOver := ⟨.inl hpending, fun hcmd => by rw [hpc] at hcmd; cases hcmd⟩
  have hreach : Reachable s' := ⟨_, _, _, _, _, _, _, hs⟩
  exact ⟨s', t, u, hs, ht, hu, hone,
    (segmentation_independent hreach hover ht hu has hbs).2 hdt hdu⟩

end UsbRepeater
