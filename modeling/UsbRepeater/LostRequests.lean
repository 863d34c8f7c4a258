import UsbRepeater.UrbPhase

/-! Requests without an answer. `_usb_ip_event_handler_2` has four exits on which it neither
hands the request to the host library nor answers it; outside them every request is answered
once all is quiet. -/
namespace UsbRepeater

open Schedule

structure Server.Quiescent (s : Server) : Prop where
  queue : s.loop2.queue = []
  handlers : s.loop2.handlers = []
  inFlight : s.inFlight = []
  callback : s.callback = none

instance (s : Server) : Decidable s.Quiescent :=
  decidable_of_iff (s.loop2.queue.isEmpty ∧ s.loop2.handlers.isEmpty ∧ s.inFlight.isEmpty ∧
    s.callback.isNone) (by
      simp only [List.isEmpty_iff, Option.isNone_iff_eq_none]
      exact ⟨fun ⟨h1, h2, h3, h4⟩ => ⟨h1, h2, h3, h4⟩, fun ⟨h1, h2, h3, h4⟩ => ⟨h1, h2, h3, h4⟩⟩)

/-- The step does not take a request out of the handler's hands: both allocations succeed, no
transfer on the endpoint is pending, and the host library takes the transfer. -/
def KeepsRequest (s : Server) : Action → Prop
  | .loop2 (.malloc _ heap) | .loop2 (.alloc _ heap) => heap ≠ none
  | .loop2 (.check j) => ∀ l t, s.loop2.handlers[j]? = some (l, .allocated t) →
      t.ev.header.ep ≠ 0 → s.pending t.ev.header.ep = false
  | .loop2 (.submit _ accepted) => accepted = true
  | _ => True

def Answered (s t : Server) : Prop :=
  ((t.replies.drop s.replies.length : List _) : Multiset (Submit × UsbipRetSubmit)).map
      (fun r => r.2.base.seqnum) =
    ((t.history.posted.drop s.history.posted.length : List _) : Multiset Submit).map
      fun ev => ev.header.seqnum

theorem step_dropped_of_keepsRequest {s t : Server} {a : Action} (h : step s a = some t)
    (ha : KeepsRequest s a) : t.history.dropped = s.history.dropped := by
  cases a with
  | tcp a =>
    obtain ⟨-, heff⟩ := tcpStep_effect h
    cases heff <;> rfl
  | loop1 a =>
    obtain ⟨-, heff⟩ := loop1Step_effect h
    cases heff <;> rfl
  | loop2 a =>
    obtain ⟨-, heff⟩ := loop2Step_effect h
    cases heff with
    | noReply j l ev hj => exact absurd rfl ha
    | noTransfer j l ev ret hj => exact absurd rfl ha
    | pending j l tr hj hep hp =>
      rw [ha l tr hj hep] at hp
      cases hp
    | rejected j l tr hj => cases ha
    | _ => rfl
  | host a =>
    obtain ⟨-, heff⟩ := hostStep_effect h
    cases heff <;> rfl
  | driver a =>
    obtain ⟨-, -, d, e, -, rfl⟩ := driverStep_effect h
    cases e <;> rfl

theorem step_dropped_of_not_keepsRequest {s t : Server} {a : Action} (h : step s a = some t)
    (ha : ¬ KeepsRequest s a) : s.history.dropped.length < t.history.dropped.length := by
  have hone : ∀ (j : ℕ) (ev : Submit) (reason : DropReason),
      (s.drop2 j ev reason).history.dropped.length = s.history.dropped.length + 1 :=
    fun _ _ _ => List.length_append
  cases a with
  | loop2 a =>
    obtain ⟨-, heff⟩ := loop2Step_effect h
    cases heff with
    | noReply j l ev hj => exact (hone j ev .noReply).symm ▸ Nat.lt_succ_self _
    | noTransfer j l ev ret hj => exact (hone j ev .noTransfer).symm ▸ Nat.lt_succ_self _
    | pending j l tr hj hep hp => exact (hone j tr.ev .pending).symm ▸ Nat.lt_succ_self _
    | rejected j l tr hj => exact (hone j tr.ev .rejected).symm ▸ Nat.lt_succ_self _
    | fill j l ev heap hj => exact absurd (Option.some_ne_none heap) ha
    | alloc j l ev ret heap hj => exact absurd (Option.some_ne_none heap) ha
    | control j l tr hj hep =>
      refine absurd ?_ ha
      intro l' tr' hj' hne
      rw [hj] at hj'
      cases hj'
      exact absurd hep hne
    | checked j l tr hj hep hp =>
      refine absurd ?_ ha
      intro l' tr' hj' _
      rw [hj] at hj'
      cases hj'
      exact hp
    | submitControl j l tr hj hc => exact absurd rfl ha
    | submitBulk j l tr hj hc => exact absurd rfl ha
    | _ => exact absurd trivial ha
  | _ => exact absurd trivial ha

theorem step_silent_of_sendsSucceed {s t : Server} {a : Action} (hskt : 0 ≤ s.skt)
    (ha : SendsSucceed s a) (h : step s a = some t) : t.history.silent = s.history.silent := by
  cases a with
  | tcp a =>
    obtain ⟨-, heff⟩ := tcpStep_effect h
    cases heff <;> rfl
  | loop1 a =>
    obtain ⟨-, heff⟩ := loop1Step_effect h
    cases heff <;> rfl
  | loop2 a =>
    obtain ⟨-, heff⟩ := loop2Step_effect h
    cases heff <;> rfl
  | host a =>
    obtain ⟨-, heff⟩ := hostStep_effect h
    cases heff with
    | silent c heap r hcb hr =>
      have hfull : r = .full := ha
      rcases hr with hr | hr
      · omega
      · rw [hfull] at hr
        cases hr
    | _ => rfl
  | driver a =>
    obtain ⟨-, -, d, e, -, rfl⟩ := driverStep_effect h
    cases e <;> rfl

/-- In a quiescent state every posted request has been answered, dropped or passed over. -/
theorem Server.Quiescent.posted_eq {s : Server} (hq : s.Quiescent) (hs : s.Accounted) :
    (s.history.posted : Multiset Submit) =
      (s.replies.map Prod.fst : List Submit) + (s.history.silent : List Submit) +
        (s.history.dropped.map Prod.fst : List Submit) := by
  have hempty : ∀ k ∉ ({.completed, .dropped} : Finset Stage), s.stage k = 0 := by
    intro k hk
    cases k with
    | queued => simp [Server.stage, hq.queue]
    | handled => simp [Server.stage, hq.handlers]
    | inFlight => simp [Server.stage, hq.inFlight]
    | completed => exact absurd (by decide) hk
    | dropped => exact absurd (by decide) hk
  rw [← hs.total, Flow.total_eq_sum_of_empty _ hempty, Finset.sum_pair (by decide)]
  simp [Server.stage, hq.callback]

theorem replies_prefix {s t : Server} (h : Extends s t) : s.replies <+: t.replies :=
  h.sent.filterMap _

theorem posted_eq_answered_add_dropped {s t : Server} (hs : s.Quiescent) (ht : t.Quiescent)
    (hsa : s.Accounted) (hta : t.Accounted) (hext : Extends s t)
    (hsilent : t.history.silent = s.history.silent) :
    ((t.history.posted.drop s.history.posted.length : List Submit) : Multiset Submit) =
      ((t.replies.drop s.replies.length).map Prod.fst : List Submit) +
        ((t.history.dropped.drop s.history.dropped.length).map Prod.fst : List Submit) := by
  obtain ⟨posted, hposted⟩ := hext.posted
  obtain ⟨replies, hreplies⟩ := replies_prefix hext
  obtain ⟨dropped, hdropped⟩ := hext.dropped
  have hbefore := hs.posted_eq hsa
  have hafter := ht.posted_eq hta
  rw [← hposted, ← hreplies, ← hdropped, hsilent, List.map_append, List.map_append,
    ← Multiset.coe_add, ← Multiset.coe_add, ← Multiset.coe_add, hbefore] at hafter
  rw [← hposted, ← hreplies, ← hdropped, List.drop_left, List.drop_left, List.drop_left]
  have hrearranged :
      ((s.replies.map Prod.fst : List Submit) + (s.history.silent : List Submit) +
        (s.history.dropped.map Prod.fst : List Submit) : Multiset Submit) + (posted : List Submit) =
      ((s.replies.map Prod.fst : List Submit) + (s.history.silent : List Submit) +
        (s.history.dropped.map Prod.fst : List Submit)) +
        ((replies.map Prod.fst : List Submit) + (dropped.map Prod.fst : List Submit)) := by
    rw [hafter]
    abel
  exact add_left_cancel hrearranged

/-- From one quiescent state to another, every request is answered exactly when none of the four
exits has been taken. -/
theorem answered_iff_keepsRequest {s t : Server} {as : List Action} (hreach : Reachable s)
    (hs : s.Quiescent) (h : run s as = some t) (hsend : Always step SendsSucceed s as)
    (ht : t.Quiescent) : Answered s t ↔ Always step KeepsRequest s as := by
  have htreach := hreach.of_run h
  have hext := run_extends h
  have hsilent : t.history.silent = s.history.silent := by
    have hboth := exec_invariant
      (I := fun u => u.SocketsOk ∧ u.history.silent = s.history.silent)
      (fun u a v hu ha huv => ⟨step_socketsOk hu.1 huv,
        (step_silent_of_sendsSucceed hu.1.skt ha huv).trans hu.2⟩)
      ⟨hreach.socketsOk, rfl⟩ hsend h
    exact hboth.2
  have hkeeps : Always step KeepsRequest s as ↔
      t.history.dropped.length = s.history.dropped.length :=
    always_iff_of_monotone (I := fun _ => True) (m := fun u => u.history.dropped.length)
      (fun _ _ _ _ _ => trivial)
      (fun u a v _ huv ha => congrArg List.length (step_dropped_of_keepsRequest huv ha))
      (fun u a v _ huv ha => step_dropped_of_not_keepsRequest huv ha) trivial h
  have hflow := posted_eq_answered_add_dropped hs ht hreach.accounted htreach.accounted hext hsilent
  have hseqnum : ∀ r ∈ t.replies.drop s.replies.length,
      r.2.base.seqnum = r.1.header.seqnum := by
    intro r hr
    have htriple := htreach.contextsOk.reply_triple (List.mem_of_mem_drop hr)
    exact congrArg Prod.fst htriple
  have hanswers : ((t.replies.drop s.replies.length : List _) :
      Multiset (Submit × UsbipRetSubmit)).map (fun r => r.2.base.seqnum) =
      (((t.replies.drop s.replies.length).map Prod.fst : List Submit) : Multiset Submit).map
        fun ev => ev.header.seqnum := by
    rw [← Multiset.map_coe, Multiset.map_map]
    exact Multiset.map_congr rfl fun r hr => hseqnum r hr
  obtain ⟨dropped, hdropped⟩ := hext.dropped
  have hrest : t.history.dropped.drop s.history.dropped.length = dropped := by
    rw [← hdropped, List.drop_left]
  have hnone : t.history.dropped.length = s.history.dropped.length ↔ dropped = [] := by
    rw [← hdropped, List.length_append]
    rw [← List.length_eq_zero_iff]
    omega
  rw [hkeeps, hnone, Answered, hanswers, hflow, Multiset.map_add, hrest, left_eq_add]
  simp

def NoLostRequest : Prop :=
  ∀ (s t : Server) (as : List Action), Reachable s → s.tcp.pc = .urbHeader → s.Quiescent →
    run s as = some t → Always step StaysInUrb s as → Always step SendsSucceed s as →
      t.Quiescent → Answered s t

def controlPrelude : List Action :=
  keyboardEnumeration ++ importing 3 (importSession [submitIn 7 0 18]).stream

/-- The host library refuses the transfer of a control request. -/
theorem rejected_request_lost : ¬ NoLostRequest := by
  intro hall
  have hrun : ((run coldBoot controlPrelude).bind fun s =>
      (run s (submitting ++ handlingControl false)).map fun t =>
        decide (s.tcp.pc = .urbHeader ∧ s.Quiescent ∧ t.Quiescent ∧
          Always step StaysInUrb s (submitting ++ handlingControl false) ∧
          Always step SendsSucceed s (submitting ++ handlingControl false) ∧
          s.history.posted.length = 0 ∧ s.replies.length = 0 ∧
          t.history.posted.length = 1 ∧ t.replies.length = 0)) = some true := by
    decide +kernel
  obtain ⟨s, t, hs, ht, hend⟩ := exec_check hrun
  obtain ⟨hpc, hquiet, htquiet, hstay, hsucceed, hposted, hreplies, htposted, htreplies⟩ :=
    of_decide_eq_true hend
  have hansw := hall s t _ ⟨_, _, _, _, _, _, _, hs⟩ hpc hquiet ht hstay hsucceed htquiet
  have hcard := congrArg Multiset.card hansw
  simp only [Multiset.card_map, Multiset.coe_card, List.length_drop, hposted, hreplies, htposted,
    htreplies] at hcard
  omega

theorem answered_descriptor :
    ∃ s t, run coldBoot controlPrelude = some s ∧ s.Quiescent ∧
      run s (submitting ++ handlingControl true ++ completing 26) = some t ∧
      (Answered s t ↔
        Always step KeepsRequest s (submitting ++ handlingControl true ++ completing 26)) := by
  have hrun : ((run coldBoot controlPrelude).bind fun s =>
      (run s (submitting ++ handlingControl true ++ completing 26)).map fun t =>
        decide (s.Quiescent ∧ t.Quiescent ∧ Always step SendsSucceed s
          (submitting ++ handlingControl true ++ completing 26))) = some true := by
    decide +kernel
  obtain ⟨s, t, hs, ht, hend⟩ := exec_check hrun
  obtain ⟨hquiet, htquiet, hsucceed⟩ := of_decide_eq_true hend
  exact ⟨s, t, hs, hquiet, ht,
    answered_iff_keepsRequest ⟨_, _, _, _, _, _, _, hs⟩ hquiet ht hsucceed htquiet⟩

end UsbRepeater
