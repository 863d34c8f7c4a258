import UsbRepeater.Connections

/-! `device_busy` across connections. The cleanup of `do_recv` clears the flag for the next
client, but the import handler sends its reply and sets the flag in two steps, and nothing keeps
the second one from coming after the cleanup. -/
namespace UsbRepeater

open Schedule

/-- The handler has sent its reply in full and is about to set `device_busy`. -/
def Handler1.replied : Handler1 → Bool
  | .importBusy _ _ _ => true
  | _ => false

def Server.BeginsIdle (s : Server) : Prop := s.tcp.pc = .begin → s.deviceBusy = false

/-- The handler sets `device_busy` only while some connection is being served: not between the
clearing of the flag in the cleanup and the start on the next socket. -/
def BusyInTime (s : Server) : Action → Prop
  | .loop1 .run => s.loop1.handler.replied = true → s.tcp.pc.serving = true
  | _ => True

instance (s : Server) (a : Action) : Decidable (BusyInTime s a) := by
  unfold BusyInTime
  split <;> infer_instance

/-- Outside the service of a connection the flag is clear. -/
def Server.IdleClear (s : Server) : Prop := s.tcp.pc.serving = false → s.deviceBusy = false

theorem Server.IdleClear.beginsIdle {s : Server} (hs : s.IdleClear) : s.BeginsIdle := by
  intro hpc
  exact hs (by rw [hpc]; rfl)

theorem TcpEffect.idleClear {s t : Server} {a : TcpAction} (h : TcpEffect s a t)
    (hs : s.IdleClear) : t.IdleClear := by
  -- the flag is cleared on the way out, and no step of this task sets it
  have hserves : ∀ {tcp : TcpTask}, s.tcp.Serves tcp → tcp.pc.serving = false →
      s.deviceBusy = false := by
    intro tcp htcp hpc
    rw [htcp.target] at hpc
    cases hpc
  cases h with
  | own a tcp conn recvBytes urbEntries unlinks htcp hconn => exact hserves htcp
  | acceptFailed stream hpc => exact hs
  | accept number stream hpc =>
    intro _
    exact hs (by rw [hpc]; rfl)
  | postCommand tcp htcp hpc => exact hserves htcp
  | postSubmit tcp htcp hpc hloop => exact hserves htcp
  | unlink tcp c r n htcp hpc hc hn hr => exact hserves htcp
  | clientGone hpc => exact fun _ => rfl
  | cleanupBusy hpc => exact fun _ => rfl
  | cleanupEp1 hpc =>
    intro _
    exact hs (by rw [hpc]; rfl)
  | cleanupEp2 hpc =>
    intro _
    exact hs (by rw [hpc]; rfl)
  | close hpc =>
    intro _
    exact hs (by rw [hpc]; rfl)

theorem step_idleClear {s t : Server} {a : Action} (hs : s.IdleClear) (ha : BusyInTime s a)
    (h : step s a = some t) : t.IdleClear := by
  cases a with
  | tcp a => exact (tcpStep_effect h).2.idleClear hs
  | loop1 a =>
    obtain ⟨-, hstep⟩ := loop1Step h
    cases hstep with
    | busy ev devImport rep hh =>
      have hserving : s.tcp.pc.serving = true := ha (by rw [hh]; rfl)
      intro hpc
      have hpc : s.tcp.pc.serving = false := hpc
      rw [hserving] at hpc
      cases hpc
    | _ => exact hs
  | loop2 a =>
    obtain ⟨-, heff⟩ := loop2Step_effect h
    cases heff <;> exact hs
  | host a =>
    obtain ⟨-, heff⟩ := hostStep_effect h
    cases heff <;> exact hs
  | driver a =>
    obtain ⟨-, -, d, e, -, rfl⟩ := driverStep_effect h
    cases e with
    | clearBusy => exact fun _ => rfl
    | _ => exact hs

section Boot

variable {lib : HostLib} {devRecv header cmdSubmit transferBuffer cmdUnlink : Bytes}

/-- As long as the handler is in time, every connection begins in command mode. -/
theorem begins_idle_of_busyInTime {as : List Action} {t : Server}
    (h : run (.boot lib devRecv header cmdSubmit transferBuffer cmdUnlink) as = some t)
    (htime : Always step BusyInTime
      (.boot lib devRecv header cmdSubmit transferBuffer cmdUnlink) as) : t.BeginsIdle := by
  have hstart : Server.IdleClear
      (.boot lib devRecv header cmdSubmit transferBuffer cmdUnlink) := fun _ => rfl
  have hclear : t.IdleClear :=
    exec_invariant (fun s a u hs ha hu => step_idleClear hs ha hu) hstart htime h
  exact hclear.beginsIdle

end Boot

/-- The reply to an import has been sent when `do_recv` stops waiting; the client closes the
connection, the cleanup clears the flag, and only then the handler sets it. The next client is
accepted. -/
def lateBusySession : List Action :=
  keyboardEnumeration ++ (importing 3 (importSession []).stream).take 10 ++
    List.replicate 103 (.tcp .run) ++ [.tcp (.recv .closed), .tcp .run, .loop1 .run] ++
    List.replicate 3 (.tcp .run) ++ [.tcp (.accept (some 3) [])]

theorem begins_busy :
    ¬ ∀ as t, run coldBoot as = some t → t.BeginsIdle := by
  intro hall
  have hrun : (run coldBoot lateBusySession).map (fun t => (t.tcp.pc, t.deviceBusy)) =
      some (.begin, true) := by
    decide +kernel
  obtain ⟨t, ht, hstate⟩ := Option.map_eq_some_iff.1 hrun
  obtain ⟨hpc, hbusy⟩ := Prod.mk.inj hstate
  have hidle := hall lateBusySession t ht hpc
  rw [hbusy] at hidle
  cases hidle

def secondClient : List Action :=
  descriptorSession ++ disconnecting ++ [.tcp (.accept (some 3) [])]

theorem begins_idle_secondClient :
    ∃ t, run coldBoot secondClient = some t ∧ t.tcp.pc = .begin ∧ t.BeginsIdle := by
  have hrun : (run coldBoot secondClient).map (fun t => t.tcp.pc) = some .begin := by
    decide +kernel
  obtain ⟨t, ht, hpc⟩ := Option.map_eq_some_iff.1 hrun
  have htime : Always step BusyInTime coldBoot secondClient := by decide +kernel
  exact ⟨t, ht, hpc, begins_idle_of_busyInTime ht htime⟩

end UsbRepeater
