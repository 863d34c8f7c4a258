import UsbRepeater.ActionLoop

/-! The install/register handshake of `usb_host_lib_daemon_task` and `usb_class_driver_task`. One
binary semaphore says both that the host library is installed and that the client has been
deregistered. -/
namespace UsbRepeater

open Schedule

/-- Who gave the token in the semaphore. The firmware does not know. -/
inductive Giver
  | daemon | classDriver
  deriving DecidableEq, Repr

inductive DaemonPc
  | install | give
  /-- The loop around `usb_host_lib_handle_events`. -/
  | events
  | uninstall | take
  deriving DecidableEq, Repr

inductive ClassPhase
  | running | deregister | give
  deriving DecidableEq, Repr

/-- Why the firmware has stopped: an `ESP_ERROR_CHECK` around one of the two calls, or the class
driver's own. -/
inductive Abort
  | register | uninstall | driver
  deriving DecidableEq, Repr

/-- The two tasks, the semaphore, and the state of the host library: installed or not, with or
without the client, and whether it has yet to report that its last client has gone. -/
structure UsbTasks where
  installed : Bool
  registered : Bool
  noClients : Bool
  token : Option Giver
  daemonPc : DaemonPc
  hasClients : Bool
  hasDevices : Bool
  driver : Driver
  phase : ClassPhase
  aborted : Option Abort

def UsbTasks.boot : UsbTasks where
  installed := false
  registered := false
  noClients := false
  token := none
  daemonPc := .install
  hasClients := true
  hasDevices := true
  driver := .boot
  phase := .running
  aborted := none

inductive UsbAction
  | install (ok : Bool)
  | daemonGive
  /-- The event flags that `usb_host_lib_handle_events` returns. -/
  | libEvents (noClients allFree : Bool)
  | uninstall
  | daemonTake
  | driver (a : DriverAction)
  | deregister
  | driverGive
  deriving DecidableEq, Repr

/-- `xSemaphoreGive`; a binary semaphore holds one token. -/
def semaphoreGive (token : Option Giver) (giver : Giver) : Option Giver :=
  if token.isSome then token else some giver

/-- One step of `usb_host_lib_daemon_task`. That no client is left is reported once for each time
the last one goes; that all devices are free may be reported at any time. -/
def usbHostLibDaemonTask (s : UsbTasks) (a : UsbAction) : Option UsbTasks :=
  match s.daemonPc, a with
  | .install, .install ok =>
      some (if ok then { s with installed := true, noClients := false, daemonPc := .give } else s)
  | .give, .daemonGive =>
      some { s with
        token := semaphoreGive s.token .daemon
        hasClients := true
        hasDevices := true
        daemonPc := .events }
  | .events, .libEvents noClients allFree =>
      if noClients = true ∧ s.noClients = false then none
      else
        let hasClients := s.hasClients && !noClients
        let hasDevices := s.hasDevices && !allFree
        some { s with
          noClients := s.noClients && !noClients
          hasClients := hasClients
          hasDevices := hasDevices
          daemonPc := if hasClients || hasDevices then .events else .uninstall }
  | .uninstall, .uninstall =>
      some (if s.registered then { s with aborted := some .uninstall }
        else { s with installed := false, daemonPc := .take })
  | .take, .daemonTake =>
      if s.token.isSome then some { s with token := none, daemonPc := .install } else none
  | _, _ => none

/-- One step of `usb_class_driver_task` with its semaphore. The loop itself is that of
`usbClassDriverTask`, whose first step waits for the token and whose second one registers. -/
def classDriverStep (lib : HostLib) (s : UsbTasks) (a : UsbAction) : Option UsbTasks :=
  match s.phase, a with
  | .running, .driver a =>
      (usbClassDriverTask lib s.driver a).bind fun r =>
        match s.driver.pc with
        | .start =>
            if s.token.isSome then some { s with driver := r.1, token := none } else none
        | .register =>
            some (if s.installed then { s with driver := r.1, registered := true }
              else { s with aborted := some .register })
        | _ =>
            some { s with
              driver := r.1
              phase := if r.1.pc = .start then .deregister else .running
              aborted := if r.2 = .abort then some .driver else s.aborted }
  | .deregister, .deregister =>
      some { s with registered := false, noClients := true, phase := .give }
  | .give, .driverGive =>
      some { s with token := semaphoreGive s.token .classDriver, phase := .running }
  | _, _ => none

def usbStep (lib : HostLib) (s : UsbTasks) (a : UsbAction) : Option UsbTasks :=
  if s.aborted.isSome then none
  else match a with
    | .driver _ | .deregister | .driverGive => classDriverStep lib s a
    | _ => usbHostLibDaemonTask s a

/-- The client is registered only with the library installed, and the library uninstalled only
with no client registered. -/
def LibraryInOrder (s : UsbTasks) : UsbAction → Prop
  | .driver _ => s.phase = .running → s.driver.pc = .register → s.installed = true
  | .uninstall => s.daemonPc = .uninstall → s.registered = false
  | _ => True

/-- The class driver leaves the token it gave to the daemon. -/
def OwnTokenLeft (s : UsbTasks) : UsbAction → Prop
  | .driver _ => s.phase = .running → s.driver.pc = .start → s.token ≠ some .classDriver
  | _ => True

instance (s : UsbTasks) (a : UsbAction) : Decidable (LibraryInOrder s a) := by
  unfold LibraryInOrder
  split <;> infer_instance

instance (s : UsbTasks) (a : UsbAction) : Decidable (OwnTokenLeft s a) := by
  unfold OwnTokenLeft
  split <;> infer_instance

structure UsbTasks.Waiting (s : UsbTasks) : Prop where
  phase : s.phase = .running
  pc : s.driver.pc = .start
  registered : s.registered = false

inductive UsbTasks.Serving (s : UsbTasks) : Prop
  | register (hphase : s.phase = .running) (hpc : s.driver.pc = .register)
      (hreg : s.registered = false)
  | loop (hphase : s.phase = .running) (hstart : s.driver.pc ≠ .start)
      (hregister : s.driver.pc ≠ .register)
  | deregister (hphase : s.phase = .deregister) (hpc : s.driver.pc = .start)

inductive UsbTasks.Leaving (s : UsbTasks) : Prop
  | give (hphase : s.phase = .give) (hpc : s.driver.pc = .start) (ht : s.token = none)
  | given (hw : s.Waiting) (ht : s.token = some .classDriver)

/-- One round: the library is installed and offered, the class driver takes the token and serves
a device, leaves, and the daemon uninstalls. While the client has not left, no report that it has
is on its way. -/
inductive UsbTasks.Round (s : UsbTasks) : Prop
  | install (hd : s.daemonPc = .install) (hw : s.Waiting) (ht : s.token = none)
  | give (hd : s.daemonPc = .give) (hw : s.Waiting) (ht : s.token = none)
      (hin : s.installed = true) (hn : s.noClients = false)
  | offered (hd : s.daemonPc = .events) (hw : s.Waiting) (ht : s.token = some .daemon)
      (hin : s.installed = true) (hn : s.noClients = false) (hc : s.hasClients = true)
  | serving (hd : s.daemonPc = .events) (hs : s.Serving) (ht : s.token = none)
      (hin : s.installed = true) (hn : s.noClients = false) (hc : s.hasClients = true)
  | left (hd : s.daemonPc = .events ∧ s.noClients = s.hasClients ∨ s.daemonPc = .uninstall ∨
        s.daemonPc = .take)
      (hl : s.Leaving) (hreg : s.registered = false)

/-- Where a step takes the class driver: from the wait to the registration, from there into the
loop, and never back to the registration. -/
theorem usbClassDriverTask_pc {lib : HostLib} {d : Driver} {a : DriverAction}
    {r : Driver × DriverEffect} (h : usbClassDriverTask lib d a = some r) :
    (d.pc = .start → r.1.pc = .register) ∧ (d.pc = .register → r.1.pc = .loopTop) ∧
      (d.pc ≠ .start → r.1.pc ≠ .register) := by
  obtain ⟨d', e⟩ := r
  unfold usbClassDriverTask at h
  split at h
  case h_18 => cases h
  all_goals
    rename_i hpc
    try split_ifs at h
    all_goals
      obtain ⟨rfl, rfl⟩ := Prod.mk.inj (Option.some.inj h)
      rw [hpc]
      refine ⟨fun h => ?_, fun h => ?_, fun h => ?_⟩
      · first | rfl | cases h
      · first | rfl | cases h
      · first | exact absurd rfl h | (intro hreg; cases hreg)

theorem UsbTasks.Round.leaving {s : UsbTasks} (h : s.Round)
    (hd : s.daemonPc = .uninstall ∨ s.daemonPc = .take) : s.Leaving ∧ s.registered = false := by
  cases h with
  | left _ hl hreg => exact ⟨hl, hreg⟩
  | _ => simp_all

theorem UsbTasks.Round.installing {s : UsbTasks} (h : s.Round) (hd : s.daemonPc = .install) :
    s.Waiting ∧ s.token = none := by
  cases h with
  | install _ hw ht => exact ⟨hw, ht⟩
  | _ => simp_all

theorem UsbTasks.Round.busy {s : UsbTasks} (h : s.Round) (hnot : ¬ s.Waiting)
    (hphase : s.phase ≠ .give) : s.daemonPc = .events ∧ s.Serving ∧ s.token = none ∧
      s.installed = true ∧ s.noClients = false ∧ s.hasClients = true := by
  cases h with
  | serving hd hserve ht hin hn hc => exact ⟨hd, hserve, ht, hin, hn, hc⟩
  | install _ hw => exact absurd hw hnot
  | give _ hw => exact absurd hw hnot
  | offered _ hw => exact absurd hw hnot
  | left _ hl =>
    cases hl with
    | give hgive => exact absurd hgive hphase
    | given hw => exact absurd hw hnot

theorem UsbTasks.Round.running {s : UsbTasks} (h : s.Round) (hphase : s.phase = .running)
    (hpc : s.driver.pc ≠ .start) : s.daemonPc = .events ∧ s.Serving ∧ s.token = none ∧
      s.installed = true ∧ s.noClients = false ∧ s.hasClients = true := by
  refine h.busy (fun hw => hpc hw.pc) ?_
  rw [hphase]
  decide

theorem UsbTasks.Round.installed {s : UsbTasks} (h : s.Round) (hphase : s.phase = .running)
    (hpc : s.driver.pc = .register) : s.installed = true := by
  obtain ⟨-, -, -, hin, -, -⟩ := h.running hphase (by rw [hpc]; decide)
  exact hin

theorem UsbTasks.Round.libraryInOrder {s : UsbTasks} (h : s.Round) (a : UsbAction) :
    LibraryInOrder s a := by
  unfold LibraryInOrder
  split
  · exact h.installed
  · exact fun hd => (h.leaving (.inl hd)).2
  · trivial

theorem UsbTasks.Waiting.of_same {s t : UsbTasks} (h : s.Waiting) (hphase : t.phase = s.phase)
    (hdriver : t.driver = s.driver) (hreg : t.registered = s.registered) : t.Waiting :=
  ⟨hphase.trans h.phase, (congrArg Driver.pc hdriver).trans h.pc, hreg.trans h.registered⟩

theorem UsbTasks.Leaving.of_same {s t : UsbTasks} (h : s.Leaving) (hphase : t.phase = s.phase)
    (hdriver : t.driver = s.driver) (hreg : t.registered = s.registered)
    (htoken : t.token = s.token) : t.Leaving := by
  cases h with
  | give hgive hp ht =>
    exact .give (hphase.trans hgive) ((congrArg Driver.pc hdriver).trans hp) (htoken.trans ht)
  | given hw ht => exact .given (hw.of_same hphase hdriver hreg) (htoken.trans ht)

theorem UsbTasks.Serving.of_same {s t : UsbTasks} (h : s.Serving) (hphase : t.phase = s.phase)
    (hdriver : t.driver = s.driver) (hreg : t.registered = s.registered) : t.Serving := by
  have hpc := congrArg Driver.pc hdriver
  cases h with
  | register hrun hp hfree => exact .register (hphase.trans hrun) (hpc.trans hp) (hreg.trans hfree)
  | loop hrun hstart hregister =>
    exact .loop (hphase.trans hrun) (by rwa [hpc]) (by rwa [hpc])
  | deregister hout hp => exact .deregister (hphase.trans hout) (hpc.trans hp)

/-- The daemon goes on in the round. It takes a token only after the client has left, and that is
the one the class driver gave. -/
theorem usbHostLibDaemonTask_round {s t : UsbTasks} {a : UsbAction} (hs : s.Round)
    (h : usbHostLibDaemonTask s a = some t) : t.Round ∧ t.aborted = s.aborted := by
  unfold usbHostLibDaemonTask at h
  split at h
  case h_1 ok hpc =>
    obtain ⟨hw, ht⟩ := hs.installing hpc
    cases ok with
    | true =>
      obtain rfl := Option.some.inj h
      exact ⟨.give rfl (hw.of_same rfl rfl rfl) ht rfl rfl, rfl⟩
    | false =>
      obtain rfl := Option.some.inj h
      exact ⟨hs, rfl⟩
  case h_2 hpc =>
    obtain rfl := Option.some.inj h
    refine ⟨?_, rfl⟩
    cases hs with
    | give hd hw ht hin hn =>
      refine .offered rfl (hw.of_same rfl rfl rfl) ?_ hin hn rfl
      rw [ht]
      rfl
    | _ => simp_all
  case h_3 noClients allFree hpc =>
    split_ifs at h with hreport
    obtain rfl := Option.some.inj h
    refine ⟨?_, rfl⟩
    -- while the client is there, nothing is reported and the loop goes on
    have hquiet : s.noClients = false → noClients = false := by
      intro hn
      by_contra hyes
      exact hreport ⟨by simpa using hyes, hn⟩
    cases hs with
    | offered hd hw ht hin hn hc =>
      refine .offered ?_ (hw.of_same rfl rfl rfl) ht hin ?_ ?_ <;> simp [hquiet hn, hn, hc]
    | serving hd hserve ht hin hn hc =>
      refine .serving ?_ (hserve.of_same rfl rfl rfl) ht hin ?_ ?_ <;> simp [hquiet hn, hn, hc]
    | left hd hl hreg =>
      have hequal : s.noClients = s.hasClients := by simp_all
      refine .left ?_ (hl.of_same rfl rfl rfl rfl) hreg
      by_cases hgo : (s.hasClients && !noClients || s.hasDevices && !allFree) = true
      · exact .inl ⟨by simp only [hgo, if_true], by rw [hequal]⟩
      · exact .inr (.inl (by simp only [hgo]; rfl))
    | _ => simp_all
  case h_4 hpc =>
    obtain ⟨hl, hreg⟩ := hs.leaving (.inl hpc)
    rw [hreg] at h
    obtain rfl := Option.some.inj h
    exact ⟨.left (.inr (.inr rfl)) (hl.of_same rfl rfl hreg.symm rfl) rfl, rfl⟩
  case h_5 hpc =>
    split_ifs at h with htoken
    obtain rfl := Option.some.inj h
    obtain ⟨hl, hreg⟩ := hs.leaving (.inr hpc)
    refine ⟨?_, rfl⟩
    cases hl with
    | give hgive hp ht => rw [ht] at htoken; cases htoken
    | given hw ht => exact .install rfl (hw.of_same rfl rfl rfl) rfl
  case h_6 => cases h

theorem UsbTasks.Round.deregistering {s : UsbTasks} (h : s.Round)
    (hphase : s.phase = .deregister) : s.daemonPc = .events ∧ s.driver.pc = .start ∧
      s.token = none ∧ s.hasClients = true := by
  have hnot : ¬ s.Waiting := fun hw => by rw [hw.phase] at hphase; cases hphase
  obtain ⟨hd, hserve, ht, -, -, hc⟩ := h.busy hnot (by rw [hphase]; decide)
  cases hserve with
  | deregister _ hp => exact ⟨hd, hp, ht, hc⟩
  | register hrun => rw [hrun] at hphase; cases hphase
  | loop hrun => rw [hrun] at hphase; cases hphase

theorem UsbTasks.Round.giving {s : UsbTasks} (h : s.Round) (hphase : s.phase = .give) :
    (s.daemonPc = .events ∧ s.noClients = s.hasClients ∨ s.daemonPc = .uninstall ∨
      s.daemonPc = .take) ∧ s.driver.pc = .start ∧ s.token = none ∧ s.registered = false := by
  have hnot : ¬ s.Waiting := fun hw => by rw [hw.phase] at hphase; cases hphase
  cases h with
  | left hd hl hreg =>
    cases hl with
    | give _ hp ht => exact ⟨hd, hp, ht, hreg⟩
    | given hw => exact absurd hw hnot
  | serving _ hserve =>
    cases hserve with
    | register hrun => rw [hrun] at hphase; cases hphase
    | loop hrun => rw [hrun] at hphase; cases hphase
    | deregister hout => rw [hout] at hphase; cases hphase
  | install _ hw => exact absurd hw hnot
  | give _ hw => exact absurd hw hnot
  | offered _ hw => exact absurd hw hnot

theorem classDriverStep_round {lib : HostLib} {s t : UsbTasks} {a : UsbAction} (hs : s.Round)
    (ha : OwnTokenLeft s a) (h : classDriverStep lib s a = some t) :
    t.Round ∧ (t.aborted = s.aborted ∨ t.aborted = some .driver) := by
  unfold classDriverStep at h
  split at h
  case h_1 b hphase =>
    obtain ⟨r, hr, h⟩ := Option.bind_eq_some_iff.1 h
    obtain ⟨hwait, hregister, hloop⟩ := usbClassDriverTask_pc hr
    split at h
    · rename_i hpc
      split_ifs at h with htoken
      obtain rfl := Option.some.inj h
      refine ⟨?_, .inl rfl⟩
      cases hs with
      | offered hd hw ht hin hn hc =>
        exact .serving hd (.register hphase (hwait hpc) hw.registered) rfl hin hn hc
      | install _ _ ht => rw [ht] at htoken; cases htoken
      | give _ _ ht => rw [ht] at htoken; cases htoken
      | serving _ hserve =>
        cases hserve with
        | register _ hp => rw [hpc] at hp; cases hp
        | loop _ hstart => exact absurd hpc hstart
        | deregister hout => rw [hout] at hphase; cases hphase
      | left _ hl =>
        cases hl with
        | give hgive => rw [hgive] at hphase; cases hphase
        | given _ ht => exact absurd ht (ha hphase hpc)
    · rename_i hpc
      have hin := hs.installed hphase hpc
      obtain ⟨hd, -, ht, -, hn, hc⟩ := hs.running hphase (by rw [hpc]; nofun)
      rw [hin] at h
      obtain rfl := Option.some.inj h
      have hstart : r.1.pc ≠ .start := by rw [hregister hpc]; nofun
      have hnot : r.1.pc ≠ .register := by rw [hregister hpc]; nofun
      exact ⟨.serving hd (.loop hphase hstart hnot) ht rfl hn hc, .inl rfl⟩
    · rename_i hstart hnot
      obtain rfl := Option.some.inj h
      obtain ⟨hd, -, ht, hin, hn, hc⟩ := hs.running hphase hstart
      refine ⟨.serving hd ?_ ht hin hn hc, ?_⟩
      · by_cases hback : r.1.pc = .start
        · exact .deregister (if_pos hback) hback
        · exact .loop (if_neg hback) hback (hloop hstart)
      · by_cases habort : r.2 = .abort
        · exact .inr (if_pos habort)
        · exact .inl (if_neg habort)
  case h_2 hphase =>
    obtain rfl := Option.some.inj h
    obtain ⟨hd, hpc, ht, hc⟩ := hs.deregistering hphase
    exact ⟨.left (.inl ⟨hd, hc.symm⟩) (.give rfl hpc ht) rfl, .inl rfl⟩
  case h_3 hphase =>
    obtain rfl := Option.some.inj h
    obtain ⟨hd, hpc, ht, hreg⟩ := hs.giving hphase
    refine ⟨.left hd (.given ⟨rfl, hpc, hreg⟩ ?_) hreg, .inl rfl⟩
    rw [ht]
    rfl
  case h_4 => cases h

theorem usbStep_round {lib : HostLib} {s t : UsbTasks} {a : UsbAction} (hs : s.Round)
    (ha : OwnTokenLeft s a) (h : usbStep lib s a = some t) :
    t.Round ∧ (t.aborted = s.aborted ∨ t.aborted = some .driver) := by
  unfold usbStep at h
  split_ifs at h
  split at h
  · exact classDriverStep_round hs ha h
  · exact classDriverStep_round hs ha h
  · exact classDriverStep_round hs ha h
  · obtain ⟨hround, haborted⟩ := usbHostLibDaemonTask_round hs h
    exact ⟨hround, .inl haborted⟩

/-- Whatever the interleaving and the order of events: while the class driver leaves the tokens it
gave to the daemon, neither call comes at a wrong time, and neither check stops the firmware. -/
theorem library_in_order_of_ownTokenLeft {lib : HostLib} {as : List UsbAction} {t : UsbTasks}
    (h : exec (usbStep lib) .boot as = some t)
    (hleft : Always (usbStep lib) OwnTokenLeft .boot as) :
    Always (usbStep lib) LibraryInOrder .boot as ∧ t.aborted ≠ some .register ∧
      t.aborted ≠ some .uninstall := by
  have hboot : UsbTasks.boot.Round := .install rfl ⟨rfl, rfl, rfl⟩ rfl
  have hstep : ∀ s a u, (UsbTasks.Round s ∧ s.aborted ≠ some .register ∧
      s.aborted ≠ some .uninstall) → OwnTokenLeft s a → usbStep lib s a = some u →
        u.Round ∧ u.aborted ≠ some .register ∧ u.aborted ≠ some .uninstall := by
    rintro s a u ⟨hs, hregister, huninstall⟩ ha hu
    obtain ⟨hround, haborted⟩ := usbStep_round hs ha hu
    refine ⟨hround, ?_⟩
    rcases haborted with heq | heq
    · rw [heq]
      exact ⟨hregister, huninstall⟩
    · rw [heq]
      exact ⟨nofun, nofun⟩
  have hfine : UsbTasks.boot.Round ∧ UsbTasks.boot.aborted ≠ some .register ∧
      UsbTasks.boot.aborted ≠ some .uninstall := ⟨hboot, nofun, nofun⟩
  refine ⟨?_, (exec_invariant hstep hfine hleft h).2⟩
  exact (hleft.with_invariant hstep hfine).mono fun s a hs => hs.1.1.libraryInOrder a

def driverActions (as : List Action) : List UsbAction :=
  as.filterMap fun
    | .driver a => some (.driver a)
    | _ => none

def deviceRound : List UsbAction :=
  [.install true, .daemonGive] ++ driverActions (keyboardEnumeration ++ unplugging) ++
    [.deregister, .driverGive]

def LibraryAlwaysInOrder : Prop :=
  ∀ as t, exec (usbStep idfLibrary) .boot as = some t →
    Always (usbStep idfLibrary) LibraryInOrder .boot as

/-- The class driver takes its own token back and registers again before the daemon comes to the
event that said it had gone. -/
theorem uninstalled_under_client : ¬ LibraryAlwaysInOrder := by
  intro hall
  let as := deviceRound ++ [.driver .run, .driver .run, .libEvents true true, .uninstall]
  have hrun : (exec (usbStep idfLibrary) .boot as).map UsbTasks.aborted =
      some (some .uninstall) := by
    decide +kernel
  obtain ⟨t, ht, -⟩ := Option.map_eq_some_iff.1 hrun
  have hnot : ¬ Always (usbStep idfLibrary) LibraryInOrder .boot as := by decide +kernel
  exact hnot (hall as t ht)

def twoDevices : List UsbAction :=
  deviceRound ++ [.libEvents true true, .uninstall, .daemonTake] ++ deviceRound

theorem library_in_order_twoDevices :
    ∃ t, exec (usbStep idfLibrary) .boot twoDevices = some t ∧
      Always (usbStep idfLibrary) LibraryInOrder .boot twoDevices := by
  have hrun : (exec (usbStep idfLibrary) .boot twoDevices).isSome = true := by decide +kernel
  obtain ⟨t, ht⟩ := Option.isSome_iff_exists.1 hrun
  have hleft : Always (usbStep idfLibrary) OwnTokenLeft .boot twoDevices := by decide +kernel
  exact ⟨t, ht, (library_in_order_of_ownTokenLeft ht hleft).1⟩

end UsbRepeater
