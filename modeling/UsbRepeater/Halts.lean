import UsbRepeater.ActionLoop
import UsbRepeater.DeviceList
import UsbRepeater.ImportContract
import UsbRepeater.UrbPhase

/-! What stops the firmware. Of the dereferences, the assertions and the `ESP_ERROR_CHECK`s on
the way of a request and in the class driver, six can fail: the interface loop of the device
list, the descriptors of an import, the close of a device, the registration of the client and its
end, and the post of a SUBMIT while `loop_handle2` is NULL. The last needs a refused import before
the class driver has registered. -/
namespace UsbRepeater

open Schedule

def Server.postsToNull (s : Server) : Bool := s.tcp.pc == .postSubmit && s.loop2.count == 0

/-- The actions of `step`, and the failed checks that it leaves out. -/
inductive CheckedAction
  | act (a : Action)
  /-- `ESP_ERROR_CHECK` of `usb_host_client_register`. -/
  | registerFailed
  /-- `ESP_ERROR_CHECK` of `usb_host_client_deregister`. -/
  | deregisterFailed
  /-- The assertion on the event loop in `esp_event_post_to`. -/
  | postFailed
  deriving DecidableEq, Repr

def checkedStep (s : Server) : CheckedAction → Option Server
  | .act a =>
      match a with
      | .tcp (.post _) => if s.postsToNull then none else step s a
      | _ => step s a
  | .registerFailed =>
      if s.crashed || s.callback.isSome || s.driver.pc != .register then none
      else some { s with crashed := true }
  | .deregisterFailed =>
      if s.crashed || s.callback.isSome || s.driver.pc != .exit || !s.driver.actions.exit then none
      else some { s with deviceBusy := false, crashed := true }
  | .postFailed =>
      if s.crashed || !s.postsToNull then none else some { s with crashed := true }

/-- An action of `step` does there what it does without the checks; a failed check is the end. -/
theorem checkedStep_cases {s t : Server} {a : CheckedAction} (h : checkedStep s a = some t) :
    (∃ b, a = .act b ∧ step s b = some t) ∨
      (∀ b, a ≠ .act b) ∧ t.driver = s.driver ∧ t.crashed = true := by
  cases a with
  | act b =>
    refine .inl ⟨b, rfl, ?_⟩
    simp only [checkedStep] at h
    split at h
    · split_ifs at h
      exact h
    · exact h
  | registerFailed | deregisterFailed | postFailed =>
    right
    simp only [checkedStep] at h
    split_ifs at h
    cases h
    exact ⟨nofun, rfl, rfl⟩

/-- The step of `step` stops the firmware. `seen` says whether a device has been enumerated
before. -/
def CrashCause (s : Server) (seen : Bool) : Action → Prop
  | .loop1 (.devlist _ _) => ∃ config, s.driver.configDesc = some config ∧
      ∃ n < config.val.bNumInterfaces.toNat,
        s.lib.usbParseInterfaceDescriptor config.val n 0 = none
  | .loop1 .run => (∃ ev devImport, s.loop1.handler = .importBuild ev devImport ∧
      strcmp (busId ++ [0]) (busIdOf devImport) = 0) ∧ seen = false ∧ s.driver.enumerated = false
  | .driver (.closeDev ok) => ok = false
  | _ => False

theorem devlistReply_eq_none {lib : HostLib} {d : Driver} (hd : d.InTurn)
    (stack : List UsbipInterface) :
    devlistReply lib d stack = none ↔ ∃ config, d.configDesc = some config ∧
      ∃ n < config.val.bNumInterfaces.toNat,
        lib.usbParseInterfaceDescriptor config.val n 0 = none := by
  cases hconfig : d.configDesc with
  | none =>
    rw [(devlistReply_eq_empty hd stack).2 hconfig]
    simp
  | some config =>
    obtain ⟨dev, hdev⟩ := Option.ne_none_iff_exists'.1 (hd.both (by simp [hconfig]))
    rw [devlistReply_of_both lib hdev hconfig, Option.map_eq_none_iff,
      ← Option.not_isSome_iff_eq_none, devlistIntfs_isSome stack]
    simp

theorem importBuild_eq_none {d : Driver} (hd : d.InTurn) (devImport : Bytes) :
    (importBuild d devImport).reply = none ↔
      strcmp (busId ++ [0]) (busIdOf devImport) = 0 ∧ d.configDesc = none := by
  by_cases hbus : strcmp (busId ++ [0]) (busIdOf devImport) = 0
  · cases hconfig : d.configDesc with
    | none =>
      simp only [importBuild, hbus, hconfig, if_true, true_and, iff_true]
      split <;> first | rfl | contradiction
    | some config =>
      obtain ⟨dev, hdev⟩ := Option.ne_none_iff_exists'.1 (hd.both (by simp [hconfig]))
      simp [importBuild, hbus, hconfig, hdev]
  · simp [importBuild_of_ne hbus, hbus]

theorem step_crashed_eq {s t : Server} {a : Action} (h : step s a = some t)
    (hloop : ∀ b, a ≠ .loop1 b) (hdriver : ∀ b, a ≠ .driver b) : t.crashed = false := by
  have hrunning := step_running h
  cases a with
  | tcp a =>
    obtain ⟨-, heff⟩ := tcpStep_effect h
    cases heff <;> exact hrunning
  | loop1 a => exact absurd rfl (hloop a)
  | loop2 a =>
    obtain ⟨-, heff⟩ := loop2Step_effect h
    cases heff <;> exact hrunning
  | host a =>
    obtain ⟨-, heff⟩ := hostStep_effect h
    cases heff <;> exact hrunning
  | driver a => exact absurd rfl (hdriver a)

theorem applyEffect_crashed (s : Server) (e : DriverEffect) :
    (applyEffect s e).crashed = true ↔ e = .abort ∨ s.crashed = true := by
  cases e <;> simp [applyEffect]

section Step

variable {s t : Server} {seen : Bool}

theorem Loop1Step.crashed_iff {a : Loop1Action} (h : Loop1Step s a t) (hs : s.Remembers seen)
    (hrunning : s.crashed = false) : t.crashed = true ↔ CrashCause s seen (.loop1 a) := by
  have hgoes : ∀ {p : Prop}, t.crashed = s.crashed → ¬ p → (t.crashed = true ↔ p) := by
    intro p heq hp
    simp [heq, hrunning, hp]
  cases h with
  | devlistCrash ev stack r hh hd =>
    exact iff_of_true rfl ((devlistReply_eq_none hs.inTurn stack).1 hd)
  | devlistFailed ev stack frame hh hd | devlistSent ev stack frame r c n hh hd hc hr =>
    refine hgoes rfl fun hcause => ?_
    rw [(devlistReply_eq_none hs.inTurn stack).2 hcause] at hd
    cases hd
  | buildCrash ev devImport hh hb =>
    obtain ⟨hbus, hconfig⟩ := (importBuild_eq_none hs.inTurn devImport).1 hb
    have hnever : ¬ (seen = true ∨ s.driver.enumerated = true) := by
      rw [← hs.config, not_not]
      exact hconfig
    obtain ⟨hseen, henum⟩ := not_or.1 hnever
    exact iff_of_true rfl
      ⟨⟨ev, devImport, hh, hbus⟩, Bool.eq_false_iff.2 hseen, Bool.eq_false_iff.2 henum⟩
  | build ev devImport rep hh hb =>
    refine hgoes rfl ?_
    rintro ⟨⟨ev', devImport', hh', hbus⟩, hseen, henum⟩
    rw [hh] at hh'
    obtain ⟨-, rfl⟩ := Handler1.importBuild.inj hh'
    have hconfig : s.driver.configDesc = none := by
      by_contra hne
      rcases hs.config.1 hne with h | h
      · rw [hseen] at h
        cases h
      · rw [henum] at h
        cases h
    rw [(importBuild_eq_none hs.inTurn devImport).2 ⟨hbus, hconfig⟩] at hb
    cases hb
  | copy ev hh | busy ev devImport rep hh =>
    refine hgoes rfl ?_
    rintro ⟨⟨ev', devImport', hh', -⟩, -⟩
    rw [hh] at hh'
    cases hh'
  | _ => exact hgoes rfl (fun hcause => hcause)

theorem step_crashed_iff {closed : List (Option ℕ)} {a : Action} (hs : s.Remembers seen)
    (hd : s.InOrder closed) (ha : DeviceEvents s a) (h : step s a = some t) :
    t.crashed = true ↔ CrashCause s seen a := by
  have hrunning := step_running h
  cases a with
  | loop1 a => exact (loop1Step h).2.crashed_iff hs hrunning
  | driver a =>
    obtain ⟨-, -, d, e, htask, rfl⟩ := driverStep_effect h
    have habort := (usbClassDriverTask_prepared hd.prepared hd.orderly hd.placed
      (ofDevice_of_deviceEvents ha) htask).2
    rw [applyEffect_crashed]
    constructor
    · rintro (he | hcrashed)
      · rw [habort he]
        rfl
      · rw [hrunning] at hcrashed
        cases hcrashed
    · intro hcause
      cases a with
      | closeDev ok =>
        obtain rfl : ok = false := hcause
        cases usbClassDriverTask_handle hd.orderly hd.prepared.start htask with
        | keeps b hkeep => exact absurd rfl (hkeep false)
        | closeFailed hopened he => exact .inl he
      | _ => exact hcause.elim
  | _ =>
    rw [step_crashed_eq h nofun nofun]
    exact iff_of_false nofun (fun hcause => hcause)

end Step

/-- The step stops the firmware: one of the causes in `step`, or a check that it leaves out. -/
def HaltCause (s : Server) (seen : Bool) : CheckedAction → Prop
  | .act a => CrashCause s seen a
  | .registerFailed | .deregisterFailed | .postFailed => True

def CheckedDeviceEvents (s : Server) : CheckedAction → Prop
  | .act a => DeviceEvents s a
  | .registerFailed | .deregisterFailed | .postFailed => True

instance (s : Server) : ∀ a, Decidable (CheckedDeviceEvents s a)
  | .act a => inferInstanceAs (Decidable (DeviceEvents s a))
  | .registerFailed | .deregisterFailed | .postFailed => isTrue trivial

def noteChecked (s : Server) (_ : CheckedAction) (seen : Bool) : Bool :=
  seen || s.driver.enumerated

def Server.Halting (s : Server) (seen : Bool) : Prop :=
  s.Remembers seen ∧ ∃ closed, s.InOrder closed

theorem checkedStep_halting {s t : Server} {seen : Bool} {a : CheckedAction}
    (hs : s.Halting seen) (ha : CheckedDeviceEvents s a) (h : checkedStep s a = some t) :
    t.Halting (noteChecked s a seen) := by
  obtain ⟨hseen, closed, hd⟩ := hs
  rcases checkedStep_cases h with ⟨b, rfl, hb⟩ | ⟨-, hdriver, hcrashed⟩
  · exact ⟨step_remembers hseen hb, _, step_inOrder hd ha hb⟩
  · obtain ⟨horderly, hinTurn, hconfig⟩ := hseen
    refine ⟨⟨hdriver ▸ horderly, hdriver ▸ hinTurn, ?_⟩, closed, ?_⟩
    · rw [hdriver, hconfig, noteChecked, Bool.or_eq_true, or_assoc, or_self]
    · exact ⟨hdriver ▸ hd.orderly, hdriver ▸ hd.placed, hdriver ▸ hd.prepared, hd.nodup,
        fun x hx => ⟨hdriver ▸ (hd.spent x hx).1, .inr hcrashed⟩⟩

theorem checkedStep_crashed_iff {s t : Server} {seen : Bool} {a : CheckedAction}
    (hs : s.Halting seen) (ha : CheckedDeviceEvents s a) (h : checkedStep s a = some t) :
    t.crashed = true ↔ HaltCause s seen a := by
  obtain ⟨hseen, closed, hd⟩ := hs
  rcases checkedStep_cases h with ⟨b, rfl, hb⟩ | ⟨hfailed, -, hcrashed⟩
  · exact step_crashed_iff hseen hd ha hb
  · refine iff_of_true hcrashed ?_
    cases a with
    | act b => exact absurd rfl (hfailed b)
    | registerFailed | deregisterFailed | postFailed => trivial

section Boot

variable {lib : HostLib} {devRecv header cmdSubmit transferBuffer cmdUnlink : Bytes}

theorem boot_halting :
    (Server.boot lib devRecv header cmdSubmit transferBuffer cmdUnlink).Halting false :=
  ⟨boot_remembers, [], boot_inOrder⟩

/-- A run has stopped the firmware exactly when its last step is one of the causes. -/
theorem crashed_iff_last_step {as : List CheckedAction} {t : Server}
    (h : exec checkedStep
      (.boot lib devRecv header cmdSubmit transferBuffer cmdUnlink) as = some t)
    (hevents : Always checkedStep CheckedDeviceEvents
      (.boot lib devRecv header cmdSubmit transferBuffer cmdUnlink) as) :
    t.crashed = true ↔ ∃ before a s seen, as = before ++ [a] ∧
      exec (watch checkedStep noteChecked)
        (.boot lib devRecv header cmdSubmit transferBuffer cmdUnlink, false) before =
          some (s, seen) ∧ HaltCause s seen a := by
  have hlast : ∀ before a s seen, as = before ++ [a] →
      exec (watch checkedStep noteChecked)
        (.boot lib devRecv header cmdSubmit transferBuffer cmdUnlink, false) before =
          some (s, seen) → (t.crashed = true ↔ HaltCause s seen a) := by
    rintro before a s seen rfl hbefore
    obtain ⟨s', hs', hone⟩ := exec_append.1 h
    obtain rfl : s = s' := Option.some.inj ((exec_of_watch hbefore).symm.trans hs')
    obtain ⟨t', hstep, hnil⟩ := exec_cons.1 hone
    obtain rfl : t' = t := by simpa using hnil
    have hs : s.Halting seen :=
      watch_invariant (I := Server.Halting) (fun _ _ _ _ => checkedStep_halting) boot_halting
        hevents.left hbefore
    exact checkedStep_crashed_iff hs (hevents.right hs').1 hstep
  constructor
  · intro hcrashed
    rcases List.eq_nil_or_concat as with rfl | ⟨before, a, rfl⟩
    · obtain rfl := Option.some.inj h
      cases hcrashed
    · rw [List.concat_eq_append] at *
      obtain ⟨s, hs, -⟩ := exec_append.1 h
      have hwatched : ∃ seen, exec (watch checkedStep noteChecked)
          (.boot lib devRecv header cmdSubmit transferBuffer cmdUnlink, false) before =
            some (s, seen) := exists_watch hs false
      obtain ⟨seen, hseen⟩ := hwatched
      exact ⟨before, a, s, seen, rfl, hseen, (hlast before a s seen rfl hseen).1 hcrashed⟩
  · rintro ⟨before, a, s, seen, has, hbefore, hcause⟩
    exact (hlast before a s seen has hbefore).2 hcause

end Boot

def earlyImport : List CheckedAction :=
  ((importing 3 (importSession []).stream).take 9).map .act

theorem crashed_iff_earlyImport : ∃ t, exec checkedStep coldBoot earlyImport = some t ∧
    t.crashed = true ∧ ∃ before a s seen, earlyImport = before ++ [a] ∧
      exec (watch checkedStep noteChecked) (coldBoot, false) before = some (s, seen) ∧
        HaltCause s seen a := by
  have hrun : (exec checkedStep coldBoot earlyImport).map (fun t => t.crashed) = some true := by
    decide +kernel
  obtain ⟨t, ht, hcrashed⟩ := Option.map_eq_some_iff.1 hrun
  have hevents : Always checkedStep CheckedDeviceEvents coldBoot earlyImport := by decide +kernel
  exact ⟨t, ht, hcrashed, (crashed_iff_last_step ht hevents).1 hcrashed⟩

def Server.AnsweredImport (s : Server) : Prop :=
  ∃ m ∈ s.history.sent, (∃ rep, m.message = .repImport rep) ∧ m.written = m.frame.length

def Handler1.setsBusy : Handler1 → Bool
  | .importBusy _ _ _ => true
  | _ => false

def Handler1.reply : Handler1 → Option OpRepImport
  | .importSend _ _ rep => some rep
  | _ => none

/-- Before the class driver has registered, no descriptor has been read and every import has been
refused. -/
structure Server.Unregistered (s : Server) : Prop where
  place : s.driver.pc = .start ∨ s.driver.pc = .register
  unread : s.driver.devDesc = none
  reply : ∀ rep, s.loop1.handler.reply = some rep → rep = refusedReply
  sent : ∀ m ∈ s.history.sent, ∀ rep, m.message = .repImport rep → rep = refusedReply

/-- URB mode comes after the answer to an import. -/
def Server.BusyAnswered (s : Server) : Prop :=
  s.deviceBusy = true ∨ s.loop1.handler.setsBusy = true ∨ s.tcp.pc.inUrb = true →
    s.AnsweredImport

theorem Server.AnsweredImport.of_extends {s t : Server} (hs : s.AnsweredImport)
    (h : Extends s t) : t.AnsweredImport := by
  obtain ⟨m, hm, hrest⟩ := hs
  exact ⟨m, h.sent.subset hm, hrest⟩

theorem TcpStep.inUrb_of {s t : Server} {a : TcpAction} (h : TcpStep s a t)
    (ht : t.tcp.pc.inUrb = true) : s.tcp.pc.inUrb = true ∨ s.deviceBusy = true := by
  cases h with
  | enterUrb hpc hbusy => exact .inr hbusy
  | command r conn bytes hpc hrecv hbytes =>
    have hout : (commandNext s (overwrite bytes s.tcp.devRecv)).inUrb = false :=
      commandNext_elim s _ rfl rfl rfl
    rw [← Bool.not_eq_true] at hout
    exact absurd ht hout
  | outer hpc | importWait n hpc | postCommand hpc | postCommandFailed hpc =>
    simp only [Server.goto] at ht
    split_ifs at ht <;> cases ht
  | acceptFailed stream hpc => exact .inl ht
  | urbAgain r conn hpc hrecv => exact .inl ht
  | urbFailed r conn hpc hrecv | urbClosed r conn hpc hrecv | urbHeader r conn bytes hpc hrecv
  | submitBody r conn bytes hpc hrecv | payload r conn bytes hpc hrecv | postSubmit hpc
  | postSubmitFailed hpc | unlinkBody r conn bytes hpc hrecv | unlinkBodyFailed r conn o hpc
  | unlinkReply c r n hpc | unlinkReplyFailed hpc =>
    left
    rw [hpc]
    rfl
  | bodyFailed r conn o want hpc hrecv ho =>
    left
    rcases hpc with ⟨hpc, -⟩ | ⟨hpc, -⟩ <;> rw [hpc] <;> rfl
  | _ => cases ht

theorem step_busyAnswered {s t : Server} {a : Action} (hs : s.BusyAnswered)
    (h : step s a = some t) : t.BusyAnswered := by
  have hext := step_extends h
  have hkeep : (s.deviceBusy = true ∨ s.loop1.handler.setsBusy = true ∨
      s.tcp.pc.inUrb = true) → t.AnsweredImport := fun hbusy => (hs hbusy).of_extends hext
  cases a with
  | tcp a =>
    obtain ⟨-, hstep⟩ := tcpStep h
    rintro (hbusy | hsets | hurb)
    · refine hkeep (.inl ?_)
      cases hstep.effect with
      | clientGone | cleanupBusy => cases hbusy
      | _ => exact hbusy
    · refine hkeep (.inr (.inl ?_))
      cases hstep.effect <;> exact hsets
    · rcases hstep.inUrb_of hurb with h | h
      · exact hkeep (.inr (.inr h))
      · exact hkeep (.inl h)
  | loop1 a =>
    obtain ⟨-, hstep⟩ := loop1Step h
    cases hstep with
    | send ev devImport rep c hh hc =>
      intro _
      exact ⟨_, List.mem_append_right _ (List.mem_singleton.2 rfl), ⟨rep, rfl⟩, rfl⟩
    | busy ev devImport rep hh =>
      intro _
      refine hkeep (.inr (.inl ?_))
      rw [hh]
      rfl
    | dispatch ev queue hh hq =>
      rintro (hbusy | hsets | hurb)
      · exact hkeep (.inl hbusy)
      · have hnone : (deliver1 ev).setsBusy ≠ true := by
          unfold deliver1
          split_ifs <;> nofun
        exact absurd hsets hnone
      · exact hkeep (.inr (.inr hurb))
    | devlistCrash | buildCrash => exact hkeep
    | _ =>
      rintro (hbusy | hsets | hurb)
      · exact hkeep (.inl hbusy)
      · cases hsets
      · exact hkeep (.inr (.inr hurb))
  | loop2 a =>
    obtain ⟨-, heff⟩ := loop2Step_effect h
    cases heff <;> exact hkeep
  | host a =>
    obtain ⟨-, heff⟩ := hostStep_effect h
    cases heff <;> exact hkeep
  | driver a =>
    obtain ⟨-, -, d, e, -, rfl⟩ := driverStep_effect h
    cases e with
    | clearBusy =>
      rintro (hbusy | hrest)
      · cases hbusy
      · exact hkeep (.inr hrest)
    | _ => exact hkeep

theorem usbClassDriverTask_unregistered {lib : HostLib} {d d' : Driver} {a : DriverAction}
    {e : DriverEffect} (h : usbClassDriverTask lib d a = some (d', e))
    (hpc : d.pc = .start ∨ d.pc = .register) :
    e = .newLoop ∨ d'.pc = .register ∧ d'.devDesc = d.devDesc := by
  unfold usbClassDriverTask at h
  rcases hpc with hpc | hpc <;> rw [hpc] at h <;> split at h <;>
    first | contradiction | obtain ⟨rfl, rfl⟩ := Prod.mk.inj (Option.some.inj h)
  · exact .inr ⟨rfl, rfl⟩
  · exact .inl rfl

theorem importBuild_unread {d : Driver} {devImport : Bytes} {rep : OpRepImport}
    (hd : d.devDesc = none) (h : (importBuild d devImport).reply = some rep) :
    rep = refusedReply := by
  by_cases hbus : strcmp (busId ++ [0]) (busIdOf devImport) = 0
  · simp [importBuild, hbus, hd] at h
  · rw [importBuild_of_ne hbus] at h
    exact (Option.some.inj h).symm

theorem Server.Unregistered.of_same {s t : Server} (hs : s.Unregistered)
    (hdriver : t.driver = s.driver) (hloop : t.loop1 = s.loop1)
    (hsent : ∀ m ∈ t.history.sent, (∃ rep, m.message = .repImport rep) → m ∈ s.history.sent) :
    t.Unregistered where
  place := hdriver ▸ hs.place
  unread := hdriver ▸ hs.unread
  reply := by rw [hloop]; exact hs.reply
  sent m hm rep hrep := hs.sent m (hsent m hm ⟨rep, hrep⟩) rep hrep

theorem Loop1Step.unregistered {s t : Server} {a : Loop1Action} (h : Loop1Step s a t)
    (hs : s.Unregistered) : t.Unregistered := by
  have hidle : ∀ {u : Server}, u.driver = s.driver → u.loop1.handler.reply = none →
      (∀ m ∈ u.history.sent, m ∈ s.history.sent ∨ ∀ rep, m.message = .repImport rep →
        rep = refusedReply) → u.Unregistered := by
    intro u hdriver hreply hsent
    refine ⟨hdriver ▸ hs.place, hdriver ▸ hs.unread, fun rep hrep => ?_, fun m hm rep hrep => ?_⟩
    · rw [hreply] at hrep
      cases hrep
    · exact (hsent m hm).elim (fun hold => hs.sent m hold rep hrep) (fun hnew => hnew rep hrep)
  have hold : ∀ m ∈ s.history.sent, m ∈ s.history.sent ∨ ∀ rep, m.message = .repImport rep →
      rep = refusedReply := fun m hm => .inl hm
  cases h with
  | dispatch ev queue hh hq =>
    refine hidle rfl ?_ hold
    simp only [deliver1]
    split_ifs <;> rfl
  | devlistCrash | buildCrash => exact hs.of_same rfl rfl fun m hm _ => hm
  | devlistSent ev stack frame r c n hh hd hc hr =>
    refine hidle rfl rfl fun m hm => ?_
    rcases List.mem_append.1 hm with hm | hm
    · exact .inl hm
    · rw [List.mem_singleton.1 hm]
      exact .inr nofun
  | build ev devImport rep hh hb =>
    refine ⟨hs.place, hs.unread, fun rep' hrep => ?_, hs.sent⟩
    obtain rfl : rep = rep' := Option.some.inj hrep
    exact importBuild_unread hs.unread hb
  | sendShort ev devImport rep c n hh hc | send ev devImport rep c hh hc =>
    have hrefused := hs.reply rep (by rw [hh]; rfl)
    refine hidle rfl rfl fun m hm => ?_
    rcases List.mem_append.1 hm with hm | hm
    · exact .inl hm
    · rw [List.mem_singleton.1 hm]
      exact .inr fun rep' hrep => (Message.repImport.inj hrep).symm.trans hrefused
  | _ => exact hidle rfl rfl hold

theorem step_unregistered {s t : Server} {a : Action}
    (hs : s.loop2.count = 0 → s.Unregistered) (h : step s a = some t) :
    t.loop2.count = 0 → t.Unregistered := by
  intro hcount
  cases a with
  | tcp a =>
    obtain ⟨-, heff⟩ := tcpStep_effect h
    cases heff with
    | unlink tcp c r n htcp hpc hc hn hr =>
      refine (hs hcount).of_same rfl rfl fun m hm hrep => ?_
      rcases List.mem_append.1 hm with hm | hm
      · exact hm
      · obtain ⟨rep, hrep⟩ := hrep
        rw [List.mem_singleton.1 hm] at hrep
        cases hrep
    | postCommand tcp htcp hpc =>
      have hold := hs hcount
      exact ⟨hold.place, hold.unread, hold.reply, hold.sent⟩
    | _ => exact (hs hcount).of_same rfl rfl fun m hm _ => hm
  | loop1 a =>
    obtain ⟨-, hstep⟩ := loop1Step h
    have hsame : t.loop2 = s.loop2 := by
      cases hstep <;> rfl
    exact hstep.unregistered (hs (hsame ▸ hcount))
  | loop2 a =>
    obtain ⟨-, heff⟩ := loop2Step_effect h
    cases heff <;> exact (hs hcount).of_same rfl rfl fun m hm _ => hm
  | host a =>
    obtain ⟨-, heff⟩ := hostStep_effect h
    cases heff with
    | reply c conn heap r n hcb hskt hconn hnum hn hr =>
      refine (hs hcount).of_same rfl rfl fun m hm hrep => ?_
      rcases List.mem_append.1 hm with hm | hm
      · exact hm
      · obtain ⟨rep, hrep⟩ := hrep
        rw [List.mem_singleton.1 hm] at hrep
        cases hrep
    | _ => exact (hs hcount).of_same rfl rfl fun m hm _ => hm
  | driver a =>
    obtain ⟨-, -, d, e, hd, rfl⟩ := driverStep_effect h
    have hne : e ≠ .newLoop := by
      rintro rfl
      exact absurd hcount (Nat.succ_ne_zero _)
    have hold : s.Unregistered := hs (by cases e <;> first | exact hcount | contradiction)
    obtain ⟨hpc, hdesc⟩ := (usbClassDriverTask_unregistered hd hold.place).resolve_left hne
    have hunread := hdesc.trans hold.unread
    cases e <;> exact ⟨.inr hpc, hunread, hold.reply, hold.sent⟩

/-- When `do_recv` is about to post a SUBMIT, `loop_handle2` is set, or every import so far has
been refused, and at least one refusal has been sent in full. -/
theorem loop_set_or_refused {t : Server} (ht : Reachable t) (hpc : t.tcp.pc = .postSubmit) :
    t.loop2.count ≠ 0 ∨ t.AnsweredImport ∧
      ∀ m ∈ t.history.sent, ∀ rep, m.message = .repImport rep → rep = refusedReply := by
  have hunregistered : t.loop2.count = 0 → t.Unregistered :=
    ht.invariant (fun _ _ _ _ _ _ _ => ⟨.inl rfl, rfl, nofun, nofun⟩)
      fun _ _ _ hs h => step_unregistered hs h
  have hbusy : t.BusyAnswered :=
    ht.invariant (fun _ _ _ _ _ _ => by simp [Server.BusyAnswered, Server.boot, TcpPc.inUrb,
      Handler1.setsBusy]) fun _ _ _ hs h => step_busyAnswered hs h
  by_cases hcount : t.loop2.count = 0
  · exact .inr ⟨hbusy (.inr (.inr (by rw [hpc]; rfl))), (hunregistered hcount).sent⟩
  · exact .inl hcount

/-- Before the class driver has run, a client imports another device, is refused, and sends a
CMD_SUBMIT. -/
def refusedSubmit : List Action :=
  importing 3 (requestHeader opReqImport 0 ++ sized 32 (ascii "1-1") ++
    (submitIn 7 0 18).encode) ++ submitting.take 2

theorem loop_set_or_refused_refusedSubmit : ∃ t, run coldBoot refusedSubmit = some t ∧
    t.loop2.count = 0 ∧ t.AnsweredImport ∧
      ∀ m ∈ t.history.sent, ∀ rep, m.message = .repImport rep → rep = refusedReply := by
  have hrun : (run coldBoot refusedSubmit).map (fun t => (t.tcp.pc, t.loop2.count)) =
      some (.postSubmit, 0) := by
    decide +kernel
  obtain ⟨t, ht, hstate⟩ := Option.map_eq_some_iff.1 hrun
  obtain ⟨hpc, hcount⟩ := Prod.mk.inj hstate
  have hreach : Reachable t := (Reachable.boot _ _ _ _ _ _).of_run ht
  exact ⟨t, ht, hcount, (loop_set_or_refused hreach hpc).resolve_left (not_not.2 hcount)⟩

end UsbRepeater
