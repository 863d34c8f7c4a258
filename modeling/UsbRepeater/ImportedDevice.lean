import UsbRepeater.Carried
import UsbRepeater.ActionLoop

/-! Which device a SUBMIT reaches. The handler takes the handle of the device that is open when
it comes to the event; the device the client imported is the one that was open when the import
was answered. The two are the same as long as that device stays. -/
namespace UsbRepeater

open Schedule

/-- The imports that succeeded: a connection, and the device that was enumerated when the reply
was sent. -/
abbrev Grants := List (ℕ × ℕ)

def noteGrant (s : Server) (a : Action) (grants : Grants) : Grants :=
  match s.loop1.handler, a with
  | .importSend ev _ rep, .loop1 (.send .full) =>
      match openOn s.conn ev.sock, s.driver.devHdl with
      | some c, some hdl =>
          if rep.status = 0 ∧ s.driver.enumerated then grants ++ [(c.id, hdl)] else grants
      | _, _ => grants
  | _, _ => grants

def Server.Imported (s : Server) (grants : Grants) (conn : ℕ) : Prop :=
  ∃ hdl, s.driver.devHdl = some hdl ∧ (conn, hdl) ∈ grants

/-- The transfer goes to a device that is open and that its connection has imported. -/
def Server.ReachesImported (s : Server) (grants : Grants) (t : UsbTransfer) : Prop :=
  ∃ hdl, t.deviceHandle = some hdl ∧ s.driver.devHdl = some hdl ∧ (t.ev.conn, hdl) ∈ grants

/-- A SUBMIT is posted only for the device that is open, and no device is closed while a posted
SUBMIT has yet to be passed to the host library. -/
def KeepsDevice (x : Server × Grants) : Action → Prop
  | .tcp (.post true) =>
      x.1.tcp.pc = .postSubmit → x.1.Imported x.2 (submitEvent x.1).conn
  | .driver (.closeDev _) =>
      x.1.loop2.queue = [] ∧ ∀ y ∈ x.1.loop2.handlers, y.2.request = none
  | _ => True

instance (s : Server) (grants : Grants) (conn : ℕ) : Decidable (s.Imported grants conn) :=
  match h : s.driver.devHdl with
  | none => isFalse fun ⟨_, hhdl, _⟩ => by rw [h] at hhdl; cases hhdl
  | some hdl => decidable_of_iff ((conn, hdl) ∈ grants) (by simp [Server.Imported, h])

instance (x : Server × Grants) (a : Action) : Decidable (KeepsDevice x a) := by
  unfold KeepsDevice
  split <;> infer_instance

theorem noteGrant_subset (s : Server) (a : Action) (grants : Grants) :
    grants ⊆ noteGrant s a grants := by
  unfold noteGrant
  split
  · split
    · split_ifs
      · exact List.subset_append_left _ _
      · exact List.Subset.refl _
    · exact List.Subset.refl _
  · exact List.Subset.refl _

/-- What a SUBMIT on its way to the host library has of the open device. -/
def deviceClaim (devHdl : Option ℕ) (grants : Grants) : PipelineClaim where
  queued ev := ∃ hdl, devHdl = some hdl ∧ (ev.conn, hdl) ∈ grants
  handler
    | .entry ev | .filled ev _ | .sktSet ev _ =>
        ∃ hdl, devHdl = some hdl ∧ (ev.conn, hdl) ∈ grants
    | .allocated t | .checked t | .built t =>
        ∃ hdl, t.deviceHandle = some hdl ∧ devHdl = some hdl ∧ (t.ev.conn, hdl) ∈ grants
    | .accepted _ => True
  inFlight _ := True
  callback _ := True

theorem deviceClaim_moves (s : Server) (grants : Grants) :
    (deviceClaim s.driver.devHdl grants).Moves s where
  dispatch _ h := h
  fill _ _ h := h
  setSkt _ _ h := h
  alloc ev ret heap h := by
    obtain ⟨hdl, hopen, hgrant⟩ := h
    exact ⟨hdl, hopen, hopen, hgrant⟩
  control _ h _ := h
  checked _ h _ := h
  build t beyond h := by
    obtain ⟨hdl, hhandle, hopen, hgrant⟩ := h
    refine ⟨hdl, ?_, hopen, ?_⟩
    · rw [buildBulk_deviceHandle, hhandle]
    · rw [buildBulk_ev]
      exact hgrant
  submit _ _ := trivial
  accepted _ _ _ := trivial
  complete _ _ _ := trivial

theorem Server.Carries.keep {s : Server} {devHdl devHdl' : Option ℕ} {grants grants' : Grants}
    (h : s.Carries (deviceClaim devHdl grants))
    (hopen : ∀ hdl, devHdl = some hdl → devHdl' = some hdl) (hsub : grants ⊆ grants') :
    s.Carries (deviceClaim devHdl' grants') := by
  refine h.mono ?_ ?_ (fun _ _ => trivial) fun _ _ => trivial
  · rintro ev ⟨hdl, hhdl, hgrant⟩
    exact ⟨hdl, hopen hdl hhdl, hsub hgrant⟩
  · intro x hx
    cases x with
    | entry ev =>
      obtain ⟨hdl, hhdl, hgrant⟩ := hx
      exact ⟨hdl, hopen hdl hhdl, hsub hgrant⟩
    | filled ev ret =>
      obtain ⟨hdl, hhdl, hgrant⟩ := hx
      exact ⟨hdl, hopen hdl hhdl, hsub hgrant⟩
    | sktSet ev ret =>
      obtain ⟨hdl, hhdl, hgrant⟩ := hx
      exact ⟨hdl, hopen hdl hhdl, hsub hgrant⟩
    | allocated t =>
      obtain ⟨hdl, hhandle, hhdl, hgrant⟩ := hx
      exact ⟨hdl, hhandle, hopen hdl hhdl, hsub hgrant⟩
    | checked t =>
      obtain ⟨hdl, hhandle, hhdl, hgrant⟩ := hx
      exact ⟨hdl, hhandle, hopen hdl hhdl, hsub hgrant⟩
    | built t =>
      obtain ⟨hdl, hhandle, hhdl, hgrant⟩ := hx
      exact ⟨hdl, hhandle, hopen hdl hhdl, hsub hgrant⟩
    | accepted ep => trivial

/-- With no SUBMIT on its way any device may come. -/
theorem Server.Carries.of_idle {s : Server} {devHdl : Option ℕ} {grants : Grants}
    (hqueue : s.loop2.queue = []) (hhandlers : ∀ y ∈ s.loop2.handlers, y.2.request = none) :
    s.Carries (deviceClaim devHdl grants) := by
  refine ⟨fun x hx => ?_, fun x hx => ?_, fun _ _ => trivial, fun _ _ => trivial⟩
  · rw [hqueue] at hx
    cases hx
  · have hnone := hhandlers x hx
    cases hh : x.2 with
    | accepted ep => trivial
    | _ =>
      rw [hh] at hnone
      cases hnone

theorem usbClassDriverTask_start {lib : HostLib} {d d' : Driver} {a : DriverAction}
    {e : DriverEffect} (ho : d.Orderly) (h : usbClassDriverTask lib d a = some (d', e))
    (hpc : d'.pc = .start) : d'.devHdl = none := by
  unfold usbClassDriverTask at h
  split at h
  case h_17 =>
    split_ifs at h with hexit
    · obtain ⟨rfl, rfl⟩ := Prod.mk.inj (Option.some.inj h)
      exact ho.leaving hexit
    · obtain ⟨rfl, rfl⟩ := Prod.mk.inj (Option.some.inj h)
      cases hpc
  case h_18 => cases h
  all_goals
    try split_ifs at h
    all_goals
      obtain ⟨rfl, rfl⟩ := Prod.mk.inj (Option.some.inj h)
      cases hpc

structure Server.OnImported (s : Server) (grants : Grants) : Prop where
  orderly : s.driver.Orderly
  placed : s.driver.Placed
  start : s.driver.pc = .start → s.driver.devHdl = none
  carries : s.Carries (deviceClaim s.driver.devHdl grants)

theorem step_onImported {s t : Server} {a : Action} {grants : Grants} (hs : s.OnImported grants)
    (ha : KeepsDevice (s, grants) a) (h : step s a = some t) :
    t.OnImported (noteGrant s a grants) := by
  have hsub := noteGrant_subset s a grants
  have hcarries := step_carries (deviceClaim_moves s grants) hs.carries ?_ h
  swap
  · rintro rfl hpc
    exact ha hpc
  by_cases hdriver : ∃ b, a = .driver b
  · obtain ⟨b, rfl⟩ := hdriver
    obtain ⟨-, -, d, e, hd, rfl⟩ := driverStep_effect h
    obtain ⟨horderly, hplaced⟩ := usbClassDriverTask_orderly hs.orderly hs.placed hd
    have hstart := usbClassDriverTask_start hs.orderly hd
    have hloop : (applyEffect { s with driver := d } e).loop2.queue = s.loop2.queue ∧
        (applyEffect { s with driver := d } e).loop2.handlers = s.loop2.handlers := by
      cases e <;> exact ⟨rfl, rfl⟩
    have hin : (applyEffect { s with driver := d } e).Carries
        (deviceClaim d.devHdl (noteGrant s (.driver b) grants)) →
        (applyEffect { s with driver := d } e).OnImported (noteGrant s (.driver b) grants) := by
      intro hc
      refine ⟨?_, ?_, ?_, ?_⟩ <;> rw [applyEffect_driver]
      · exact horderly
      · exact hplaced
      · exact hstart
      · exact hc
    apply hin
    cases usbClassDriverTask_handle hs.orderly hs.start hd with
    | keeps b hkeep hhdl hopened => exact hcarries.keep (fun hdl hold => hhdl.trans hold) hsub
    | opens hnone hhdl hopened =>
      exact hcarries.keep (fun hdl hold => by rw [hnone] at hold; cases hold) hsub
    | closes hhdl hopened =>
      exact .of_idle (hloop.1.trans ha.1) (by rw [hloop.2]; exact ha.2)
    | closeFailed hopened he =>
      exact .of_idle (hloop.1.trans ha.1) (by rw [hloop.2]; exact ha.2)
  · have hsame := step_driver_eq h fun b hb => hdriver ⟨b, hb⟩
    refine ⟨?_, ?_, ?_, ?_⟩ <;> rw [hsame]
    · exact hs.orderly
    · exact hs.placed
    · exact hs.start
    · exact hcarries.keep (fun _ hold => hold) hsub

section Boot

variable {lib : HostLib} {devRecv header cmdSubmit transferBuffer cmdUnlink : Bytes}

theorem boot_onImported :
    (Server.boot lib devRecv header cmdSubmit transferBuffer cmdUnlink).OnImported [] := by
  obtain ⟨horderly, hplaced⟩ :=
    (Reachable.boot lib devRecv header cmdSubmit transferBuffer cmdUnlink).orderly
  exact ⟨horderly, hplaced, fun _ => rfl, boot_carries⟩

/-- Over any number of devices and connections: as long as every SUBMIT is posted for the device
then open, and that device stays until the SUBMIT has been passed on, every transfer passed to the
host library goes to the device its connection has imported. -/
theorem reaches_imported_of_keepsDevice {as : List Action} {t : Server} {grants : Grants} {j : ℕ}
    {tr : UsbTransfer}
    (h : exec (watch step noteGrant)
      (.boot lib devRecv header cmdSubmit transferBuffer cmdUnlink, []) as = some (t, grants))
    (hkeeps : Always (watch step noteGrant) KeepsDevice
      (.boot lib devRecv header cmdSubmit transferBuffer cmdUnlink, []) as)
    (hj : t.readyTransfer j = some tr) : t.ReachesImported grants tr := by
  have hstep : ∀ x a y, Server.OnImported x.1 x.2 → KeepsDevice x a →
      watch step noteGrant x a = some y → y.1.OnImported y.2 := by
    rintro ⟨s, grants⟩ a ⟨u, grants'⟩ hs ha hu
    obtain ⟨hu, rfl⟩ := watch_eq_some.1 hu
    exact step_onImported hs ha hu
  have hon : t.OnImported grants :=
    exec_invariant (I := fun x => Server.OnImported x.1 x.2) hstep boot_onImported hkeeps h
  obtain ⟨l, hj⟩ := readyTransfer_eq_some.1 hj
  exact hon.carries.handler _ (List.mem_of_getElem? hj)

end Boot

def requesting : List Action :=
  keyboardEnumeration ++ importing 3 (importSession [submitIn 7 1 8]).stream ++ submitting

def AlwaysReachesImported : Prop :=
  ∀ as t grants, exec (watch step noteGrant) (coldBoot, []) as = some (t, grants) →
    ∀ j tr, t.readyTransfer j = some tr → t.ReachesImported grants tr

/-- The device goes while the request is queued; another one has come when it is handled. -/
theorem request_reaches_other_device : ¬ AlwaysReachesImported := by
  intro hall
  have hrun : ((exec (watch step noteGrant) (coldBoot, [])
      (requesting ++ unplugging ++ keyboardEnumeration ++ handlingBulk.take 6)).bind fun x =>
        (x.1.readyTransfer 0).map fun tr => (tr.ev.conn, tr.deviceHandle, x.2)) =
      some (0, some 1, [(0, 0)]) := by
    decide +kernel
  obtain ⟨⟨t, grants⟩, hexec, hready⟩ := Option.bind_eq_some_iff.1 hrun
  obtain ⟨tr, htr, hstate⟩ := Option.map_eq_some_iff.1 hready
  simp only [Prod.mk.injEq] at hstate
  obtain ⟨hconn, hhandle, hgrants⟩ := hstate
  obtain ⟨hdl, hsame, -, hgrant⟩ := hall _ t grants hexec 0 tr htr
  rw [hhandle, Option.some.injEq] at hsame
  rw [hgrants, hconn, ← hsame] at hgrant
  simp at hgrant

theorem reaches_imported_requesting :
    ∃ t grants tr, exec (watch step noteGrant) (coldBoot, [])
        (requesting ++ handlingBulk.take 6) = some (t, grants) ∧
      t.readyTransfer 0 = some tr ∧ t.ReachesImported grants tr := by
  have hrun : ((exec (watch step noteGrant) (coldBoot, [])
      (requesting ++ handlingBulk.take 6)).bind fun x =>
        (x.1.readyTransfer 0).map fun tr => tr.ev.conn) = some 0 := by
    decide +kernel
  obtain ⟨⟨t, grants⟩, hexec, hready⟩ := Option.bind_eq_some_iff.1 hrun
  obtain ⟨tr, htr, -⟩ := Option.map_eq_some_iff.1 hready
  have hkeeps : Always (watch step noteGrant) KeepsDevice (coldBoot, [])
      (requesting ++ handlingBulk.take 6) := by
    decide +kernel
  exact ⟨t, grants, tr, hexec, htr, reaches_imported_of_keepsDevice hexec hkeeps htr⟩

end UsbRepeater
