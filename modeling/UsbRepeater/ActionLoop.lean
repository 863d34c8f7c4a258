import UsbRepeater.Lib.Watch
import UsbRepeater.Client
import UsbRepeater.Enumeration

/-! The action loop of the class driver. Whatever the library calls return, an action function
finds what it asserts, and a device is closed once for each time it was opened. -/
namespace UsbRepeater

open Schedule

structure Driver.Prepared (d : Driver) : Prop where
  opening : d.actions.openDev = true → d.devAddr ≠ 0
  config : d.actions.getConfigDesc = true → d.devDesc ≠ none
  strings : d.actions.getStrDesc = true →
    d.devHdl ≠ none ∧ d.devDesc ≠ none ∧ d.configDesc ≠ none ∧ d.actions.closeDev = false
  leaving : d.actions.exit = true → d.devAddr = 0
  start : d.pc = .start → d.devHdl = none

theorem Driver.Prepared.goto {d : Driver} (hd : d.Prepared) {pc : DriverPc} (hpc : pc ≠ .start) :
    Driver.Prepared { d with pc := pc } :=
  ⟨hd.opening, hd.config, hd.strings, hd.leaving, fun h => absurd h hpc⟩

/-- A client event that `usb_host_client_handle_events` delivers: a device has come, at an
address that is not zero, or the open one has gone. -/
def ClientEvent.ofDevice : ClientEvent → Bool
  | .newDev address => address != 0
  | .devGone => true
  | .other => false

def DeviceEvents (_ : Server) : Action → Prop
  | .driver (.clientEvent e) => e.ofDevice = true
  | _ => True

instance (s : Server) (a : Action) : Decidable (DeviceEvents s a) := by
  unfold DeviceEvents
  split <;> infer_instance

theorem clientEventCb_prepared {d : Driver} (hd : d.Prepared) (hpc : d.pc = .handleEvents)
    (hexit : d.actions.exit = false) {e : ClientEvent} (he : e.ofDevice = true) :
    (clientEventCb d e).1.Prepared ∧ (clientEventCb d e).2 = .none := by
  have hstart : d.pc ≠ .start := by simp [hpc]
  have hleave : ∀ {p : Prop}, d.actions.exit = true → p := by
    intro p h
    rw [hexit] at h
    cases h
  cases e with
  | newDev address =>
    simp only [clientEventCb]
    split_ifs with haddr
    · have hne : address ≠ 0 := by simpa [ClientEvent.ofDevice] using he
      exact ⟨⟨fun _ => hne, hd.config, hd.strings, hleave, fun h => absurd h hstart⟩, rfl⟩
    · exact ⟨hd, rfl⟩
  | devGone =>
    simp only [clientEventCb]
    split_ifs
    · exact ⟨⟨by simp, by simp, by simp, by simp, fun h => absurd h hstart⟩, rfl⟩
    · exact ⟨hd, rfl⟩
  | other => cases he

theorem actionOpenDev_prepared {d : Driver} (hd : d.Prepared) (ho : d.Orderly)
    (hpc : d.pc = .openDev) (hexit : d.actions.exit = false) (hopen : d.actions.openDev = true)
    (ok : Bool) : (actionOpenDev d ok).1.Prepared ∧ (actionOpenDev d ok).2 = .none := by
  have hstart : d.pc ≠ .start := by simp [hpc]
  have hstr : d.actions.getStrDesc ≠ true := fun h => (hd.strings h).1 (ho.opening hopen)
  unfold actionOpenDev
  rw [if_neg (hd.opening hopen)]
  split_ifs
  · refine ⟨⟨nofun, hd.config, fun h => absurd h hstr, fun h => ?_, fun h => absurd h hstart⟩, rfl⟩
    rw [hexit] at h
    cases h
  · exact ⟨⟨nofun, hd.config, hd.strings, hd.leaving, fun h => absurd h hstart⟩, rfl⟩

theorem actionGetInfo_prepared {d : Driver} (hd : d.Prepared) (ho : d.Orderly)
    (hpc : d.pc = .getInfo) (hinfo : d.actions.getDevInfo = true) (info : Option UsbDeviceInfo) :
    (actionGetInfo d info).1.Prepared ∧ (actionGetInfo d info).2 = .none := by
  have hstart : d.pc ≠ .start := by simp [hpc]
  have hhdl := ho.reading (.inl hinfo)
  unfold actionGetInfo
  split
  · rename_i hnone
    exact absurd hnone hhdl
  · exact ⟨⟨hd.opening, hd.config, hd.strings, hd.leaving, fun h => absurd h hstart⟩, rfl⟩
  · exact ⟨⟨hd.opening, hd.config, hd.strings, hd.leaving, fun h => absurd h hstart⟩, rfl⟩

theorem actionGetDevDesc_prepared {d : Driver} (hd : d.Prepared) (ho : d.Orderly)
    (hpc : d.pc = .getDevDesc) (hdesc : d.actions.getDevDesc = true)
    (desc : Option UsbDeviceDesc) :
    (actionGetDevDesc d desc).1.Prepared ∧ (actionGetDevDesc d desc).2 = .none := by
  have hstart : d.pc ≠ .start := by simp [hpc]
  have hhdl := ho.reading (.inr (.inl hdesc))
  unfold actionGetDevDesc
  split
  · rename_i hnone
    exact absurd hnone hhdl
  · exact ⟨⟨hd.opening, hd.config, hd.strings, hd.leaving, fun h => absurd h hstart⟩, rfl⟩
  · refine ⟨⟨hd.opening, fun _ => nofun, fun h => ?_, hd.leaving, fun h => absurd h hstart⟩, rfl⟩
    obtain ⟨hopen, -, hconfig, hclose⟩ := hd.strings h
    exact ⟨hopen, nofun, hconfig, hclose⟩

theorem actionGetConfigDesc_prepared {lib : HostLib} {d : Driver} (hd : d.Prepared)
    (ho : d.Orderly) (hpc : d.pc = .getConfigDesc) (hconfig : d.actions.getConfigDesc = true)
    (desc : Option UsbConfigDesc) (claims : List Bool) :
    (actionGetConfigDesc lib d desc claims).1.Prepared ∧
      (actionGetConfigDesc lib d desc claims).2 = .none := by
  have hstart : d.pc ≠ .start := by simp [hpc]
  have hread : d.actions.reading := .inr (.inr hconfig)
  have hhdl := ho.reading hread
  have hclose : d.actions.closeDev = false :=
    Bool.eq_false_iff.2 fun h => (ho.closing h).2 hread
  unfold actionGetConfigDesc
  split
  · rename_i hnone
    exact absurd hnone hhdl
  · exact ⟨⟨hd.opening, nofun, hd.strings, hd.leaving, fun h => absurd h hstart⟩, rfl⟩
  · exact ⟨⟨hd.opening, nofun, fun _ => ⟨hhdl, hd.config hconfig, nofun, hclose⟩, hd.leaving,
      fun h => absurd h hstart⟩, rfl⟩

theorem actionGetStrDesc_prepared {d : Driver} (hd : d.Prepared)
    (hstr : d.actions.getStrDesc = true) :
    (actionGetStrDesc d).1.Prepared ∧ (actionGetStrDesc d).2 = .none := by
  obtain ⟨hopen, hdev, hconfig, -⟩ := hd.strings hstr
  unfold actionGetStrDesc
  split
  · exact ⟨⟨hd.opening, hd.config, nofun, hd.leaving, hd.start⟩, rfl⟩
  · rename_i hnone
    obtain ⟨k, hk⟩ := Option.ne_none_iff_exists'.1 hopen
    obtain ⟨dev, hdev⟩ := Option.ne_none_iff_exists'.1 hdev
    obtain ⟨config, hconfig⟩ := Option.ne_none_iff_exists'.1 hconfig
    exact absurd hdev (hnone k config dev hk hconfig)

theorem acitonCloseDev_prepared {d : Driver} (hd : d.Prepared) (ho : d.Orderly)
    (hpc : d.pc = .closeDev) (hclose : d.actions.closeDev = true) (ok : Bool) :
    (acitonCloseDev d ok).1.Prepared ∧ ((acitonCloseDev d ok).2 = .abort → ok = false) := by
  have hstart : d.pc ≠ .start := by simp [hpc]
  have hopen : d.actions.openDev ≠ true := fun h => (ho.closing hclose).1 (ho.opening h)
  have hstr : d.actions.getStrDesc ≠ true := by
    intro h
    have hnot := (hd.strings h).2.2.2
    rw [hclose] at hnot
    cases hnot
  unfold acitonCloseDev
  split_ifs with hok
  · exact ⟨⟨fun h => absurd h hopen, hd.config, fun h => absurd h hstr, fun _ => rfl,
      fun h => absurd h hstart⟩, nofun⟩
  · exact ⟨hd, fun _ => by simpa using hok⟩

/-- The only abort is the `ESP_ERROR_CHECK` around a close that failed. -/
theorem usbClassDriverTask_prepared {lib : HostLib} {d d' : Driver} {a : DriverAction}
    {e : DriverEffect} (hd : d.Prepared) (ho : d.Orderly) (hp : d.Placed)
    (ha : ∀ ev, a = .clientEvent ev → ev.ofDevice = true)
    (h : usbClassDriverTask lib d a = some (d', e)) :
    d'.Prepared ∧ (e = .abort → a = .closeDev false) := by
  have hin : ∀ pc, d.pc = pc → pc ≠ .exit → pc ≠ .start → d.actions.exit = false :=
    fun pc hpc hexit hstart => hp.exit_eq_false (hpc ▸ hexit) (hpc ▸ hstart)
  have hnext : ∀ {r : Driver × DriverEffect} (pc : DriverPc), r.1.Prepared ∧ r.2 = .none →
      pc ≠ .start → Driver.Prepared { r.1 with pc := pc } ∧ (r.2 = .abort → a = .closeDev false) :=
    fun pc hr hpc => ⟨hr.1.goto hpc, fun habort => by rw [hr.2] at habort; cases habort⟩
  unfold usbClassDriverTask at h
  split at h
  case h_1 hpc =>
    obtain ⟨rfl, rfl⟩ := Prod.mk.inj (Option.some.inj h)
    exact ⟨⟨nofun, nofun, nofun, nofun, nofun⟩, nofun⟩
  case h_2 hpc =>
    obtain ⟨rfl, rfl⟩ := Prod.mk.inj (Option.some.inj h)
    exact ⟨⟨hd.opening, hd.config, hd.strings, hd.leaving, nofun⟩, nofun⟩
  case h_4 ev hpc =>
    obtain ⟨rfl, rfl⟩ := Prod.mk.inj (Option.some.inj h)
    have hprepared := clientEventCb_prepared hd hpc (hin _ hpc nofun nofun) (ha ev rfl)
    exact hnext .handleEvents hprepared nofun
  case h_6 ok hpc =>
    split_ifs at h with hopen
    obtain ⟨rfl, rfl⟩ := Prod.mk.inj (Option.some.inj h)
    exact hnext .getInfo (actionOpenDev_prepared hd ho hpc (hin _ hpc nofun nofun) hopen ok) nofun
  case h_8 info hpc =>
    split_ifs at h with hinfo
    obtain ⟨rfl, rfl⟩ := Prod.mk.inj (Option.some.inj h)
    exact hnext .getDevDesc (actionGetInfo_prepared hd ho hpc hinfo info) nofun
  case h_10 desc hpc =>
    split_ifs at h with hdesc
    obtain ⟨rfl, rfl⟩ := Prod.mk.inj (Option.some.inj h)
    exact hnext .getConfigDesc (actionGetDevDesc_prepared hd ho hpc hdesc desc) nofun
  case h_12 desc claims hpc =>
    split_ifs at h with hconfig
    obtain ⟨rfl, rfl⟩ := Prod.mk.inj (Option.some.inj h)
    exact hnext .getStrDesc (actionGetConfigDesc_prepared hd ho hpc hconfig desc claims) nofun
  case h_14 hpc =>
    obtain ⟨rfl, rfl⟩ := Prod.mk.inj (Option.some.inj h)
    split_ifs with hstr
    · obtain ⟨hprep, heff⟩ := actionGetStrDesc_prepared hd hstr
      exact ⟨hprep.goto nofun, by rw [heff]; nofun⟩
    · exact ⟨hd.goto nofun, nofun⟩
  case h_15 ok hpc =>
    split_ifs at h with hclose
    obtain ⟨rfl, rfl⟩ := Prod.mk.inj (Option.some.inj h)
    obtain ⟨hprep, habort⟩ := acitonCloseDev_prepared hd ho hpc hclose ok
    exact ⟨hprep.goto nofun, fun h => by rw [habort h]⟩
  case h_17 hpc =>
    split_ifs at h with hexit
    · obtain ⟨rfl, rfl⟩ := Prod.mk.inj (Option.some.inj h)
      exact ⟨⟨hd.opening, hd.config, hd.strings, hd.leaving, fun _ => ho.leaving hexit⟩, nofun⟩
    · obtain ⟨rfl, rfl⟩ := Prod.mk.inj (Option.some.inj h)
      exact ⟨hd.goto nofun, nofun⟩
  case h_18 => cases h
  -- round the loop, and past an action whose bit is clear
  all_goals
    try split_ifs at h
    all_goals
      obtain ⟨rfl, rfl⟩ := Prod.mk.inj (Option.some.inj h)
      exact ⟨hd.goto nofun, nofun⟩

inductive HandleStep (d d' : Driver) (e : DriverEffect) : DriverAction → Prop
  | keeps (a : DriverAction) (ha : ∀ ok, a ≠ .closeDev ok) (hhdl : d'.devHdl = d.devHdl)
      (hopened : d'.opened = d.opened) : HandleStep d d' e a
  | opens (hnone : d.devHdl = none) (hhdl : d'.devHdl = some d.opened)
      (hopened : d'.opened = d.opened + 1) : HandleStep d d' e (.openDev true)
  | closes (hhdl : d'.devHdl = none) (hopened : d'.opened = d.opened) :
      HandleStep d d' e (.closeDev true)
  | closeFailed (hopened : d'.opened = d.opened) (he : e = .abort) :
      HandleStep d d' e (.closeDev false)

theorem usbClassDriverTask_handle {lib : HostLib} {d d' : Driver} {a : DriverAction}
    {e : DriverEffect} (ho : d.Orderly) (hstart : d.pc = .start → d.devHdl = none)
    (h : usbClassDriverTask lib d a = some (d', e)) : HandleStep d d' e a := by
  unfold usbClassDriverTask at h
  split at h
  case h_1 hpc =>
    obtain ⟨rfl, rfl⟩ := Prod.mk.inj (Option.some.inj h)
    exact .keeps _ nofun (hstart hpc).symm rfl
  case h_4 ev hpc =>
    obtain ⟨rfl, rfl⟩ := Prod.mk.inj (Option.some.inj h)
    unfold clientEventCb
    split
    · split_ifs <;> exact .keeps _ nofun rfl rfl
    · split_ifs <;> exact .keeps _ nofun rfl rfl
    · exact .keeps _ nofun rfl rfl
  case h_6 ok hpc =>
    split_ifs at h with hopen
    obtain ⟨rfl, rfl⟩ := Prod.mk.inj (Option.some.inj h)
    unfold actionOpenDev
    split_ifs with haddr hok
    · exact .keeps _ nofun rfl rfl
    · subst hok
      exact .opens (ho.opening hopen) rfl rfl
    · exact .keeps _ nofun rfl rfl
  case h_8 info hpc =>
    split_ifs at h
    obtain ⟨rfl, rfl⟩ := Prod.mk.inj (Option.some.inj h)
    unfold actionGetInfo
    split <;> exact .keeps _ nofun rfl rfl
  case h_10 desc hpc =>
    split_ifs at h
    obtain ⟨rfl, rfl⟩ := Prod.mk.inj (Option.some.inj h)
    unfold actionGetDevDesc
    split <;> exact .keeps _ nofun rfl rfl
  case h_12 desc claims hpc =>
    split_ifs at h
    obtain ⟨rfl, rfl⟩ := Prod.mk.inj (Option.some.inj h)
    unfold actionGetConfigDesc
    split <;> exact .keeps _ nofun rfl rfl
  case h_14 hpc =>
    obtain ⟨rfl, rfl⟩ := Prod.mk.inj (Option.some.inj h)
    split_ifs
    · unfold actionGetStrDesc
      split <;> exact .keeps _ nofun rfl rfl
    · exact .keeps _ nofun rfl rfl
  case h_15 ok hpc =>
    split_ifs at h
    obtain ⟨rfl, rfl⟩ := Prod.mk.inj (Option.some.inj h)
    cases ok with
    | true => exact .closes rfl rfl
    | false => exact .closeFailed rfl rfl
  case h_18 => cases h
  all_goals
    try split_ifs at h
    all_goals
      obtain ⟨rfl, rfl⟩ := Prod.mk.inj (Option.some.inj h)
      exact .keeps _ nofun rfl rfl

/-- The closings are noted, by the handle `aciton_close_dev` passes to the library. -/
def noteClosing (s : Server) (a : Action) (closed : List (Option ℕ)) : List (Option ℕ) :=
  match a with
  | .driver (.closeDev _) => closed ++ [s.driver.devHdl]
  | _ => closed

/-- The class driver as it is at any time, and the handles it has closed. After a close that
failed the firmware stops. -/
structure Server.InOrder (s : Server) (closed : List (Option ℕ)) : Prop where
  orderly : s.driver.Orderly
  placed : s.driver.Placed
  prepared : s.driver.Prepared
  nodup : closed.Nodup
  spent : ∀ x ∈ closed, (∃ k < s.driver.opened, x = some k) ∧
    (s.driver.devHdl ≠ x ∨ s.crashed = true)

def CallsSound (s : Server) : Action → Prop
  | .driver (.openDev _) => s.driver.devAddr ≠ 0 ∧ s.driver.devHdl = none
  | .driver (.getInfo _) | .driver (.getDevDesc _) | .driver (.getConfigDesc _ _)
  | .driver (.closeDev _) => s.driver.devHdl ≠ none
  | .driver .run =>
      s.driver.pc = .getStrDesc → s.driver.actions.getStrDesc = true →
        s.driver.devHdl ≠ none ∧ s.driver.devDesc ≠ none ∧ s.driver.configDesc ≠ none
  | _ => True

/-- The class driver does not abort, but for a close that the library refuses. -/
def AssertsHold (s : Server) : Action → Prop
  | .driver a => ∀ d, usbClassDriverTask s.lib s.driver a = some (d, .abort) → a = .closeDev false
  | _ => True

theorem usbClassDriverTask_bit {lib : HostLib} {d : Driver} {a : DriverAction}
    {r : Driver × DriverEffect} (h : usbClassDriverTask lib d a = some r) :
    match a with
    | .openDev _ => d.actions.openDev = true
    | .getInfo _ => d.actions.getDevInfo = true
    | .getDevDesc _ => d.actions.getDevDesc = true
    | .getConfigDesc _ _ => d.actions.getConfigDesc = true
    | .closeDev _ => d.actions.closeDev = true
    | _ => True := by
  unfold usbClassDriverTask at h
  split at h <;> first | trivial | cases h | (split_ifs at h with hbit; exact hbit)

theorem Server.InOrder.callsSound {s t : Server} {closed : List (Option ℕ)} {a : Action}
    (hs : s.InOrder closed) (h : step s a = some t) : CallsSound s a := by
  cases a with
  | driver a =>
    obtain ⟨-, -, d, e, hd, -⟩ := driverStep_effect h
    have hbit := usbClassDriverTask_bit hd
    cases a with
    | run =>
      intro _ hstr
      obtain ⟨hopen, hdev, hconfig, -⟩ := hs.prepared.strings hstr
      exact ⟨hopen, hdev, hconfig⟩
    | clientEvent e => trivial
    | openDev ok => exact ⟨hs.prepared.opening hbit, hs.orderly.opening hbit⟩
    | getInfo info => exact hs.orderly.reading (.inl hbit)
    | getDevDesc desc => exact hs.orderly.reading (.inr (.inl hbit))
    | getConfigDesc desc claims => exact hs.orderly.reading (.inr (.inr hbit))
    | closeDev ok => exact (hs.orderly.closing hbit).1
  | _ => trivial

theorem ofDevice_of_deviceEvents {s : Server} {a : DriverAction}
    (h : DeviceEvents s (.driver a)) : ∀ ev, a = .clientEvent ev → ev.ofDevice = true := by
  rintro ev rfl
  exact h

theorem Server.InOrder.assertsHold {s : Server} {closed : List (Option ℕ)} {a : Action}
    (hs : s.InOrder closed) (ha : DeviceEvents s a) : AssertsHold s a := by
  cases a with
  | driver a =>
    intro d hd
    exact (usbClassDriverTask_prepared hs.prepared hs.orderly hs.placed
      (ofDevice_of_deviceEvents ha) hd).2 rfl
  | _ => trivial

theorem noteClosing_of_ne {s : Server} {a : Action} {closed : List (Option ℕ)}
    (ha : ∀ ok, a ≠ .driver (.closeDev ok)) : noteClosing s a closed = closed := by
  unfold noteClosing
  split
  · rename_i ok
    exact absurd rfl (ha ok)
  · rfl

theorem step_inOrder {s t : Server} {closed : List (Option ℕ)} {a : Action}
    (hs : s.InOrder closed) (ha : DeviceEvents s a) (h : step s a = some t) :
    t.InOrder (noteClosing s a closed) := by
  by_cases hdriver : ∃ b, a = .driver b
  · obtain ⟨b, rfl⟩ := hdriver
    have hcalls := hs.callsSound h
    obtain ⟨hrunning, -, d, e, hd, rfl⟩ := driverStep_effect h
    obtain ⟨horderly, hplaced⟩ := usbClassDriverTask_orderly hs.orderly hs.placed hd
    obtain ⟨hprepared, -⟩ := usbClassDriverTask_prepared hs.prepared hs.orderly hs.placed
      (ofDevice_of_deviceEvents ha) hd
    have hspent : ∀ x ∈ closed, (∃ k < s.driver.opened, x = some k) ∧ s.driver.devHdl ≠ x := by
      intro x hx
      obtain ⟨hk, hne⟩ := hs.spent x hx
      exact ⟨hk, hne.resolve_right (by rw [hrunning]; nofun)⟩
    have hin : ∀ {closed' : List (Option ℕ)}, closed'.Nodup →
        (∀ x ∈ closed', (∃ k < d.opened, x = some k) ∧
          (d.devHdl ≠ x ∨ (applyEffect { s with driver := d } e).crashed = true)) →
        (applyEffect { s with driver := d } e).InOrder closed' := by
      intro closed' hnodup hall
      refine ⟨?_, ?_, ?_, hnodup, ?_⟩ <;> rw [applyEffect_driver]
      · exact horderly
      · exact hplaced
      · exact hprepared
      · exact hall
    -- the handle passed to a close is open, so it is not one of those closed before
    have hclosing : ∀ ok, b = .closeDev ok → (closed ++ [s.driver.devHdl]).Nodup ∧
        ∀ x ∈ closed ++ [s.driver.devHdl], ∃ k < s.driver.opened, x = some k := by
      rintro ok rfl
      obtain ⟨k, hk⟩ := Option.ne_none_iff_exists'.1 hcalls
      refine ⟨List.nodup_append.2 ⟨hs.nodup, by simp, ?_⟩, fun x hx => ?_⟩
      · intro x hx y hy hxy
        rw [List.mem_singleton] at hy
        exact (hspent x hx).2 (by rw [hxy, hy])
      · rcases List.mem_append.1 hx with hx | hx
        · exact (hspent x hx).1
        · exact ⟨k, hs.orderly.handle k hk, by rw [List.mem_singleton.1 hx, hk]⟩
    cases usbClassDriverTask_handle hs.orderly hs.prepared.start hd with
    | keeps b hkeep hhdl hopened =>
      rw [noteClosing_of_ne fun ok hok => hkeep ok (by simpa using hok)]
      refine hin hs.nodup fun x hx => ?_
      rw [hhdl, hopened]
      exact ⟨(hspent x hx).1, .inl (hspent x hx).2⟩
    | opens hnone hhdl hopened =>
      refine hin hs.nodup fun x hx => ?_
      obtain ⟨⟨k, hk, rfl⟩, -⟩ := hspent x hx
      rw [hhdl, hopened]
      refine ⟨⟨k, by omega, rfl⟩, .inl ?_⟩
      rw [Ne, Option.some.injEq]
      omega
    | closes hhdl hopened =>
      obtain ⟨hnodup, hbound⟩ := hclosing true rfl
      refine hin hnodup fun x hx => ?_
      obtain ⟨k, hk, rfl⟩ := hbound x hx
      rw [hhdl, hopened]
      exact ⟨⟨k, hk, rfl⟩, .inl nofun⟩
    | closeFailed hopened he =>
      obtain ⟨hnodup, hbound⟩ := hclosing false rfl
      refine hin hnodup fun x hx => ?_
      rw [hopened, he]
      exact ⟨hbound x hx, .inr rfl⟩
  · rw [noteClosing_of_ne fun ok hok => hdriver ⟨_, hok⟩]
    have hsame := step_driver_eq h fun b hb => hdriver ⟨b, hb⟩
    refine ⟨?_, ?_, ?_, hs.nodup, fun x hx => ?_⟩ <;> rw [hsame]
    · exact hs.orderly
    · exact hs.placed
    · exact hs.prepared
    · obtain ⟨hk, hne⟩ := hs.spent x hx
      refine ⟨hk, hne.imp_right fun hcrashed => ?_⟩
      rw [step_running h] at hcrashed
      cases hcrashed

section Boot

variable {lib : HostLib} {devRecv header cmdSubmit transferBuffer cmdUnlink : Bytes}

theorem boot_inOrder :
    (Server.boot lib devRecv header cmdSubmit transferBuffer cmdUnlink).InOrder [] := by
  obtain ⟨horderly, hplaced⟩ :=
    (Reachable.boot lib devRecv header cmdSubmit transferBuffer cmdUnlink).orderly
  exact ⟨horderly, hplaced, ⟨nofun, nofun, nofun, nofun, fun _ => rfl⟩, List.nodup_nil, nofun⟩

/-- The action loop over any number of devices. `closed` are the handles passed to
`usb_host_device_close`, and the handle `k` is the one that the open number `k` returned. -/
theorem action_loop_sound {as : List Action} {t : Server} {closed : List (Option ℕ)}
    (h : exec (watch step noteClosing)
      (.boot lib devRecv header cmdSubmit transferBuffer cmdUnlink, []) as = some (t, closed))
    (hevents : Always step DeviceEvents
      (.boot lib devRecv header cmdSubmit transferBuffer cmdUnlink) as) :
    Always step CallsSound (.boot lib devRecv header cmdSubmit transferBuffer cmdUnlink) as ∧
      Always step AssertsHold (.boot lib devRecv header cmdSubmit transferBuffer cmdUnlink) as ∧
      closed.Nodup ∧ (∀ x ∈ closed, ∃ k < t.driver.opened, x = some k) ∧
      (t.driver.actions.exit = true → t.driver.devHdl = none ∧ t.driver.devAddr = 0) := by
  have hrun := exec_of_watch h
  have hstep : ∀ s a u, (∃ closed, Server.InOrder s closed) → DeviceEvents s a →
      step s a = some u → ∃ closed, Server.InOrder u closed :=
    fun s a u ⟨closed, hs⟩ ha hu => ⟨_, step_inOrder hs ha hu⟩
  have hnoted : ∀ s closed a u, Server.InOrder s closed → DeviceEvents s a → step s a = some u →
      u.InOrder (noteClosing s a closed) := fun _ _ _ _ hs ha hu => step_inOrder hs ha hu
  have hin : t.InOrder closed := watch_invariant hnoted boot_inOrder hevents h
  refine ⟨?_, ?_, hin.nodup, fun x hx => (hin.spent x hx).1, fun hexit => ?_⟩
  · exact .of_taken hstep (fun s a u ⟨_, hs⟩ _ hu => hs.callsSound hu) ⟨[], boot_inOrder⟩
      hevents hrun
  · exact .of_taken hstep (fun s a u ⟨_, hs⟩ ha _ => hs.assertsHold ha) ⟨[], boot_inOrder⟩
      hevents hrun
  · exact ⟨hin.orderly.leaving hexit, hin.prepared.leaving hexit⟩

end Boot

def unplugging : List Action :=
  [.clientEvent .devGone, .run, .run, .run, .run, .run, .run, .run, .closeDev true,
    .run].map Action.driver

def replugging : List Action := keyboardEnumeration ++ unplugging ++ keyboardEnumeration

theorem action_loop_sound_replugging :
    ∃ t, run coldBoot replugging = some t ∧ t.driver.opened = 2 ∧
      Always step CallsSound coldBoot replugging ∧
      Always step AssertsHold coldBoot replugging := by
  have hrun : (exec (watch step noteClosing) (coldBoot, []) replugging).map
      (fun x => (x.1.driver.opened, x.2)) = some (2, [some 0]) := by
    decide +kernel
  obtain ⟨⟨t, closed⟩, ht, hstate⟩ := Option.map_eq_some_iff.1 hrun
  have hevents : Always step DeviceEvents coldBoot replugging := by decide +kernel
  obtain ⟨hcalls, hasserts, -⟩ := action_loop_sound ht hevents
  exact ⟨t, exec_of_watch ht, (Prod.mk.inj hstate).1, hcalls, hasserts⟩

end UsbRepeater
