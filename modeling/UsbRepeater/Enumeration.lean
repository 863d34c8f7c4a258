import UsbRepeater.Effects

/-! The class driver goes about one device after the other: it reads the descriptors of a device
once, behind opening it, and gives the device up only to close it. A device that stays enumerated
keeps its descriptors. -/
namespace UsbRepeater

def Actions.reading (a : Actions) : Prop :=
  a.getDevInfo = true ∨ a.getDevDesc = true ∨ a.getConfigDesc = true

def Actions.Single (a : Actions) : Prop :=
  (a.getDevInfo = true → a.getDevDesc = false ∧ a.getConfigDesc = false) ∧
    (a.getDevDesc = true → a.getConfigDesc = false)

theorem Actions.single_of_not_reading {a : Actions} (h : ¬ a.reading) : a.Single :=
  ⟨fun hinfo => absurd (.inl hinfo) h, fun hdesc => absurd (.inr (.inl hdesc)) h⟩

structure Driver.Orderly (d : Driver) : Prop where
  opening : d.actions.openDev = true → d.devHdl = none
  reading : d.actions.reading → d.devHdl ≠ none
  closing : d.actions.closeDev = true → d.devHdl ≠ none ∧ ¬ d.actions.reading
  leaving : d.actions.exit = true → d.devHdl = none
  single : d.actions.Single
  address : d.devHdl ≠ none → d.devAddr ≠ 0
  handle : ∀ h, d.devHdl = some h → h < d.opened
  owner : ∀ p, d.configDesc = some p → p.owner < d.opened
  unread : d.actions.reading → ∀ p, d.configDesc = some p → d.devHdl ≠ some p.owner

theorem Driver.Orderly.goto {d : Driver} (hd : d.Orderly) (pc : DriverPc) :
    Driver.Orderly { d with pc := pc } :=
  ⟨hd.opening, hd.reading, hd.closing, hd.leaving, hd.single, hd.address, hd.handle,
    hd.owner, hd.unread⟩

theorem Driver.Orderly.of_same {d d' : Driver} (hd : d.Orderly) (hhdl : d'.devHdl = d.devHdl)
    (haddr : d'.devAddr = d.devAddr) (hopened : d'.opened = d.opened)
    (hconfig : d'.configDesc = d.configDesc)
    (hopen : d'.actions.openDev = true → d.actions.openDev = true)
    (hread : d'.actions.reading → d.actions.reading)
    (hclose : d'.actions.closeDev = true → d.devHdl ≠ none ∧ ¬ d'.actions.reading)
    (hexit : d'.actions.exit = true → d.actions.exit = true)
    (hsingle : d'.actions.Single) : d'.Orderly where
  opening h := hhdl.trans (hd.opening (hopen h))
  reading h := hhdl ▸ hd.reading (hread h)
  closing h := hhdl ▸ hclose h
  leaving h := hhdl.trans (hd.leaving (hexit h))
  single := hsingle
  address := by rw [hhdl, haddr]; exact hd.address
  handle := by rw [hhdl, hopened]; exact hd.handle
  owner := by rw [hconfig, hopened]; exact hd.owner
  unread h := by rw [hconfig, hhdl]; exact hd.unread (hread h)

theorem clientEventCb_orderly {d : Driver} (hd : d.Orderly) (e : ClientEvent) :
    (clientEventCb d e).1.Orderly := by
  cases e with
  | newDev address =>
    simp only [clientEventCb]
    split_ifs with haddr
    · have hnone : d.devHdl = none := by
        by_contra hopen
        exact hd.address hopen haddr
      exact ⟨fun _ => hnone, hd.reading, hd.closing, hd.leaving, hd.single,
        fun hopen => absurd hnone hopen, hd.handle, hd.owner, hd.unread⟩
    · exact hd
  | devGone =>
    simp only [clientEventCb]
    split_ifs with hopen
    · have hsome := Option.isSome_iff_ne_none.1 hopen
      exact hd.of_same rfl rfl rfl rfl nofun (by simp [Actions.reading])
        (fun _ => ⟨hsome, by simp [Actions.reading]⟩) nofun
        (Actions.single_of_not_reading (by simp [Actions.reading]))
    · exact hd
  | other => exact hd

theorem actionOpenDev_orderly {d : Driver} (hd : d.Orderly) (hexit : d.actions.exit = false)
    (hopen : d.actions.openDev = true) (ok : Bool) : (actionOpenDev d ok).1.Orderly := by
  have hnone := hd.opening hopen
  have hread : ¬ d.actions.reading := fun h => hd.reading h hnone
  have hclose : d.actions.closeDev ≠ true := fun h => (hd.closing h).1 hnone
  unfold actionOpenDev
  split_ifs with haddr
  · exact hd
  · have hrest := not_or.1 hread
    refine ⟨nofun, fun _ => nofun, fun h => absurd h hclose, fun h => ?_, ⟨fun _ => ?_, ?_⟩,
      fun _ => haddr, ?_, ?_, ?_⟩
    · rw [hexit] at h
      cases h
    · obtain ⟨hdesc, hconfig⟩ := not_or.1 hrest.2
      exact ⟨Bool.eq_false_iff.2 hdesc, Bool.eq_false_iff.2 hconfig⟩
    · exact hd.single.2
    · rintro h ⟨⟩
      exact Nat.lt_succ_self _
    · exact fun p hp => (hd.owner p hp).trans (Nat.lt_succ_self _)
    · intro _ p hp heq
      have hlt := hd.owner p hp
      simp only [Option.some.injEq] at heq
      omega
  · exact hd.of_same rfl rfl rfl rfl nofun id (fun h => absurd h hclose) id hd.single

theorem actionGetInfo_orderly {d : Driver} (hd : d.Orderly) (hinfo : d.actions.getDevInfo = true)
    (info : Option UsbDeviceInfo) : (actionGetInfo d info).1.Orderly := by
  have hread : d.actions.reading := .inl hinfo
  have hclose : d.actions.closeDev ≠ true := fun h => (hd.closing h).2 hread
  obtain ⟨hdesc, hconfig⟩ := hd.single.1 hinfo
  unfold actionGetInfo
  split
  · exact hd
  · exact hd.of_same rfl rfl rfl rfl id (fun _ => hread) (fun h => absurd h hclose) id
      ⟨nofun, hd.single.2⟩
  · exact hd.of_same rfl rfl rfl rfl id (fun _ => hread) (fun h => absurd h hclose) id
      ⟨nofun, fun _ => hconfig⟩

theorem actionGetDevDesc_orderly {d : Driver} (hd : d.Orderly)
    (hdesc : d.actions.getDevDesc = true) (desc : Option UsbDeviceDesc) :
    (actionGetDevDesc d desc).1.Orderly := by
  have hread : d.actions.reading := .inr (.inl hdesc)
  have hclose : d.actions.closeDev ≠ true := fun h => (hd.closing h).2 hread
  have hconfig := hd.single.2 hdesc
  have hinfo : d.actions.getDevInfo ≠ true := fun h => by
    have := (hd.single.1 h).1
    rw [hdesc] at this
    cases this
  unfold actionGetDevDesc
  split
  · exact hd
  · exact hd.of_same rfl rfl rfl rfl id (fun _ => hread) (fun h => absurd h hclose) id
      ⟨fun h => absurd h hinfo, nofun⟩
  · exact hd.of_same rfl rfl rfl rfl id (fun _ => hread) (fun h => absurd h hclose) id
      ⟨fun h => absurd h hinfo, nofun⟩

theorem actionGetConfigDesc_orderly {lib : HostLib} {d : Driver} (hd : d.Orderly)
    (hconfig : d.actions.getConfigDesc = true) (desc : Option UsbConfigDesc)
    (claims : List Bool) : (actionGetConfigDesc lib d desc claims).1.Orderly := by
  have hread : d.actions.reading := .inr (.inr hconfig)
  have hopen : d.actions.openDev ≠ true := fun h => hd.reading hread (hd.opening h)
  have hclose : d.actions.closeDev ≠ true := fun h => (hd.closing h).2 hread
  have hexit : d.actions.exit ≠ true := fun h => hd.reading hread (hd.leaving h)
  have hdone : ∀ str,
      ¬ Actions.reading { d.actions with getConfigDesc := false, getStrDesc := str } := by
    rintro str (hinfo | hdesc | hconfig')
    · have := (hd.single.1 hinfo).2
      rw [hconfig] at this
      cases this
    · have := hd.single.2 hdesc
      rw [hconfig] at this
      cases this
    · cases hconfig'
  unfold actionGetConfigDesc
  split
  · exact hd
  · exact hd.of_same rfl rfl rfl rfl id (fun _ => hread) (fun h => absurd h hclose) id
      (Actions.single_of_not_reading (hdone _))
  · rename_i h desc hh
    refine ⟨fun h => absurd h hopen, fun h => absurd h (hdone _), fun h => absurd h hclose,
      fun h => absurd h hexit, Actions.single_of_not_reading (hdone _), hd.address, hd.handle, ?_,
      fun h => absurd h (hdone _)⟩
    rintro p ⟨⟩
    exact hd.handle h hh

theorem acitonCloseDev_orderly {d : Driver} (hd : d.Orderly) (hclose : d.actions.closeDev = true)
    (ok : Bool) : (acitonCloseDev d ok).1.Orderly := by
  have hread := (hd.closing hclose).2
  unfold acitonCloseDev
  split_ifs
  · exact ⟨fun _ => rfl, fun h => absurd h hread, nofun, fun _ => rfl,
      Actions.single_of_not_reading hread, fun h => absurd rfl h, nofun, hd.owner,
      fun h => absurd h hread⟩
  · exact hd

structure Driver.Placed (d : Driver) : Prop where
  register : d.pc = .register → d.devHdl = none
  leaving : d.actions.exit = true → d.pc = .exit ∨ d.pc = .start

theorem Driver.Placed.exit_eq_false {d : Driver} (hp : d.Placed) (hexit : d.pc ≠ .exit)
    (hstart : d.pc ≠ .start) : d.actions.exit = false := by
  by_contra hleaving
  rcases hp.leaving (by simpa using hleaving) with h | h
  · exact hexit h
  · exact hstart h

theorem Driver.Orderly.at {d : Driver} (hd : d.Orderly) (hexit : d.actions.exit = false)
    (pc : DriverPc) (hpc : pc ≠ .register) :
    Driver.Orderly { d with pc := pc } ∧ Driver.Placed { d with pc := pc } :=
  ⟨hd.goto pc, fun h => absurd h hpc, fun h => absurd h (by simp [hexit])⟩

theorem clientEventCb_exit {d : Driver} (hexit : d.actions.exit = false) (e : ClientEvent) :
    (clientEventCb d e).1.actions.exit = false := by
  cases e with
  | newDev address =>
    simp only [clientEventCb]
    split_ifs <;> exact hexit
  | devGone =>
    simp only [clientEventCb]
    split_ifs
    · rfl
    · exact hexit
  | other => exact hexit

theorem actionOpenDev_exit (d : Driver) (ok : Bool) :
    (actionOpenDev d ok).1.actions.exit = d.actions.exit := by
  unfold actionOpenDev
  split_ifs <;> rfl

theorem actionGetInfo_exit (d : Driver) (info : Option UsbDeviceInfo) :
    (actionGetInfo d info).1.actions.exit = d.actions.exit := by
  unfold actionGetInfo
  split <;> rfl

theorem actionGetDevDesc_exit (d : Driver) (desc : Option UsbDeviceDesc) :
    (actionGetDevDesc d desc).1.actions.exit = d.actions.exit := by
  unfold actionGetDevDesc
  split <;> rfl

theorem actionGetConfigDesc_exit (lib : HostLib) (d : Driver) (desc : Option UsbConfigDesc)
    (claims : List Bool) :
    (actionGetConfigDesc lib d desc claims).1.actions.exit = d.actions.exit := by
  unfold actionGetConfigDesc
  split <;> rfl

theorem actionGetStrDesc_orderly {d : Driver} (hd : d.Orderly) : (actionGetStrDesc d).1.Orderly ∧
    (actionGetStrDesc d).1.actions.exit = d.actions.exit := by
  unfold actionGetStrDesc
  split
  · exact ⟨hd.of_same rfl rfl rfl rfl id id hd.closing id hd.single, rfl⟩
  · exact ⟨hd, rfl⟩

theorem usbClassDriverTask_orderly {lib : HostLib} {d d' : Driver} {a : DriverAction}
    {e : DriverEffect} (hd : d.Orderly) (hp : d.Placed)
    (h : usbClassDriverTask lib d a = some (d', e)) : d'.Orderly ∧ d'.Placed := by
  have hin : ∀ pc, d.pc = pc → pc ≠ .exit → pc ≠ .start → d.actions.exit = false :=
    fun pc hpc hexit hstart => hp.exit_eq_false (hpc ▸ hexit) (hpc ▸ hstart)
  unfold usbClassDriverTask at h
  split at h
  case h_1 hpc =>
    obtain ⟨rfl, rfl⟩ := Prod.mk.inj (Option.some.inj h)
    exact ⟨⟨nofun, nofun, nofun, nofun, ⟨nofun, nofun⟩, nofun, nofun, hd.owner, nofun⟩,
      fun _ => rfl, nofun⟩
  case h_2 hpc =>
    obtain ⟨rfl, rfl⟩ := Prod.mk.inj (Option.some.inj h)
    exact Driver.Orderly.at (d := { d with clientHdl := true })
      (hd.of_same rfl rfl rfl rfl id id hd.closing id hd.single) (hin _ hpc nofun nofun)
      .loopTop nofun
  case h_3 hpc =>
    split_ifs at h
    · obtain ⟨rfl, rfl⟩ := Prod.mk.inj (Option.some.inj h)
      exact hd.at (hin _ hpc nofun nofun) .handleEvents nofun
    · obtain ⟨rfl, rfl⟩ := Prod.mk.inj (Option.some.inj h)
      exact hd.at (hin _ hpc nofun nofun) .openDev nofun
  case h_4 ev hpc =>
    obtain ⟨rfl, rfl⟩ := Prod.mk.inj (Option.some.inj h)
    exact (clientEventCb_orderly hd ev).at
      (clientEventCb_exit (hin _ hpc nofun nofun) ev) .handleEvents nofun
  case h_5 hpc =>
    obtain ⟨rfl, rfl⟩ := Prod.mk.inj (Option.some.inj h)
    exact hd.at (hin _ hpc nofun nofun) .loopTop nofun
  case h_6 ok hpc =>
    split_ifs at h with hopen
    obtain ⟨rfl, rfl⟩ := Prod.mk.inj (Option.some.inj h)
    have hexit := hin _ hpc nofun nofun
    exact (actionOpenDev_orderly hd hexit hopen ok).at
      ((actionOpenDev_exit d ok).trans hexit) .getInfo nofun
  case h_7 hpc =>
    split_ifs at h
    obtain ⟨rfl, rfl⟩ := Prod.mk.inj (Option.some.inj h)
    exact hd.at (hin _ hpc nofun nofun) .getInfo nofun
  case h_8 info hpc =>
    split_ifs at h with hinfo
    obtain ⟨rfl, rfl⟩ := Prod.mk.inj (Option.some.inj h)
    exact (actionGetInfo_orderly hd hinfo info).at
      ((actionGetInfo_exit d info).trans (hin _ hpc nofun nofun)) .getDevDesc nofun
  case h_9 hpc =>
    split_ifs at h
    obtain ⟨rfl, rfl⟩ := Prod.mk.inj (Option.some.inj h)
    exact hd.at (hin _ hpc nofun nofun) .getDevDesc nofun
  case h_10 desc hpc =>
    split_ifs at h with hdesc
    obtain ⟨rfl, rfl⟩ := Prod.mk.inj (Option.some.inj h)
    exact (actionGetDevDesc_orderly hd hdesc desc).at
      ((actionGetDevDesc_exit d desc).trans (hin _ hpc nofun nofun)) .getConfigDesc nofun
  case h_11 hpc =>
    split_ifs at h
    obtain ⟨rfl, rfl⟩ := Prod.mk.inj (Option.some.inj h)
    exact hd.at (hin _ hpc nofun nofun) .getConfigDesc nofun
  case h_12 desc claims hpc =>
    split_ifs at h with hconfig
    obtain ⟨rfl, rfl⟩ := Prod.mk.inj (Option.some.inj h)
    exact (actionGetConfigDesc_orderly hd hconfig desc claims).at
      ((actionGetConfigDesc_exit lib d desc claims).trans (hin _ hpc nofun nofun)) .getStrDesc
      nofun
  case h_13 hpc =>
    split_ifs at h
    obtain ⟨rfl, rfl⟩ := Prod.mk.inj (Option.some.inj h)
    exact hd.at (hin _ hpc nofun nofun) .getStrDesc nofun
  case h_14 hpc =>
    obtain ⟨rfl, rfl⟩ := Prod.mk.inj (Option.some.inj h)
    have hexit := hin _ hpc nofun nofun
    split_ifs
    · obtain ⟨hstr, hsame⟩ := actionGetStrDesc_orderly hd
      exact hstr.at (hsame.trans hexit) .closeDev nofun
    · exact hd.at hexit .closeDev nofun
  case h_15 ok hpc =>
    split_ifs at h with hclose
    obtain ⟨rfl, rfl⟩ := Prod.mk.inj (Option.some.inj h)
    exact ⟨(acitonCloseDev_orderly hd hclose ok).goto .exit, nofun, fun _ => .inl rfl⟩
  case h_16 hpc =>
    split_ifs at h
    obtain ⟨rfl, rfl⟩ := Prod.mk.inj (Option.some.inj h)
    exact hd.at (hin _ hpc nofun nofun) .exit nofun
  case h_17 hpc =>
    split_ifs at h with hexit
    · obtain ⟨rfl, rfl⟩ := Prod.mk.inj (Option.some.inj h)
      exact ⟨hd.goto .start, nofun, fun _ => .inr rfl⟩
    · obtain ⟨rfl, rfl⟩ := Prod.mk.inj (Option.some.inj h)
      exact hd.at (by simpa using hexit) .loopTop nofun
  case h_18 => cases h

theorem Driver.enumerated_iff {d : Driver} : d.enumerated = true ↔
    ∃ k dev config, d.devHdl = some k ∧ d.devDesc = some ⟨k, dev⟩ ∧
      d.configDesc = some ⟨k, config⟩ := by
  constructor
  · intro h
    obtain ⟨hdev, hconfig⟩ := Bool.and_eq_true_iff.1 h
    unfold Driver.live at hdev hconfig
    split at hdev
    · rename_i p k hp hk
      rw [hk] at hconfig
      split at hconfig
      · rename_i q k' hq hk'
        cases hk'
        exact ⟨k, p.val, q.val, hk, by rw [hp, ← beq_iff_eq.1 hdev],
          by rw [hq, ← beq_iff_eq.1 hconfig]⟩
      · cases hconfig
    · cases hdev
  · rintro ⟨k, dev, config, hk, hdev, hconfig⟩
    simp [Driver.enumerated, Driver.live, hk, hdev, hconfig]

/-- A device stays enumerated over a step: its descriptors are not read again, the event loop is
not replaced and `device_busy` is not cleared. -/
theorem usbClassDriverTask_enumerated {lib : HostLib} {d d' : Driver} {a : DriverAction}
    {e : DriverEffect} (hd : d.Orderly) (hp : d.Placed) (hold : d.enumerated = true)
    (hnew : d'.enumerated = true) (h : usbClassDriverTask lib d a = some (d', e)) :
    d'.devInfo = d.devInfo ∧ d'.devDesc = d.devDesc ∧ d'.configDesc = d.configDesc ∧
      (e = .none ∨ e = .abort) := by
  obtain ⟨k, dev, config, hk, hdev, hconfig⟩ := Driver.enumerated_iff.1 hold
  have hopen : d.devHdl ≠ none := by rw [hk]; nofun
  have hread : ¬ d.actions.reading := fun hr => hd.unread hr _ hconfig hk
  have hstill : d'.devHdl ≠ none := by
    obtain ⟨k', -, -, hk', -⟩ := Driver.enumerated_iff.1 hnew
    rw [hk']
    nofun
  unfold usbClassDriverTask at h
  split at h
  case h_1 hpc =>
    obtain ⟨rfl, rfl⟩ := Prod.mk.inj (Option.some.inj h)
    exact absurd rfl hstill
  case h_2 hpc => exact absurd (hp.register hpc) hopen
  case h_4 ev hpc =>
    obtain ⟨rfl, rfl⟩ := Prod.mk.inj (Option.some.inj h)
    unfold clientEventCb
    split
    · split_ifs <;> exact ⟨rfl, rfl, rfl, .inl rfl⟩
    · split_ifs <;> exact ⟨rfl, rfl, rfl, .inl rfl⟩
    · exact ⟨rfl, rfl, rfl, .inr rfl⟩
  case h_6 ok hpc =>
    split_ifs at h
    obtain ⟨rfl, rfl⟩ := Prod.mk.inj (Option.some.inj h)
    unfold actionOpenDev
    split_ifs
    · exact ⟨rfl, rfl, rfl, .inr rfl⟩
    · exact ⟨rfl, rfl, rfl, .inl rfl⟩
    · exact ⟨rfl, rfl, rfl, .inl rfl⟩
  case h_8 info hpc =>
    split_ifs at h with hinfo
    exact absurd (.inl hinfo) hread
  case h_10 desc hpc =>
    split_ifs at h with hdesc
    exact absurd (.inr (.inl hdesc)) hread
  case h_12 desc claims hpc =>
    split_ifs at h with hcfg
    exact absurd (.inr (.inr hcfg)) hread
  case h_14 hpc =>
    obtain ⟨rfl, rfl⟩ := Prod.mk.inj (Option.some.inj h)
    split_ifs
    · unfold actionGetStrDesc
      split
      · exact ⟨rfl, rfl, rfl, .inl rfl⟩
      · exact ⟨rfl, rfl, rfl, .inr rfl⟩
    · exact ⟨rfl, rfl, rfl, .inl rfl⟩
  case h_15 ok hpc =>
    split_ifs at h
    obtain ⟨rfl, rfl⟩ := Prod.mk.inj (Option.some.inj h)
    cases ok with
    | true => exact absurd rfl hstill
    | false => exact ⟨rfl, rfl, rfl, .inr rfl⟩
  case h_17 hpc =>
    split_ifs at h with hexit
    · exact absurd (hd.leaving hexit) hopen
    · obtain ⟨rfl, rfl⟩ := Prod.mk.inj (Option.some.inj h)
      exact ⟨rfl, rfl, rfl, .inl rfl⟩
  case h_18 => cases h
  -- the steps past an action whose bit is clear, and round the loop
  all_goals
    try split_ifs at h
    all_goals
      obtain ⟨rfl, rfl⟩ := Prod.mk.inj (Option.some.inj h)
      exact ⟨rfl, rfl, rfl, .inl rfl⟩

theorem step_driver_eq {s t : Server} {a : Action} (h : step s a = some t)
    (ha : ∀ b, a ≠ .driver b) : t.driver = s.driver := by
  cases a with
  | tcp a =>
    obtain ⟨-, heff⟩ := tcpStep_effect h
    cases heff <;> rfl
  | loop1 a =>
    obtain ⟨-, heff⟩ := loop1Step_effect h
    cases heff <;> rfl
  | loop2 a =>
    obtain ⟨-, heff⟩ := loop2Step_effect h
    cases heff <;> rfl
  | host a =>
    obtain ⟨-, heff⟩ := hostStep_effect h
    cases heff <;> rfl
  | driver a => exact absurd rfl (ha a)

@[simp] theorem applyEffect_driver (s : Server) (e : DriverEffect) :
    (applyEffect s e).driver = s.driver := by
  cases e <;> rfl

theorem step_driver_or_other {s t : Server} {a : Action} (h : step s a = some t) :
    (∃ b e, a = .driver b ∧ usbClassDriverTask s.lib s.driver b = some (t.driver, e)) ∨
      (∀ b, a ≠ .driver b) ∧ t.driver = s.driver := by
  by_cases hdriver : ∃ b, a = .driver b
  · obtain ⟨b, rfl⟩ := hdriver
    obtain ⟨-, -, d, e, hd, rfl⟩ := driverStep_effect h
    refine .inl ⟨b, e, rfl, ?_⟩
    rwa [applyEffect_driver]
  · have hother : ∀ b, a ≠ .driver b := fun b hb => hdriver ⟨b, hb⟩
    exact .inr ⟨hother, step_driver_eq h hother⟩

theorem step_orderly {s t : Server} {a : Action} (hs : s.driver.Orderly ∧ s.driver.Placed)
    (h : step s a = some t) : t.driver.Orderly ∧ t.driver.Placed := by
  rcases step_driver_or_other h with ⟨b, e, rfl, hd⟩ | ⟨-, heq⟩
  · exact usbClassDriverTask_orderly hs.1 hs.2 hd
  · rwa [heq]

theorem Reachable.orderly {s : Server} (h : Reachable s) :
    s.driver.Orderly ∧ s.driver.Placed := by
  refine h.invariant (fun _ _ _ _ _ _ => ?_) fun _ _ _ hs => step_orderly hs
  have hread : ¬ Driver.boot.actions.reading := by simp [Driver.boot, Actions.reading]
  exact ⟨⟨nofun, fun h => absurd h hread, nofun, nofun, Actions.single_of_not_reading hread,
    fun h => absurd rfl h, nofun, nofun, nofun⟩, nofun, nofun⟩

/-- The device is not removed: it is enumerated behind every step of the class driver. -/
def StaysEnumerated (s : Server) : Action → Prop
  | .driver a =>
      match usbClassDriverTask s.lib s.driver a with
      | some (d, _) => d.enumerated = true
      | none => True
  | _ => True

instance (s : Server) (a : Action) : Decidable (StaysEnumerated s a) := by
  unfold StaysEnumerated
  split
  · split <;> infer_instance
  · infer_instance

theorem step_enumerated {s t : Server} {a : Action} (hs : s.driver.enumerated = true)
    (ha : StaysEnumerated s a) (h : step s a = some t) : t.driver.enumerated = true := by
  rcases step_driver_or_other h with ⟨b, e, rfl, hd⟩ | ⟨-, heq⟩
  · simpa only [StaysEnumerated, hd] using ha
  · rwa [heq]

end UsbRepeater
