import UsbRepeater.ActionLoop

/-! What the class driver does after a device has failed. `action_open_dev` keeps the address of a
device it could not open, and an address that is set keeps the next device out. -/
namespace UsbRepeater

open Schedule

structure Driver.Waits (d : Driver) : Prop where
  place : d.pc = .loopTop
  idle : d.actions = {}
  closed : d.devHdl = none

def OpensSucceed (_ : Server) : Action → Prop
  | .driver (.openDev ok) => ok = true
  | _ => True

instance (s : Server) : ∀ a, Decidable (OpensSucceed s a)
  | .driver (.openDev ok) => inferInstanceAs (Decidable (ok = true))
  | .driver .run | .driver (.clientEvent _) | .driver (.getInfo _) | .driver (.getDevDesc _)
  | .driver (.getConfigDesc _ _) | .driver (.closeDev _) | .tcp _ | .loop1 _ | .loop2 _
  | .host _ => isTrue trivial

def Driver.Clean (d : Driver) : Prop :=
  d.devHdl = none → d.devAddr ≠ 0 → d.actions.openDev = true

theorem clientEventCb_clean {d : Driver} (hd : d.Clean) (e : ClientEvent) :
    (clientEventCb d e).1.Clean := by
  cases e with
  | newDev address =>
    unfold clientEventCb
    dsimp only
    split_ifs
    · exact fun _ _ => rfl
    · exact hd
  | devGone =>
    unfold clientEventCb
    dsimp only
    split_ifs with hopen
    · intro hclosed
      rw [hclosed] at hopen
      cases hopen
    · exact hd
  | other => exact hd

theorem actionOpenDev_clean {d : Driver} (hd : d.Clean) : (actionOpenDev d true).1.Clean := by
  unfold actionOpenDev
  by_cases hzero : d.devAddr = 0
  · rw [if_pos hzero]
    exact hd
  · rw [if_neg hzero, if_pos rfl]
    intro hclosed
    cases hclosed

theorem acitonCloseDev_clean {d : Driver} (hd : d.Clean) (ok : Bool) :
    (acitonCloseDev d ok).1.Clean := by
  unfold acitonCloseDev
  split_ifs
  · exact fun _ haddr => absurd rfl haddr
  · exact hd

theorem usbClassDriverTask_clean {lib : HostLib} {d d' : Driver} {a : DriverAction}
    {e : DriverEffect} (hd : d.Clean) (ha : a ≠ .openDev false)
    (h : usbClassDriverTask lib d a = some (d', e)) : d'.Clean := by
  unfold usbClassDriverTask at h
  split at h
  case h_1 hpc =>
    obtain ⟨rfl, -⟩ := Prod.mk.inj (Option.some.inj h)
    exact fun _ haddr => absurd rfl haddr
  case h_4 ev hpc =>
    obtain ⟨rfl, -⟩ := Prod.mk.inj (Option.some.inj h)
    exact clientEventCb_clean hd ev
  case h_6 ok hpc =>
    split_ifs at h
    obtain ⟨rfl, -⟩ := Prod.mk.inj (Option.some.inj h)
    cases ok with
    | false => exact absurd rfl ha
    | true => exact actionOpenDev_clean hd
  case h_8 info hpc =>
    split_ifs at h
    obtain ⟨rfl, -⟩ := Prod.mk.inj (Option.some.inj h)
    unfold actionGetInfo
    split <;> exact hd
  case h_10 desc hpc =>
    split_ifs at h
    obtain ⟨rfl, -⟩ := Prod.mk.inj (Option.some.inj h)
    unfold actionGetDevDesc
    split <;> exact hd
  case h_12 desc claims hpc =>
    split_ifs at h
    obtain ⟨rfl, -⟩ := Prod.mk.inj (Option.some.inj h)
    unfold actionGetConfigDesc
    split <;> exact hd
  case h_14 hpc =>
    obtain ⟨rfl, -⟩ := Prod.mk.inj (Option.some.inj h)
    split_ifs
    · unfold actionGetStrDesc
      split <;> exact hd
    · exact hd
  case h_15 ok hpc =>
    split_ifs at h
    obtain ⟨rfl, -⟩ := Prod.mk.inj (Option.some.inj h)
    exact acitonCloseDev_clean hd ok
  case h_18 => cases h
  all_goals
    try split_ifs at h
    all_goals
      obtain ⟨rfl, -⟩ := Prod.mk.inj (Option.some.inj h)
      exact hd

theorem step_clean {s t : Server} {a : Action} (hs : s.driver.Clean) (ha : OpensSucceed s a)
    (h : step s a = some t) : t.driver.Clean := by
  rcases step_driver_or_other h with ⟨b, e, rfl, hd⟩ | ⟨-, heq⟩
  · refine usbClassDriverTask_clean hs ?_ hd
    rintro rfl
    exact Bool.false_ne_true ha
  · rwa [heq]

structure Driver.Stuck (d : Driver) : Prop where
  address : d.devAddr ≠ 0
  closed : d.devHdl = none
  opening : d.actions.openDev = false
  reading : ¬ d.actions.reading
  closing : d.actions.closeDev = false
  leaving : d.actions.exit = false
  place : d.pc ≠ .start

theorem Driver.Stuck.goto {d : Driver} (hd : d.Stuck) {pc : DriverPc} (hpc : pc ≠ .start) :
    Driver.Stuck { d with pc := pc } :=
  ⟨hd.address, hd.closed, hd.opening, hd.reading, hd.closing, hd.leaving, hpc⟩

theorem clientEventCb_stuck {d : Driver} (hd : d.Stuck) (e : ClientEvent) :
    (clientEventCb d e).1 = d := by
  cases e with
  | newDev address => exact congrArg Prod.fst (if_neg hd.address)
  | devGone =>
    unfold clientEventCb
    dsimp only
    rw [hd.closed]
    rfl
  | other => rfl

theorem usbClassDriverTask_stuck {lib : HostLib} {d d' : Driver} {a : DriverAction}
    {e : DriverEffect} (hd : d.Stuck) (h : usbClassDriverTask lib d a = some (d', e)) :
    d'.Stuck := by
  unfold usbClassDriverTask at h
  split at h
  case h_1 hpc => exact absurd hpc hd.place
  case h_2 hpc =>
    obtain ⟨rfl, -⟩ := Prod.mk.inj (Option.some.inj h)
    have hnext : DriverPc.loopTop ≠ .start := by decide
    exact ⟨hd.address, hd.closed, hd.opening, hd.reading, hd.closing, hd.leaving, hnext⟩
  case h_4 ev hpc =>
    obtain ⟨rfl, -⟩ := Prod.mk.inj (Option.some.inj h)
    rw [clientEventCb_stuck hd ev]
    exact hd.goto (by decide)
  case h_6 ok hpc =>
    rw [hd.opening] at h
    cases h
  case h_8 info hpc =>
    split_ifs at h with hbit
    exact absurd (.inl hbit) hd.reading
  case h_10 desc hpc =>
    split_ifs at h with hbit
    exact absurd (.inr (.inl hbit)) hd.reading
  case h_12 desc claims hpc =>
    split_ifs at h with hbit
    exact absurd (.inr (.inr hbit)) hd.reading
  case h_14 hpc =>
    have hsame : (if d.actions.getStrDesc then actionGetStrDesc d else (d, .none)).1 = d := by
      split_ifs
      · unfold actionGetStrDesc
        rw [hd.closed]
      · rfl
    obtain ⟨rfl, -⟩ := Prod.mk.inj (Option.some.inj h)
    rw [hsame]
    exact hd.goto (by decide)
  case h_15 ok hpc =>
    rw [hd.closing] at h
    cases h
  case h_17 hpc =>
    rw [hd.leaving] at h
    obtain ⟨rfl, -⟩ := Prod.mk.inj (Option.some.inj h)
    exact hd.goto (by decide)
  case h_18 => cases h
  all_goals
    try split_ifs at h
    all_goals
      obtain ⟨rfl, -⟩ := Prod.mk.inj (Option.some.inj h)
      refine hd.goto ?_
      decide

theorem step_stuck {s t : Server} {a : Action} (hs : s.driver.Stuck) (h : step s a = some t) :
    t.driver.Stuck := by
  rcases step_driver_or_other h with ⟨b, e, rfl, hd⟩ | ⟨-, heq⟩
  · exact usbClassDriverTask_stuck hs hd
  · rwa [heq]

theorem usbClassDriverTask_openFailed {lib : HostLib} {d d' : Driver} {e : DriverEffect}
    (h : usbClassDriverTask lib d (.openDev false) = some (d', e)) :
    d.pc = .openDev ∧ d.actions.openDev = true ∧
      (d.devAddr = 0 ∧ e = .abort ∧ d'.pc = .getInfo ∨ d.devAddr ≠ 0 ∧
        d' = { d with pc := .getInfo, actions := { d.actions with openDev := false } }) := by
  unfold usbClassDriverTask at h
  split at h
  case h_6 ok hpc heq =>
    obtain rfl : false = ok := by simpa using heq
    split_ifs at h with hbit
    obtain ⟨rfl, rfl⟩ := Prod.mk.inj (Option.some.inj h)
    refine ⟨hpc, hbit, ?_⟩
    unfold actionOpenDev
    by_cases hzero : d.devAddr = 0
    · rw [if_pos hzero]
      exact .inl ⟨hzero, rfl, rfl⟩
    · rw [if_neg hzero]
      exact .inr ⟨hzero, rfl⟩
  all_goals simp_all

theorem step_openFailed {s t : Server} {a : Action} (hs : Reachable s) (ha : ¬ OpensSucceed s a)
    (h : step s a = some t) :
    t.driver.Stuck ∨ t.crashed = true ∧ t.driver.pc = .getInfo := by
  cases a with
  | driver b =>
    cases b with
    | openDev ok =>
      cases ok with
      | true => exact absurd rfl ha
      | false =>
        obtain ⟨horderly, hplaced⟩ := hs.orderly
        obtain ⟨-, -, d, e, hd, rfl⟩ := driverStep_effect h
        obtain ⟨hpc, hbit, ⟨-, rfl, hnext⟩ | ⟨haddr, rfl⟩⟩ := usbClassDriverTask_openFailed hd
        · exact .inr ⟨rfl, hnext⟩
        · have hclosed := horderly.opening hbit
          have hexit := hplaced.exit_eq_false (by rw [hpc]; decide) (by rw [hpc]; decide)
          have hnext : DriverPc.getInfo ≠ .start := by decide
          rw [applyEffect_driver]
          refine .inl ⟨haddr, hclosed, rfl, fun hread => horderly.reading hread hclosed, ?_, hexit,
            hnext⟩
          by_contra hclosing
          exact (horderly.closing (by simpa using hclosing)).1 hclosed
    | _ => exact absurd trivial ha
  | _ => exact absurd trivial ha

section Boot

variable {lib : HostLib} {devRecv header cmdSubmit transferBuffer cmdUnlink : Bytes}

/-- Whenever the driver is about to wait with no device open, the address is free for the next
device exactly if every device of the run could be opened. -/
theorem recovers_iff_opensSucceed {as : List Action} {t : Server}
    (h : run (.boot lib devRecv header cmdSubmit transferBuffer cmdUnlink) as = some t)
    (hwaits : t.driver.Waits) :
    t.driver.devAddr = 0 ↔ Always step OpensSucceed
      (.boot lib devRecv header cmdSubmit transferBuffer cmdUnlink) as := by
  constructor
  · intro hfree
    by_contra hfailed
    obtain ⟨pre, a, post, u, v, hpre, ha, hstep, hpost⟩ := exists_of_not_always hfailed h
    rcases step_openFailed ⟨_, _, _, _, _, _, _, hpre⟩ ha hstep with hstuck | ⟨hcrashed, hpc⟩
    · have hend := exec_invariant_all (I := fun x : Server => x.driver.Stuck)
        (fun _ _ _ => step_stuck) hstuck hpost
      exact hend.address hfree
    · cases post with
      | nil =>
        obtain rfl : v = t := Option.some.inj hpost
        rw [hwaits.place] at hpc
        cases hpc
      | cons b post =>
        obtain ⟨w, hw, -⟩ := exec_cons.1 hpost
        rw [step_running hw] at hcrashed
        cases hcrashed
  · intro hopens
    have hclean := exec_invariant (I := fun x : Server => x.driver.Clean)
      (fun _ _ _ => step_clean) (fun _ haddr => absurd rfl haddr) hopens h
    by_contra haddr
    have hopen := hclean hwaits.closed haddr
    rw [hwaits.idle] at hopen
    cases hopen

end Boot

def AlwaysRecovers : Prop :=
  ∀ as t, run coldBoot as = some t → t.driver.Waits → t.driver.devAddr = 0

def arriving (opened : Bool) : List Action :=
  [.run, .run, .run, .clientEvent (.newDev 1), .run, .run, .openDev opened].map Action.driver

def passing : List Action := List.replicate 6 (.driver .run)

theorem unopened_device_blocks : ¬ AlwaysRecovers := by
  intro hall
  have hrun : (run coldBoot (arriving false ++ passing)).map (fun t =>
      decide (t.driver.pc = .loopTop ∧ t.driver.actions = {} ∧ t.driver.devHdl = none ∧
        t.driver.devAddr = 1)) = some true := by
    decide +kernel
  obtain ⟨t, ht, hstate⟩ := Option.map_eq_some_iff.1 hrun
  obtain ⟨hpc, hactions, hclosed, haddr⟩ := of_decide_eq_true hstate
  have hfree := hall _ t ht ⟨hpc, hactions, hclosed⟩
  rw [haddr] at hfree
  exact absurd hfree (by decide)

theorem recovers_iff_opensSucceed_replug : ∃ t,
    run coldBoot (keyboardEnumeration ++ unplugging ++ [.driver .run, .driver .run]) = some t ∧
      t.driver.Waits ∧ t.driver.devAddr = 0 := by
  have hrun : (run coldBoot (keyboardEnumeration ++ unplugging ++
      [.driver .run, .driver .run])).map (fun t =>
        decide (t.driver.pc = .loopTop ∧ t.driver.actions = {} ∧ t.driver.devHdl = none)) =
          some true := by
    decide +kernel
  obtain ⟨t, ht, hstate⟩ := Option.map_eq_some_iff.1 hrun
  obtain ⟨hpc, hactions, hclosed⟩ := of_decide_eq_true hstate
  have hopens : Always step OpensSucceed coldBoot
      (keyboardEnumeration ++ unplugging ++ [.driver .run, .driver .run]) := by
    decide +kernel
  exact ⟨t, ht, ⟨hpc, hactions, hclosed⟩,
    (recovers_iff_opensSucceed ht ⟨hpc, hactions, hclosed⟩).2 hopens⟩

end UsbRepeater
