import UsbRepeater.Lib.Potential
import UsbRepeater.Replies
import UsbRepeater.LostRequests
import UsbRepeater.Enumeration
import UsbRepeater.Lib.Fifo

/-! The way of the requests comes to rest. Each SUBMIT posted costs the event loops, the host
library and the callbacks a bounded number of steps, however the other tasks interleave; and left
alone they go on until nothing is queued, handled, in flight or completing. -/
namespace UsbRepeater

open Schedule Fifo

/-- The steps a request may still take from here on, its completion included. -/
def Handler2.work : Handler2 → ℕ
  | .entry _ => 10
  | .filled _ _ => 9
  | .sktSet _ _ => 8
  | .allocated _ => 7
  | .checked _ => 6
  | .built _ => 5
  | .accepted _ => 1

def Callback.work (c : Callback) : ℕ := if c.cleared then 1 else 2

def Server.work (s : Server) : ℕ :=
  11 * s.loop2.queue.length + (s.loop2.handlers.map fun x => x.2.work).sum +
    3 * s.inFlight.length + (s.callback.map Callback.work).getD 0

def Action.handling : Action → Bool
  | .loop2 _ | .host _ => true
  | _ => false

theorem length_eraseIdx_add_one {α : Type*} {xs : List α} {i : ℕ} {x : α} (h : xs[i]? = some x) :
    (xs.eraseIdx i).length + 1 = xs.length := by
  have hlt := (List.getElem?_eq_some_iff.1 h).1
  rw [List.length_eraseIdx, if_pos hlt]
  omega

section Payments

variable {s : Server} {j l : ℕ} {h : Handler2}

theorem work_setHandler2 (hj : s.loop2.handlers[j]? = some (l, h)) (h' : Handler2) :
    (s.setHandler2 j h').work + h.work = s.work + h'.work := by
  have hsum := sum_map_modify (f := fun x : ℕ × Handler2 => x.2.work)
    (g := fun x => (x.1, h')) hj
  simp only [Server.work, Server.setHandler2] at hsum ⊢
  omega

theorem work_endHandler2 (hj : s.loop2.handlers[j]? = some (l, h)) :
    (s.endHandler2 j).work + h.work = s.work := by
  have hsum := sum_map_eraseIdx (f := fun x : ℕ × Handler2 => x.2.work) hj
  simp only [Server.work, Server.endHandler2] at hsum ⊢
  omega

theorem Loop2Effect.work {t : Server} {a : Loop2Action} (h : Loop2Effect s a t) :
    t.work + 1 ≤ s.work := by
  cases h with
  | dispatch i l ev hi =>
    have hlen := length_eraseIdx_add_one hi
    simp only [Server.work, List.map_append, List.map_cons, List.map_nil, List.sum_append,
      List.sum_cons, List.sum_nil, Handler2.work]
    omega
  | noReply j l ev hj | noTransfer j l ev ret hj | pending j l tr hj hep hp
  | rejected j l tr hj | setPending j l ep hj =>
    have hend := work_endHandler2 hj
    simp only [Server.work, Server.drop2, Server.endHandler2, Handler2.work] at *
    omega
  | fill j l ev heap hj =>
    have hset := work_setHandler2 hj (.filled ev (fillRetSubmit ev heap))
    simp only [Server.work, Server.setHandler2, Handler2.work] at *
    omega
  | setSkt j l ev ret hj =>
    have hset := work_setHandler2 hj (.sktSet ev ret)
    simp only [Server.work, Server.setHandler2, Handler2.work] at *
    omega
  | alloc j l ev ret heap hj =>
    have hset := work_setHandler2 hj
      (.allocated (allocTransfer ev ret heap s.driver.devHdl))
    simp only [Server.work, Server.setHandler2, Handler2.work] at *
    omega
  | control j l tr hj hep =>
    have hset := work_setHandler2 hj (.built (buildControl tr))
    simp only [Handler2.work] at hset
    omega
  | checked j l tr hj hep hp =>
    have hset := work_setHandler2 hj (.checked tr)
    simp only [Handler2.work] at hset
    omega
  | build j l tr beyond hj =>
    have hset := work_setHandler2 hj
      (.built (buildBulk s.lib s.driver.mps beyond tr))
    simp only [Handler2.work] at hset
    omega
  | submitControl j l tr hj hc =>
    have hend := work_endHandler2 hj
    simp only [Server.work, Server.endHandler2, Handler2.work, List.length_append,
      List.length_singleton] at *
    omega
  | submitBulk j l tr hj hc =>
    have hset := work_setHandler2 hj (.accepted tr.ev.header.ep)
    simp only [Server.work, Server.setHandler2, Handler2.work, List.length_append,
      List.length_singleton] at *
    omega

theorem HostEffect.work {t : Server} {a : HostAction} (h : HostEffect s a t) :
    t.work + 1 ≤ s.work := by
  cases h with
  | complete i tr status n data hcb hi =>
    have hlen := length_eraseIdx_add_one hi
    simp only [Server.work, hcb, Option.map_none, Option.map_some, Option.getD_none,
      Option.getD_some, Callback.work, Bool.false_eq_true, if_false]
    omega
  | clear c hcb hcl =>
    simp only [Server.work, hcb, Option.map_some, Option.getD_some, Callback.work, hcl,
      Bool.false_eq_true, if_false, if_true]
    omega
  | silent c heap r hcb hr | reply c conn heap r n hcb hskt hconn hnum hn hr =>
    have hpos : 0 < c.work := by
      unfold Callback.work
      split_ifs <;> decide
    simp only [Server.work, Server.endCallback, Server.silence, Server.emit, hcb,
      Option.map_none, Option.map_some, Option.getD_none, Option.getD_some]
    omega

end Payments

/-- A step of the pipeline takes work off, each SUBMIT posted brings its own, and the rest of the
firmware leaves it alone. -/
theorem step_work {s t : Server} {a : Action} (h : step s a = some t) :
    t.work + a.handling.toNat + 11 * s.history.posted.length ≤
      s.work + 11 * t.history.posted.length := by
  cases a with
  | tcp a =>
    obtain ⟨-, heff⟩ := tcpStep_effect h
    cases heff with
    | postSubmit tcp htcp hpc hloop =>
      simp only [Server.work, List.length_append, List.length_singleton, Action.handling,
        Bool.toNat_false]
      omega
    | _ => exact le_rfl
  | loop1 a =>
    obtain ⟨-, heff⟩ := loop1Step_effect h
    cases heff <;> exact le_rfl
  | loop2 a =>
    obtain ⟨-, heff⟩ := loop2Step_effect h
    have hext := (step_extends h).posted.length_le
    have hpaid := heff.work
    simp only [Action.handling, Bool.toNat_true]
    omega
  | host a =>
    obtain ⟨-, heff⟩ := hostStep_effect h
    have hext := (step_extends h).posted.length_le
    have hpaid := heff.work
    simp only [Action.handling, Bool.toNat_true]
    omega
  | driver a =>
    obtain ⟨-, -, d, e, -, rfl⟩ := driverStep_effect h
    cases e <;> exact le_rfl

section Boot

variable {lib : HostLib} {devRecv header cmdSubmit transferBuffer cmdUnlink : Bytes}

/-- Over any run the event loops of the SUBMITs, the host library and the callbacks take at most
eleven steps for each SUBMIT posted, and fewer by what is still to be done. -/
theorem handling_le_posted {as : List Action} {t : Server}
    (h : run (.boot lib devRecv header cmdSubmit transferBuffer cmdUnlink) as = some t) :
    as.countP Action.handling + t.work ≤ 11 * t.history.posted.length := by
  have hpay : ∀ s a t, step s a = some t → t.work + a.handling.toNat +
      11 * s.history.posted.length ≤ s.work + 11 * t.history.posted.length :=
    fun _ _ _ => step_work
  have hearned := exec_earned (g := fun s : Server => 11 * s.history.posted.length) hpay h
  have hwork : (Server.boot lib devRecv header cmdSubmit transferBuffer cmdUnlink).work = 0 := rfl
  omega

end Boot

theorem handling_le_posted_descriptor : ∃ t, run coldBoot descriptorSession = some t ∧
    descriptorSession.countP Action.handling = 9 ∧ t.history.posted.length = 1 ∧
      descriptorSession.countP Action.handling + t.work ≤ 11 * t.history.posted.length := by
  have hrun : (run coldBoot descriptorSession).map (fun t => t.history.posted.length) =
      some 1 := by
    decide +kernel
  obtain ⟨t, ht, hposted⟩ := Option.map_eq_some_iff.1 hrun
  exact ⟨t, ht, by decide +kernel, hposted, handling_le_posted ht⟩

def DriverPc.swept (pc : DriverPc) (a : Actions) : Prop :=
  match pc with
  | .getInfo => a.openDev = false
  | .getDevDesc => a.openDev = false ∧ a.getDevInfo = false
  | .getConfigDesc => a.openDev = false ∧ a.getDevInfo = false ∧ a.getDevDesc = false
  | .getStrDesc => a.openDev = false ∧ a.getDevInfo = false ∧ a.getDevDesc = false ∧
      a.getConfigDesc = false
  | .closeDev => a.openDev = false ∧ a.getDevInfo = false ∧ a.getDevDesc = false ∧
      a.getConfigDesc = false ∧ a.getStrDesc = false
  | .exit => a.openDev = false ∧ a.getDevInfo = false ∧ a.getDevDesc = false ∧
      a.getConfigDesc = false ∧ a.getStrDesc = false ∧ a.closeDev = false
  | _ => True

theorem Actions.eq_none_of_swept {a : Actions} (h : DriverPc.swept .exit a)
    (hexit : a.exit = false) : a = {} := by
  obtain ⟨hopen, hinfo, hdev, hconfig, hstr, hclose⟩ := h
  cases a
  simp only [Actions.mk.injEq] at *
  exact ⟨hopen, hinfo, hdev, hconfig, hstr, hclose, hexit⟩

def Driver.distance (d : Driver) : ℕ :=
  match d.pc with
  | .start | .handleEvents => 0
  | .register => 11
  | .loopTop => if d.actions = {} then 1 else 10
  | .openDev => 9
  | .getInfo => 8
  | .getDevDesc => 7
  | .getConfigDesc => 6
  | .getStrDesc => 5
  | .closeDev => 4
  | .exit => 3

theorem actionOpenDev_swept (d : Driver) (ok : Bool) :
    (actionOpenDev d ok).2 = .abort ∨ DriverPc.swept .getInfo (actionOpenDev d ok).1.actions := by
  unfold actionOpenDev
  split_ifs
  · exact .inl rfl
  · exact .inr rfl
  · exact .inr rfl

theorem actionGetInfo_swept {d : Driver} (hd : DriverPc.swept .getInfo d.actions)
    (info : Option UsbDeviceInfo) : (actionGetInfo d info).2 = .abort ∨
      DriverPc.swept .getDevDesc (actionGetInfo d info).1.actions := by
  unfold actionGetInfo
  split
  · exact .inl rfl
  · exact .inr ⟨hd, rfl⟩
  · exact .inr ⟨hd, rfl⟩

theorem actionGetDevDesc_swept {d : Driver} (hd : DriverPc.swept .getDevDesc d.actions)
    (desc : Option UsbDeviceDesc) : (actionGetDevDesc d desc).2 = .abort ∨
      DriverPc.swept .getConfigDesc (actionGetDevDesc d desc).1.actions := by
  unfold actionGetDevDesc
  split
  · exact .inl rfl
  · exact .inr ⟨hd.1, hd.2, rfl⟩
  · exact .inr ⟨hd.1, hd.2, rfl⟩

theorem actionGetConfigDesc_swept {lib : HostLib} {d : Driver}
    (hd : DriverPc.swept .getConfigDesc d.actions) (desc : Option UsbConfigDesc)
    (claims : List Bool) : (actionGetConfigDesc lib d desc claims).2 = .abort ∨
      DriverPc.swept .getStrDesc (actionGetConfigDesc lib d desc claims).1.actions := by
  obtain ⟨hopen, hinfo, hdev⟩ := hd
  unfold actionGetConfigDesc
  split
  · exact .inl rfl
  · exact .inr ⟨hopen, hinfo, hdev, rfl⟩
  · exact .inr ⟨hopen, hinfo, hdev, rfl⟩

theorem actionGetStrDesc_swept {d : Driver} (hd : DriverPc.swept .getStrDesc d.actions) :
    (actionGetStrDesc d).2 = .abort ∨
      DriverPc.swept .closeDev (actionGetStrDesc d).1.actions := by
  obtain ⟨hopen, hinfo, hdev, hconfig⟩ := hd
  unfold actionGetStrDesc
  split
  · exact .inr ⟨hopen, hinfo, hdev, hconfig, rfl⟩
  · exact .inl rfl

theorem acitonCloseDev_swept {d : Driver} (hd : DriverPc.swept .closeDev d.actions) (ok : Bool) :
    (acitonCloseDev d ok).2 = .abort ∨ DriverPc.swept .exit (acitonCloseDev d ok).1.actions := by
  obtain ⟨hopen, hinfo, hdev, hconfig, hstr⟩ := hd
  unfold acitonCloseDev
  split_ifs
  · exact .inr ⟨hopen, hinfo, hdev, hconfig, hstr, rfl⟩
  · exact .inl rfl

/-- One step of the action loop: it has aborted, or it is a place further and has taken care of
that place's bit. -/
theorem usbClassDriverTask_swept {lib : HostLib} {d d' : Driver} {a : DriverAction}
    {e : DriverEffect} (hd : d.pc.swept d.actions)
    (h : usbClassDriverTask lib d a = some (d', e)) :
    e = .abort ∨ d'.pc.swept d'.actions ∧
      (d.pc ≠ .handleEvents → d.pc ≠ .start → d'.distance + 1 ≤ d.distance) := by
  unfold usbClassDriverTask at h
  split at h
  case h_1 hpc =>
    obtain ⟨rfl, rfl⟩ := Prod.mk.inj (Option.some.inj h)
    exact .inr ⟨trivial, fun _ hne => absurd hpc hne⟩
  case h_2 hpc =>
    obtain ⟨rfl, rfl⟩ := Prod.mk.inj (Option.some.inj h)
    refine .inr ⟨trivial, fun _ _ => ?_⟩
    simp only [Driver.distance, hpc]
    split_ifs <;> decide
  case h_3 hpc =>
    split_ifs at h with hnone
    · obtain ⟨rfl, rfl⟩ := Prod.mk.inj (Option.some.inj h)
      exact .inr ⟨trivial, fun _ _ => by simp [Driver.distance, hpc, hnone]⟩
    · obtain ⟨rfl, rfl⟩ := Prod.mk.inj (Option.some.inj h)
      exact .inr ⟨trivial, fun _ _ => by simp [Driver.distance, hpc, hnone]⟩
  case h_4 ev hpc =>
    obtain ⟨rfl, rfl⟩ := Prod.mk.inj (Option.some.inj h)
    exact .inr ⟨trivial, fun hne => absurd hpc hne⟩
  case h_5 hpc =>
    obtain ⟨rfl, rfl⟩ := Prod.mk.inj (Option.some.inj h)
    exact .inr ⟨trivial, fun hne => absurd hpc hne⟩
  case h_6 ok hpc =>
    split_ifs at h
    obtain ⟨rfl, rfl⟩ := Prod.mk.inj (Option.some.inj h)
    refine (actionOpenDev_swept d ok).imp_right fun hs => ⟨hs, fun _ _ => ?_⟩
    simp [Driver.distance, hpc]
  case h_7 hpc =>
    split_ifs at h with hbit
    obtain ⟨rfl, rfl⟩ := Prod.mk.inj (Option.some.inj h)
    exact .inr ⟨Bool.eq_false_iff.2 hbit, fun _ _ => by simp [Driver.distance, hpc]⟩
  case h_8 info hpc =>
    rw [hpc] at hd
    split_ifs at h
    obtain ⟨rfl, rfl⟩ := Prod.mk.inj (Option.some.inj h)
    refine (actionGetInfo_swept hd info).imp_right fun hs => ⟨hs, fun _ _ => ?_⟩
    simp [Driver.distance, hpc]
  case h_9 hpc =>
    rw [hpc] at hd
    split_ifs at h with hbit
    obtain ⟨rfl, rfl⟩ := Prod.mk.inj (Option.some.inj h)
    exact .inr ⟨⟨hd, Bool.eq_false_iff.2 hbit⟩, fun _ _ => by simp [Driver.distance, hpc]⟩
  case h_10 desc hpc =>
    rw [hpc] at hd
    split_ifs at h
    obtain ⟨rfl, rfl⟩ := Prod.mk.inj (Option.some.inj h)
    refine (actionGetDevDesc_swept hd desc).imp_right fun hs => ⟨hs, fun _ _ => ?_⟩
    simp [Driver.distance, hpc]
  case h_11 hpc =>
    rw [hpc] at hd
    split_ifs at h with hbit
    obtain ⟨rfl, rfl⟩ := Prod.mk.inj (Option.some.inj h)
    exact .inr ⟨⟨hd.1, hd.2, Bool.eq_false_iff.2 hbit⟩,
      fun _ _ => by simp [Driver.distance, hpc]⟩
  case h_12 desc claims hpc =>
    rw [hpc] at hd
    split_ifs at h
    obtain ⟨rfl, rfl⟩ := Prod.mk.inj (Option.some.inj h)
    refine (actionGetConfigDesc_swept hd desc claims).imp_right fun hs => ⟨hs, fun _ _ => ?_⟩
    simp [Driver.distance, hpc]
  case h_13 hpc =>
    rw [hpc] at hd
    obtain ⟨hopen, hinfo, hdev⟩ := hd
    split_ifs at h with hbit
    obtain ⟨rfl, rfl⟩ := Prod.mk.inj (Option.some.inj h)
    exact .inr ⟨⟨hopen, hinfo, hdev, Bool.eq_false_iff.2 hbit⟩,
      fun _ _ => by simp [Driver.distance, hpc]⟩
  case h_14 hpc =>
    rw [hpc] at hd
    obtain ⟨rfl, rfl⟩ := Prod.mk.inj (Option.some.inj h)
    split_ifs with hbit
    · refine (actionGetStrDesc_swept hd).imp_right fun hs => ⟨hs, fun _ _ => ?_⟩
      simp [Driver.distance, hpc]
    · obtain ⟨hopen, hinfo, hdev, hconfig⟩ := hd
      exact .inr ⟨⟨hopen, hinfo, hdev, hconfig, Bool.eq_false_iff.2 hbit⟩,
        fun _ _ => by simp [Driver.distance, hpc]⟩
  case h_15 ok hpc =>
    rw [hpc] at hd
    split_ifs at h
    obtain ⟨rfl, rfl⟩ := Prod.mk.inj (Option.some.inj h)
    refine (acitonCloseDev_swept hd ok).imp_right fun hs => ⟨hs, fun _ _ => ?_⟩
    simp [Driver.distance, hpc]
  case h_16 hpc =>
    rw [hpc] at hd
    obtain ⟨hopen, hinfo, hdev, hconfig, hstr⟩ := hd
    split_ifs at h with hbit
    obtain ⟨rfl, rfl⟩ := Prod.mk.inj (Option.some.inj h)
    exact .inr ⟨⟨hopen, hinfo, hdev, hconfig, hstr, Bool.eq_false_iff.2 hbit⟩,
      fun _ _ => by simp [Driver.distance, hpc]⟩
  case h_17 hpc =>
    rw [hpc] at hd
    obtain ⟨hopen, hinfo, hdev, hconfig, hstr, hclose⟩ := hd
    split_ifs at h with hexit
    · obtain ⟨rfl, rfl⟩ := Prod.mk.inj (Option.some.inj h)
      exact .inr ⟨trivial, fun _ _ => by simp [Driver.distance, hpc]⟩
    · obtain ⟨rfl, rfl⟩ := Prod.mk.inj (Option.some.inj h)
      have hnone : d.actions = {} := Actions.eq_none_of_swept
        ⟨hopen, hinfo, hdev, hconfig, hstr, hclose⟩ (Bool.eq_false_iff.2 hexit)
      exact .inr ⟨trivial, fun _ _ => by simp [Driver.distance, hpc, hnone]⟩
  case h_18 => cases h

/-- The steps that go on with requests already posted, and the way of the class driver to its
events. At the start of its outer loop the class driver waits for the semaphore. -/
def Settling (s : Server) : Action → Prop
  | .loop2 _ | .host _ => True
  | .driver _ => s.driver.pc ≠ .handleEvents ∧ s.driver.pc ≠ .start
  | _ => False

/-- The firmware has stopped, or nothing is queued, handled or completing, and transfers are in
flight only while the class driver waits for the semaphore. -/
def Server.Settled (s : Server) : Prop :=
  s.crashed = true ∨ s.loop2.queue = [] ∧ s.loop2.handlers = [] ∧ s.callback = none ∧
    (s.driver.pc = .handleEvents ∧ s.inFlight = [] ∨ s.driver.pc = .start)

def Server.load (s : Server) : ℕ := if s.crashed then 0 else s.work + s.driver.distance

def Server.Swept (s : Server) : Prop :=
  s.crashed = true ∨ s.driver.pc.swept s.driver.actions

theorem Server.load_of_running {s : Server} (h : s.crashed = false) :
    s.load = s.work + s.driver.distance := by
  rw [Server.load, h]
  rfl

theorem Server.load_le (s : Server) : s.load ≤ s.work + s.driver.distance := by
  unfold Server.load
  split_ifs
  · exact Nat.zero_le _
  · exact le_rfl

theorem step_swept {s t : Server} {a : Action} (hs : s.Swept) (h : step s a = some t) :
    t.Swept := by
  have hpc : s.driver.pc.swept s.driver.actions := by
    refine hs.resolve_left ?_
    rw [step_running h]
    nofun
  rcases step_driver_or_other h with ⟨b, e, rfl, hd⟩ | ⟨hother, heq⟩
  · obtain ⟨-, -, d, e, htask, rfl⟩ := driverStep_effect h
    rcases usbClassDriverTask_swept hpc htask with rfl | ⟨hd, -⟩
    · exact .inl rfl
    · right
      rwa [applyEffect_driver]
  · right
    rwa [heq]

theorem step_settling {s t : Server} {a : Action} (hs : s.Swept) (ha : Settling s a)
    (h : step s a = some t) : t.Swept ∧ t.load + 1 ≤ s.load := by
  refine ⟨step_swept hs h, ?_⟩
  have hrunning := step_running h
  have hpc : s.driver.pc.swept s.driver.actions := by
    refine hs.resolve_left ?_
    rw [hrunning]
    nofun
  have hload := t.load_le
  rw [s.load_of_running hrunning]
  cases a with
  | loop2 a =>
    have hdriver := step_driver_eq h nofun
    have hwork := (loop2Step_effect h).2.work
    rw [hdriver] at hload
    omega
  | host a =>
    have hdriver := step_driver_eq h nofun
    have hwork := (hostStep_effect h).2.work
    rw [hdriver] at hload
    omega
  | driver a =>
    obtain ⟨-, -, d, e, htask, rfl⟩ := driverStep_effect h
    rcases usbClassDriverTask_swept hpc htask with rfl | ⟨-, hlt⟩
    · have hpos : 0 < s.driver.distance := by
        obtain ⟨hevents, hstart⟩ := ha
        unfold Driver.distance
        split <;> first | contradiction | (split_ifs <;> decide) | decide
      simp only [Server.load, applyEffect, if_true]
      omega
    · have hstep := hlt ha.1 ha.2
      have hwork : (applyEffect { s with driver := d } e).work = s.work := by
        cases e <;> rfl
      rw [applyEffect_driver, hwork] at hload
      dsimp only at hload
      omega
  | tcp a => exact ha.elim
  | loop1 a => exact ha.elim

/-- Outside `usb_host_client_handle_events` the class driver waits for nothing but the
semaphore. -/
theorem usbClassDriverTask_enabled (lib : HostLib) {d : Driver} (hpc : d.pc ≠ .handleEvents) :
    ∃ a r, usbClassDriverTask lib d a = some r := by
  -- at an action's place its call is made or passed by, as its bit says
  have hbit : ∀ (bit : Bool) (a b : DriverAction),
      (bit = true → ∃ r, usbClassDriverTask lib d a = some r) →
      (bit = false → ∃ r, usbClassDriverTask lib d b = some r) →
        ∃ a r, usbClassDriverTask lib d a = some r := by
    intro bit a b ha hb
    cases bit with
    | true => exact ⟨a, ha rfl⟩
    | false => exact ⟨b, hb rfl⟩
  cases hplace : d.pc with
  | handleEvents => exact absurd hplace hpc
  | start | register | getStrDesc =>
    refine ⟨.run, ?_⟩
    simp only [usbClassDriverTask, hplace]
    exact ⟨_, rfl⟩
  | loopTop | exit =>
    refine ⟨.run, ?_⟩
    simp only [usbClassDriverTask, hplace]
    split_ifs <;> exact ⟨_, rfl⟩
  | openDev =>
    refine hbit d.actions.openDev (.openDev true) .run ?_ ?_ <;> intro h <;>
      simp only [usbClassDriverTask, hplace, h] <;> exact ⟨_, rfl⟩
  | getInfo =>
    refine hbit d.actions.getDevInfo (.getInfo none) .run ?_ ?_ <;> intro h <;>
      simp only [usbClassDriverTask, hplace, h] <;> exact ⟨_, rfl⟩
  | getDevDesc =>
    refine hbit d.actions.getDevDesc (.getDevDesc none) .run ?_ ?_ <;> intro h <;>
      simp only [usbClassDriverTask, hplace, h] <;> exact ⟨_, rfl⟩
  | getConfigDesc =>
    refine hbit d.actions.getConfigDesc (.getConfigDesc none []) .run ?_ ?_ <;> intro h <;>
      simp only [usbClassDriverTask, hplace, h] <;> exact ⟨_, rfl⟩
  | closeDev =>
    refine hbit d.actions.closeDev (.closeDev true) .run ?_ ?_ <;> intro h <;>
      simp only [usbClassDriverTask, hplace, h] <;> exact ⟨_, rfl⟩

section Enabled

variable {s : Server}

theorem callback_enabled (hrunning : s.crashed = false) {c : Callback} (hcb : s.callback = some c) :
    ∃ a t, step s (.host a) = some t := by
  cases hcl : c.cleared with
  | false =>
    refine ⟨.clear, ?_⟩
    simp [step, hrunning, transferCallback, hcb, hcl]
  | true =>
    refine ⟨.send [] .failed, ?_⟩
    simp only [step, hrunning, transferCallback, hcb, hcl, sockSend, if_true, Bool.false_eq_true,
      if_false, Option.map_some]
    split_ifs <;> exact ⟨_, rfl⟩

theorem handler_enabled (hrunning : s.crashed = false) {j l : ℕ} {h : Handler2}
    (hj : s.loop2.handlers[j]? = some (l, h)) : ∃ a t, step s (.loop2 a) = some t := by
  cases h with
  | entry ev => exact ⟨.malloc j none, by simp [step, hrunning, usbIpEventHandler2, hj]⟩
  | filled ev ret => exact ⟨.setSkt j, by simp [step, hrunning, usbIpEventHandler2, hj]⟩
  | sktSet ev ret => exact ⟨.alloc j none, by simp [step, hrunning, usbIpEventHandler2, hj]⟩
  | allocated tr =>
    refine ⟨.check j, ?_⟩
    simp only [step, hrunning, usbIpEventHandler2, hj, Bool.false_eq_true, if_false]
    split_ifs <;> exact ⟨_, rfl⟩
  | checked tr => exact ⟨.build j 0, by simp [step, hrunning, usbIpEventHandler2, hj]⟩
  | built tr => exact ⟨.submit j false, by simp [step, hrunning, usbIpEventHandler2, hj]⟩
  | accepted ep => exact ⟨.setPending j, by simp [step, hrunning, usbIpEventHandler2, hj]⟩

theorem dispatch_enabled (hrunning : s.crashed = false) (hhandlers : s.loop2.handlers = [])
    (hqueue : s.loop2.queue ≠ []) : ∃ a t, step s (.loop2 a) = some t := by
  obtain ⟨⟨l, ev⟩, rest, hq⟩ := List.exists_cons_of_ne_nil hqueue
  exact ⟨.dispatch 0, by simp [step, hrunning, usbIpEventHandler2, hq, hhandlers]⟩

theorem completion_enabled (hrunning : s.crashed = false) (hcb : s.callback = none)
    (hpc : s.driver.pc = .handleEvents) (hflight : s.inFlight ≠ []) :
    ∃ a t, step s (.host a) = some t := by
  obtain ⟨tr, rest, hf⟩ := List.exists_cons_of_ne_nil hflight
  exact ⟨.complete 0 .completed 0 [], by simp [step, hrunning, transferCallback, hcb, hf, hpc]⟩

theorem driver_enabled (hrunning : s.crashed = false) (hcb : s.callback = none)
    (hpc : s.driver.pc ≠ .handleEvents) : ∃ a t, step s (.driver a) = some t := by
  obtain ⟨a, r, hr⟩ := usbClassDriverTask_enabled s.lib hpc
  exact ⟨a, applyEffect { s with driver := r.1 } r.2,
    by simp [step, hrunning, driverStep, hcb, hr]⟩

end Enabled

theorem settled_of_stuck {s : Server} (hstuck : ∀ a, Settling s a → step s a = none) :
    s.Settled := by
  by_cases hcrashed : s.crashed = true
  · exact .inl hcrashed
  have hrunning : s.crashed = false := by simpa using hcrashed
  have hno : ∀ {a}, Settling s a → ¬ ∃ t, step s a = some t := by
    rintro a ha ⟨t, ht⟩
    rw [hstuck a ha] at ht
    cases ht
  have hcb : s.callback = none := by
    by_contra hne
    obtain ⟨c, hc⟩ := Option.ne_none_iff_exists'.1 hne
    obtain ⟨a, ha⟩ := callback_enabled hrunning hc
    exact hno (a := .host a) trivial ha
  have hhandlers : s.loop2.handlers = [] := by
    by_contra hne
    obtain ⟨⟨l, h⟩, rest, hh⟩ := List.exists_cons_of_ne_nil hne
    obtain ⟨a, ha⟩ := handler_enabled (j := 0) (l := l) (h := h) hrunning (by rw [hh]; rfl)
    exact hno (a := .loop2 a) trivial ha
  have hqueue : s.loop2.queue = [] := by
    by_contra hne
    obtain ⟨a, ha⟩ := dispatch_enabled hrunning hhandlers hne
    exact hno (a := .loop2 a) trivial ha
  refine .inr ⟨hqueue, hhandlers, hcb, ?_⟩
  by_cases hpc : s.driver.pc = .handleEvents
  · refine .inl ⟨hpc, ?_⟩
    by_contra hne
    obtain ⟨a, ha⟩ := completion_enabled hrunning hcb hpc hne
    exact hno (a := .host a) trivial ha
  · right
    by_contra hstart
    obtain ⟨a, ha⟩ := driver_enabled hrunning hcb hpc
    exact hno (a := .driver a) ⟨hpc, hstart⟩ ha

theorem Reachable.swept {s : Server} (hs : Reachable s) : s.Swept :=
  hs.invariant (fun _ _ _ _ _ _ => .inr trivial) fun _ _ _ hs h => step_swept hs h

/-- Every SUBMIT posted has been answered, passed over by its callback or dropped, and none of
them twice. -/
def Server.Resolved (s : Server) : Prop :=
  (s.history.posted : Multiset Submit) = (s.replies.map Prod.fst : List Submit) +
    (s.history.silent : List Submit) + (s.history.dropped.map Prod.fst : List Submit)

theorem Server.Settled.resolved {s : Server} (hs : s.Settled) (hreach : Reachable s)
    (hrunning : s.crashed = false) (hpc : s.driver.pc = .handleEvents) : s.Resolved := by
  have hcrashed : s.crashed ≠ true := by
    rw [hrunning]
    nofun
  obtain ⟨hqueue, hhandlers, hcb, hflight⟩ := hs.resolve_left hcrashed
  have hstart : s.driver.pc ≠ .start := by
    rw [hpc]
    nofun
  have hquiet : s.Quiescent := ⟨hqueue, hhandlers, (hflight.resolve_right hstart).2, hcb⟩
  exact hquiet.posted_eq hreach.accounted

/-- Left alone, the requests already posted come to an end: whatever the allocations, the library
calls and the completions come to and in whatever order the tasks take their steps, they take no
more of them than `s.load`, and where none is left nothing is queued, handled or completing. -/
theorem requests_settle {s : Server} (hs : Reachable s) :
    (∀ as t, run s as = some t → Always step Settling s as → as.length ≤ s.load) ∧
      (∃ as t, run s as = some t ∧ Always step Settling s as ∧ t.Settled) ∧
      ∀ as t, run s as = some t → Always step Settling s as →
        (∀ a, Settling t a → step t a = none) → t.Settled ∧
          (t.crashed = false → t.driver.pc = .handleEvents → t.Resolved) := by
  have hpay : ∀ s a t, Server.Swept s → Settling s a → step s a = some t →
      t.Swept ∧ t.load + 1 ≤ s.load := fun _ _ _ => step_settling
  refine ⟨fun as t h hall => ?_, ?_, fun as t h hall hstuck => ?_⟩
  · exact (Nat.le_add_left _ _).trans (exec_length_le hpay hs.swept hall h)
  · obtain ⟨as, t, h, hall, hstuck⟩ := exists_exec_stuck hpay hs.swept
    exact ⟨as, t, h, hall, settled_of_stuck hstuck⟩
  · have hsettled := settled_of_stuck hstuck
    exact ⟨hsettled, hsettled.resolved (hs.of_run h)⟩

def requestPosted : List Action :=
  keyboardEnumeration ++ importing 3 (importSession [submitIn 7 0 18]).stream ++ submitting

theorem requests_settle_requestPosted : ∃ s, run coldBoot requestPosted = some s ∧
    s.loop2.queue.length = 1 ∧ ∃ as t, run s as = some t ∧ as.length ≤ 11 ∧ t.Settled := by
  have hrun : (run coldBoot requestPosted).map (fun s => (s.loop2.queue.length, s.load)) =
      some (1, 11) := by
    decide +kernel
  obtain ⟨s, hs, hstate⟩ := Option.map_eq_some_iff.1 hrun
  obtain ⟨hqueue, hload⟩ := Prod.mk.inj hstate
  have hreach : Reachable s := (Reachable.boot _ _ _ _ _ _).of_run hs
  obtain ⟨hlength, ⟨as, t, h, hall, hsettled⟩, -⟩ := requests_settle hreach
  exact ⟨s, hs, hqueue, as, t, h, hload ▸ hlength as t h hall, hsettled⟩

end UsbRepeater
