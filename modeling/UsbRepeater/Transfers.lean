import UsbRepeater.Lib.Table
import UsbRepeater.Carried
import UsbRepeater.Enumeration

/-! Where a transfer comes from. Every transfer the host library gets was filled in by the handler
from one posted event; what a callback is given differs from it in the data alone. -/
namespace UsbRepeater

def allocated (ev : Submit) (reply memory : Bytes) (devHdl : Option ℕ) : UsbTransfer :=
  allocTransfer ev (fillRetSubmit ev reply) memory devHdl

/-- What the handler makes of an event; `mps` is the table of packet sizes at that moment. -/
inductive UsbTransfer.Made (lib : HostLib) (mps : List UInt32) : UsbTransfer → Prop
  | control (ev : Submit) (reply memory : Bytes) (devHdl : Option ℕ) (hep : ev.header.ep = 0)
      (hsetup : ev.cmdSubmit.setup.length ≤ 8) :
      Made lib mps (buildControl (allocated ev reply memory devHdl))
  | bulk (ev : Submit) (reply memory : Bytes) (devHdl : Option ℕ) (beyond : UInt32)
      (hep : ev.header.ep ≠ 0) :
      Made lib mps (buildBulk lib mps beyond (allocated ev reply memory devHdl))

/-- A made transfer whose data buffer the device has been at. -/
def UsbTransfer.Ran (lib : HostLib) (mps : List UInt32) (t : UsbTransfer) : Prop :=
  ∃ made data, UsbTransfer.Made lib mps made ∧
    t = { made with dataBuffer := sized made.dataBuffer.length data }

def madeClaim (lib : HostLib) : PipelineClaim where
  queued ev := ev.cmdSubmit.setup.length ≤ 8
  handler
    | .entry ev => ev.cmdSubmit.setup.length ≤ 8
    | .filled ev ret | .sktSet ev ret =>
        ev.cmdSubmit.setup.length ≤ 8 ∧ ∃ reply, ret = fillRetSubmit ev reply
    | .allocated t =>
        t.ev.cmdSubmit.setup.length ≤ 8 ∧
          ∃ reply memory devHdl, t = allocated t.ev reply memory devHdl
    | .checked t =>
        t.ev.header.ep ≠ 0 ∧ ∃ reply memory devHdl, t = allocated t.ev reply memory devHdl
    | .built t => ∃ mps, mps.length = 10 ∧ t.Made lib mps
    | .accepted _ => True
  inFlight t := ∃ mps, mps.length = 10 ∧ t.Made lib mps
  callback t := ∃ mps, mps.length = 10 ∧ t.Ran lib mps

theorem madeClaim_moves {s : Server} (hmps : s.driver.mps.length = 10) :
    (madeClaim s.lib).Moves s where
  dispatch _ h := h
  fill ev heap h := ⟨h, heap, rfl⟩
  setSkt _ _ h := h
  alloc ev ret heap h := by
    obtain ⟨hsetup, reply, rfl⟩ := h
    exact ⟨hsetup, reply, heap, s.driver.devHdl, rfl⟩
  control t h hep := by
    obtain ⟨hsetup, reply, memory, devHdl, ht⟩ := h
    rw [ht]
    exact ⟨s.driver.mps, hmps, .control t.ev reply memory devHdl hep hsetup⟩
  checked t h hep := ⟨hep, h.2⟩
  build t beyond h := by
    obtain ⟨hep, reply, memory, devHdl, ht⟩ := h
    rw [ht]
    exact ⟨s.driver.mps, hmps, .bulk t.ev reply memory devHdl beyond hep⟩
  submit _ h := h
  accepted _ _ _ := trivial
  complete t data h := by
    obtain ⟨mps, hlen, hmade⟩ := h
    exact ⟨mps, hlen, t, data, hmade, rfl⟩

theorem toNat_sub_one {w : UInt32} (h : w ≠ 0) : (w - 1).toNat = w.toNat - 1 := by
  have hpos : w.toNat ≠ 0 := fun hzero => h (UInt32.toNat_inj.1 hzero)
  have hone : (1 : UInt32) ≤ w := by
    rw [UInt32.le_iff_toNat_le]
    exact Nat.one_le_iff_ne_zero.2 hpos
  rw [UInt32.toNat_sub_of_le _ _ hone]
  rfl

theorem mpsEntry_eq {mps : List UInt32} {ep : UInt32} (h : (ep - 1).toNat < mps.length)
    (beyond beyond' : UInt32) : mpsEntry mps ep beyond = mpsEntry mps ep beyond' := by
  simp only [mpsEntry, List.getElem?_eq_getElem h, Option.getD_some]

theorem actionGetConfigDesc_mps_length (lib : HostLib) (d : Driver) (desc : Option UsbConfigDesc)
    (claims : List Bool) :
    (actionGetConfigDesc lib d desc claims).1.mps.length = d.mps.length := by
  unfold actionGetConfigDesc
  split
  · rfl
  · rfl
  · exact Table.write_length _ _

theorem usbClassDriverTask_mps {lib : HostLib} {d d' : Driver} {a : DriverAction}
    {e : DriverEffect} (h : usbClassDriverTask lib d a = some (d', e)) :
    (∃ desc claims, a = .getConfigDesc desc claims ∧
      d'.mps = (actionGetConfigDesc lib d desc claims).1.mps) ∨ d'.mps = d.mps := by
  unfold usbClassDriverTask at h
  split at h
  case h_4 ev hpc =>
    obtain ⟨rfl, rfl⟩ := Prod.mk.inj (Option.some.inj h)
    right
    unfold clientEventCb
    split <;> (try split_ifs) <;> rfl
  case h_6 ok hpc =>
    split_ifs at h
    obtain ⟨rfl, rfl⟩ := Prod.mk.inj (Option.some.inj h)
    right
    unfold actionOpenDev
    split_ifs <;> rfl
  case h_8 info hpc =>
    split_ifs at h
    obtain ⟨rfl, rfl⟩ := Prod.mk.inj (Option.some.inj h)
    right
    unfold actionGetInfo
    split <;> rfl
  case h_10 desc hpc =>
    split_ifs at h
    obtain ⟨rfl, rfl⟩ := Prod.mk.inj (Option.some.inj h)
    right
    unfold actionGetDevDesc
    split <;> rfl
  case h_12 desc claims hpc =>
    split_ifs at h
    obtain ⟨rfl, rfl⟩ := Prod.mk.inj (Option.some.inj h)
    exact .inl ⟨desc, claims, rfl, rfl⟩
  case h_14 hpc =>
    obtain ⟨rfl, rfl⟩ := Prod.mk.inj (Option.some.inj h)
    right
    split_ifs
    · unfold actionGetStrDesc
      split <;> rfl
    · rfl
  case h_15 ok hpc =>
    split_ifs at h
    obtain ⟨rfl, rfl⟩ := Prod.mk.inj (Option.some.inj h)
    right
    unfold acitonCloseDev
    split_ifs <;> rfl
  case h_18 => cases h
  all_goals
    try split_ifs at h
    all_goals
      obtain ⟨rfl, rfl⟩ := Prod.mk.inj (Option.some.inj h)
      exact .inr rfl

theorem step_mps_length {s t : Server} {a : Action} (h : step s a = some t) :
    t.driver.mps.length = s.driver.mps.length := by
  rcases step_driver_or_other h with ⟨b, e, rfl, hd⟩ | ⟨-, heq⟩
  · rcases usbClassDriverTask_mps hd with ⟨desc, claims, -, heq⟩ | heq
    · rw [heq]
      exact actionGetConfigDesc_mps_length s.lib s.driver desc claims
    · rw [heq]
  · rw [heq]

theorem Reachable.mps_length {s : Server} (h : Reachable s) : s.driver.mps.length = 10 :=
  h.invariant (fun _ _ _ _ _ _ => rfl) fun _ _ _ hs hstep => (step_mps_length hstep).trans hs

theorem submitEvent_setup (s : Server) : (submitEvent s).cmdSubmit.setup.length ≤ 8 :=
  List.length_take_le _ _

theorem Reachable.made {s : Server} (h : Reachable s) : s.Carries (madeClaim s.lib) := by
  refine (h.invariant (I := fun s => s.driver.mps.length = 10 ∧ s.Carries (madeClaim s.lib))
    (fun _ _ _ _ _ _ => ⟨rfl, boot_carries⟩) ?_).2
  rintro s a t ⟨hmps, hcarries⟩ hstep
  refine ⟨(step_mps_length hstep).trans hmps, ?_⟩
  rw [step_lib hstep]
  exact step_carries (madeClaim_moves hmps) hcarries (fun _ _ => submitEvent_setup s) hstep

end UsbRepeater
