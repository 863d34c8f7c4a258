import UsbRepeater.EndpointWords

/-! The table of packet sizes. `action_get_config_desc` fills it by interface, with the size of
the first endpoint; the handler reads it by endpoint number. -/
namespace UsbRepeater

open Schedule

def UsbEpDesc.number (ep : UsbEpDesc) : ℕ := (ep.bEndpointAddress &&& 0x0F).toNat

def UsbEpDesc.isIn (ep : UsbEpDesc) : Bool := ep.bEndpointAddress &&& 0x80 != 0

def UsbEpDesc.size (ep : UsbEpDesc) : UInt32 := UInt32.ofNat ep.wMaxPacketSize.toNat

def UsbConfigDesc.interface? (config : UsbConfigDesc) (number alternate : ℕ) :
    Option UsbIntfDesc :=
  config.interfaces.find? fun i =>
    i.bInterfaceNumber.toNat == number && i.bAlternateSetting.toNat == alternate

structure HostLib.ParsesByName (lib : HostLib) : Prop where
  interface : ∀ config number alternate,
    lib.usbParseInterfaceDescriptor config number alternate = config.interface? number alternate
  endpoint : ∀ intf index length,
    lib.usbParseEndpointDescriptorByIndex intf index length = intf.endpoints[index]?

/-- The interface `i`, if the driver has claimed it and it has a setting 0. -/
def claimedInterface (config : UsbConfigDesc) (claims : List Bool) (i : ℕ) : Option UsbIntfDesc :=
  if i < config.bNumInterfaces.toNat ∧ claims[i]?.getD false = true then config.interface? i 0
  else none

def ClaimedIn (config : UsbConfigDesc) (claims : List Bool) (ep : UsbEpDesc) : Prop :=
  ep.isIn = true ∧ ∃ i intf, claimedInterface config claims i = some intf ∧ ep ∈ intf.endpoints

def UsbIntfDesc.firstSize (intf : UsbIntfDesc) : UInt32 :=
  (intf.endpoints[0]?.map UsbEpDesc.size).getD 0

/-- The table has the packet size of every claimed IN endpoint where the handler looks for it. -/
def SizesRight (mps : List UInt32) (config : UsbConfigDesc) (claims : List Bool) : Prop :=
  ∀ ep, ClaimedIn config claims ep → ∀ beyond,
    mpsEntry mps (UInt32.ofNat ep.number) beyond = ep.size

/-- Each claimed IN endpoint has the packet size of the first endpoint of the interface numbered
one less; where that interface is not claimed, the table has had its size from before. -/
def SizesPlaced (mps : List UInt32) (config : UsbConfigDesc) (claims : List Bool) : Prop :=
  ∀ ep, ClaimedIn config claims ep →
    match claimedInterface config claims (ep.number - 1) with
    | some intf => intf.firstSize = ep.size
    | none => mps[ep.number - 1]? = some ep.size

theorem mpsWrites_eq {lib : HostLib} (hlib : lib.ParsesByName) (config : UsbConfigDesc)
    (claims : List Bool) : mpsWrites lib config claims =
      Table.loopWrites (fun i => (claimedInterface config claims i).map UsbIntfDesc.firstSize)
        config.bNumInterfaces.toNat := by
  refine List.filterMap_congr fun i hi => ?_
  rw [List.mem_range] at hi
  simp only [claimedInterface, hlib.interface, hlib.endpoint]
  by_cases hclaim : claims[i]?.getD false = true
  · rw [if_pos hclaim, if_pos ⟨hi, hclaim⟩]
    cases config.interface? i 0 with
    | none => rfl
    | some intf =>
      cases hep : intf.endpoints[0]? with
      | none => simp [UsbIntfDesc.firstSize, hep]
      | some ep => simp [UsbIntfDesc.firstSize, hep, UsbEpDesc.size]
  · rw [if_neg hclaim, if_neg fun h => hclaim h.2]
    rfl

theorem usbClassDriverTask_getConfigDesc {lib : HostLib} {d d' : Driver} {e : DriverEffect}
    {desc : Option UsbConfigDesc} {claims : List Bool}
    (h : usbClassDriverTask lib d (.getConfigDesc desc claims) = some (d', e)) :
    d.actions.getConfigDesc = true ∧
      d'.mps = (actionGetConfigDesc lib d desc claims).1.mps := by
  unfold usbClassDriverTask at h
  split at h
  case h_12 desc' claims' hpc heq =>
    obtain ⟨rfl, rfl⟩ : desc = desc' ∧ claims = claims' := by simpa using heq
    split_ifs at h with hbit
    obtain ⟨rfl, -⟩ := Prod.mk.inj (Option.some.inj h)
    exact ⟨hbit, rfl⟩
  all_goals simp_all

theorem step_getConfigDesc {s t : Server} {config : UsbConfigDesc} {claims : List Bool}
    (hs : Reachable s) (h : step s (.driver (.getConfigDesc (some config) claims)) = some t) :
    t.driver.mps = Table.write s.driver.mps (mpsWrites s.lib config claims) := by
  rcases step_driver_or_other h with ⟨b, e, hb, hd⟩ | ⟨hother, -⟩
  · cases hb
    obtain ⟨hbit, hmps⟩ := usbClassDriverTask_getConfigDesc hd
    rw [hmps]
    cases hopen : s.driver.devHdl with
    | none => exact absurd hopen (hs.orderly.1.reading (.inr (.inr hbit)))
    | some handle =>
      unfold actionGetConfigDesc
      rw [hopen]
      rfl
  · exact absurd rfl (hother _)

theorem mpsEntry_number {mps : List UInt32} (hmps : mps.length = 10) {number : ℕ}
    (hlow : 1 ≤ number) (hhigh : number ≤ 10) (beyond v : UInt32) :
    mpsEntry mps (UInt32.ofNat number) beyond = v ↔ mps[number - 1]? = some v := by
  have hvalue : (UInt32.ofNat number).toNat = number := by
    rw [UInt32.toNat_ofNat']
    omega
  have hne : UInt32.ofNat number ≠ 0 := by
    intro hzero
    rw [hzero] at hvalue
    have hz : (0 : UInt32).toNat = 0 := rfl
    omega
  have hlt : number - 1 < mps.length := by omega
  rw [mpsEntry, toNat_sub_one hne, hvalue, List.getElem?_eq_getElem hlt, Option.getD_some,
    Option.some.injEq]

/-- Behind `action_get_config_desc` the table is right exactly if every endpoint's size has been
written, or was there before, at the place of its number. -/
theorem packet_sizes_right_iff {s t : Server} {config : UsbConfigDesc} {claims : List Bool}
    (hs : Reachable s) (hlib : s.lib.ParsesByName)
    (hnumbers : ∀ ep, ClaimedIn config claims ep → 1 ≤ ep.number ∧ ep.number ≤ 10)
    (h : step s (.driver (.getConfigDesc (some config) claims)) = some t) :
    SizesRight t.driver.mps config claims ↔ SizesPlaced s.driver.mps config claims := by
  have hlength := hs.mps_length
  have hentry : ∀ k < 10, t.driver.mps[k]? = some
      (((claimedInterface config claims k).map UsbIntfDesc.firstSize).getD
        (s.driver.mps[k]?.getD 0)) := by
    intro k hk
    have hlt : k < s.driver.mps.length := by omega
    have hout : ¬ k < config.bNumInterfaces.toNat → claimedInterface config claims k = none :=
      fun hge => if_neg fun hboth => hge hboth.1
    rw [step_getConfigDesc hs h, mpsWrites_eq hlib, Table.getElem?_write_loopWrites _ _ hlt,
      List.getElem?_eq_getElem hlt, Option.getD_some]
    split_ifs with hin
    · rfl
    · rw [hout hin]
      rfl
  have hone : ∀ ep, ClaimedIn config claims ep →
      ((∀ beyond, mpsEntry t.driver.mps (UInt32.ofNat ep.number) beyond = ep.size) ↔
        match claimedInterface config claims (ep.number - 1) with
        | some intf => intf.firstSize = ep.size
        | none => s.driver.mps[ep.number - 1]? = some ep.size) := by
    intro ep hep
    obtain ⟨hlow, hhigh⟩ := hnumbers ep hep
    have hlt : ep.number - 1 < s.driver.mps.length := by omega
    have htable : t.driver.mps.length = 10 := (hs.of_step h).mps_length
    simp only [mpsEntry_number htable hlow hhigh, hentry (ep.number - 1) (by omega),
      Option.some.injEq, forall_const]
    cases claimedInterface config claims (ep.number - 1) with
    | none => simp [List.getElem?_eq_getElem hlt]
    | some intf => rfl
  exact forall₂_congr hone

def PacketSizesRight : Prop :=
  ∀ s t config claims, Reachable s → s.lib.ParsesByName → config.bNumInterfaces.toNat ≤ 10 →
    (∀ ep, ClaimedIn config claims ep → 1 ≤ ep.number ∧ ep.number ≤ 10) →
      step s (.driver (.getConfigDesc (some config) claims)) = some t →
        SizesRight t.driver.mps config claims

theorem ClaimedIn.exists_interface {config : UsbConfigDesc} {claims : List Bool} {ep : UsbEpDesc}
    (h : ClaimedIn config claims ep) : ∃ intf ∈ config.interfaces, ep ∈ intf.endpoints := by
  obtain ⟨-, i, intf, hi, hep⟩ := h
  unfold claimedInterface at hi
  split_ifs at hi
  exact ⟨intf, List.mem_of_find?_eq_some hi, hep⟩

theorem idfLibrary_parsesByName : idfLibrary.ParsesByName where
  interface _ _ _ := rfl
  endpoint _ _ _ := rfl

def mediaKeyboard : UsbConfigDesc :=
  ⟨41, 1, 1, [⟨0, 0, 3, 1, 1, [⟨0x81, 8⟩, ⟨0x82, 16⟩]⟩]⟩

def opening : List Action := keyboardEnumeration.take 9

theorem second_endpoint_unsized : ¬ PacketSizesRight := by
  intro hall
  have hrun : ((run coldBoot opening).bind fun s =>
      (step s (.driver (.getConfigDesc (some mediaKeyboard) [true]))).map fun t =>
        mpsEntry t.driver.mps 2 0) = some 0 := by
    decide +kernel
  obtain ⟨s, hs, hrest⟩ := Option.bind_eq_some_iff.1 hrun
  obtain ⟨t, ht, hentry⟩ := Option.map_eq_some_iff.1 hrest
  have hreach : Reachable s := (Reachable.boot idfLibrary [] [] [] [] []).of_run hs
  have hlib : s.lib.ParsesByName := by
    rw [run_lib hs]
    exact idfLibrary_parsesByName
  have hnumbers : ∀ ep, ClaimedIn mediaKeyboard [true] ep → 1 ≤ ep.number ∧ ep.number ≤ 10 := by
    intro ep hep
    obtain ⟨intf, hintf, hmem⟩ := hep.exists_interface
    rw [List.mem_singleton.1 hintf] at hmem
    rcases List.mem_pair.1 hmem with rfl | rfl <;> decide
  have hsecond : ClaimedIn mediaKeyboard [true] ⟨0x82, 16⟩ :=
    ⟨by decide, 0, _, rfl, List.mem_cons_of_mem _ List.mem_cons_self⟩
  have hright := hall s t _ _ hreach hlib (by decide) hnumbers ht _ hsecond 0
  have hsize : (⟨0x82, 16⟩ : UsbEpDesc).size = 16 := rfl
  have hnumber : UInt32.ofNat (⟨0x82, 16⟩ : UsbEpDesc).number = 2 := rfl
  rw [hnumber, hentry, hsize] at hright
  exact absurd hright (by decide)

theorem packet_sizes_right_iff_keyboard : ∃ s t, run coldBoot opening = some s ∧
    step s (.driver (.getConfigDesc (some keyboardConfig) [true])) = some t ∧
      SizesRight t.driver.mps keyboardConfig [true] := by
  have hrun : ((run coldBoot opening).bind fun s =>
      (step s (.driver (.getConfigDesc (some keyboardConfig) [true]))).map fun t =>
        t.crashed) = some false := by
    decide +kernel
  obtain ⟨s, hs, hrest⟩ := Option.bind_eq_some_iff.1 hrun
  obtain ⟨t, ht, -⟩ := Option.map_eq_some_iff.1 hrest
  have hreach : Reachable s := (Reachable.boot idfLibrary [] [] [] [] []).of_run hs
  have hlib : s.lib.ParsesByName := by
    rw [run_lib hs]
    exact idfLibrary_parsesByName
  have hone : ∀ ep, ClaimedIn keyboardConfig [true] ep → ep = ⟨0x81, 8⟩ := by
    intro ep hep
    obtain ⟨intf, hintf, hmem⟩ := hep.exists_interface
    rw [List.mem_singleton.1 hintf] at hmem
    exact List.mem_singleton.1 hmem
  refine ⟨s, t, hs, ht, (packet_sizes_right_iff hreach hlib ?_ ht).2 ?_⟩
  · intro ep hep
    rw [hone ep hep]
    decide
  · intro ep hep
    rw [hone ep hep]
    rfl

end UsbRepeater
