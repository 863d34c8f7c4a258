import UsbRepeater.DeviceList
import UsbRepeater.PacketSizes
import UsbRepeater.Lib.Framing

/-! The two tables of ten entries that are filled by interface, `mps` and `dev.intfs`. Both loops
take `bNumInterfaces` from the device as it is, and the device list sends its table whole. -/
namespace UsbRepeater

/-- The writes to `dev.intfs`, up to an interface without a descriptor. -/
def devlistWrites (lib : HostLib) (config : UsbConfigDesc) : List (ℕ × UsbipInterface) :=
  Table.writesUntilMissing (listedInterface lib config) config.bNumInterfaces.toNat

/-- Both interface loops stay inside their tables, and the one of the device list finds every
descriptor it dereferences. -/
structure WalksInBounds (lib : HostLib) (config : UsbConfigDesc) (claims : List Bool) : Prop where
  mps : ∀ w ∈ mpsWrites lib config claims, w.1 < 10
  intfs : ∀ w ∈ devlistWrites lib config, w.1 < maxInterfaces
  found : ∀ stack, (devlistIntfs lib config stack).isSome = true

theorem devlistIntfs_eq_write {lib : HostLib} {config : UsbConfigDesc}
    {stack intfs : List UsbipInterface} (h : devlistIntfs lib config stack = some intfs) :
    intfs = Table.write stack (devlistWrites lib config) := by
  obtain ⟨hall, hwrite⟩ := devlistIntfs_eq_some.1 h
  rw [devlistWrites, Table.writesUntilMissing_eq hall]
  exact hwrite

theorem index_lt_of_mem_mpsWrites {lib : HostLib} {config : UsbConfigDesc} {claims : List Bool}
    {w : ℕ × UInt32} (h : w ∈ mpsWrites lib config claims) :
    w.1 < config.bNumInterfaces.toNat := by
  obtain ⟨i, hi, hw⟩ := List.mem_filterMap.1 h
  rw [List.mem_range] at hi
  split_ifs at hw with hclaim
  split at hw
  · cases hw
  · split at hw <;> cases hw <;> exact hi

/-- A device keeps both loops in bounds exactly if it counts at most ten interfaces and has a
descriptor for each of them. -/
theorem walks_in_bounds_iff (lib : HostLib) (config : UsbConfigDesc) (claims : List Bool) :
    WalksInBounds lib config claims ↔ config.bNumInterfaces.toNat ≤ maxInterfaces ∧
      ∀ n < config.bNumInterfaces.toNat,
        (lib.usbParseInterfaceDescriptor config n 0).isSome = true := by
  constructor
  · rintro ⟨-, hintfs, hfound⟩
    have hall := (devlistIntfs_isSome []).1 (hfound [])
    refine ⟨?_, hall⟩
    -- the entry behind the last one would be written
    by_contra hmany
    have hlisted : ∀ n < config.bNumInterfaces.toNat,
        (listedInterface lib config n).isSome = true := fun n hn => by
      rw [listedInterface, Option.isSome_map]
      exact hall n hn
    obtain ⟨record, hrecord⟩ := Option.isSome_iff_exists.1 (hlisted _ (not_le.1 hmany))
    have hwrite : (maxInterfaces, record) ∈ devlistWrites lib config := by
      rw [devlistWrites, Table.writesUntilMissing_eq hlisted]
      exact Table.mem_loopWrites.2 ⟨not_le.1 hmany, hrecord⟩
    exact lt_irrefl _ (hintfs _ hwrite)
  · rintro ⟨hroom, hall⟩
    refine ⟨fun w hw => ?_, fun w hw => ?_, fun stack => (devlistIntfs_isSome stack).2 hall⟩
    · exact (index_lt_of_mem_mpsWrites hw).trans_le hroom
    · exact (Table.index_lt_of_mem_writesUntilMissing hw).trans_le hroom

/-- A composite device that has left out the interface number 1. -/
def gappedConfig : UsbConfigDesc :=
  ⟨59, 2, 1, [⟨0, 0, 3, 1, 1, [⟨0x81, 8⟩]⟩, ⟨2, 0, 3, 1, 2, [⟨0x82, 8⟩]⟩]⟩

def elevenConfig : UsbConfigDesc :=
  ⟨108, 11, 1, (List.range 11).map fun i => ⟨UInt8.ofNat i, 0, 3, 0, 0, []⟩⟩

theorem walks_leave_bounds : ¬ WalksInBounds idfLibrary gappedConfig [true, true] ∧
    ¬ WalksInBounds idfLibrary elevenConfig (List.replicate 11 true) := by
  constructor
  · intro h
    exact absurd (h.found []) (by decide)
  · intro h
    have hwrite : (10, 0) ∈ mpsWrites idfLibrary elevenConfig (List.replicate 11 true) := by
      decide
    exact lt_irrefl 10 (h.mps _ hwrite)

/-- What a client reads off an OP_REP_DEVLIST by its counts: each device record with its
interface records. Nothing may be missing or left over. -/
def parseDevlist (frame : Bytes) : Option (List (Bytes × Bytes)) :=
  if 12 ≤ frame.length then
    (Framing.split 312 (fun record => some (4 * byteAt record 311)) (frame.drop 12)).filter
      fun records => decide (records.length = (ofBe32 (frame.drop 8)).toNat)
  else none

/-- The list can be parsed, and each device has one interface record for each interface. -/
def DevlistConsistent (lib : HostLib) (config : UsbConfigDesc) (frame : Bytes) : Prop :=
  ∃ records, parseDevlist frame = some records ∧ ∀ r ∈ records,
    byteAt r.1 311 = config.bNumInterfaces.toNat ∧
      r.2.length = 4 * config.bNumInterfaces.toNat ∧
        ∀ i < config.bNumInterfaces.toNat, ∃ intf,
          lib.usbParseInterfaceDescriptor config i 0 = some intf ∧
            (r.2.drop (4 * i)).take 4 = (interfaceRecord intf).toBytes

@[simp] theorem deviceRecord_toBytes_length (info : UsbDeviceInfo) (dev : UsbDeviceDesc)
    (config : UsbConfigDesc) : (deviceRecord info dev config).toBytes.length = 312 := by
  simp [deviceRecord, DeviceRecord.toBytes]

theorem deviceRecord_bNumInterfaces (info : UsbDeviceInfo) (dev : UsbDeviceDesc)
    (config : UsbConfigDesc) :
    byteAt (deviceRecord info dev config).toBytes 311 = config.bNumInterfaces.toNat := by
  have hlast : (deviceRecord info dev config).toBytes[311]? = some config.bNumInterfaces := by
    have hindex : 311 = (deviceRecord info dev config).toBytes.length - 1 := by simp
    rw [hindex, ← List.getLast?_eq_getElem?]
    simp [deviceRecord, DeviceRecord.toBytes]
  rw [byteAt, hlast]
  rfl

def intfsBytes (intfs : List UsbipInterface) : Bytes := intfs.flatMap UsbipInterface.toBytes

theorem intfsBytes_length (intfs : List UsbipInterface) :
    (intfsBytes intfs).length = 4 * intfs.length :=
  Framing.length_flatMap_eq UsbipInterface.toBytes_length intfs

theorem parseDevlist_oneDevice (info : UsbDeviceInfo) (dev : UsbDeviceDesc)
    (config : UsbConfigDesc) (intfs : List UsbipInterface) :
    parseDevlist (oneDevice info dev config intfs).toBytes =
      (Framing.split 312 (fun record => some (4 * byteAt record 311))
        ((deviceRecord info dev config).toBytes ++ intfsBytes intfs)).filter
          fun records => decide (records.length = 1) := by
  have hcount : ofBe32 ((oneDevice info dev config intfs).toBytes.drop 8) = 1 := by
    simp [oneDevice, OpRepDevlist.toBytes]
  have hrest : (oneDevice info dev config intfs).toBytes.drop 12 =
      (deviceRecord info dev config).toBytes ++ intfsBytes intfs := by
    simp [oneDevice, OpRepDevlist.toBytes, intfsBytes]
  have hlen : 12 ≤ (oneDevice info dev config intfs).toBytes.length := by
    rw [oneDevice_length]
    omega
  rw [parseDevlist, if_pos hlen, hcount, hrest]
  rfl

theorem parseDevlist_full (info : UsbDeviceInfo) (dev : UsbDeviceDesc) {config : UsbConfigDesc}
    {intfs : List UsbipInterface} (h : intfs.length = config.bNumInterfaces.toNat) :
    parseDevlist (oneDevice info dev config intfs).toBytes =
      some [((deviceRecord info dev config).toBytes, intfsBytes intfs)] := by
  have hfits : ∀ f ∈ [((deviceRecord info dev config).toBytes, intfsBytes intfs)],
      Framing.Fits 312 (fun record => some (4 * byteAt record 311)) f := by
    intro f hf
    rw [List.mem_singleton.1 hf]
    refine ⟨deviceRecord_toBytes_length info dev config, ?_⟩
    rw [deviceRecord_bNumInterfaces, intfsBytes_length, h]
  have hsplit := Framing.split_flatMap (by omega) _ hfits
  rw [List.flatMap_singleton] at hsplit
  rw [parseDevlist_oneDevice, hsplit]
  rfl

/-- With a larger table the entries behind those counted are left over, too few bytes for
another device. -/
theorem parseDevlist_short (info : UsbDeviceInfo) (dev : UsbDeviceDesc) {config : UsbConfigDesc}
    {intfs : List UsbipInterface} (h : config.bNumInterfaces.toNat < intfs.length)
    (hroom : intfs.length ≤ maxInterfaces) :
    parseDevlist (oneDevice info dev config intfs).toBytes = none := by
  have hten : maxInterfaces = 10 := rfl
  have hlen := intfsBytes_length intfs
  have hfits : Framing.Fits 312 (fun record => some (4 * byteAt record 311))
      ((deviceRecord info dev config).toBytes,
        (intfsBytes intfs).take (4 * config.bNumInterfaces.toNat)) := by
    refine ⟨deviceRecord_toBytes_length info dev config, ?_⟩
    rw [deviceRecord_bNumInterfaces, List.length_take, Nat.min_eq_left (by omega)]
  have hleft : ((intfsBytes intfs).drop (4 * config.bNumInterfaces.toNat)).length =
      4 * intfs.length - 4 * config.bNumInterfaces.toNat := by
    rw [List.length_drop, hlen]
  have hne : (intfsBytes intfs).drop (4 * config.bNumInterfaces.toNat) ≠ [] :=
    List.ne_nil_of_length_pos (by omega)
  have hsplit := Framing.split_append_short hfits hne (by omega)
  rw [List.append_assoc, List.take_append_drop] at hsplit
  rw [parseDevlist_oneDevice, hsplit]
  rfl

theorem devlist_frame {s t : Server} {dev : Owned UsbDeviceDesc} {config : Owned UsbConfigDesc}
    {stack : List UsbipInterface} {r : SendResult} {m : Sent} (hdev : s.driver.devDesc = some dev)
    (hconfig : s.driver.configDesc = some config)
    (h : step s (.loop1 (.devlist stack r)) = some t)
    (hsent : t.history.sent = s.history.sent ++ [m]) :
    ∃ intfs, devlistIntfs s.lib config.val stack = some intfs ∧
      m.frame = (oneDevice s.driver.devInfo dev.val config.val intfs).toBytes := by
  have hnone : s.history.sent ≠ s.history.sent ++ [m] := by simp
  obtain ⟨-, hstep⟩ := loop1Step h
  cases hstep with
  | devlistCrash => exact absurd hsent hnone
  | devlistFailed => exact absurd hsent hnone
  | devlistSent ev stack frame r c n hh hd hc hr =>
    rw [devlistReply_of_both s.lib hdev hconfig] at hd
    obtain ⟨intfs, hintfs, hframe⟩ := Option.map_eq_some_iff.1 hd
    obtain rfl := List.singleton_inj.1 (List.append_cancel_left hsent)
    exact ⟨intfs, hintfs, hframe.symm⟩

/-- The list of a device with at most ten interfaces is consistent exactly if it has ten: all
entries of `dev.intfs` are sent, whatever the device counts. -/
theorem devlist_consistent_iff {s t : Server} {dev : Owned UsbDeviceDesc}
    {config : Owned UsbConfigDesc} {stack : List UsbipInterface} {r : SendResult} {m : Sent}
    (hdev : s.driver.devDesc = some dev) (hconfig : s.driver.configDesc = some config)
    (hroom : config.val.bNumInterfaces.toNat ≤ maxInterfaces)
    (hstack : stack.length = maxInterfaces)
    (h : step s (.loop1 (.devlist stack r)) = some t)
    (hsent : t.history.sent = s.history.sent ++ [m]) :
    DevlistConsistent s.lib config.val m.frame ↔
      config.val.bNumInterfaces.toNat = maxInterfaces := by
  obtain ⟨intfs, hintfs, hframe⟩ := devlist_frame hdev hconfig h hsent
  obtain ⟨hlen, hrecords⟩ := devlistIntfs_records hintfs
  rw [hframe]
  constructor
  · rintro ⟨records, hparse, -⟩
    by_contra hfew
    rw [parseDevlist_short _ _ (by omega) (by omega)] at hparse
    cases hparse
  · intro hten
    refine ⟨_, parseDevlist_full _ _ (by omega), fun f hf => ?_⟩
    rw [List.mem_singleton.1 hf]
    refine ⟨deviceRecord_bNumInterfaces _ _ _, ?_, fun i hi => ?_⟩
    · rw [intfsBytes_length]
      omega
    · obtain ⟨intf, hintf, hrecord⟩ := hrecords i hi
      exact ⟨intf, hintf, Framing.take_drop_flatMap UsbipInterface.toBytes_length
        (hrecord (by omega))⟩

def DeviceListsConsistent : Prop :=
  ∀ (s t : Server) (dev : Owned UsbDeviceDesc) (config : Owned UsbConfigDesc) stack r m,
    Reachable s → s.driver.devDesc = some dev → s.driver.configDesc = some config →
      config.val.bNumInterfaces.toNat ≤ maxInterfaces →
        (∀ n < config.val.bNumInterfaces.toNat,
          (s.lib.usbParseInterfaceDescriptor config.val n 0).isSome = true) →
          stack.length = maxInterfaces → step s (.loop1 (.devlist stack r)) = some t →
            t.history.sent = s.history.sent ++ [m] → DevlistConsistent s.lib config.val m.frame

def listing (dev : UsbDeviceDesc) (config : UsbConfigDesc) (claims : List Bool) : List Action :=
  enumeration ⟨0, false, false, false⟩ dev config claims ++
    [.tcp (.accept (some 3) (requestHeader opReqDevlist 0)), .tcp .run, .tcp .run,
      .tcp (.recv (.data 8)), .tcp (.post true), .loop1 .dispatch]

def keyboardDevice : UsbDeviceDesc := ⟨0x046d, 0xc31c, 0x0100, 0, 0, 0, 1⟩

def tenConfig : UsbConfigDesc :=
  ⟨99, 10, 1, (List.range 10).map fun i => ⟨UInt8.ofNat i, 0, 3, 0, 0, []⟩⟩

theorem exists_listing (config : UsbConfigDesc) (claims : List Bool)
    (hrun : ((run coldBoot (listing keyboardDevice config claims)).bind fun s =>
      (step s (.loop1 (.devlist zeroIntfs .full))).map fun t =>
        (s.driver.devDesc, s.driver.configDesc, s.history.sent, t.history.sent.length)) =
      some (some ⟨0, keyboardDevice⟩, some ⟨0, config⟩, [], 1)) :
    ∃ s t m, run coldBoot (listing keyboardDevice config claims) = some s ∧
      s.driver.devDesc = some ⟨0, keyboardDevice⟩ ∧ s.driver.configDesc = some ⟨0, config⟩ ∧
        step s (.loop1 (.devlist zeroIntfs .full)) = some t ∧
          t.history.sent = s.history.sent ++ [m] := by
  obtain ⟨s, hs, hrest⟩ := Option.bind_eq_some_iff.1 hrun
  obtain ⟨t, ht, hstate⟩ := Option.map_eq_some_iff.1 hrest
  simp only [Prod.mk.injEq] at hstate
  obtain ⟨hdev, hconfig, hbefore, hafter⟩ := hstate
  obtain ⟨m, hm⟩ := List.length_eq_one_iff.1 hafter
  exact ⟨s, t, m, hs, hdev, hconfig, ht, by rw [hm, hbefore, List.nil_append]⟩

/-- The keyboard has one interface; the 36 bytes of nine others follow its record. -/
theorem keyboard_list_overlong : ¬ DeviceListsConsistent := by
  intro hall
  obtain ⟨s, t, m, hs, hdev, hconfig, ht, hsent⟩ :=
    exists_listing keyboardConfig [true] (by decide +kernel)
  have hreach : Reachable s := (Reachable.boot idfLibrary [] [] [] [] []).of_run hs
  have hpresent : ∀ n < keyboardConfig.bNumInterfaces.toNat,
      (s.lib.usbParseInterfaceDescriptor keyboardConfig n 0).isSome = true := by
    rw [run_lib hs]
    decide
  obtain ⟨records, hparse, -⟩ :=
    hall s t _ _ _ _ m hreach hdev hconfig (by decide) hpresent rfl ht hsent
  obtain ⟨intfs, hintfs, hframe⟩ := devlist_frame hdev hconfig ht hsent
  have hlen : intfs.length = 10 := (devlistIntfs_records hintfs).1
  have hone : keyboardConfig.bNumInterfaces.toNat < intfs.length := by
    rw [hlen]
    decide
  rw [hframe, parseDevlist_short _ _ hone hlen.le] at hparse
  cases hparse

theorem devlist_consistent_iff_ten : ∃ s t m,
    run coldBoot (listing keyboardDevice tenConfig (List.replicate 10 true)) = some s ∧
      step s (.loop1 (.devlist zeroIntfs .full)) = some t ∧
        t.history.sent = s.history.sent ++ [m] ∧ DevlistConsistent s.lib tenConfig m.frame := by
  obtain ⟨s, t, m, hs, hdev, hconfig, ht, hsent⟩ :=
    exists_listing tenConfig (List.replicate 10 true) (by decide +kernel)
  exact ⟨s, t, m, hs, ht, hsent,
    (devlist_consistent_iff hdev hconfig (by decide) rfl ht hsent).2 rfl⟩

end UsbRepeater
