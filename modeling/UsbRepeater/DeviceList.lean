import UsbRepeater.Lib.Table
import UsbRepeater.ActionLoop

/-! The device list against what is plugged in. `_usb_ip_event_handler_1` decides from the two
descriptor pointers, which the class driver sets and nothing resets: the list is right as long as
no device that was enumerated has gone, and again while a later one is enumerated. -/
namespace UsbRepeater

open Schedule

/-- `dev.intfs` has room for ten interfaces. -/
def maxInterfaces : ℕ := 10

def interfaceRecord (intf : UsbIntfDesc) : UsbipInterface :=
  ⟨intf.bInterfaceClass, intf.bInterfaceSubClass, intf.bInterfaceProtocol, 0⟩

/-- The record that the interface loop writes for the interface `n`, if it finds it. -/
def listedInterface (lib : HostLib) (config : UsbConfigDesc) (n : ℕ) : Option UsbipInterface :=
  (lib.usbParseInterfaceDescriptor config n 0).map interfaceRecord

def oneDevice (info : UsbDeviceInfo) (dev : UsbDeviceDesc) (config : UsbConfigDesc)
    (intfs : List UsbipInterface) : OpRepDevlist :=
  ⟨usbipVersion, opRepDevlist, 0, 1, deviceRecord info dev config, intfs⟩

/-- The device list is right: it names the open device, by its own descriptors and with every
interface these count, once both of them have been read, and no device otherwise. -/
def Driver.ListedTruthfully (lib : HostLib) (d : Driver) (stack : List UsbipInterface) : Prop :=
  if d.enumerated then
    ∃ k dev config intfs, d.devHdl = some k ∧ d.devDesc = some ⟨k, dev⟩ ∧
      d.configDesc = some ⟨k, config⟩ ∧
      devlistReply lib d stack = some (oneDevice d.devInfo dev config intfs).toBytes ∧
      ∀ n < config.bNumInterfaces.toNat, ∃ intf,
        lib.usbParseInterfaceDescriptor config n 0 = some intf ∧
          intfs[n]? = some (interfaceRecord intf)
  else devlistReply lib d stack = some emptyReply

def Driver.InterfacesFound (lib : HostLib) (d : Driver) : Prop :=
  ∀ config, d.configDesc = some config → config.val.bNumInterfaces.toNat ≤ maxInterfaces ∧
    ∀ n < config.val.bNumInterfaces.toNat,
      (lib.usbParseInterfaceDescriptor config.val n 0).isSome = true

/-- The device descriptor is read before the configuration descriptor of the same device. -/
structure Driver.InTurn (d : Driver) : Prop where
  next : d.actions.getConfigDesc = true →
    ∃ k dev, d.devHdl = some k ∧ d.devDesc = some ⟨k, dev⟩
  both : d.configDesc ≠ none → d.devDesc ≠ none

theorem Driver.InTurn.of_same {d d' : Driver} (hd : d.InTurn) (hhdl : d'.devHdl = d.devHdl)
    (hdev : d'.devDesc = d.devDesc) (hconfig : d'.configDesc = d.configDesc)
    (hbit : d'.actions.getConfigDesc = true → d.actions.getConfigDesc = true) : d'.InTurn where
  next h := by
    rw [hhdl, hdev]
    exact hd.next (hbit h)
  both := by
    rw [hconfig, hdev]
    exact hd.both

/-- What a step does to the descriptor pointers: they are never taken back, and the second one
is set at the moment the device is enumerated. -/
structure DescriptorStep (d d' : Driver) : Prop where
  inTurn : d'.InTurn
  kept : d.configDesc ≠ none → d'.configDesc ≠ none
  set : d'.configDesc ≠ none → d.configDesc ≠ none ∨ d'.enumerated = true

theorem DescriptorStep.of_same {d d' : Driver} (hd : d'.InTurn)
    (hconfig : d'.configDesc = d.configDesc) : DescriptorStep d d' where
  inTurn := hd
  kept h := by rwa [hconfig]
  set h := .inl (by rwa [← hconfig])

theorem DescriptorStep.goto {d d' : Driver} (h : DescriptorStep d d') (pc : DriverPc) :
    DescriptorStep d { d' with pc := pc } :=
  ⟨⟨h.inTurn.next, h.inTurn.both⟩, h.kept, h.set⟩

theorem actionGetConfigDesc_descriptors {lib : HostLib} {d : Driver} (hd : d.InTurn)
    (hbit : d.actions.getConfigDesc = true) (desc : Option UsbConfigDesc) (claims : List Bool) :
    DescriptorStep d (actionGetConfigDesc lib d desc claims).1 := by
  unfold actionGetConfigDesc
  split
  · exact .of_same hd rfl
  · exact .of_same (hd.of_same rfl rfl rfl nofun) rfl
  · rename_i h desc hh
    obtain ⟨k, dev, hk, hdev⟩ := hd.next hbit
    obtain rfl : h = k := Option.some.inj (hh.symm.trans hk)
    refine ⟨⟨nofun, fun _ => ?_⟩, fun _ => nofun, fun _ => .inr ?_⟩
    · rw [hdev]
      nofun
    · exact Driver.enumerated_iff.2 ⟨h, dev, desc, hh, hdev, rfl⟩

theorem usbClassDriverTask_descriptors {lib : HostLib} {d d' : Driver} {a : DriverAction}
    {e : DriverEffect} (hd : d.InTurn) (ho : d.Orderly)
    (h : usbClassDriverTask lib d a = some (d', e)) : DescriptorStep d d' := by
  have hnone : ∀ {p : Prop}, ¬ d.actions.reading → d.actions.getConfigDesc = true → p :=
    fun hread hbit => absurd (.inr (.inr hbit)) hread
  unfold usbClassDriverTask at h
  split at h
  case h_1 hpc =>
    obtain ⟨rfl, rfl⟩ := Prod.mk.inj (Option.some.inj h)
    exact .of_same ⟨nofun, hd.both⟩ rfl
  case h_4 ev hpc =>
    obtain ⟨rfl, rfl⟩ := Prod.mk.inj (Option.some.inj h)
    refine DescriptorStep.goto ?_ _
    unfold clientEventCb
    split
    · split_ifs <;> exact .of_same (hd.of_same rfl rfl rfl id) rfl
    · split_ifs
      · exact .of_same (hd.of_same rfl rfl rfl nofun) rfl
      · exact .of_same hd rfl
    · exact .of_same hd rfl
  case h_6 ok hpc =>
    split_ifs at h with hopen
    obtain ⟨rfl, rfl⟩ := Prod.mk.inj (Option.some.inj h)
    refine DescriptorStep.goto ?_ _
    have hread : ¬ d.actions.reading := fun hread => ho.reading hread (ho.opening hopen)
    unfold actionOpenDev
    split_ifs
    · exact .of_same hd rfl
    · exact .of_same ⟨hnone hread, hd.both⟩ rfl
    · exact .of_same (hd.of_same rfl rfl rfl id) rfl
  case h_8 info hpc =>
    split_ifs at h
    obtain ⟨rfl, rfl⟩ := Prod.mk.inj (Option.some.inj h)
    refine DescriptorStep.goto ?_ _
    unfold actionGetInfo
    split <;> exact .of_same (hd.of_same rfl rfl rfl id) rfl
  case h_10 desc hpc =>
    split_ifs at h
    obtain ⟨rfl, rfl⟩ := Prod.mk.inj (Option.some.inj h)
    refine DescriptorStep.goto ?_ _
    unfold actionGetDevDesc
    split
    · exact .of_same hd rfl
    · exact .of_same (hd.of_same rfl rfl rfl id) rfl
    · rename_i k desc hk
      exact .of_same ⟨fun _ => ⟨k, desc, hk, rfl⟩, fun _ => nofun⟩ rfl
  case h_12 desc claims hpc =>
    split_ifs at h with hbit
    obtain ⟨rfl, rfl⟩ := Prod.mk.inj (Option.some.inj h)
    exact (actionGetConfigDesc_descriptors hd hbit desc claims).goto .getStrDesc
  case h_14 hpc =>
    obtain ⟨rfl, rfl⟩ := Prod.mk.inj (Option.some.inj h)
    split_ifs
    · unfold actionGetStrDesc
      split <;> exact .of_same (hd.of_same rfl rfl rfl id) rfl
    · exact .of_same (hd.of_same rfl rfl rfl id) rfl
  case h_15 ok hpc =>
    split_ifs at h with hclose
    obtain ⟨rfl, rfl⟩ := Prod.mk.inj (Option.some.inj h)
    unfold acitonCloseDev
    split_ifs
    · exact .of_same ⟨hnone (ho.closing hclose).2, hd.both⟩ rfl
    · exact .of_same (hd.of_same rfl rfl rfl id) rfl
  case h_18 => cases h
  all_goals
    try split_ifs at h
    all_goals
      obtain ⟨rfl, rfl⟩ := Prod.mk.inj (Option.some.inj h)
      exact .of_same (hd.of_same rfl rfl rfl id) rfl

theorem devlistIntfs_eq_some {lib : HostLib} {config : UsbConfigDesc}
    {stack intfs : List UsbipInterface} : devlistIntfs lib config stack = some intfs ↔
      (∀ n < config.bNumInterfaces.toNat, (listedInterface lib config n).isSome = true) ∧
        intfs = Table.write stack
          (Table.loopWrites (listedInterface lib config) config.bNumInterfaces.toNat) := by
  rw [← Table.foldlM_set]
  simp only [devlistIntfs, listedInterface, Option.map_map]
  rfl

theorem devlistIntfs_records {lib : HostLib} {config : UsbConfigDesc}
    {stack intfs : List UsbipInterface} (h : devlistIntfs lib config stack = some intfs) :
    intfs.length = stack.length ∧ ∀ n < config.bNumInterfaces.toNat, ∃ intf,
      lib.usbParseInterfaceDescriptor config n 0 = some intf ∧
        (n < stack.length → intfs[n]? = some (interfaceRecord intf)) := by
  obtain ⟨hall, rfl⟩ := devlistIntfs_eq_some.1 h
  refine ⟨Table.write_length _ _, fun n hn => ?_⟩
  obtain ⟨record, hrecord⟩ := Option.isSome_iff_exists.1 (hall n hn)
  obtain ⟨intf, hintf, hvalue⟩ := Option.map_eq_some_iff.1 hrecord
  refine ⟨intf, hintf, fun hroom => ?_⟩
  rw [Table.getElem?_write_loopWrites _ _ hroom, if_pos hn, hrecord, hvalue]
  rfl

theorem devlistIntfs_isSome {lib : HostLib} {config : UsbConfigDesc}
    (stack : List UsbipInterface) :
    (devlistIntfs lib config stack).isSome = true ↔ ∀ n < config.bNumInterfaces.toNat,
      (lib.usbParseInterfaceDescriptor config n 0).isSome = true := by
  simp only [Option.isSome_iff_exists (x := devlistIntfs lib config stack), devlistIntfs_eq_some,
    exists_and_left, exists_eq, and_true, listedInterface, Option.isSome_map]

@[simp] theorem UsbipInterface.toBytes_length (i : UsbipInterface) : i.toBytes.length = 4 := rfl

theorem oneDevice_length (info : UsbDeviceInfo) (dev : UsbDeviceDesc) (config : UsbConfigDesc)
    (intfs : List UsbipInterface) :
    (oneDevice info dev config intfs).toBytes.length = 324 + 4 * intfs.length := by
  simp only [oneDevice, OpRepDevlist.toBytes, DeviceRecord.toBytes, deviceRecord,
    List.length_append, be16_length, be32_length, sized_length, List.length_flatMap,
    UsbipInterface.toBytes_length, List.map_const', List.sum_replicate, smul_eq_mul,
    List.length_cons, List.length_nil]
  omega

theorem devlistReply_of_both (lib : HostLib) {d : Driver} {dev : Owned UsbDeviceDesc}
    {config : Owned UsbConfigDesc} (hdev : d.devDesc = some dev)
    (hconfig : d.configDesc = some config) (stack : List UsbipInterface) :
    devlistReply lib d stack = (devlistIntfs lib config.val stack).map fun intfs =>
      (oneDevice d.devInfo dev.val config.val intfs).toBytes := by
  simp only [devlistReply, hdev, hconfig, oneDevice]

theorem devlistReply_eq_empty {lib : HostLib} {d : Driver} (hd : d.InTurn)
    (stack : List UsbipInterface) :
    devlistReply lib d stack = some emptyReply ↔ d.configDesc = none := by
  cases hconfig : d.configDesc with
  | none =>
    have hempty : devlistReply lib d stack = some emptyReply := by
      unfold devlistReply
      split
      · rename_i hsome
        rw [hconfig] at hsome
        cases hsome
      · rfl
    simp [hempty]
  | some config =>
    obtain ⟨dev, hdev⟩ := Option.ne_none_iff_exists'.1 (hd.both (by rw [hconfig]; nofun))
    rw [devlistReply_of_both lib hdev hconfig]
    simp only [reduceCtorEq, iff_false]
    intro h
    obtain ⟨intfs, -, hframe⟩ := Option.map_eq_some_iff.1 h
    have hlen := congrArg List.length hframe
    rw [oneDevice_length] at hlen
    have hempty : emptyReply.length = 12 := rfl
    omega

theorem Driver.listedTruthfully_iff {lib : HostLib} {d : Driver} (hd : d.InTurn)
    {stack : List UsbipInterface} (hstack : stack.length = maxInterfaces) :
    d.ListedTruthfully lib stack ↔
      if d.enumerated then d.InterfacesFound lib else d.configDesc = none := by
  unfold Driver.ListedTruthfully
  split_ifs with henum
  · obtain ⟨k, dev, config, hk, hdev, hconfig⟩ := Driver.enumerated_iff.1 henum
    have hreply := devlistReply_of_both lib hdev hconfig stack
    constructor
    · rintro ⟨k', dev', config', intfs, -, -, hconfig', hframe, hrecords⟩
      obtain rfl : config = config' :=
        (Owned.mk.inj (Option.some.inj (hconfig.symm.trans hconfig'))).2
      rw [hreply] at hframe
      obtain ⟨intfs', hintfs', hbytes⟩ := Option.map_eq_some_iff.1 hframe
      obtain ⟨hlen, -⟩ := devlistIntfs_records hintfs'
      have hsize := congrArg List.length hbytes
      rw [oneDevice_length, oneDevice_length] at hsize
      intro c hc
      obtain rfl : ⟨k, config⟩ = c := Option.some.inj (hconfig.symm.trans hc)
      refine ⟨?_, fun n hn => ?_⟩
      · by_contra hmany
        obtain ⟨intf, -, hrecord⟩ := hrecords maxInterfaces (not_le.1 hmany)
        have hroom := (List.getElem?_eq_some_iff.1 hrecord).1
        omega
      · obtain ⟨intf, hintf, -⟩ := hrecords n hn
        rw [hintf]
        rfl
    · intro hfound
      obtain ⟨hroom, hall⟩ := hfound _ hconfig
      obtain ⟨intfs, hintfs⟩ := Option.isSome_iff_exists.1
        ((devlistIntfs_isSome stack).2 hall)
      obtain ⟨-, hrecords⟩ := devlistIntfs_records hintfs
      refine ⟨k, dev, config, intfs, hk, hdev, hconfig, by rw [hreply, hintfs]; rfl,
        fun n hn => ?_⟩
      obtain ⟨intf, hintf, hrecord⟩ := hrecords n hn
      exact ⟨intf, hintf, hrecord (hstack ▸ hn.trans_le hroom)⟩
  · exact devlistReply_eq_empty hd stack

def noteEnumerated (s : Server) (_ : Action) (seen : Bool) : Bool := seen || s.driver.enumerated

structure Server.Remembers (s : Server) (seen : Bool) : Prop where
  orderly : s.driver.Orderly ∧ s.driver.Placed
  inTurn : s.driver.InTurn
  config : s.driver.configDesc ≠ none ↔ seen = true ∨ s.driver.enumerated = true

theorem Driver.configDesc_of_enumerated {d : Driver} (h : d.enumerated = true) :
    d.configDesc ≠ none := by
  obtain ⟨k, dev, config, -, -, hconfig⟩ := Driver.enumerated_iff.1 h
  rw [hconfig]
  nofun

theorem step_remembers {s t : Server} {seen : Bool} {a : Action} (hs : s.Remembers seen)
    (h : step s a = some t) : t.Remembers (noteEnumerated s a seen) := by
  have horderly := step_orderly hs.orderly h
  have hdesc : DescriptorStep s.driver t.driver := by
    rcases step_driver_or_other h with ⟨b, e, rfl, hd⟩ | ⟨-, heq⟩
    · exact usbClassDriverTask_descriptors hs.inTurn hs.orderly.1 hd
    · rw [heq]
      exact .of_same hs.inTurn rfl
  refine ⟨horderly, hdesc.inTurn, ?_⟩
  rw [noteEnumerated, Bool.or_eq_true, ← hs.config]
  constructor
  · exact hdesc.set
  · rintro (hbefore | hnow)
    · exact hdesc.kept hbefore
    · exact Driver.configDesc_of_enumerated hnow

section Boot

variable {lib : HostLib} {devRecv header cmdSubmit transferBuffer cmdUnlink : Bytes}

theorem boot_remembers :
    (Server.boot lib devRecv header cmdSubmit transferBuffer cmdUnlink).Remembers false :=
  ⟨(Reachable.boot lib devRecv header cmdSubmit transferBuffer cmdUnlink).orderly,
    ⟨nofun, fun h => absurd rfl h⟩, fun h => absurd rfl h, nofun⟩

/-- A device list handled at the end of a run is right exactly when the device enumerated now has
all its interfaces, or none is enumerated now and none has been before. -/
theorem listedTruthfully_iff_of_run {as : List Action} {t : Server} {seen : Bool}
    (h : exec (watch step noteEnumerated)
      (.boot lib devRecv header cmdSubmit transferBuffer cmdUnlink, false) as = some (t, seen))
    {stack : List UsbipInterface} (hstack : stack.length = maxInterfaces) :
    t.driver.ListedTruthfully t.lib stack ↔
      if t.driver.enumerated then t.driver.InterfacesFound t.lib else seen = false := by
  have hnoted : ∀ s seen a u, Server.Remembers s seen → True → step s a = some u →
      u.Remembers (noteEnumerated s a seen) := fun _ _ _ _ hs _ hu => step_remembers hs hu
  have ht : t.Remembers seen :=
    watch_invariant hnoted boot_remembers (Always.of_forall (fun _ _ => trivial) _ _) h
  rw [Driver.listedTruthfully_iff ht.inTurn hstack]
  split_ifs with henum
  · rfl
  · rw [← not_iff_not, ← Ne, ht.config]
    simp [henum]

end Boot

/-- The reply the handler sends is the one judged. -/
theorem devlist_sends {s t : Server} {stack : List UsbipInterface} {r : SendResult}
    (h : step s (.loop1 (.devlist stack r)) = some t) :
    devlistReply s.lib s.driver stack = none ∧ t.crashed = true ∨
      ∃ frame, devlistReply s.lib s.driver stack = some frame ∧
        (t.history.sent = s.history.sent ∨ ∃ c n, s.conn = some c ∧
          t.history.sent = s.history.sent ++ [⟨c.id, .repDevlist, frame, n⟩]) := by
  obtain ⟨-, hstep⟩ := loop1Step h
  cases hstep with
  | devlistCrash ev stack r hh hd => exact .inl ⟨hd, rfl⟩
  | devlistFailed ev stack frame hh hd => exact .inr ⟨frame, hd, .inl rfl⟩
  | devlistSent ev stack frame r c n hh hd hc hr =>
    exact .inr ⟨frame, hd, .inr ⟨c, n, hc, rfl⟩⟩

def lateListing : List Action :=
  keyboardEnumeration ++ unplugging ++
    [.tcp (.accept (some 3) (requestHeader opReqDevlist 0)), .tcp .run, .tcp .run,
      .tcp (.recv (.data 8)), .tcp (.post true), .loop1 .dispatch]

def TruthfulDeviceList : Prop :=
  ∀ as t ev stack, run coldBoot as = some t → t.loop1.handler = .devlist ev →
    stack.length = maxInterfaces → t.driver.ListedTruthfully t.lib stack

def zeroIntfs : List UsbipInterface := List.replicate maxInterfaces ⟨0, 0, 0, 0⟩

theorem removed_device_listed : ¬ TruthfulDeviceList := by
  intro hall
  have hrun : (run coldBoot lateListing).map (fun t => (t.loop1.handler, t.driver.enumerated,
      decide (devlistReply t.lib t.driver zeroIntfs = some emptyReply))) =
      some (.devlist ⟨3, 8, opReqDevlist, requestHeader opReqDevlist 0, 8, 8⟩, false, false) := by
    decide +kernel
  obtain ⟨t, ht, hstate⟩ := Option.map_eq_some_iff.1 hrun
  simp only [Prod.mk.injEq, decide_eq_false_iff_not] at hstate
  obtain ⟨hhandler, henum, hreply⟩ := hstate
  have htruth := hall lateListing t _ zeroIntfs ht hhandler rfl
  rw [Driver.ListedTruthfully, if_neg (by rw [henum]; nofun)] at htruth
  exact hreply htruth

theorem listedTruthfully_iff_keyboard :
    ∃ t seen, exec (watch step noteEnumerated) (coldBoot, false) keyboardEnumeration =
        some (t, seen) ∧ seen = true ∧
      (t.driver.ListedTruthfully t.lib zeroIntfs ↔
        if t.driver.enumerated then t.driver.InterfacesFound t.lib else seen = false) := by
  have hrun : (exec (watch step noteEnumerated) (coldBoot, false) keyboardEnumeration).map
      Prod.snd = some true := by
    decide +kernel
  obtain ⟨⟨t, seen⟩, ht, hseen⟩ := Option.map_eq_some_iff.1 hrun
  exact ⟨t, seen, ht, hseen, listedTruthfully_iff_of_run ht rfl⟩

end UsbRepeater
