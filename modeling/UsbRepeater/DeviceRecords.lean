import UsbRepeater.InterfaceTable
import UsbRepeater.Lib.Packed

/-! The two encoders of the device record. `_usb_ip_event_handler_1` fills an `op_rep_devlist` and
an `op_rep_import` on its stack, field by field; both replies have the same 312 bytes for the same
descriptors, and a client reads the descriptors back from them. -/
namespace UsbRepeater

open Packed

inductive OpRepDevlistField
  | usbipVersion | replyCode | status | noOfDevice | path | busId | busnum | devnum | speed
  | idVendor | idProduct | bcdDevice | bDeviceClass | bDeviceSubClass | bDeviceProtocol
  | bConfigurationValue | bNumConfigurations | bNumInterfaces | intfs
  deriving DecidableEq

def devlistLayout : Layout OpRepDevlistField where
  fields := [.usbipVersion, .replyCode, .status, .noOfDevice, .path, .busId, .busnum, .devnum,
    .speed, .idVendor, .idProduct, .bcdDevice, .bDeviceClass, .bDeviceSubClass, .bDeviceProtocol,
    .bConfigurationValue, .bNumConfigurations, .bNumInterfaces, .intfs]
  size
    | .usbipVersion | .replyCode => 2
    | .status | .noOfDevice => 4
    | .path => 256
    | .busId => 32
    | .busnum | .devnum | .speed => 4
    | .idVendor | .idProduct | .bcdDevice => 2
    | .bDeviceClass | .bDeviceSubClass | .bDeviceProtocol => 1
    | .bConfigurationValue | .bNumConfigurations | .bNumInterfaces => 1
    | .intfs => 40
  nodup := by decide

inductive OpRepImportField
  | usbipVersion | replyCode | status | path | busId | busnum | devnum | speed
  | idVendor | idProduct | bcdDevice | bDeviceClass | bDeviceSubClass | bDeviceProtocol
  | bConfigurationValue | bNumConfigurations | bNumInterfaces
  deriving DecidableEq

def importLayout : Layout OpRepImportField where
  fields := [.usbipVersion, .replyCode, .status, .path, .busId, .busnum, .devnum, .speed,
    .idVendor, .idProduct, .bcdDevice, .bDeviceClass, .bDeviceSubClass, .bDeviceProtocol,
    .bConfigurationValue, .bNumConfigurations, .bNumInterfaces]
  size
    | .usbipVersion | .replyCode => 2
    | .status => 4
    | .path => 256
    | .busId => 32
    | .busnum | .devnum | .speed => 4
    | .idVendor | .idProduct | .bcdDevice => 2
    | .bDeviceClass | .bDeviceSubClass | .bDeviceProtocol => 1
    | .bConfigurationValue | .bNumConfigurations | .bNumInterfaces => 1
  nodup := by decide

/-- The assignments to `dev` in the OP_REQ_DEVLIST branch, in their order: `memset` and `strcpy`
for the two texts, `htons` and `htonl` for the words. -/
def devlistAssignments (info : UsbDeviceInfo) (dev : UsbDeviceDesc) (config : UsbConfigDesc) :
    List (OpRepDevlistField × Bytes) :=
  [(.usbipVersion, be16 usbipVersion), (.replyCode, be16 opRepDevlist), (.status, be32 0),
    (.noOfDevice, be32 1),
    (.path, List.replicate 256 0), (.path, devicePath ++ [0]),
    (.busId, List.replicate 32 0), (.busId, busId ++ [0]),
    (.busnum, be32 3), (.devnum, be32 2),
    (.speed, be32 (info.speed + 1)),
    (.idVendor, be16 dev.idVendor), (.idProduct, be16 dev.idProduct),
    (.bcdDevice, be16 dev.bcdDevice),
    (.bDeviceClass, [dev.bDeviceClass]), (.bDeviceSubClass, [dev.bDeviceSubClass]),
    (.bDeviceProtocol, [dev.bDeviceProtocol]),
    (.bConfigurationValue, [config.bConfigurationValue]),
    (.bNumConfigurations, [dev.bNumConfigurations]), (.bNumInterfaces, [config.bNumInterfaces])]

def importAssignments (info : UsbDeviceInfo) (dev : UsbDeviceDesc) (config : UsbConfigDesc) :
    List (OpRepImportField × Bytes) :=
  [(.usbipVersion, be16 usbipVersion), (.replyCode, be16 opRepImport), (.status, be32 0),
    (.path, List.replicate 256 0), (.path, devicePath ++ [0]),
    (.busId, List.replicate 32 0), (.busId, busId ++ [0]),
    (.busnum, be32 3), (.devnum, be32 2),
    (.speed, be32 (info.speed + 1)),
    (.idVendor, be16 dev.idVendor), (.idProduct, be16 dev.idProduct),
    (.bcdDevice, be16 dev.bcdDevice),
    (.bDeviceClass, [dev.bDeviceClass]), (.bDeviceSubClass, [dev.bDeviceSubClass]),
    (.bDeviceProtocol, [dev.bDeviceProtocol]),
    (.bConfigurationValue, [config.bConfigurationValue]),
    (.bNumConfigurations, [dev.bNumConfigurations]), (.bNumInterfaces, [config.bNumInterfaces])]

/-- The loop's assignment to `dev.intfs[n]`. One behind the table misses the structure. -/
def storeIntf (n : ℕ) (intf : UsbipInterface) (mem : Bytes) : Bytes :=
  if n < maxInterfaces then store (devlistLayout.offset .intfs + 4 * n) intf.toBytes mem else mem

/-- The OP_REP_DEVLIST as it is sent, when `dev` lies in `mem`: `none` if the loop finds no
descriptor for an interface. -/
def encodeDevlist (lib : HostLib) (info : UsbDeviceInfo) (dev : UsbDeviceDesc)
    (config : UsbConfigDesc) (mem : Bytes) : Option Bytes :=
  (List.range config.bNumInterfaces.toNat).foldlM (fun mem n =>
    (lib.usbParseInterfaceDescriptor config n 0).map fun intf =>
      storeIntf n ⟨intf.bInterfaceClass, intf.bInterfaceSubClass, intf.bInterfaceProtocol, 0⟩ mem)
    (devlistLayout.run (devlistAssignments info dev config) mem)

def encodeImport (info : UsbDeviceInfo) (dev : UsbDeviceDesc) (config : UsbConfigDesc)
    (mem : Bytes) : Bytes :=
  importLayout.run (importAssignments info dev config) mem

def OpRepImport.field (r : OpRepImport) : OpRepImportField → Bytes
  | .usbipVersion => be16 r.usbipVersion
  | .replyCode => be16 r.replyCode
  | .status => be32 r.status
  | .path => r.device.path
  | .busId => r.device.busId
  | .busnum => be32 r.device.busnum
  | .devnum => be32 r.device.devnum
  | .speed => be32 r.device.speed
  | .idVendor => be16 r.device.idVendor
  | .idProduct => be16 r.device.idProduct
  | .bcdDevice => be16 r.device.bcdDevice
  | .bDeviceClass => [r.device.bDeviceClass]
  | .bDeviceSubClass => [r.device.bDeviceSubClass]
  | .bDeviceProtocol => [r.device.bDeviceProtocol]
  | .bConfigurationValue => [r.device.bConfigurationValue]
  | .bNumConfigurations => [r.device.bNumConfigurations]
  | .bNumInterfaces => [r.device.bNumInterfaces]

theorem mem_importLayout (f : OpRepImportField) : f ∈ importLayout.fields := by
  cases f <;> decide

theorem importAssignments_fits (info : UsbDeviceInfo) (dev : UsbDeviceDesc)
    (config : UsbConfigDesc) : ∀ a ∈ importAssignments info dev config, importLayout.Fits a :=
  Layout.fits_of_sizes
    ((importAssignments ⟨0, false, false, false⟩ ⟨0, 0, 0, 0, 0, 0, 0⟩ ⟨0, 0, 0, []⟩).map
      fun a => (a.1, a.2.length)) rfl (by decide +kernel)

theorem encodeImport_read (info : UsbDeviceInfo) (dev : UsbDeviceDesc) (config : UsbConfigDesc)
    {mem : Bytes} (hmem : mem.length = importLayout.total) (f : OpRepImportField) :
    importLayout.read f (encodeImport info dev config mem) =
      OpRepImport.field ⟨usbipVersion, opRepImport, 0, deviceRecord info dev config⟩ f := by
  rw [encodeImport, Layout.read_run (importAssignments_fits info dev config)
    (mem_importLayout f) hmem]
  cases f <;>
    simp only [importAssignments, Layout.content_cons, Layout.content_nil, reduceCtorEq, if_true,
      if_false]
  case path =>
    rw [Layout.append_read_drop (by decide +kernel)]
    exact sized_of_cleared (by decide)
  case busId =>
    rw [Layout.append_read_drop (by decide)]
    exact sized_of_cleared (by decide)
  all_goals exact Layout.append_read_drop le_rfl _

theorem encodeImport_length (info : UsbDeviceInfo) (dev : UsbDeviceDesc) (config : UsbConfigDesc)
    {mem : Bytes} (hmem : mem.length = importLayout.total) :
    (encodeImport info dev config mem).length = importLayout.total :=
  Layout.run_length (importAssignments_fits info dev config) hmem

theorem encodeImport_eq (info : UsbDeviceInfo) (dev : UsbDeviceDesc) (config : UsbConfigDesc)
    {mem : Bytes} (hmem : mem.length = importLayout.total) :
    encodeImport info dev config mem =
      OpRepImport.toBytes ⟨usbipVersion, opRepImport, 0, deviceRecord info dev config⟩ := by
  rw [Layout.eq_flatMap_read (encodeImport_length info dev config hmem)]
  simp only [encodeImport_read info dev config hmem]
  rfl

def OpRepDevlist.field (r : OpRepDevlist) : OpRepDevlistField → Bytes
  | .usbipVersion => be16 r.usbipVersion
  | .replyCode => be16 r.replyCode
  | .status => be32 r.status
  | .noOfDevice => be32 r.noOfDevice
  | .path => r.device.path
  | .busId => r.device.busId
  | .busnum => be32 r.device.busnum
  | .devnum => be32 r.device.devnum
  | .speed => be32 r.device.speed
  | .idVendor => be16 r.device.idVendor
  | .idProduct => be16 r.device.idProduct
  | .bcdDevice => be16 r.device.bcdDevice
  | .bDeviceClass => [r.device.bDeviceClass]
  | .bDeviceSubClass => [r.device.bDeviceSubClass]
  | .bDeviceProtocol => [r.device.bDeviceProtocol]
  | .bConfigurationValue => [r.device.bConfigurationValue]
  | .bNumConfigurations => [r.device.bNumConfigurations]
  | .bNumInterfaces => [r.device.bNumInterfaces]
  | .intfs => intfsBytes r.intfs

theorem mem_devlistLayout (f : OpRepDevlistField) : f ∈ devlistLayout.fields := by
  cases f <;> decide

theorem devlistAssignments_fits (info : UsbDeviceInfo) (dev : UsbDeviceDesc)
    (config : UsbConfigDesc) : ∀ a ∈ devlistAssignments info dev config, devlistLayout.Fits a :=
  Layout.fits_of_sizes
    ((devlistAssignments ⟨0, false, false, false⟩ ⟨0, 0, 0, 0, 0, 0, 0⟩ ⟨0, 0, 0, []⟩).map
      fun a => (a.1, a.2.length)) rfl (by decide +kernel)

theorem devlistAssignments_read (info : UsbDeviceInfo) (dev : UsbDeviceDesc)
    (config : UsbConfigDesc) {mem : Bytes} {stack : List UsbipInterface}
    (hmem : mem.length = devlistLayout.total)
    (hstack : devlistLayout.read .intfs mem = intfsBytes stack) (f : OpRepDevlistField) :
    devlistLayout.read f (devlistLayout.run (devlistAssignments info dev config) mem) =
      (oneDevice info dev config stack).field f := by
  rw [Layout.read_run (devlistAssignments_fits info dev config) (mem_devlistLayout f) hmem]
  cases f <;>
    simp only [devlistAssignments, Layout.content_cons, Layout.content_nil, reduceCtorEq, if_true,
      if_false]
  case path =>
    rw [Layout.append_read_drop (by decide +kernel)]
    exact sized_of_cleared (by decide)
  case busId =>
    rw [Layout.append_read_drop (by decide)]
    exact sized_of_cleared (by decide)
  case intfs => exact hstack
  all_goals exact Layout.append_read_drop le_rfl _

theorem devlistAssignments_eq (info : UsbDeviceInfo) (dev : UsbDeviceDesc)
    (config : UsbConfigDesc) {mem : Bytes} {stack : List UsbipInterface}
    (hmem : mem.length = devlistLayout.total)
    (hstack : devlistLayout.read .intfs mem = intfsBytes stack) :
    devlistLayout.run (devlistAssignments info dev config) mem =
      (oneDevice info dev config stack).toBytes := by
  rw [Layout.eq_flatMap_read (Layout.run_length (devlistAssignments_fits info dev config) hmem)]
  simp only [devlistAssignments_read info dev config hmem hstack]
  simp [devlistLayout, oneDevice, OpRepDevlist.field, OpRepDevlist.toBytes,
    DeviceRecord.toBytes, intfsBytes]

theorem oneDevice_eq_append (info : UsbDeviceInfo) (dev : UsbDeviceDesc) (config : UsbConfigDesc)
    (intfs : List UsbipInterface) : (oneDevice info dev config intfs).toBytes =
      (oneDevice info dev config []).toBytes ++ intfsBytes intfs := by
  simp [oneDevice, OpRepDevlist.toBytes, intfsBytes]

theorem storeIntf_oneDevice (info : UsbDeviceInfo) (dev : UsbDeviceDesc) (config : UsbConfigDesc)
    (n : ℕ) (intf : UsbipInterface) {intfs : List UsbipInterface}
    (h : intfs.length = maxInterfaces) :
    storeIntf n intf (oneDevice info dev config intfs).toBytes =
      (oneDevice info dev config (intfs.set n intf)).toBytes := by
  unfold storeIntf
  split_ifs with hn
  · have hfront : (oneDevice info dev config []).toBytes.length = devlistLayout.offset .intfs := by
      rw [oneDevice_length]
      rfl
    rw [oneDevice_eq_append, store_append hfront, intfsBytes,
      store_flatMap UsbipInterface.toBytes_length intf (h ▸ hn),
      oneDevice_eq_append info dev config (intfs.set n intf), intfsBytes]
  · rw [List.set_eq_of_length_le (by omega)]

theorem encodeDevlist_eq (lib : HostLib) (info : UsbDeviceInfo) (dev : UsbDeviceDesc)
    (config : UsbConfigDesc) {mem : Bytes} {stack : List UsbipInterface}
    (hmem : mem.length = devlistLayout.total) (hroom : stack.length = maxInterfaces)
    (hstack : devlistLayout.read .intfs mem = intfsBytes stack) :
    encodeDevlist lib info dev config mem = (devlistIntfs lib config stack).map fun intfs =>
      (oneDevice info dev config intfs).toBytes := by
  rw [encodeDevlist, devlistAssignments_eq info dev config hmem hstack]
  refine Table.foldlM_view (fun intfs => (oneDevice info dev config intfs).toBytes)
    (fun intfs : List UsbipInterface => intfs.length = maxInterfaces)
    (fun intfs n h => ?_) (fun intfs n intfs' h hset => ?_) _ hroom
  · rw [Option.map_map]
    refine Option.map_congr fun intf _ => ?_
    exact storeIntf_oneDevice info dev config n _ h
  · obtain ⟨intf, -, rfl⟩ := Option.map_eq_some_iff.1 hset
    rw [List.length_set, h]

/-- Whatever the stack holds where `dev.intfs` is, it can be read as interface records. -/
theorem exists_intfs {k : ℕ} {b : Bytes} (h : b.length = 4 * k) :
    ∃ stack : List UsbipInterface, stack.length = k ∧ intfsBytes stack = b := by
  induction k generalizing b with
  | zero =>
    obtain rfl := List.length_eq_zero_iff.1 h
    exact ⟨[], rfl, rfl⟩
  | succ k ih =>
    match b with
    | [] | [_] | [_, _] | [_, _, _] => simp only [List.length_cons, List.length_nil] at h; omega
    | x :: y :: z :: w :: rest =>
      simp only [List.length_cons] at h
      obtain ⟨stack, hlen, hbytes⟩ := ih (b := rest) (by omega)
      refine ⟨⟨x, y, z, w⟩ :: stack, by rw [List.length_cons, hlen], ?_⟩
      rw [← hbytes]
      rfl

/-- The replies of the server are those the assignments leave in memory. -/
theorem devlistReply_eq_encode (lib : HostLib) {d : Driver} {dev : Owned UsbDeviceDesc}
    {config : Owned UsbConfigDesc} (hdev : d.devDesc = some dev)
    (hconfig : d.configDesc = some config) {mem : Bytes} {stack : List UsbipInterface}
    (hmem : mem.length = devlistLayout.total) (hroom : stack.length = maxInterfaces)
    (hstack : devlistLayout.read .intfs mem = intfsBytes stack) :
    devlistReply lib d stack = encodeDevlist lib d.devInfo dev.val config.val mem := by
  rw [devlistReply_of_both lib hdev hconfig, encodeDevlist_eq lib _ _ _ hmem hroom hstack]

theorem importReply_eq_encode {d : Driver} {devImport : Bytes} {r : OpRepImport}
    (h : (importBuild d devImport).reply = some r) (hr : r.status = 0) {mem : Bytes}
    (hmem : mem.length = importLayout.total) : ∃ dev config, d.devDesc = some dev ∧
      d.configDesc = some config ∧ r.toBytes = encodeImport d.devInfo dev.val config.val mem := by
  unfold importBuild at h
  split_ifs at h
  · split at h
    · cases h
    · cases h
    · rename_i dev config hdev hconfig
      obtain rfl := Option.some.inj h
      exact ⟨dev, config, hdev, hconfig, (encodeImport_eq _ _ _ hmem).symm⟩
  · obtain rfl := Option.some.inj h
    cases hr

def DeviceRecord.ofBytes (b : Bytes) : DeviceRecord where
  path := b.take 256
  busId := (b.drop 256).take 32
  busnum := ofBe32 (b.drop 288)
  devnum := ofBe32 (b.drop 292)
  speed := ofBe32 (b.drop 296)
  idVendor := ofBe16 (b.drop 300)
  idProduct := ofBe16 (b.drop 302)
  bcdDevice := ofBe16 (b.drop 304)
  bDeviceClass := (b.drop 306).headD 0
  bDeviceSubClass := (b.drop 307).headD 0
  bDeviceProtocol := (b.drop 308).headD 0
  bConfigurationValue := (b.drop 309).headD 0
  bNumConfigurations := (b.drop 310).headD 0
  bNumInterfaces := (b.drop 311).headD 0

theorem DeviceRecord.ofBytes_toBytes {r : DeviceRecord} (hpath : r.path.length = 256)
    (hbusId : r.busId.length = 32) : DeviceRecord.ofBytes r.toBytes = r := by
  have hpathBytes : ∀ rest : Bytes, (r.path ++ rest).take 256 = r.path :=
    fun rest => List.take_left' hpath
  have hbusBytes : ∀ rest : Bytes, (r.busId ++ rest).take 32 = r.busId :=
    fun rest => List.take_left' hbusId
  have hbus : ∀ rest : Bytes, (r.path ++ rest).drop 256 = rest := fun rest => List.drop_left' hpath
  have hwords : ∀ (rest : Bytes) (n : ℕ),
      (r.path ++ (r.busId ++ rest)).drop (n + 288) = rest.drop n := by
    intro rest n
    rw [Nat.add_comm, ← List.drop_drop, ← List.append_assoc]
    congr 1
    exact List.drop_left' (by rw [List.length_append, hpath, hbusId])
  simp [DeviceRecord.ofBytes, DeviceRecord.toBytes, hpathBytes, hbusBytes, hbus, hwords]

structure DeviceRecord.Describes (r : DeviceRecord) (info : UsbDeviceInfo) (dev : UsbDeviceDesc)
    (config : UsbConfigDesc) : Prop where
  idVendor : r.idVendor = dev.idVendor
  idProduct : r.idProduct = dev.idProduct
  bcdDevice : r.bcdDevice = dev.bcdDevice
  bDeviceClass : r.bDeviceClass = dev.bDeviceClass
  bDeviceSubClass : r.bDeviceSubClass = dev.bDeviceSubClass
  bDeviceProtocol : r.bDeviceProtocol = dev.bDeviceProtocol
  bConfigurationValue : r.bConfigurationValue = config.bConfigurationValue
  bNumConfigurations : r.bNumConfigurations = dev.bNumConfigurations
  bNumInterfaces : r.bNumInterfaces = config.bNumInterfaces
  speed : r.speed = info.speed + 1

theorem deviceRecord_describes (info : UsbDeviceInfo) (dev : UsbDeviceDesc)
    (config : UsbConfigDesc) : (deviceRecord info dev config).Describes info dev config :=
  ⟨rfl, rfl, rfl, rfl, rfl, rfl, rfl, rfl, rfl, rfl⟩

theorem devlist_record (info : UsbDeviceInfo) (dev : UsbDeviceDesc) (config : UsbConfigDesc)
    (intfs : List UsbipInterface) :
    ((oneDevice info dev config intfs).toBytes.drop 12).take 312 =
      (deviceRecord info dev config).toBytes := by
  have hrest : (oneDevice info dev config intfs).toBytes.drop 12 =
      (deviceRecord info dev config).toBytes ++ intfsBytes intfs := by
    simp [oneDevice, OpRepDevlist.toBytes, intfsBytes]
  rw [hrest, List.take_left' (deviceRecord_toBytes_length info dev config)]

theorem import_record (info : UsbDeviceInfo) (dev : UsbDeviceDesc) (config : UsbConfigDesc) :
    ((OpRepImport.toBytes ⟨usbipVersion, opRepImport, 0, deviceRecord info dev config⟩).drop
      8).take 312 = (deviceRecord info dev config).toBytes := by
  have hrest : (OpRepImport.toBytes
      ⟨usbipVersion, opRepImport, 0, deviceRecord info dev config⟩).drop 8 =
        (deviceRecord info dev config).toBytes := by
    simp [OpRepImport.toBytes]
  rw [hrest, List.take_of_length_le (deviceRecord_toBytes_length info dev config).le]

/-- The list and the import give the same record, whatever the two structures lie on, and the
client reads the descriptors back from it. -/
theorem list_and_import_agree {lib : HostLib} {info : UsbDeviceInfo} {dev : UsbDeviceDesc}
    {config : UsbConfigDesc} {mem mem' frame : Bytes}
    (hmem : mem.length = devlistLayout.total) (hmem' : mem'.length = importLayout.total)
    (hlist : encodeDevlist lib info dev config mem = some frame) :
    (frame.drop 12).take 312 = ((encodeImport info dev config mem').drop 8).take 312 ∧
      (DeviceRecord.ofBytes ((frame.drop 12).take 312)).Describes info dev config := by
  have htail : (devlistLayout.read .intfs mem).length = 4 * maxInterfaces := by
    rw [Layout.read, window, List.length_take, List.length_drop, hmem]
    decide
  obtain ⟨stack, hstack, hbytes⟩ := exists_intfs htail
  rw [encodeDevlist_eq lib info dev config hmem hstack hbytes.symm] at hlist
  obtain ⟨intfs, -, rfl⟩ := Option.map_eq_some_iff.1 hlist
  rw [encodeImport_eq info dev config hmem', devlist_record, import_record]
  refine ⟨rfl, ?_⟩
  rw [DeviceRecord.ofBytes_toBytes (sized_length 256 _) (sized_length 32 _)]
  exact deviceRecord_describes info dev config

theorem list_and_import_agree_keyboard : ∃ frame,
    encodeDevlist idfLibrary ⟨1, false, false, false⟩ keyboardDevice keyboardConfig
      (List.replicate 364 0xff) = some frame ∧
        (frame.drop 12).take 312 =
          ((encodeImport ⟨1, false, false, false⟩ keyboardDevice keyboardConfig
            (List.replicate 320 0xa5)).drop 8).take 312 ∧
          (DeviceRecord.ofBytes ((frame.drop 12).take 312)).Describes ⟨1, false, false, false⟩
            keyboardDevice keyboardConfig := by
  have hsome : (encodeDevlist idfLibrary ⟨1, false, false, false⟩ keyboardDevice keyboardConfig
      (List.replicate 364 0xff)).isSome = true := by decide +kernel
  obtain ⟨frame, hframe⟩ := Option.isSome_iff_exists.1 hsome
  exact ⟨frame, hframe, list_and_import_agree (by decide +kernel) (by decide +kernel) hframe⟩

end UsbRepeater
