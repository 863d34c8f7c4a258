import UsbRepeater.ClassDriver

/-! The replies of usbip_server.c: what `_usb_ip_event_handler_1` puts into an
OP_REP_DEVLIST and an OP_REP_IMPORT, and which descriptors it dereferences on the way. -/
namespace UsbRepeater

/-- The record of the one exported device, with the bus number and device number fixed. -/
def deviceRecord (info : UsbDeviceInfo) (dev : UsbDeviceDesc) (config : UsbConfigDesc) :
    DeviceRecord where
  path := sized 256 devicePath
  busId := sized 32 busId
  busnum := 3
  devnum := 2
  speed := info.speed + 1
  idVendor := dev.idVendor
  idProduct := dev.idProduct
  bcdDevice := dev.bcdDevice
  bDeviceClass := dev.bDeviceClass
  bDeviceSubClass := dev.bDeviceSubClass
  bDeviceProtocol := dev.bDeviceProtocol
  bConfigurationValue := config.bConfigurationValue
  bNumConfigurations := dev.bNumConfigurations
  bNumInterfaces := config.bNumInterfaces

def DeviceRecord.zero : DeviceRecord where
  path := List.replicate 256 0
  busId := List.replicate 32 0
  busnum := 0
  devnum := 0
  speed := 0
  idVendor := 0
  idProduct := 0
  bcdDevice := 0
  bDeviceClass := 0
  bDeviceSubClass := 0
  bDeviceProtocol := 0
  bConfigurationValue := 0
  bNumConfigurations := 0
  bNumInterfaces := 0

def emptyReply : Bytes :=
  be16 usbipVersion ++ (be16 opRepDevlist ++ (be32 0 ++ be32 0))

/-- The interface loop of the device list. `intfs` starts as whatever the stack held; a missing
interface descriptor is a null dereference. -/
def devlistIntfs (lib : HostLib) (config : UsbConfigDesc) (intfs : List UsbipInterface) :
    Option (List UsbipInterface) :=
  (List.range config.bNumInterfaces.toNat).foldlM (fun intfs n =>
    (lib.usbParseInterfaceDescriptor config n 0).map fun intf =>
      intfs.set n
        ⟨intf.bInterfaceClass, intf.bInterfaceSubClass, intf.bInterfaceProtocol, 0⟩) intfs

def devlistReply (lib : HostLib) (d : Driver) (stack : List UsbipInterface) : Option Bytes :=
  match d.devDesc, d.configDesc with
  | some dev, some config =>
      (devlistIntfs lib config.val stack).map fun intfs =>
        OpRepDevlist.toBytes
          ⟨usbipVersion, opRepDevlist, 0, 1, deviceRecord d.devInfo dev.val config.val, intfs⟩
  | _, _ => some emptyReply

/-- The state of a descriptor pointer at a dereference. -/
inductive Access
  | null | closed | live
  deriving DecidableEq, Repr

def Driver.access {α : Type} (d : Driver) (p : Option (Owned α)) : Access :=
  if p.isNone then .null else if d.live p then .live else .closed

/-- What handling an import did to descriptors, and the reply it got to: none after a null
dereference. -/
structure ImportBuild where
  accesses : List Access
  reply : Option OpRepImport

def busIdOf (devImport : Bytes) : Bytes := devImport.drop 8

/-- Lines 142 to 183 of usbip_server.c. The device descriptor is dereferenced before the
configuration descriptor. -/
def importBuild (d : Driver) (devImport : Bytes) : ImportBuild :=
  if strcmp (busId ++ [0]) (busIdOf devImport) = 0 then
    match d.devDesc, d.configDesc with
    | none, _ => ⟨[.null], none⟩
    | some dev, none => ⟨[d.access (some dev), .null], none⟩
    | some dev, some config =>
        ⟨[d.access (some dev), d.access (some config)],
          some ⟨usbipVersion, opRepImport, 0, deviceRecord d.devInfo dev.val config.val⟩⟩
  else
    ⟨[], some ⟨usbipVersion, opRepImport, 1, DeviceRecord.zero⟩⟩

end UsbRepeater
