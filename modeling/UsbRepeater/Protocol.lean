import UsbRepeater.Lib.Bytes

/-! Constants and packed structures of usbip_server.h. A field holds the word that `ntohs` or
`ntohl` gives for it; `toBytes` puts it back in network order at its packed offset. -/
namespace UsbRepeater

def usbipVersion : UInt16 := 0x0111

def opReqDevlist : UInt16 := 0x8005
def opReqImport : UInt16 := 0x8003
def opRepDevlist : UInt16 := 0x0005
def opRepImport : UInt16 := 0x0003

def usbipCmdSubmit : UInt32 := 0x00000001
def usbipRetSubmit : UInt32 := 0x00000003
def usbipCmdUnlink : UInt32 := 0x00000002
def usbipRetUnlink : UInt32 := 0x00000004

def ascii (text : String) : Bytes := text.toList.map fun c => UInt8.ofNat c.toNat

/-- `BUS_ID`, without the terminating zero. -/
def busId : Bytes := ascii "3-2"

def devicePath : Bytes := ascii "/sys/devices/pci0000:00/0000:00:1d.1/usb2/3-2"

structure UsbipHeaderCommon where
  usbipVersion : UInt16
  commandCode : UInt16
  status : UInt32
  deriving DecidableEq, Repr

def UsbipHeaderCommon.ofBytes (b : Bytes) : UsbipHeaderCommon :=
  ⟨ofBe16 b, ofBe16 (b.drop 2), ofBe32 (b.drop 4)⟩

def UsbipHeaderCommon.toBytes (h : UsbipHeaderCommon) : Bytes :=
  be16 h.usbipVersion ++ be16 h.commandCode ++ be32 h.status

structure UsbipHeaderBasic where
  command : UInt32
  seqnum : UInt32
  devid : UInt32
  direction : UInt32
  ep : UInt32
  deriving DecidableEq, Repr

def UsbipHeaderBasic.ofBytes (b : Bytes) : UsbipHeaderBasic :=
  ⟨ofBe32 b, ofBe32 (b.drop 4), ofBe32 (b.drop 8), ofBe32 (b.drop 12), ofBe32 (b.drop 16)⟩

def UsbipHeaderBasic.toBytes (h : UsbipHeaderBasic) : Bytes :=
  be32 h.command ++ (be32 h.seqnum ++ (be32 h.devid ++ (be32 h.direction ++ be32 h.ep)))

/-- `usbip_cmd_submit`: 28 fixed bytes, the last eight of them the setup packet, and the
transfer buffer that follows them in the structure. -/
structure UsbipCmdSubmit where
  transferFlags : UInt32
  transferBufferLength : UInt32
  startFrame : UInt32
  numberOfPackets : UInt32
  interval : UInt32
  setup : Bytes
  transferBuffer : Bytes
  deriving DecidableEq, Repr

def UsbipCmdSubmit.ofBytes (fixed buffer : Bytes) : UsbipCmdSubmit :=
  ⟨ofBe32 fixed, ofBe32 (fixed.drop 4), ofBe32 (fixed.drop 8), ofBe32 (fixed.drop 12),
    ofBe32 (fixed.drop 16), (fixed.drop 20).take 8, buffer⟩

def UsbipCmdSubmit.fixedBytes (c : UsbipCmdSubmit) : Bytes :=
  be32 c.transferFlags ++ (be32 c.transferBufferLength ++ (be32 c.startFrame ++
    (be32 c.numberOfPackets ++ (be32 c.interval ++ c.setup))))

structure UsbipRetSubmit where
  base : UsbipHeaderBasic
  status : UInt32
  actualLength : UInt32
  startFrame : UInt32
  numberOfPackets : UInt32
  errorCount : UInt32
  padding : Bytes
  transferBuffer : Bytes
  deriving DecidableEq, Repr

def UsbipRetSubmit.headBytes (r : UsbipRetSubmit) : Bytes :=
  r.base.toBytes ++ (be32 r.status ++ (be32 r.actualLength ++ (be32 r.startFrame ++
    (be32 r.numberOfPackets ++ (be32 r.errorCount ++ r.padding)))))

def UsbipRetSubmit.toBytes (r : UsbipRetSubmit) : Bytes := r.headBytes ++ r.transferBuffer

/-- A reply as a client reads it off its stream: the 48 bytes, and the data behind them. -/
def UsbipRetSubmit.ofBytes (b : Bytes) : UsbipRetSubmit where
  base := .ofBytes b
  status := ofBe32 (b.drop 20)
  actualLength := ofBe32 (b.drop 24)
  startFrame := ofBe32 (b.drop 28)
  numberOfPackets := ofBe32 (b.drop 32)
  errorCount := ofBe32 (b.drop 36)
  padding := (b.drop 40).take 8
  transferBuffer := b.drop 48

structure UsbipCmdUnlink where
  unlinkSeqnum : UInt32
  deriving DecidableEq, Repr

def UsbipCmdUnlink.ofBytes (b : Bytes) : UsbipCmdUnlink := ⟨ofBe32 b⟩

structure UsbipRetUnlink where
  base : UsbipHeaderBasic
  status : UInt32
  padding : Bytes
  deriving DecidableEq, Repr

def UsbipRetUnlink.toBytes (r : UsbipRetUnlink) : Bytes :=
  r.base.toBytes ++ (be32 r.status ++ r.padding)

structure UsbipInterface where
  bInterfaceClass : UInt8
  bInterfaceSubClass : UInt8
  bInterfaceProtocol : UInt8
  padding : UInt8
  deriving DecidableEq, Repr

def UsbipInterface.toBytes (i : UsbipInterface) : Bytes :=
  [i.bInterfaceClass, i.bInterfaceSubClass, i.bInterfaceProtocol, i.padding]

structure DeviceRecord where
  path : Bytes
  busId : Bytes
  busnum : UInt32
  devnum : UInt32
  speed : UInt32
  idVendor : UInt16
  idProduct : UInt16
  bcdDevice : UInt16
  bDeviceClass : UInt8
  bDeviceSubClass : UInt8
  bDeviceProtocol : UInt8
  bConfigurationValue : UInt8
  bNumConfigurations : UInt8
  bNumInterfaces : UInt8
  deriving DecidableEq, Repr

def DeviceRecord.toBytes (d : DeviceRecord) : Bytes :=
  d.path ++ (d.busId ++ (be32 d.busnum ++ (be32 d.devnum ++ (be32 d.speed ++
    (be16 d.idVendor ++ (be16 d.idProduct ++ (be16 d.bcdDevice ++
      [d.bDeviceClass, d.bDeviceSubClass, d.bDeviceProtocol, d.bConfigurationValue,
        d.bNumConfigurations, d.bNumInterfaces])))))))

structure OpRepImport where
  usbipVersion : UInt16
  replyCode : UInt16
  status : UInt32
  device : DeviceRecord
  deriving DecidableEq, Repr

def OpRepImport.toBytes (r : OpRepImport) : Bytes :=
  be16 r.usbipVersion ++ (be16 r.replyCode ++ (be32 r.status ++ r.device.toBytes))

structure OpRepDevlist where
  usbipVersion : UInt16
  replyCode : UInt16
  status : UInt32
  noOfDevice : UInt32
  device : DeviceRecord
  intfs : List UsbipInterface
  deriving DecidableEq, Repr

def OpRepDevlist.toBytes (r : OpRepDevlist) : Bytes :=
  be16 r.usbipVersion ++ (be16 r.replyCode ++ (be32 r.status ++ (be32 r.noOfDevice ++
    (r.device.toBytes ++ r.intfs.flatMap UsbipInterface.toBytes))))

def headerCommonSize : ℕ := 8
def opReqImportSize : ℕ := 40
def headerBasicSize : ℕ := 20

/-- `sizeof(usbip_cmd_submit) - 1024`, the part `do_recv` reads first. -/
def cmdHeaderSize : ℕ := 28

def cmdUnlinkSize : ℕ := 28
def retSubmitHeadSize : ℕ := 48

@[simp] theorem UsbipHeaderBasic.toBytes_length (h : UsbipHeaderBasic) :
    h.toBytes.length = headerBasicSize := rfl

@[simp] theorem UsbipHeaderBasic.drop_toBytes_append (h : UsbipHeaderBasic) (rest : Bytes)
    (n : ℕ) : (h.toBytes ++ rest).drop (n + 20) = rest.drop n := rfl

@[simp] theorem UsbipHeaderBasic.ofBytes_toBytes_append (h : UsbipHeaderBasic) (rest : Bytes) :
    UsbipHeaderBasic.ofBytes (h.toBytes ++ rest) = h := by
  simp [UsbipHeaderBasic.ofBytes, UsbipHeaderBasic.toBytes, List.append_assoc]

@[simp] theorem UsbipHeaderCommon.toBytes_length (h : UsbipHeaderCommon) :
    h.toBytes.length = headerCommonSize := rfl

@[simp] theorem UsbipHeaderCommon.ofBytes_toBytes_append (h : UsbipHeaderCommon) (rest : Bytes) :
    UsbipHeaderCommon.ofBytes (h.toBytes ++ rest) = h := by
  simp [UsbipHeaderCommon.ofBytes, UsbipHeaderCommon.toBytes, List.append_assoc]

theorem UsbipCmdSubmit.fixedBytes_length {c : UsbipCmdSubmit} (hs : c.setup.length = 8) :
    c.fixedBytes.length = cmdHeaderSize := by
  simp [UsbipCmdSubmit.fixedBytes, cmdHeaderSize, hs]

theorem UsbipCmdSubmit.ofBytes_fixedBytes_append {c : UsbipCmdSubmit} (hs : c.setup.length = 8)
    (rest buffer : Bytes) :
    UsbipCmdSubmit.ofBytes (c.fixedBytes ++ rest) buffer = { c with transferBuffer := buffer } := by
  have hsetup : (c.setup ++ rest).take 8 = c.setup := List.take_left' hs
  simp [UsbipCmdSubmit.ofBytes, UsbipCmdSubmit.fixedBytes, List.append_assoc, hsetup]

theorem UsbipRetSubmit.headBytes_length {r : UsbipRetSubmit} (hp : r.padding.length = 8) :
    r.headBytes.length = retSubmitHeadSize := by
  simp [UsbipRetSubmit.headBytes, retSubmitHeadSize, hp, headerBasicSize]

theorem UsbipRetSubmit.command_at (r : UsbipRetSubmit) : ofBe32 r.headBytes = r.base.command := by
  simp [UsbipRetSubmit.headBytes, UsbipHeaderBasic.toBytes, List.append_assoc]

theorem UsbipRetSubmit.seqnum_at (r : UsbipRetSubmit) :
    ofBe32 (r.headBytes.drop 4) = r.base.seqnum := by
  simp [UsbipRetSubmit.headBytes, UsbipHeaderBasic.toBytes, List.append_assoc]

theorem UsbipRetSubmit.ofBytes_headBytes_append {r : UsbipRetSubmit} (hp : r.padding.length = 8)
    (data : Bytes) :
    UsbipRetSubmit.ofBytes (r.headBytes ++ data) = { r with transferBuffer := data } := by
  have hpadding : (r.padding ++ data).take 8 = r.padding := List.take_left' hp
  have hdata : (r.padding ++ data).drop 8 = data := List.drop_left' hp
  simp [UsbipRetSubmit.ofBytes, UsbipRetSubmit.headBytes, List.append_assoc, hpadding, hdata]

theorem UsbipRetSubmit.actualLength_at (r : UsbipRetSubmit) (rest : Bytes) :
    ofBe32 ((r.headBytes ++ rest).drop 24) = r.actualLength := by
  simp [UsbipRetSubmit.headBytes, List.append_assoc]

end UsbRepeater
