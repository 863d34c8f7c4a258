import UsbRepeater.ClassDriver

/-! The data of usb_handler.c: how `_usb_ip_event_handler_2` fills a reply and a transfer, and
what `transfer_cb_ctrl` and `transfer_cb` make of a completed one. -/
namespace UsbRepeater

/-- The event `submit` that `do_recv` posts. `id` numbers the posted events and `conn` the
connection the command was read from; the firmware has neither. -/
structure Submit where
  header : UsbipHeaderBasic
  cmdSubmit : UsbipCmdSubmit
  sock : ℤ
  id : ℕ
  conn : ℕ
  deriving DecidableEq, Repr

def toInt32 (w : UInt32) : ℤ := if w.toNat < 2147483648 then w.toNat else (w.toNat : ℤ) - 4294967296

def ofInt32 (x : ℤ) : UInt32 := UInt32.ofNat (x % 4294967296).toNat

/-- The reply as it is filled in before the transfer runs. `heap` is what `malloc` returned. -/
def fillRetSubmit (ev : Submit) (heap : Bytes) : UsbipRetSubmit where
  base := { ev.header with command := usbipRetSubmit }
  status := 0
  actualLength := ev.cmdSubmit.transferBufferLength
  startFrame := 0
  numberOfPackets := 0
  errorCount := 0
  padding := List.replicate 8 0
  transferBuffer := sized 1024 heap

/-- A `usb_transfer_t`; `context` is the reply it points to, `ev` the event it serves, and
`control` says that its callback is `transfer_cb_ctrl`. -/
structure UsbTransfer where
  ev : Submit
  context : UsbipRetSubmit
  dataBuffer : Bytes
  deviceHandle : Option ℕ
  control : Bool
  bEndpointAddress : UInt8
  flags : UInt32
  numBytes : ℤ
  deriving DecidableEq, Repr

/-- `sizeof` the data buffer `usb_host_transfer_alloc` is asked for. -/
def dataBufferSize : ℕ := 1000

def allocTransfer (ev : Submit) (ret : UsbipRetSubmit) (heap : Bytes) (devHdl : Option ℕ) :
    UsbTransfer where
  ev := ev
  context := ret
  dataBuffer := sized dataBufferSize heap
  deviceHandle := devHdl
  control := false
  bEndpointAddress := 0
  flags := ev.cmdSubmit.transferFlags
  numBytes := 0

def endpointAddress (ev : Submit) : UInt8 :=
  (ev.header.ep ||| (ev.header.direction <<< 7)).toUInt8

/-- The control path: the setup packet is copied, a payload is not. -/
def buildControl (t : UsbTransfer) : UsbTransfer :=
  { t with
    dataBuffer := overwrite t.ev.cmdSubmit.setup t.dataBuffer
    control := true
    bEndpointAddress := endpointAddress t.ev
    numBytes := toInt32 (t.ev.cmdSubmit.transferBufferLength + 8) }

/-- The entry of `mps` the rounding reads. `beyond` is what lies there when the index is not
below ten. -/
def mpsEntry (mps : List UInt32) (ep beyond : UInt32) : UInt32 := mps[(ep - 1).toNat]?.getD beyond

def buildBulk (lib : HostLib) (mps : List UInt32) (beyond : UInt32) (t : UsbTransfer) :
    UsbTransfer :=
  let cmd := t.ev.cmdSubmit
  let t := { t with
    bEndpointAddress := endpointAddress t.ev
    context := if cmd.startFrame ≠ 0 then { t.context with startFrame := cmd.startFrame }
      else t.context }
  if t.ev.header.direction ≠ 0 then
    { t with
      numBytes := lib.usbRoundUpToMps (toInt32 cmd.transferBufferLength)
        (toInt32 (mpsEntry mps t.ev.header.ep beyond)) }
  else
    { t with
      numBytes := toInt32 cmd.transferBufferLength
      dataBuffer := overwrite (cmd.transferBuffer.take cmd.transferBufferLength.toNat)
        t.dataBuffer }

@[simp] theorem buildBulk_ev (lib : HostLib) (mps : List UInt32) (beyond : UInt32)
    (t : UsbTransfer) : (buildBulk lib mps beyond t).ev = t.ev := by
  unfold buildBulk
  dsimp only
  split_ifs <;> rfl

@[simp] theorem buildBulk_deviceHandle (lib : HostLib) (mps : List UInt32) (beyond : UInt32)
    (t : UsbTransfer) : (buildBulk lib mps beyond t).deviceHandle = t.deviceHandle := by
  unfold buildBulk
  dsimp only
  split_ifs <;> rfl

theorem buildBulk_dataBuffer (lib : HostLib) (mps : List UInt32) (beyond : UInt32)
    {t : UsbTransfer} (hout : t.ev.header.direction = 0) :
    (buildBulk lib mps beyond t).dataBuffer =
      overwrite (t.ev.cmdSubmit.transferBuffer.take t.ev.cmdSubmit.transferBufferLength.toNat)
        t.dataBuffer := by
  unfold buildBulk
  dsimp only
  rw [if_neg (not_not.2 hout)]

def callbackEp (t : UsbTransfer) : UInt8 := t.bEndpointAddress &&& 0x7F

/-- Transfer status to USB/IP status, as `transfer_cb_ctrl` maps it. -/
def usbipStatus : TransferStatus → ℤ
  | .completed => 0
  | .stall => -32
  | _ => -71

def sendSize (length : UInt32) : ℕ := (retSubmitHeadSize + length.toNat) % 4294967296

def controlDataLen (status : TransferStatus) (actualNumBytes : ℤ) : ℤ :=
  if status = .completed ∧ 8 ≤ actualNumBytes then actualNumBytes - 8 else 0

/-- The reply of `transfer_cb_ctrl`. `heap` is what lies behind the data buffer. -/
def controlReply (t : UsbTransfer) (status : TransferStatus) (actualNumBytes : ℤ) (heap : Bytes) :
    UsbipRetSubmit :=
  let dataLen := controlDataLen status actualNumBytes
  { t.context with
    status := ofInt32 (usbipStatus status)
    actualLength := ofInt32 dataLen
    transferBuffer :=
      overwrite (sized dataLen.toNat ((t.dataBuffer ++ heap).drop 8)) t.context.transferBuffer }

def controlFrame (ret : UsbipRetSubmit) (heap : Bytes) : Bytes :=
  if ret.base.direction = 0 then sized retSubmitHeadSize (ret.toBytes ++ heap)
  else sized (sendSize ret.actualLength) (ret.toBytes ++ heap)

/-- The reply of `transfer_cb`: the length stays what the client asked for. -/
def bulkReply (t : UsbTransfer) (heap : Bytes) : UsbipRetSubmit :=
  if t.context.base.direction ≠ 0 then
    { t.context with
      base := { t.context.base with direction := 0 }
      transferBuffer := overwrite (sized t.context.actualLength.toNat (t.dataBuffer ++ heap))
        t.context.transferBuffer }
  else { t.context with base := { t.context.base with direction := 0 } }

def bulkFrame (t : UsbTransfer) (ret : UsbipRetSubmit) (heap : Bytes) : Bytes :=
  if t.context.base.direction ≠ 0 then sized (sendSize ret.actualLength) (ret.toBytes ++ heap)
  else sized retSubmitHeadSize (ret.toBytes ++ heap)

end UsbRepeater
