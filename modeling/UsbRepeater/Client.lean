import UsbRepeater.Server

/-! What a USB/IP client sends: device-list requests, an import request, and the URB commands
of the imported device, each with its own length. -/
namespace UsbRepeater

def requestHeader (code : UInt16) (status : UInt32) : Bytes :=
  UsbipHeaderCommon.toBytes ⟨usbipVersion, code, status⟩

/-- A CMD_SUBMIT. Data going out to the device is in the transfer buffer of `cmdSubmit`, as long
as the command says. -/
structure SubmitCommand where
  header : UsbipHeaderBasic
  cmdSubmit : UsbipCmdSubmit
  command : header.command = usbipCmdSubmit
  setup : cmdSubmit.setup.length = 8
  direction : header.direction = 1 ∨ header.direction = 0 ∧
    cmdSubmit.transferBuffer.length = cmdSubmit.transferBufferLength.toNat ∧
    cmdSubmit.transferBufferLength.toNat ≤ 1024

def SubmitCommand.payload (c : SubmitCommand) : Bytes :=
  if c.header.direction = 0 then c.cmdSubmit.transferBuffer else []

structure UnlinkCommand where
  header : UsbipHeaderBasic
  body : Bytes
  command : header.command = usbipCmdUnlink
  length : body.length = cmdUnlinkSize

inductive UrbCommand
  | submit (c : SubmitCommand)
  | unlink (c : UnlinkCommand)

def UrbCommand.encode : UrbCommand → Bytes
  | .submit c => c.header.toBytes ++ (c.cmdSubmit.fixedBytes ++ c.payload)
  | .unlink c => c.header.toBytes ++ c.body

/-- A client session: device-list requests, by their status words; one import of the exported
device; URB commands. -/
structure ClientSession where
  devlists : List UInt32
  importStatus : UInt32
  busField : Bytes
  commands : List UrbCommand
  busField_length : busField.length = 32
  busField_text : cString busField = busId

def ClientSession.importRequest (c : ClientSession) : Bytes :=
  requestHeader opReqImport c.importStatus ++ c.busField

def ClientSession.stream (c : ClientSession) : Bytes :=
  c.devlists.flatMap (requestHeader opReqDevlist) ++
    (c.importRequest ++ c.commands.flatMap UrbCommand.encode)

@[simp] theorem requestHeader_length (code : UInt16) (status : UInt32) :
    (requestHeader code status).length = headerCommonSize := rfl

@[simp] theorem requestHeader_version (code : UInt16) (status : UInt32) :
    ofBe16 (requestHeader code status) = usbipVersion := by
  simp [requestHeader, UsbipHeaderCommon.toBytes, List.append_assoc]

@[simp] theorem requestHeader_code (code : UInt16) (status : UInt32) :
    ofBe16 ((requestHeader code status).drop 2) = code := by
  simp [requestHeader, UsbipHeaderCommon.toBytes, List.append_assoc]

theorem SubmitCommand.fixedBytes_length (c : SubmitCommand) :
    c.cmdSubmit.fixedBytes.length = cmdHeaderSize :=
  UsbipCmdSubmit.fixedBytes_length c.setup

theorem SubmitCommand.payload_length (c : SubmitCommand) (h : c.header.direction = 0) :
    c.payload.length = c.cmdSubmit.transferBufferLength.toNat := by
  rcases c.direction with hin | ⟨-, hlen, -⟩
  · rw [h] at hin
    cases hin
  · rw [SubmitCommand.payload, if_pos h, hlen]

def enumeration (info : UsbDeviceInfo) (dev : UsbDeviceDesc) (config : UsbConfigDesc)
    (claims : List Bool) : List Action :=
  [.run, .run, .run, .clientEvent (.newDev 1), .run, .run, .openDev true, .getInfo (some info),
    .getDevDesc (some dev), .getConfigDesc (some config) claims, .run, .run, .run, .run].map
      Action.driver

/-- A client connects, and its import is read, answered and taken note of. -/
def importing (number : ℕ) (stream : Bytes) : List Action :=
  [.tcp (.accept (some number) stream), .tcp .run, .tcp .run, .tcp (.recv (.data 8)),
    .tcp (.post true), .loop1 .dispatch, .loop1 .run, .loop1 (.recv (.data 32)), .loop1 .run,
    .loop1 (.send .full), .loop1 .run, .tcp .run, .tcp .run]

def submitting : List Action :=
  [.tcp (.recv (.data headerBasicSize)), .tcp (.recv (.data cmdHeaderSize)), .tcp (.post true)]

/-- The first queued event goes through a handler on the control path, up to the submit. -/
def handlingControl (accepted : Bool) : List Action :=
  [.loop2 (.dispatch 0), .loop2 (.malloc 0 (some [])), .loop2 (.setSkt 0),
    .loop2 (.alloc 0 (some [])), .loop2 (.check 0), .loop2 (.submit 0 accepted)]

def handlingBulk : List Action :=
  [.loop2 (.dispatch 0), .loop2 (.malloc 0 (some [])), .loop2 (.setSkt 0),
    .loop2 (.alloc 0 (some [])), .loop2 (.check 0), .loop2 (.build 0 0),
    .loop2 (.submit 0 true), .loop2 (.setPending 0)]

def completing (actualNumBytes : ℤ) : List Action :=
  [.host (.complete 0 .completed actualNumBytes []), .host .clear, .host (.send [] .full)]

/-- The client closes the connection in URB mode, and `do_recv` cleans up. -/
def disconnecting : List Action :=
  [.recv .closed, .run, .run, .recv .closed, .run, .run, .run, .run].map Action.tcp

/-- A library whose descriptor parsers look an interface up by its number and an endpoint by its
place, and whose rounding rounds up to a multiple. -/
def idfLibrary : HostLib where
  usbRoundUpToMps n mps := if n ≤ 0 ∨ mps ≤ 0 then 0 else (n + mps - 1) / mps * mps
  usbParseInterfaceDescriptor config number alternate :=
    config.interfaces.find? fun i =>
      i.bInterfaceNumber.toNat == number && i.bAlternateSetting.toNat == alternate
  usbParseEndpointDescriptorByIndex intf index _ := intf.endpoints[index]?

def keyboardConfig : UsbConfigDesc :=
  ⟨34, 1, 1, [⟨0, 0, 3, 1, 1, [⟨0x81, 8⟩]⟩]⟩

def keyboardEnumeration : List Action :=
  enumeration ⟨0, false, false, false⟩ ⟨0x046d, 0xc31c, 0x0100, 0, 0, 0, 1⟩ keyboardConfig [true]

def coldBoot : Server :=
  .boot idfLibrary [] [] [] [] []

def submitIn (seqnum ep length : UInt32) : UrbCommand :=
  .submit ⟨⟨usbipCmdSubmit, seqnum, 0x30002, 1, ep⟩, ⟨0, length, 0, 0, 0, List.replicate 8 0, []⟩,
    rfl, rfl, .inl rfl⟩

def unlinkOf (seqnum victim : UInt32) : UrbCommand :=
  .unlink ⟨⟨usbipCmdUnlink, seqnum, 0x30002, 0, 0⟩, be32 victim ++ List.replicate 24 0, rfl, rfl⟩

def importSession (commands : List UrbCommand) : ClientSession where
  devlists := []
  importStatus := 0
  busField := busId ++ List.replicate 29 0
  commands := commands
  busField_length := rfl
  busField_text := by decide

end UsbRepeater
