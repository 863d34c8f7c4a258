import UsbRepeater.Lib.Memory
import UsbRepeater.InterfaceTable

/-! What the firmware does with its memory: the objects it allocates and frees, the pointers it
follows, and the accesses whose place or length it computes. Each step is given its events. Sizes
are in bytes, those of the two tables in entries. -/
namespace UsbRepeater

open Memory

/-- The locals of `do_recv` that it has the socket, or another task, fill or read. Each call
finds them at the same place of the stack. -/
inductive Local
  | devRecv | header | cmdSubmit | cmdUnlink
  deriving DecidableEq, Repr

def Local.all : List Local := [.devRecv, .header, .cmdSubmit, .cmdUnlink]

def Local.size : Local → ℕ
  | .devRecv => headerCommonSize
  | .header => headerBasicSize
  | .cmdSubmit => cmdHeaderSize + 1024
  | .cmdUnlink => cmdUnlinkSize

/-- `retSubmit` and `transfer` are the two allocations of a request, by its number; a transfer
stands for its structure and its data buffer. `device` is what the host library keeps of a device
while it is open, its descriptors included. `eventBuffer` is the `transfer_buffer` of the event
that a handler has, `intfs` the table in `op_rep_devlist`. -/
inductive Obj
  | retSubmit (id : ℕ)
  | transfer (id : ℕ)
  | stack (x : Local)
  | device (h : ℕ)
  | mps
  | devImport
  | intfs
  | eventBuffer
  | null
  deriving DecidableEq, Repr

def retSubmitSize : ℕ := retSubmitHeadSize + 1024

def staticMemory : Mem Obj
  | .mps => some 10
  | .devImport => some opReqImportSize
  | .intfs => some maxInterfaces
  | .eventBuffer => some 1024
  | _ => none

/-- Fields of an object: whatever they are, the object has to be there. -/
def useOf (x : Obj) : MemEvent Obj := .access x 0 0

def useHandle (h : Option ℕ) : List (MemEvent Obj) := (h.map fun h => useOf (.device h)).toList

def deref {α : Type} : Option (Owned α) → MemEvent Obj
  | none => useOf .null
  | some p => useOf (.device p.owner)

/-- A `recv` may fill all that it is asked for. -/
def tcpEvents (s : Server) (a : TcpAction) : List (MemEvent Obj) :=
  match s.tcp.pc, a with
  | .begin, .run => Local.all.map fun x => .alloc (.stack x) x.size
  | .command, .recv _ => [.access (.stack .devRecv) 0 headerCommonSize]
  | .urbHeader, .recv _ => [.access (.stack .header) 0 headerBasicSize]
  | .submitBody, .recv _ => [.access (.stack .cmdSubmit) 0 cmdHeaderSize]
  | .payload, .recv _ =>
      [.access (.stack .cmdSubmit) cmdHeaderSize s.cmdSubmit.transferBufferLength.toNat]
  | .unlinkBody, .recv _ => [.access (.stack .cmdUnlink) 0 cmdUnlinkSize]
  | .cleanupClose, .run => Local.all.map fun x => .free (.stack x)
  | _, _ => []

def listEvent (lib : HostLib) (config : UsbConfigDesc) (n : ℕ) : MemEvent Obj :=
  match lib.usbParseInterfaceDescriptor config n 0 with
  | none => useOf .null
  | some _ => .access .intfs n 1

def loop1Events (s : Server) (a : Loop1Action) : List (MemEvent Obj) :=
  match s.loop1.handler, a with
  | .devlist _, .devlist _ _ =>
      match s.driver.devDesc, s.driver.configDesc with
      | some dev, some config =>
          [deref (some dev), deref (some config)] ++
            (List.range config.val.bNumInterfaces.toNat).map (listEvent s.lib config.val)
      | _, _ => []
  | .importCopy ev, .run => [.access (.stack .devRecv) 0 ev.len, .access .devImport 0 ev.len]
  | .importRecv ev _, .recv _ => [.access .devImport ev.len (opReqImportSize - ev.len)]
  | .importBuild _ devImport, .run =>
      -- the bus id is logged as a string before it is compared
      .access .devImport 8 ((cString (busIdOf devImport)).length + 1) ::
        (if strcmp (busId ++ [0]) (busIdOf devImport) = 0 then
          [deref s.driver.devDesc, deref s.driver.configDesc]
        else [])
  | _, _ => []

def loop2Events (s : Server) : Loop2Action → List (MemEvent Obj)
  | .malloc j heap =>
      match s.loop2.handlers[j]?, heap with
      | some (_, .entry ev), some _ =>
          [.alloc (.retSubmit ev.id) retSubmitSize,
            .access (.retSubmit ev.id) 0 retSubmitHeadSize]
      | _, _ => []
  | .alloc j heap =>
      match s.loop2.handlers[j]?, heap with
      | some (_, .sktSet ev _), none => [.free (.retSubmit ev.id)]
      | some (_, .sktSet ev _), some _ =>
          [.alloc (.transfer ev.id) dataBufferSize, useOf (.retSubmit ev.id)]
      | _, _ => []
  | .check j =>
      match s.loop2.handlers[j]? with
      | some (_, .allocated t) =>
          if t.ev.header.ep = 0 then [.access (.transfer t.ev.id) 0 8]
          else if s.pending t.ev.header.ep then
            [.free (.transfer t.ev.id), .free (.retSubmit t.ev.id)]
          else []
      | _ => []
  | .build j _ =>
      match s.loop2.handlers[j]? with
      | some (_, .checked t) =>
          let length := t.ev.cmdSubmit.transferBufferLength.toNat
          (if t.ev.header.direction ≠ 0 then [.access .mps (t.ev.header.ep - 1).toNat 1]
            else [.access .eventBuffer 0 length, .access (.transfer t.ev.id) 0 length]) ++
            [useOf (.transfer t.ev.id), useOf (.retSubmit t.ev.id)]
      | _ => []
  | .submit j _ =>
      match s.loop2.handlers[j]? with
      | some (_, .built t) =>
          useOf (.transfer t.ev.id) :: useHandle t.deviceHandle
      | _ => []
  | .dispatch _ | .setSkt _ | .setPending _ => []

def callbackEvents (s : Server) (c : Callback) : List (MemEvent Obj) :=
  let id := c.transfer.ev.id
  if c.transfer.control then
    let dataLen := controlDataLen c.status c.actualNumBytes
    [.access (.transfer id) 8 dataLen.toNat,
      .access (.retSubmit id) retSubmitHeadSize dataLen.toNat] ++
      (if s.skt < 0 then []
        else if c.transfer.context.base.direction = 0 then
          [.access (.retSubmit id) 0 retSubmitHeadSize]
        else [.access (.retSubmit id) 0 (sendSize (ofInt32 dataLen))])
  else if s.skt < 0 then []
  else if c.transfer.context.base.direction ≠ 0 then
    let length := c.transfer.context.actualLength
    [.access (.transfer id) 0 length.toNat,
      .access (.retSubmit id) retSubmitHeadSize length.toNat,
      .access (.retSubmit id) 0 (sendSize length)]
  else [.access (.retSubmit id) 0 retSubmitHeadSize]

/-- The host library has put what a transfer brought into its data buffer. -/
def hostEvents (s : Server) : HostAction → List (MemEvent Obj)
  | .complete i _ n _ =>
      match s.inFlight[i]? with
      | some t => [.access (.transfer t.ev.id) 0 n.toNat]
      | none => []
  | .clear =>
      match s.callback with
      | some c => [useOf (.transfer c.transfer.ev.id)]
      | none => []
  | .send _ _ =>
      match s.callback with
      | some c =>
          callbackEvents s c ++
            [.free (.transfer c.transfer.ev.id), .free (.retSubmit c.transfer.ev.id)]
      | none => []

def driverEvents (s : Server) : DriverAction → List (MemEvent Obj)
  | .openDev ok =>
      if ok = true ∧ s.driver.devAddr ≠ 0 then [.alloc (.device s.driver.opened) 0] else []
  | .closeDev ok =>
      if ok then (s.driver.devHdl.map fun h => .free (.device h)).toList else []
  -- a descriptor that has been read belongs to the open device
  | .getDevDesc (some _) => useHandle s.driver.devHdl
  | .getConfigDesc (some config) claims =>
      useHandle s.driver.devHdl ++
        (mpsWrites s.lib config claims).map fun w => .access .mps w.1 1
  | .run =>
      if s.driver.pc = .getStrDesc ∧ s.driver.actions.getStrDesc = true then
        [deref s.driver.configDesc, deref s.driver.devDesc]
      else []
  | _ => []

def memoryEvents (s : Server) : Action → List (MemEvent Obj)
  | .tcp a => tcpEvents s a
  | .loop1 a => loop1Events s a
  | .loop2 a => loop2Events s a
  | .host a => hostEvents s a
  | .driver a => driverEvents s a

/-- The open device can be listed: both its descriptors are read, and it has at most ten
interfaces, each with a descriptor. -/
def Server.Listable (s : Server) : Prop :=
  s.driver.enumerated = true ∧ ∀ config ∈ s.driver.configDesc,
    config.val.bNumInterfaces.toNat ≤ maxInterfaces ∧
      ∀ n < config.val.bNumInterfaces.toNat,
        (s.lib.usbParseInterfaceDescriptor config.val n 0).isSome = true

/-- The bus id of an import ends inside its field, and no descriptor is asked for but those of an
enumerated device. -/
def Server.Importable (s : Server) (devImport : Bytes) : Prop :=
  (0 : UInt8) ∈ busIdOf devImport ∧
    (strcmp (busId ++ [0]) (busIdOf devImport) = 0 → s.driver.enumerated = true)

def UsbTransfer.BuildFits (t : UsbTransfer) : Prop :=
  if t.ev.header.direction = 0 then t.ev.cmdSubmit.transferBufferLength.toNat ≤ dataBufferSize
  else t.ev.header.ep.toNat ≤ 10

def Callback.ReplyFits (c : Callback) : Prop :=
  c.transfer.ev.header.ep ≠ 0 → c.transfer.ev.header.direction ≠ 0 →
    c.transfer.ev.cmdSubmit.transferBufferLength.toNat ≤ dataBufferSize

def ClaimsFit (lib : HostLib) (config : UsbConfigDesc) (claims : List Bool) : Prop :=
  ∀ n < config.bNumInterfaces.toNat, claims[n]?.getD false = true →
    (lib.usbParseInterfaceDescriptor config n 0).isSome = true → n < 10

/-- The conditions on a request, a device and the order of the tasks under which a step keeps to
the memory it may touch. -/
def StaysInside (s : Server) : Action → Prop
  | .loop1 (.devlist _ _) =>
      s.driver.devDesc.isSome = true → s.driver.configDesc.isSome = true → s.Listable
  | .loop1 .run =>
      match s.loop1.handler with
      | .importCopy _ => s.tcp.pc ≠ .accepting ∧ s.tcp.pc ≠ .begin
      | .importBuild _ devImport => s.Importable devImport
      | _ => True
  | .loop2 (.build j _) =>
      match s.loop2.handlers[j]? with
      | some (_, .checked t) => t.BuildFits
      | _ => True
  | .loop2 (.submit j _) =>
      ∀ t ∈ s.readyTransfer j, t.deviceHandle = none ∨ t.deviceHandle = s.driver.devHdl
  | .host (.send _ _) => ∀ c ∈ s.callback, c.ReplyFits
  | .driver (.getConfigDesc (some config) claims) => ClaimsFit s.lib config claims
  | _ => True

instance (s : Server) : Decidable s.Listable :=
  inferInstanceAs (Decidable (_ ∧ ∀ config ∈ s.driver.configDesc,
    config.val.bNumInterfaces.toNat ≤ maxInterfaces ∧
      ∀ n < config.val.bNumInterfaces.toNat,
        (s.lib.usbParseInterfaceDescriptor config.val n 0).isSome = true))

instance (s : Server) (devImport : Bytes) : Decidable (s.Importable devImport) :=
  inferInstanceAs (Decidable (_ ∧ (_ → _)))

instance (t : UsbTransfer) : Decidable t.BuildFits :=
  inferInstanceAs (Decidable (if t.ev.header.direction = 0 then
    t.ev.cmdSubmit.transferBufferLength.toNat ≤ dataBufferSize else t.ev.header.ep.toNat ≤ 10))

instance (c : Callback) : Decidable c.ReplyFits :=
  inferInstanceAs (Decidable (_ → _ → _))

instance (lib : HostLib) (config : UsbConfigDesc) (claims : List Bool) :
    Decidable (ClaimsFit lib config claims) :=
  inferInstanceAs (Decidable (∀ n < config.bNumInterfaces.toNat, claims[n]?.getD false = true →
    (lib.usbParseInterfaceDescriptor config n 0).isSome = true → n < 10))

instance (s : Server) : ∀ a, Decidable (StaysInside s a)
  | .loop1 (.devlist _ _) =>
    inferInstanceAs (Decidable (s.driver.devDesc.isSome = true →
      s.driver.configDesc.isSome = true → s.Listable))
  | .loop1 .run =>
    match h : s.loop1.handler with
    | .importCopy _ =>
      decidable_of_iff (s.tcp.pc ≠ .accepting ∧ s.tcp.pc ≠ .begin) (by simp only [StaysInside, h])
    | .importBuild _ devImport =>
      decidable_of_iff (s.Importable devImport) (by simp only [StaysInside, h])
    | .idle | .devlist _ | .importRecv _ _ | .importSend _ _ _ | .importBusy _ _ _ =>
      isTrue (by simp only [StaysInside, h])
  | .loop2 (.build j _) =>
    match h : s.loop2.handlers[j]? with
    | some (_, .checked t) => decidable_of_iff t.BuildFits (by simp only [StaysInside, h])
    | none | some (_, .entry _) | some (_, .filled _ _) | some (_, .sktSet _ _)
    | some (_, .allocated _) | some (_, .built _) | some (_, .accepted _) =>
      isTrue (by simp only [StaysInside, h])
  | .loop2 (.submit j _) =>
    inferInstanceAs (Decidable (∀ t ∈ s.readyTransfer j,
      t.deviceHandle = none ∨ t.deviceHandle = s.driver.devHdl))
  | .host (.send _ _) => inferInstanceAs (Decidable (∀ c ∈ s.callback, c.ReplyFits))
  | .driver (.getConfigDesc (some config) claims) =>
    inferInstanceAs (Decidable (ClaimsFit s.lib config claims))
  | .tcp _ | .loop1 .dispatch | .loop1 (.recv _) | .loop1 (.send _) | .loop2 (.dispatch _)
  | .loop2 (.malloc _ _) | .loop2 (.setSkt _) | .loop2 (.alloc _ _) | .loop2 (.check _)
  | .loop2 (.setPending _) | .host .clear | .host (.complete _ _ _ _) | .driver .run
  | .driver (.clientEvent _) | .driver (.openDev _) | .driver (.getInfo _)
  | .driver (.getDevDesc _) | .driver (.getConfigDesc none _) | .driver (.closeDev _) =>
    isTrue trivial

end UsbRepeater
