import UsbRepeater.HostLibrary

/-! The class driver of usb_handler.c: `client_event_cb`, the action functions and the loop of
`usb_class_driver_task`. A device handle is the number of the `usb_host_device_open` call that
returned it, so a handle is never handed out twice. -/
namespace UsbRepeater

structure Actions where
  openDev : Bool := false
  getDevInfo : Bool := false
  getDevDesc : Bool := false
  getConfigDesc : Bool := false
  getStrDesc : Bool := false
  closeDev : Bool := false
  exit : Bool := false
  deriving DecidableEq, Repr

inductive DriverPc
  /-- Top of the outer loop: `driver_obj` is cleared, the semaphore awaited. -/
  | start
  | register
  | loopTop
  /-- Inside `usb_host_client_handle_events`; client events and completions arrive here. -/
  | handleEvents
  | openDev
  | getInfo
  | getDevDesc
  | getConfigDesc
  | getStrDesc
  | closeDev
  | exit
  deriving DecidableEq, Repr

/-- `driver_obj`, the descriptor statics of usb_handler.c and the task's place in its loop.
`opened` counts the successful opens. -/
structure Driver where
  pc : DriverPc
  clientHdl : Bool
  devAddr : UInt8
  devHdl : Option ℕ
  actions : Actions
  devInfo : UsbDeviceInfo
  devDesc : Option (Owned UsbDeviceDesc)
  configDesc : Option (Owned UsbConfigDesc)
  mps : List UInt32
  numOfInterfaces : ℕ
  opened : ℕ
  deriving DecidableEq, Repr

/-- The state the statics are in before the task first runs. -/
def Driver.boot : Driver where
  pc := .start
  clientHdl := false
  devAddr := 0
  devHdl := none
  actions := {}
  devInfo := ⟨0, false, false, false⟩
  devDesc := none
  configDesc := none
  mps := List.replicate 10 0
  numOfInterfaces := 0
  opened := 0

inductive ClientEvent
  | newDev (address : UInt8)
  | devGone
  | other
  deriving DecidableEq, Repr

inductive DriverEffect
  | none
  /-- `device_busy = false` on the way out. -/
  | clearBusy
  /-- `esp_event_loop_create` has put a new loop into `loop_handle2`. -/
  | newLoop
  /-- A failed assertion, `ESP_ERROR_CHECK`, `abort` or null dereference. -/
  | abort
  deriving DecidableEq, Repr

def clientEventCb (d : Driver) : ClientEvent → Driver × DriverEffect
  | .newDev address =>
      if d.devAddr = 0 then
        ({ d with devAddr := address, actions := { d.actions with openDev := true } }, .none)
      else (d, .none)
  | .devGone =>
      if d.devHdl.isSome then ({ d with actions := { closeDev := true } }, .none) else (d, .none)
  | .other => (d, .abort)

def actionOpenDev (d : Driver) (ok : Bool) : Driver × DriverEffect :=
  if d.devAddr = 0 then (d, .abort)
  else if ok then
    ({ d with
        devHdl := some d.opened
        opened := d.opened + 1
        actions := { d.actions with openDev := false, getDevInfo := true } }, .none)
  else ({ d with actions := { d.actions with openDev := false } }, .none)

def actionGetInfo (d : Driver) (info : Option UsbDeviceInfo) : Driver × DriverEffect :=
  match d.devHdl, info with
  | none, _ => (d, .abort)
  | some _, none => ({ d with actions := { d.actions with getDevInfo := false } }, .none)
  | some _, some info =>
      ({ d with
          devInfo := info
          actions := { d.actions with getDevInfo := false, getDevDesc := true } }, .none)

def actionGetDevDesc (d : Driver) (desc : Option UsbDeviceDesc) : Driver × DriverEffect :=
  match d.devHdl, desc with
  | none, _ => (d, .abort)
  | some _, none => ({ d with actions := { d.actions with getDevDesc := false } }, .none)
  | some h, some desc =>
      ({ d with
          devDesc := some ⟨h, desc⟩
          actions := { d.actions with getDevDesc := false, getConfigDesc := true } }, .none)

/-- The writes to `mps` that the interface loop makes, in order. `claims` holds the result of
each `usb_host_interface_claim`, in order. -/
def mpsWrites (lib : HostLib) (desc : UsbConfigDesc) (claims : List Bool) : List (ℕ × UInt32) :=
  (List.range desc.bNumInterfaces.toNat).filterMap fun i =>
    if claims[i]?.getD false then
      match lib.usbParseInterfaceDescriptor desc i 0 with
      | none => none
      | some intf =>
        match lib.usbParseEndpointDescriptorByIndex intf 0 desc.wTotalLength with
        | none => some (i, 0)
        | some ep => some (i, UInt32.ofNat ep.wMaxPacketSize.toNat)
    else none

def actionGetConfigDesc (lib : HostLib) (d : Driver) (desc : Option UsbConfigDesc)
    (claims : List Bool) : Driver × DriverEffect :=
  match d.devHdl, desc with
  | none, _ => (d, .abort)
  | some _, none => ({ d with actions := { d.actions with getConfigDesc := false } }, .none)
  | some h, some desc =>
      ({ d with
          configDesc := some ⟨h, desc⟩
          numOfInterfaces := desc.bNumInterfaces.toNat
          mps := (mpsWrites lib desc claims).foldl (fun mps w => mps.set w.1 w.2) d.mps
          actions := { d.actions with getConfigDesc := false, getStrDesc := true } }, .none)

/-- The strings are only logged; the two descriptor pointers are dereferenced. -/
def actionGetStrDesc (d : Driver) : Driver × DriverEffect :=
  match d.devHdl, d.configDesc, d.devDesc with
  | some _, some _, some _ => ({ d with actions := { d.actions with getStrDesc := false } }, .none)
  | _, _, _ => (d, .abort)

def acitonCloseDev (d : Driver) (ok : Bool) : Driver × DriverEffect :=
  if ok then
    ({ d with
        devHdl := none
        devAddr := 0
        actions := { d.actions with closeDev := false, exit := true } }, .none)
  else (d, .abort)

inductive DriverAction
  /-- A step without a library call, or past an action whose bit is clear. -/
  | run
  | clientEvent (e : ClientEvent)
  | openDev (ok : Bool)
  | getInfo (info : Option UsbDeviceInfo)
  | getDevDesc (desc : Option UsbDeviceDesc)
  | getConfigDesc (desc : Option UsbConfigDesc) (claims : List Bool)
  | closeDev (ok : Bool)
  deriving DecidableEq, Repr

private def goto (pc : DriverPc) (r : Driver × DriverEffect) : Option (Driver × DriverEffect) :=
  some ({ r.1 with pc := pc }, r.2)

def usbClassDriverTask (lib : HostLib) (d : Driver) (a : DriverAction) :
    Option (Driver × DriverEffect) :=
  match d.pc, a with
  | .start, .run =>
      goto .register
        ({ d with clientHdl := false, devAddr := 0, devHdl := none, actions := {} }, .none)
  | .register, .run => goto .loopTop ({ d with clientHdl := true }, .newLoop)
  | .loopTop, .run =>
      if d.actions = {} then goto .handleEvents (d, .none) else goto .openDev (d, .none)
  | .handleEvents, .clientEvent e => goto .handleEvents (clientEventCb d e)
  | .handleEvents, .run => goto .loopTop (d, .none)
  | .openDev, .openDev ok =>
      if d.actions.openDev then goto .getInfo (actionOpenDev d ok) else none
  | .openDev, .run => if d.actions.openDev then none else goto .getInfo (d, .none)
  | .getInfo, .getInfo info =>
      if d.actions.getDevInfo then goto .getDevDesc (actionGetInfo d info) else none
  | .getInfo, .run => if d.actions.getDevInfo then none else goto .getDevDesc (d, .none)
  | .getDevDesc, .getDevDesc desc =>
      if d.actions.getDevDesc then goto .getConfigDesc (actionGetDevDesc d desc) else none
  | .getDevDesc, .run => if d.actions.getDevDesc then none else goto .getConfigDesc (d, .none)
  | .getConfigDesc, .getConfigDesc desc claims =>
      if d.actions.getConfigDesc then
        goto .getStrDesc (actionGetConfigDesc lib d desc claims)
      else none
  | .getConfigDesc, .run =>
      if d.actions.getConfigDesc then none else goto .getStrDesc (d, .none)
  | .getStrDesc, .run =>
      goto .closeDev (if d.actions.getStrDesc then actionGetStrDesc d else (d, .none))
  | .closeDev, .closeDev ok =>
      if d.actions.closeDev then goto .exit (acitonCloseDev d ok) else none
  | .closeDev, .run => if d.actions.closeDev then none else goto .exit (d, .none)
  | .exit, .run =>
      if d.actions.exit then goto .start (d, .clearBusy) else goto .loopTop (d, .none)
  | _, _ => none

/-- A pointer that may be dereferenced: it is set, and its device is the one now open. -/
def Driver.live {α : Type} (d : Driver) (p : Option (Owned α)) : Bool :=
  match p, d.devHdl with
  | some p, some h => p.owner == h
  | _, _ => false

/-- A device is open and both its descriptors have been read. -/
def Driver.enumerated (d : Driver) : Bool := d.live d.devDesc && d.live d.configDesc

end UsbRepeater
