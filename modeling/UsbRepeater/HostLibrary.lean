import UsbRepeater.Protocol

/-! The ESP-IDF USB host library as the firmware sees it: descriptors, transfers and the pure
helper functions it links. The helpers' code is not part of the repository, so they are
parameters; what a result needs of them is a hypothesis of that result. -/
namespace UsbRepeater

structure UsbDeviceInfo where
  speed : UInt32
  strDescManufacturer : Bool
  strDescProduct : Bool
  strDescSerialNum : Bool
  deriving DecidableEq, Repr

structure UsbDeviceDesc where
  idVendor : UInt16
  idProduct : UInt16
  bcdDevice : UInt16
  bDeviceClass : UInt8
  bDeviceSubClass : UInt8
  bDeviceProtocol : UInt8
  bNumConfigurations : UInt8
  deriving DecidableEq, Repr

structure UsbEpDesc where
  bEndpointAddress : UInt8
  wMaxPacketSize : UInt16
  deriving DecidableEq, Repr

structure UsbIntfDesc where
  bInterfaceNumber : UInt8
  bAlternateSetting : UInt8
  bInterfaceClass : UInt8
  bInterfaceSubClass : UInt8
  bInterfaceProtocol : UInt8
  endpoints : List UsbEpDesc
  deriving DecidableEq, Repr

/-- A configuration descriptor with the interface descriptors that follow it in its
`wTotalLength` bytes. -/
structure UsbConfigDesc where
  wTotalLength : UInt16
  bNumInterfaces : UInt8
  bConfigurationValue : UInt8
  interfaces : List UsbIntfDesc
  deriving DecidableEq, Repr

structure HostLib where
  usbRoundUpToMps : ℤ → ℤ → ℤ
  usbParseInterfaceDescriptor : UsbConfigDesc → ℕ → ℕ → Option UsbIntfDesc
  usbParseEndpointDescriptorByIndex : UsbIntfDesc → ℕ → UInt16 → Option UsbEpDesc

inductive TransferStatus
  | completed | error | timedOut | canceled | stall | overflow | skipped | noDevice
  deriving DecidableEq, Repr

/-- A pointer to a descriptor that lives as long as the device opened under `owner`. -/
structure Owned (α : Type) where
  owner : ℕ
  val : α
  deriving DecidableEq, Repr

end UsbRepeater
