import UsbRepeater.Lib.Schedule
import UsbRepeater.UsbipServer
import UsbRepeater.UsbHandler

/-! The whole firmware as one step function: the TCP task (`tcp_server_start`, `do_recv`), the
loop of `_usb_ip_event_handler_1`, the loops of `_usb_ip_event_handler_2`, the completion
callbacks and the class driver. One action is one atomic step of one task, and carries what the
environment decides there: what a `recv`, `send`, allocation or library call returns. Between
two steps of a task any other task may step; a step touches one variable that other tasks
write, the descriptor statics together counting as one. -/
namespace UsbRepeater

/-- A client connection: `number` is its socket number, which a later connection may get again;
`stream` is everything the client sends, of which the server has read `consumed` bytes. -/
structure Conn where
  id : ℕ
  number : ℕ
  stream : Bytes
  consumed : ℕ
  deriving DecidableEq, Repr

def Conn.unread (c : Conn) : Bytes := c.stream.drop c.consumed

def openOn (conn : Option Conn) (sock : ℤ) : Option Conn :=
  conn.filter fun c => decide ((c.number : ℤ) = sock)

inductive RecvResult
  | data (n : ℕ) | closed | timeout | error
  deriving DecidableEq, Repr

/-- What `recv` did: -1 with EAGAIN, -1 with another errno, or a byte count. -/
inductive RecvOutcome
  | again | failed | got (bytes : Bytes)
  deriving DecidableEq, Repr

/-- `recv(sock, _, want, 0)`. The result decides how many of the unread bytes arrive; zero is
returned only behind the last of them. -/
def sockRecv (conn : Option Conn) (sock : ℤ) (want : ℕ) (r : RecvResult) :
    Option (Option Conn × RecvOutcome) :=
  match openOn conn sock, r with
  | some c, .data n =>
      if 0 < n ∧ n ≤ want ∧ n ≤ c.unread.length then
        some (some { c with consumed := c.consumed + n }, .got (c.unread.take n))
      else none
  | some c, .closed => if c.unread = [] then some (conn, .got []) else none
  | some _, .timeout => some (conn, .again)
  | _, .error => some (conn, .failed)
  | none, _ => none

inductive SendResult
  | full | short (n : ℕ) | failed
  deriving DecidableEq, Repr

/-- `send(sock, frame, ...)`: the connection reached and the bytes taken, or a failure. A number
that names no open connection can only fail. -/
def sockSend (conn : Option Conn) (sock : ℤ) (frame : Bytes) (r : SendResult) :
    Option (Option (ℕ × ℕ)) :=
  match r with
  | .full => (openOn conn sock).map fun c => some (c.id, frame.length)
  | .short n =>
      if n < frame.length then (openOn conn sock).map fun c => some (c.id, n) else none
  | .failed => some none

inductive TcpPc
  /-- `tcp_server_start`: waiting in `accept`. -/
  | accepting
  /-- A socket was accepted; `do_recv` is about to begin on it. -/
  | begin
  /-- Head of the outer loop: `if (!device_busy)`. -/
  | outer
  | command
  | postCommand
  | importWait (count : ℕ)
  /-- The second test of `device_busy`. -/
  | mode
  | urbHeader
  /-- The client closed the connection in URB mode; `device_busy` is about to be cleared. -/
  | urbClosed
  | submitBody
  | payload
  | postSubmit
  | unlinkBody
  | unlinkReply
  | cleanupBusy
  | cleanupEp1
  | cleanupEp2
  | cleanupClose
  deriving DecidableEq, Repr

/-- The static `sock` and the locals of `do_recv`. A local keeps its bytes until it is read into
again; what it holds at first is unknown. -/
structure TcpTask where
  pc : TcpPc
  sock : ℤ
  devRecv : Bytes
  header : Bytes
  cmdSubmit : Bytes
  transferBuffer : Bytes
  cmdUnlink : Bytes
  deriving DecidableEq, Repr

/-- The event `tcp_data`, with the command code it is posted under. `rx_buffer` points to the
local `dev_recv`. `header`, `offset` and `recvBytes` note the eight bytes there when the event is
posted, the stream offset, and how many bytes `do_recv` has consumed. -/
structure TcpData where
  sock : ℤ
  len : ℕ
  eventId : UInt16
  header : Bytes
  offset : ℕ
  recvBytes : ℕ
  deriving DecidableEq, Repr

inductive Handler1
  | idle
  | devlist (ev : TcpData)
  | importCopy (ev : TcpData)
  | importRecv (ev : TcpData) (devImport : Bytes)
  | importBuild (ev : TcpData) (devImport : Bytes)
  | importSend (ev : TcpData) (devImport : Bytes) (rep : OpRepImport)
  | importBusy (ev : TcpData) (devImport : Bytes) (rep : OpRepImport)
  deriving DecidableEq, Repr

structure Loop1 where
  queue : List TcpData
  handler : Handler1
  deriving DecidableEq, Repr

inductive Handler2
  /-- The event has been delivered; `ret_submit` is not allocated yet. -/
  | entry (ev : Submit)
  | filled (ev : Submit) (ret : UsbipRetSubmit)
  /-- `skt` has been set. -/
  | sktSet (ev : Submit) (ret : UsbipRetSubmit)
  | allocated (t : UsbTransfer)
  /-- The pending flag was clear. -/
  | checked (t : UsbTransfer)
  | built (t : UsbTransfer)
  /-- The host library has the transfer; the pending flag is about to be set. -/
  | accepted (ep : UInt32)
  deriving DecidableEq, Repr

/-- The loops that `loop_handle2` has named, one per client registration. `count` numbers the
current one, 0 standing for NULL; events and active handlers are tagged with their loop. -/
structure Loop2 where
  count : ℕ
  queue : List (ℕ × Submit)
  handlers : List (ℕ × Handler2)
  deriving DecidableEq, Repr

/-- A completed transfer whose callback is running. `cleared` says that the pending flag has
been dealt with. -/
structure Callback where
  transfer : UsbTransfer
  status : TransferStatus
  actualNumBytes : ℤ
  cleared : Bool
  deriving DecidableEq, Repr

/-- A message handed to `send`; a RET_SUBMIT with the event it answers, a RET_UNLINK with the
sequence number and the victim of the command it answers. -/
inductive Message
  | repDevlist
  | repImport (rep : OpRepImport)
  | retSubmit (ev : Submit) (ret : UsbipRetSubmit)
  | retUnlink (seqnum victim : UInt32) (ret : UsbipRetUnlink)
  deriving DecidableEq, Repr

/-- A `send` that succeeded: the connection it reached, its frame, and the bytes taken. -/
structure Sent where
  conn : ℕ
  message : Message
  frame : Bytes
  written : ℕ
  deriving DecidableEq, Repr

inductive DropReason
  | noReply | noTransfer | pending | rejected
  deriving DecidableEq, Repr

/-- What has happened so far; no step reads it. `silent` holds the completed requests whose
reply was not sent, `unlinks` the sequence number and the victim of each CMD_UNLINK read. -/
structure History where
  commands : List TcpData := []
  posted : List Submit := []
  dropped : List (Submit × DropReason) := []
  silent : List Submit := []
  sent : List Sent := []
  urbEntries : List (ℕ × ℕ) := []
  unlinks : List (UInt32 × UInt32) := []
  recvBytes : ℕ := 0
  accepted : ℕ := 0
  deriving DecidableEq, Repr

structure Heap where
  rets : List ℕ := []
  transfers : List ℕ := []
  deriving DecidableEq, Repr

structure Server where
  lib : HostLib
  conn : Option Conn
  tcp : TcpTask
  deviceBusy : Bool
  loopHandle : Bool
  loop1 : Loop1
  ep1TransferPending : Bool
  ep2TransferPending : Bool
  skt : ℤ
  loop2 : Loop2
  inFlight : List UsbTransfer
  callback : Option Callback
  driver : Driver
  heap : Heap
  history : History
  crashed : Bool

inductive TcpAction
  | run
  | accept (number : Option ℕ) (stream : Bytes)
  | recv (r : RecvResult)
  | post (ok : Bool)
  | send (r : SendResult)
  deriving DecidableEq, Repr

inductive Loop1Action
  | dispatch
  | run
  | recv (r : RecvResult)
  | send (r : SendResult)
  /-- The device-list branch; `stack` is what `dev.intfs` held. -/
  | devlist (stack : List UsbipInterface) (r : SendResult)
  deriving DecidableEq, Repr

/-- `j` is the active handler that steps. -/
inductive Loop2Action
  | dispatch (i : ℕ)
  | malloc (j : ℕ) (heap : Option Bytes)
  | setSkt (j : ℕ)
  | alloc (j : ℕ) (heap : Option Bytes)
  | check (j : ℕ)
  | build (j : ℕ) (beyond : UInt32)
  | submit (j : ℕ) (accepted : Bool)
  | setPending (j : ℕ)
  deriving DecidableEq, Repr

inductive HostAction
  /-- The transfer `i` in flight ends; `data` is what its buffer then holds. -/
  | complete (i : ℕ) (status : TransferStatus) (actualNumBytes : ℤ) (data : Bytes)
  | clear
  | send (heap : Bytes) (r : SendResult)
  deriving DecidableEq, Repr

inductive Action
  | tcp (a : TcpAction)
  | loop1 (a : Loop1Action)
  | loop2 (a : Loop2Action)
  | host (a : HostAction)
  | driver (a : DriverAction)
  deriving DecidableEq, Repr

def Server.goto (s : Server) (pc : TcpPc) : Server := { s with tcp := { s.tcp with pc := pc } }

def Server.emit (s : Server) (m : Sent) : Server :=
  { s with history := { s.history with sent := s.history.sent ++ [m] } }

def Server.took (s : Server) (conn : Option Conn) (n : ℕ) : Server :=
  { s with conn := conn, history := { s.history with recvBytes := s.history.recvBytes + n } }

def Server.setTcp (s : Server) (tcp : TcpTask) : Server := { s with tcp := tcp }

def tcpServerStart (s : Server) (a : TcpAction) : Option Server :=
  match s.tcp.pc, a with
  | .accepting, .accept none _ => some (s.setTcp { s.tcp with sock := -1 })
  | .accepting, .accept (some number) stream =>
      some { s with
        conn := some ⟨s.history.accepted, number, stream, 0⟩
        tcp := { s.tcp with pc := .begin, sock := number }
        history := { s.history with accepted := s.history.accepted + 1 } }
  | .begin, .run => some (s.goto .outer)
  | _, _ => none

def commandNext (s : Server) (devRecv : Bytes) : TcpPc :=
  if ofBe16 devRecv = usbipVersion then if s.loopHandle then .postCommand else .cleanupBusy
  else .mode

def commandEvent (s : Server) : TcpData where
  sock := s.tcp.sock
  len := headerCommonSize
  eventId := ofBe16 (s.tcp.devRecv.drop 2)
  header := s.tcp.devRecv.take headerCommonSize
  offset := (s.conn.map Conn.consumed).getD 0
  recvBytes := s.history.recvBytes

def Server.header (s : Server) : UsbipHeaderBasic := .ofBytes s.tcp.header

def Server.cmdSubmit (s : Server) : UsbipCmdSubmit := .ofBytes s.tcp.cmdSubmit s.tcp.transferBuffer

def Server.victim (s : Server) : UInt32 := (UsbipCmdUnlink.ofBytes s.tcp.cmdUnlink).unlinkSeqnum

def Server.noteUnlink (s : Server) : Server :=
  { s with
    history := { s.history with
      unlinks := s.history.unlinks ++ [(s.header.seqnum, s.victim)] } }

def urbNext (header : UsbipHeaderBasic) : TcpPc :=
  if header.command = usbipCmdSubmit then .submitBody
  else if header.command = usbipCmdUnlink then .unlinkBody
  else .urbHeader

def submitNext (header : UsbipHeaderBasic) (cmd : UsbipCmdSubmit) : TcpPc :=
  if header.direction = 0 ∧ cmd.transferBufferLength ≠ 0 then
    if cmd.transferBufferLength.toNat > 1024 then .urbHeader else .payload
  else .postSubmit

def submitEvent (s : Server) : Submit where
  header := s.header
  cmdSubmit := s.cmdSubmit
  sock := s.tcp.sock
  id := s.history.posted.length
  conn := (s.conn.map Conn.id).getD 0

/-- The answer to every unlink, with its fixed sequence number. -/
def retUnlink : UsbipRetUnlink where
  base := ⟨usbipRetUnlink, 0x00000002, 0, 0, 0⟩
  status := 0
  padding := List.replicate 24 0

/-- `tcp_send_locked`: the frame is sent under the socket mutex, in one step. -/
def tcpSendLocked (s : Server) (sock : ℤ) (message : Message) (frame : Bytes) (r : SendResult) :
    Option (Server × Bool) :=
  (sockSend s.conn sock frame r).map fun
    | some (conn, n) => (s.emit ⟨conn, message, frame, n⟩, n == frame.length)
    | none => (s, false)

def doRecv (s : Server) (a : TcpAction) : Option Server :=
  match s.tcp.pc, a with
  | .outer, .run => some (s.goto (if s.deviceBusy then .mode else .command))
  | .command, .recv r =>
      (sockRecv s.conn s.tcp.sock headerCommonSize r).map fun
        | (_, .again) => s.goto .outer
        | (_, .failed) => s.goto .cleanupBusy
        | (_, .got []) => s.goto .cleanupBusy
        | (conn, .got bytes) =>
            let devRecv := overwrite bytes s.tcp.devRecv
            (s.took conn bytes.length).setTcp
              { s.tcp with pc := commandNext s devRecv, devRecv := devRecv }
  | .postCommand, .post ok =>
      let ev := commandEvent s
      let s := s.goto (if ev.eventId = opReqImport then .importWait 0 else .mode)
      if ok then
        some { s with
          loop1 := { s.loop1 with queue := s.loop1.queue ++ [ev] }
          history := { s.history with commands := s.history.commands ++ [ev] } }
      else some s
  | .importWait n, .run =>
      some (s.goto (if s.deviceBusy then .mode else if n < 100 then .importWait (n + 1) else .mode))
  | .mode, .run =>
      if s.deviceBusy then
        some { s.goto .urbHeader with
          history := { s.history with
            urbEntries := s.history.urbEntries ++
              (s.conn.map fun c => (c.id, c.consumed)).toList } }
      else some (s.goto .outer)
  | .urbHeader, .recv r =>
      (sockRecv s.conn s.tcp.sock headerBasicSize r).map fun
        | (_, .again) => s
        | (_, .failed) => s.goto .outer
        | (_, .got []) => s.goto .urbClosed
        | (conn, .got bytes) =>
            let header := overwrite bytes s.tcp.header
            (s.took conn bytes.length).setTcp
              { s.tcp with pc := urbNext (.ofBytes header), header := header }
  | .urbClosed, .run => some { s.goto .outer with deviceBusy := false }
  | .submitBody, .recv r =>
      (sockRecv s.conn s.tcp.sock cmdHeaderSize r).map fun
        | (conn, .got bytes) =>
            let cmdSubmit := overwrite bytes s.tcp.cmdSubmit
            let pc := if bytes.length = cmdHeaderSize then
                submitNext s.header (.ofBytes cmdSubmit s.tcp.transferBuffer)
              else .urbHeader
            (s.took conn bytes.length).setTcp { s.tcp with pc := pc, cmdSubmit := cmdSubmit }
        | _ => s.goto .urbHeader
  | .payload, .recv r =>
      let len := s.cmdSubmit.transferBufferLength.toNat
      (sockRecv s.conn s.tcp.sock len r).map fun
        | (conn, .got bytes) =>
            let pc := if bytes.length = len then .postSubmit else .urbHeader
            (s.took conn bytes.length).setTcp
              { s.tcp with pc := pc, transferBuffer := overwrite bytes s.tcp.transferBuffer }
        | _ => s.goto .urbHeader
  | .postSubmit, .post ok =>
      let ev := submitEvent s
      let s := s.goto .urbHeader
      if ok then
        if s.loop2.count = 0 then none
        else some { s with
          loop2 := { s.loop2 with queue := s.loop2.queue ++ [(s.loop2.count, ev)] }
          history := { s.history with posted := s.history.posted ++ [ev] } }
      else some s
  | .unlinkBody, .recv r =>
      (sockRecv s.conn s.tcp.sock cmdUnlinkSize r).map fun
        | (conn, .got bytes) =>
            Server.noteUnlink ((s.took conn bytes.length).setTcp
              { s.tcp with pc := .unlinkReply, cmdUnlink := overwrite bytes s.tcp.cmdUnlink })
        | _ => (s.goto .unlinkReply).noteUnlink
  | .unlinkReply, .send r =>
      (tcpSendLocked (s.goto .urbHeader) s.tcp.sock
        (.retUnlink s.header.seqnum s.victim retUnlink) retUnlink.toBytes r).map Prod.fst
  | .cleanupBusy, .run => some { s.goto .cleanupEp1 with deviceBusy := false }
  | .cleanupEp1, .run => some { s.goto .cleanupEp2 with ep1TransferPending := false }
  | .cleanupEp2, .run => some { s.goto .cleanupClose with ep2TransferPending := false }
  | .cleanupClose, .run =>
      some { s with conn := none, tcp := { s.tcp with pc := .accepting, sock := -1 } }
  | _, _ => none

def Server.handle1 (s : Server) (h : Handler1) : Server :=
  { s with loop1 := { s.loop1 with handler := h } }

/-- The first branch taken for an event; a code without a registered handler is discarded. -/
def deliver1 (ev : TcpData) : Handler1 :=
  if ev.eventId = opReqDevlist then .devlist ev
  else if ev.eventId = opReqImport then .importCopy ev
  else .idle

def usbIpEventHandler1 (s : Server) (a : Loop1Action) : Option Server :=
  match s.loop1.handler, a with
  | .idle, .dispatch =>
      match s.loop1.queue with
      | [] => none
      | ev :: queue => some { s with loop1 := ⟨queue, deliver1 ev⟩ }
  | .devlist ev, .devlist stack r =>
      match devlistReply s.lib s.driver stack with
      | none => some { s with crashed := true }
      | some frame =>
          (sockSend s.conn ev.sock frame r).map fun
            | some (conn, n) => (s.handle1 .idle).emit ⟨conn, .repDevlist, frame, n⟩
            | none => s.handle1 .idle
  | .importCopy ev, .run =>
      some (s.handle1 (.importRecv ev
        (overwrite (s.tcp.devRecv.take ev.len) (List.replicate opReqImportSize 0))))
  | .importRecv ev devImport, .recv r =>
      (sockRecv s.conn ev.sock (opReqImportSize - ev.len) r).map fun
        | (conn, .got bytes) =>
            if bytes.length = opReqImportSize - ev.len then
              { s.handle1 (.importBuild ev (devImport.take ev.len ++ bytes)) with conn := conn }
            else { s.handle1 .idle with conn := conn }
        | _ => s.handle1 .idle
  | .importBuild ev devImport, .run =>
      match (importBuild s.driver devImport).reply with
      | none => some { s with crashed := true }
      | some rep => some (s.handle1 (.importSend ev devImport rep))
  | .importSend ev devImport rep, .send r =>
      (tcpSendLocked s ev.sock (.repImport rep) rep.toBytes r).map fun
        | (s, true) => s.handle1 (.importBusy ev devImport rep)
        | (s, false) => s.handle1 .idle
  | .importBusy _ _ _, .run => some { s.handle1 .idle with deviceBusy := true }
  | _, _ => none

def Server.setHandler2 (s : Server) (j : ℕ) (h : Handler2) : Server :=
  { s with loop2 := { s.loop2 with handlers := s.loop2.handlers.modify j fun x => (x.1, h) } }

def Server.endHandler2 (s : Server) (j : ℕ) : Server :=
  { s with loop2 := { s.loop2 with handlers := s.loop2.handlers.eraseIdx j } }

/-- The handler returns without the host library having taken the transfer. -/
def Server.drop2 (s : Server) (j : ℕ) (ev : Submit) (reason : DropReason) : Server :=
  { s.endHandler2 j with
    history := { s.history with dropped := s.history.dropped ++ [(ev, reason)] } }

def Server.pending (s : Server) (ep : UInt32) : Bool :=
  (ep == 1 && s.ep1TransferPending) || (ep == 2 && s.ep2TransferPending)

def usbIpEventHandler2 (s : Server) (a : Loop2Action) : Option Server :=
  match a with
  | .dispatch i =>
      -- each loop delivers its own events in order, one at a time
      match s.loop2.queue[i]? with
      | none => none
      | some (l, ev) =>
          if (s.loop2.queue.take i).all (fun x => x.1 ≠ l) ∧
              s.loop2.handlers.all (fun x => x.1 ≠ l) then
            some { s with
              loop2 := { s.loop2 with
                queue := s.loop2.queue.eraseIdx i
                handlers := s.loop2.handlers ++ [(l, .entry ev)] } }
          else none
  | .malloc j heap =>
      match s.loop2.handlers[j]?, heap with
      | some (_, .entry ev), none => some (s.drop2 j ev .noReply)
      | some (_, .entry ev), some heap =>
          some { s.setHandler2 j (.filled ev (fillRetSubmit ev heap)) with
            heap := { s.heap with rets := ev.id :: s.heap.rets } }
      | _, _ => none
  | .setSkt j =>
      match s.loop2.handlers[j]? with
      | some (_, .filled ev ret) => some { s.setHandler2 j (.sktSet ev ret) with skt := ev.sock }
      | _ => none
  | .alloc j heap =>
      match s.loop2.handlers[j]?, heap with
      | some (_, .sktSet ev _), none =>
          some { s.drop2 j ev .noTransfer with
            heap := { s.heap with rets := s.heap.rets.erase ev.id } }
      | some (_, .sktSet ev ret), some heap =>
          some { s.setHandler2 j (.allocated (allocTransfer ev ret heap s.driver.devHdl)) with
            heap := { s.heap with transfers := ev.id :: s.heap.transfers } }
      | _, _ => none
  | .check j =>
      match s.loop2.handlers[j]? with
      | some (_, .allocated t) =>
          if t.ev.header.ep = 0 then some (s.setHandler2 j (.built (buildControl t)))
          else if s.pending t.ev.header.ep then
            some { s.drop2 j t.ev .pending with
              heap := ⟨s.heap.rets.erase t.ev.id, s.heap.transfers.erase t.ev.id⟩ }
          else some (s.setHandler2 j (.checked t))
      | _ => none
  | .build j beyond =>
      match s.loop2.handlers[j]? with
      | some (_, .checked t) =>
          some (s.setHandler2 j (.built (buildBulk s.lib s.driver.mps beyond t)))
      | _ => none
  | .submit j accepted =>
      match s.loop2.handlers[j]? with
      | some (_, .built t) =>
          if accepted then
            let s := { s with inFlight := s.inFlight ++ [t] }
            some (if t.control then s.endHandler2 j
              else s.setHandler2 j (.accepted t.ev.header.ep))
          else some (s.drop2 j t.ev .rejected)
      | _ => none
  | .setPending j =>
      match s.loop2.handlers[j]? with
      | some (_, .accepted ep) =>
          some { s.endHandler2 j with
            ep1TransferPending := s.ep1TransferPending || ep == 1
            ep2TransferPending := s.ep2TransferPending || ep == 2 }
      | _ => none

def Callback.reply (c : Callback) (heap : Bytes) : UsbipRetSubmit :=
  if c.transfer.control then controlReply c.transfer c.status c.actualNumBytes heap
  else bulkReply c.transfer heap

def Callback.frame (c : Callback) (heap : Bytes) : Bytes :=
  if c.transfer.control then controlFrame (c.reply heap) heap
  else bulkFrame c.transfer (c.reply heap) heap

/-- Both objects are freed whether or not the reply was sent. -/
def Server.endCallback (s : Server) (ev : Submit) : Server :=
  { s with
    callback := none
    heap := ⟨s.heap.rets.erase ev.id, s.heap.transfers.erase ev.id⟩ }

def Server.silence (s : Server) (ev : Submit) : Server :=
  { s with history := { s.history with silent := s.history.silent ++ [ev] } }

/-- Completions are delivered inside `usb_host_client_handle_events`, one callback at a time. -/
def transferCallback (s : Server) (a : HostAction) : Option Server :=
  match s.callback, a with
  | none, .complete i status n data =>
      match s.inFlight[i]? with
      | some t =>
          if s.driver.pc = .handleEvents then
            some { s with
              inFlight := s.inFlight.eraseIdx i
              callback := some
                ⟨{ t with dataBuffer := sized t.dataBuffer.length data }, status, n, false⟩ }
          else none
      | none => none
  | some c, .clear =>
      if c.cleared then none
      else
        some { s with
          ep1TransferPending :=
            s.ep1TransferPending && (c.transfer.control || callbackEp c.transfer != 1)
          ep2TransferPending :=
            s.ep2TransferPending && (c.transfer.control || callbackEp c.transfer != 2)
          callback := some { c with cleared := true } }
  | some c, .send heap r =>
      if c.cleared then
        let ev := c.transfer.ev
        if s.skt < 0 then some ((s.endCallback ev).silence ev)
        else
          (sockSend s.conn s.skt (c.frame heap) r).map fun
            | some (conn, n) =>
                (s.endCallback ev).emit ⟨conn, .retSubmit ev (c.reply heap), c.frame heap, n⟩
            | none => (s.endCallback ev).silence ev
      else none
  | _, _ => none

def applyEffect (s : Server) : DriverEffect → Server
  | .none => s
  | .clearBusy => { s with deviceBusy := false }
  | .newLoop => { s with loop2 := { s.loop2 with count := s.loop2.count + 1 } }
  | .abort => { s with crashed := true }

/-- The class driver runs in the task that runs the callbacks. -/
def driverStep (s : Server) (a : DriverAction) : Option Server :=
  if s.callback.isSome then none
  else (usbClassDriverTask s.lib s.driver a).map fun r =>
    applyEffect { s with driver := r.1 } r.2

def step (s : Server) : Action → Option Server
  | .tcp a =>
      if s.crashed then none
      else match s.tcp.pc with
        | .accepting | .begin => tcpServerStart s a
        | _ => doRecv s a
  | .loop1 a => if s.crashed then none else usbIpEventHandler1 s a
  | .loop2 a => if s.crashed then none else usbIpEventHandler2 s a
  | .host a => if s.crashed then none else transferCallback s a
  | .driver a => if s.crashed then none else driverStep s a

/-- The firmware after `app_main`: statics zero, `loop_handle` created, nobody connected. The
locals of `do_recv` have their sizes and hold anything. -/
def Server.boot (lib : HostLib) (devRecv header cmdSubmit transferBuffer cmdUnlink : Bytes) :
    Server where
  lib := lib
  conn := none
  tcp := ⟨.accepting, 0, sized headerCommonSize devRecv, sized headerBasicSize header,
    sized cmdHeaderSize cmdSubmit, sized 1024 transferBuffer, sized cmdUnlinkSize cmdUnlink⟩
  deviceBusy := false
  loopHandle := true
  loop1 := ⟨[], .idle⟩
  ep1TransferPending := false
  ep2TransferPending := false
  skt := 0
  loop2 := ⟨0, [], []⟩
  inFlight := []
  callback := none
  driver := .boot
  heap := {}
  history := {}
  crashed := false

abbrev run (s : Server) (as : List Action) : Option Server := Schedule.exec step s as

/-- A state the firmware can get into, whatever the other side of its interfaces does. -/
def Reachable (s : Server) : Prop :=
  ∃ lib devRecv header cmdSubmit transferBuffer cmdUnlink as,
    run (.boot lib devRecv header cmdSubmit transferBuffer cmdUnlink) as = some s

theorem Reachable.of_run {s t : Server} {as : List Action} (hs : Reachable s)
    (h : run s as = some t) : Reachable t := by
  obtain ⟨lib, devRecv, header, cmdSubmit, transferBuffer, cmdUnlink, pre, hpre⟩ := hs
  exact ⟨lib, devRecv, header, cmdSubmit, transferBuffer, cmdUnlink, pre ++ as,
    Schedule.exec_append.2 ⟨s, hpre, h⟩⟩

theorem Reachable.of_step {s t : Server} {a : Action} (hs : Reachable s)
    (h : step s a = some t) : Reachable t := by
  have hone : run s [a] = some t := Schedule.exec_cons.2 ⟨t, h, Schedule.exec_nil t⟩
  exact hs.of_run hone

theorem Reachable.boot (lib : HostLib)
    (devRecv header cmdSubmit transferBuffer cmdUnlink : Bytes) :
    Reachable (.boot lib devRecv header cmdSubmit transferBuffer cmdUnlink) :=
  ⟨lib, devRecv, header, cmdSubmit, transferBuffer, cmdUnlink, [], Schedule.exec_nil _⟩

theorem Reachable.invariant {I : Server → Prop}
    (hboot : ∀ lib devRecv header cmdSubmit transferBuffer cmdUnlink,
      I (.boot lib devRecv header cmdSubmit transferBuffer cmdUnlink))
    (hstep : ∀ s a t, I s → step s a = some t → I t) {s : Server} (hs : Reachable s) : I s := by
  obtain ⟨lib, devRecv, header, cmdSubmit, transferBuffer, cmdUnlink, as, h⟩ := hs
  exact Schedule.exec_invariant_all hstep
    (hboot lib devRecv header cmdSubmit transferBuffer cmdUnlink) h

end UsbRepeater
