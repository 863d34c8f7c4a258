import UsbRepeater.Connections

/-! The answer to an import. The handler compares the bus id, reads the descriptors without
looking at their pointers, and sets `device_busy` behind every reply sent in full, whatever the
reply says. -/
namespace UsbRepeater

open Schedule

def Handler1.event : Handler1 → Option TcpData
  | .idle => none
  | .devlist ev | .importCopy ev | .importRecv ev _ | .importBuild ev _ | .importSend ev _ _
  | .importBusy ev _ _ => some ev

theorem deliver1_event {ev ev' : TcpData} (h : (deliver1 ev).event = some ev') : ev' = ev := by
  unfold deliver1 at h
  split_ifs at h with h1 h2
  · exact (Option.some.inj h).symm
  · exact (Option.some.inj h).symm
  · cases h

/-- Every command event carries the length of the header it points to. -/
structure Server.EventsSized (s : Server) : Prop where
  queue : ∀ ev ∈ s.loop1.queue, ev.len = headerCommonSize
  handler : ∀ ev, s.loop1.handler.event = some ev → ev.len = headerCommonSize

theorem Server.EventsSized.of_same {s t : Server} (hs : s.EventsSized)
    (h : t.loop1 = s.loop1) : t.EventsSized where
  queue := h ▸ hs.queue
  handler := h ▸ hs.handler

theorem step_eventsSized {s t : Server} {a : Action} (hs : s.EventsSized)
    (h : step s a = some t) : t.EventsSized := by
  cases a with
  | tcp a =>
    obtain ⟨-, heff⟩ := tcpStep_effect h
    cases heff with
    | postCommand tcp htcp hpc =>
      refine ⟨fun ev hev => ?_, hs.handler⟩
      rcases List.mem_append.1 hev with hev | hev
      · exact hs.queue ev hev
      · rw [List.mem_singleton.1 hev]
        rfl
    | _ => exact hs.of_same rfl
  | loop1 a =>
    obtain ⟨-, hstep⟩ := loop1Step h
    cases hstep with
    | dispatch ev queue hh hq =>
      have hqueue : ∀ e ∈ ev :: queue, e.len = headerCommonSize := hq ▸ hs.queue
      refine ⟨fun e he => hqueue e (List.mem_cons_of_mem ev he), fun e he => ?_⟩
      rw [deliver1_event he]
      exact hqueue ev List.mem_cons_self
    | copy ev hh => exact ⟨hs.queue, fun e he => hs.handler e (by rw [hh]; exact he)⟩
    | recv ev devImport r conn bytes hh hrecv hlen =>
      exact ⟨hs.queue, fun e he => hs.handler e (by rw [hh]; exact he)⟩
    | build ev devImport rep hh hb =>
      exact ⟨hs.queue, fun e he => hs.handler e (by rw [hh]; exact he)⟩
    | send ev devImport rep c hh hc =>
      exact ⟨hs.queue, fun e he => hs.handler e (by rw [hh]; exact he)⟩
    | devlistCrash => exact hs.of_same rfl
    | buildCrash => exact hs.of_same rfl
    | _ => exact ⟨hs.queue, fun e he => by cases he⟩
  | loop2 a =>
    obtain ⟨-, heff⟩ := loop2Step_effect h
    cases heff <;> exact hs.of_same rfl
  | host a =>
    obtain ⟨-, heff⟩ := hostStep_effect h
    cases heff <;> exact hs.of_same rfl
  | driver a =>
    obtain ⟨-, -, d, e, -, rfl⟩ := driverStep_effect h
    cases e <;> exact hs.of_same rfl

theorem Reachable.eventsSized {s : Server} (h : Reachable s) : s.EventsSized :=
  h.invariant (fun _ _ _ _ _ _ => ⟨fun ev hev => (by cases hev), fun ev hev => (by cases hev)⟩)
    fun _ _ _ hs => step_eventsSized hs

theorem busId_ne_zero : ∀ a ∈ busId, a ≠ 0 := by decide +kernel

theorem strcmp_busId {field : Bytes} (h : field.length = 32) :
    strcmp (busId ++ [0]) field = 0 ↔ cString field = busId :=
  strcmp_eq_zero_iff busId_ne_zero (by rw [h]; decide)

def refusedReply : OpRepImport := ⟨usbipVersion, opRepImport, 1, DeviceRecord.zero⟩

theorem importBuild_of_ne {d : Driver} {devImport : Bytes}
    (h : strcmp (busId ++ [0]) (busIdOf devImport) ≠ 0) :
    importBuild d devImport = ⟨[], some refusedReply⟩ := by
  rw [importBuild, if_neg h, refusedReply]

theorem Driver.access_eq_live {α : Type} {d : Driver} {p : Option (Owned α)} :
    d.access p = .live ↔ d.live p = true := by
  unfold Driver.access
  cases p with
  | none => simp [Driver.live]
  | some p => by_cases h : d.live (some p) = true <;> simp [h]

theorem importBuild_of_enumerated {d : Driver} {devImport : Bytes}
    (h : strcmp (busId ++ [0]) (busIdOf devImport) = 0) (hd : d.enumerated = true) :
    ∃ rep, (importBuild d devImport).reply = some rep ∧ rep.status = 0 ∧
      ∀ x ∈ (importBuild d devImport).accesses, x = .live := by
  obtain ⟨hdev, hconfig⟩ := Bool.and_eq_true_iff.1 hd
  cases hdp : d.devDesc with
  | none => simp [hdp, Driver.live] at hdev
  | some dev =>
    cases hcp : d.configDesc with
    | none => simp [hcp, Driver.live] at hconfig
    | some config =>
      rw [hdp] at hdev
      rw [hcp] at hconfig
      refine ⟨⟨usbipVersion, opRepImport, 0, deviceRecord d.devInfo dev.val config.val⟩, ?_, rfl,
        ?_⟩
      · simp [importBuild, h, hdp, hcp]
      · simp [importBuild, h, hdp, hcp, Driver.access_eq_live.2 hdev,
          Driver.access_eq_live.2 hconfig]

/-- Without an enumerated device some descriptor is read that is not there. -/
theorem importBuild_of_not_enumerated {d : Driver} {devImport : Bytes}
    (h : strcmp (busId ++ [0]) (busIdOf devImport) = 0) (hd : d.enumerated ≠ true) :
    ∃ x ∈ (importBuild d devImport).accesses, x ≠ .live := by
  cases hdp : d.devDesc with
  | none => exact ⟨.null, by simp [importBuild, h, hdp], by decide⟩
  | some dev =>
    cases hcp : d.configDesc with
    | none => exact ⟨.null, by simp [importBuild, h, hdp, hcp], by decide⟩
    | some config =>
      by_cases hdev : d.live (some dev) = true
      · refine ⟨d.access (some config), by simp [importBuild, h, hdp, hcp], fun hlive => hd ?_⟩
        have hconfig := Driver.access_eq_live.1 hlive
        rw [Driver.enumerated, hdp, hcp, hdev, hconfig]
        rfl
      · exact ⟨d.access (some dev), by simp [importBuild, h, hdp, hcp],
          fun hlive => hdev (Driver.access_eq_live.1 hlive)⟩

def importReading : List Action := [.loop1 .run, .loop1 (.recv (.data 32))]

def importAnswering : List Action := [.loop1 .run, .loop1 (.send .full), .loop1 .run]

def importHandling : List Action := importReading ++ importAnswering

/-- The request the handler assembles: the header `ev` points to, and the next bytes. -/
def Server.assembled (s : Server) (ev : TcpData) (c : Conn) : Bytes :=
  (overwrite (s.tcp.devRecv.take ev.len) (List.replicate opReqImportSize 0)).take ev.len ++
    c.unread.take 32

theorem busIdOf_assembled (s : Server) {ev : TcpData} (c : Conn) (h : ev.len = headerCommonSize) :
    busIdOf (s.assembled ev c) = c.unread.take 32 := by
  have hlen : ((overwrite (s.tcp.devRecv.take ev.len)
      (List.replicate opReqImportSize 0)).take ev.len).length = 8 := by
    rw [List.length_take, overwrite_length]
    · rw [h, List.length_replicate]
      rfl
    · rw [List.length_take, h, List.length_replicate]
      exact (min_le_left _ _).trans (by decide)
  exact List.drop_left' hlen

section Run

variable {s : Server} {ev : TcpData} {c : Conn}

theorem run_importReading (hcr : s.crashed = false) (hh : s.loop1.handler = .importCopy ev)
    (hlen : ev.len = headerCommonSize) (hc : openOn s.conn ev.sock = some c)
    (hread : 32 ≤ c.unread.length) :
    run s importReading = some
      { s.handle1 (.importBuild ev (s.assembled ev c)) with
        conn := some { c with consumed := c.consumed + 32 } } := by
  have hwant : opReqImportSize - ev.len = 32 := by rw [hlen]; rfl
  have hrecv : sockRecv s.conn ev.sock (opReqImportSize - ev.len) (.data 32) =
      some (some { c with consumed := c.consumed + 32 }, .got (c.unread.take 32)) :=
    sockRecv_data hc (by decide) hwant.ge hread
  have htake : (c.unread.take 32).length = opReqImportSize - ev.len := by
    rw [hwant, List.length_take, min_eq_left hread]
  have hcopy : step s (.loop1 .run) = some (s.handle1 (.importRecv ev
      (overwrite (s.tcp.devRecv.take ev.len) (List.replicate opReqImportSize 0)))) := by
    simp [step, hcr, usbIpEventHandler1, hh]
  refine exec_cons.2 ⟨_, hcopy, exec_cons.2 ⟨_, ?_, rfl⟩⟩
  simp only [step, usbIpEventHandler1, Server.handle1, hcr, Bool.false_eq_true, if_false, hrecv,
    Option.map_some, htake, if_true]
  rfl

theorem importHandling_of_reply (hcr : s.crashed = false) (hh : s.loop1.handler = .importCopy ev)
    (hlen : ev.len = headerCommonSize) (hc : openOn s.conn ev.sock = some c)
    (hread : 32 ≤ c.unread.length) {rep : OpRepImport}
    (hb : (importBuild s.driver (s.assembled ev c)).reply = some rep) :
    ∃ t, run s importHandling = some t ∧ t.deviceBusy = true ∧
      t.history.sent = s.history.sent ++ [⟨c.id, .repImport rep, rep.toBytes,
        rep.toBytes.length⟩] := by
  obtain ⟨hconn, hnum⟩ := openOn_eq_some.1 hc
  have hopen : openOn (some { c with consumed := c.consumed + 32 }) ev.sock =
      some { c with consumed := c.consumed + 32 } := openOn_eq_some.2 ⟨rfl, hnum⟩
  refine ⟨{ (s.emit ⟨c.id, .repImport rep, rep.toBytes, rep.toBytes.length⟩).handle1 .idle with
    conn := some { c with consumed := c.consumed + 32 }, deviceBusy := true }, ?_, rfl, rfl⟩
  have hread2 := run_importReading hcr hh hlen hc hread
  refine exec_append.2 ⟨_, hread2, ?_⟩
  refine exec_cons.2 ⟨{ s.handle1 (.importSend ev (s.assembled ev c) rep) with
    conn := some { c with consumed := c.consumed + 32 } }, ?_, ?_⟩
  · simp only [step, usbIpEventHandler1, Server.handle1, hcr, Bool.false_eq_true, if_false, hb]
  · simp only [exec, step, usbIpEventHandler1, Server.handle1, hcr, Bool.false_eq_true, if_false,
      tcpSendLocked, sockSend, hopen, Option.map_some, Option.bind_some, beq_self_eq_true,
      Server.emit]

theorem importHandling_of_crash (hcr : s.crashed = false) (hh : s.loop1.handler = .importCopy ev)
    (hlen : ev.len = headerCommonSize) (hc : openOn s.conn ev.sock = some c)
    (hread : 32 ≤ c.unread.length)
    (hb : (importBuild s.driver (s.assembled ev c)).reply = none) :
    run s importHandling = none := by
  have hread2 := run_importReading hcr hh hlen hc hread
  rw [Option.eq_none_iff_forall_ne_some]
  intro t ht
  obtain ⟨u, hu, hrest⟩ := exec_append.1 ht
  obtain rfl := Option.some.inj (hread2.symm.trans hu)
  obtain ⟨v, hv, hrest⟩ := exec_cons.1 hrest
  have hcrash : v.crashed = true := by
    simp only [step, usbIpEventHandler1, Server.handle1, hcr, Bool.false_eq_true, if_false, hb,
      Option.some.injEq] at hv
    rw [← hv]
  obtain ⟨w, hw, -⟩ := exec_cons.1 hrest
  simp [step, hcrash] at hw

end Run

def Server.grants (s : Server) (field : Bytes) : Prop :=
  cString field = busId ∧ s.driver.enumerated = true

/-- What handling a complete import is for: the request is answered in full; it is granted with
status 0 and `device_busy` set, or refused with another status, without touching a descriptor
that is not there and without changing `device_busy`. -/
def ImportContract (s : Server) (ev : TcpData) (c : Conn) : Prop :=
  ∃ t rep, run s importHandling = some t ∧
    t.history.sent = s.history.sent ++
      [⟨c.id, .repImport rep, rep.toBytes, rep.toBytes.length⟩] ∧
    (rep.status = 0 ∧ t.deviceBusy = true ↔ s.grants (c.unread.take 32)) ∧
    (¬ s.grants (c.unread.take 32) → rep.status ≠ 0 ∧ t.deviceBusy = s.deviceBusy ∧
      ∀ x ∈ (importBuild s.driver (s.assembled ev c)).accesses, x = .live)

theorem importHandling_refused {s : Server} {ev : TcpData} {c : Conn} (hcr : s.crashed = false)
    (hh : s.loop1.handler = .importCopy ev) (hlen : ev.len = headerCommonSize)
    (hc : openOn s.conn ev.sock = some c) (hread : 32 ≤ c.unread.length)
    (hne : cString (c.unread.take 32) ≠ busId) :
    ∃ t, run s importHandling = some t ∧ t.deviceBusy = true ∧
      t.history.sent = s.history.sent ++
        [⟨c.id, .repImport refusedReply, refusedReply.toBytes, refusedReply.toBytes.length⟩] ∧
      (importBuild s.driver (s.assembled ev c)).accesses = [] := by
  have hstrcmp : strcmp (busId ++ [0]) (busIdOf (s.assembled ev c)) ≠ 0 := by
    rw [busIdOf_assembled s c hlen]
    exact mt (strcmp_busId (by rw [List.length_take, min_eq_left hread])).1 hne
  have hbuild := importBuild_of_ne (d := s.driver) hstrcmp
  obtain ⟨t, ht, hbusy, hsent⟩ := importHandling_of_reply hcr hh hlen hc hread
    (congrArg ImportBuild.reply hbuild)
  exact ⟨t, ht, hbusy, hsent, congrArg ImportBuild.accesses hbuild⟩

/-- The contract is met by the imports of an enumerated device, and by those of another bus id
that find `device_busy` set already. -/
theorem importContract_iff {s : Server} {ev : TcpData} {c : Conn} (hreach : Reachable s)
    (hcr : s.crashed = false) (hh : s.loop1.handler = .importCopy ev)
    (hc : openOn s.conn ev.sock = some c) (hread : 32 ≤ c.unread.length) :
    ImportContract s ev c ↔
      s.grants (c.unread.take 32) ∨ cString (c.unread.take 32) ≠ busId ∧ s.deviceBusy = true := by
  have hlen : ev.len = headerCommonSize := hreach.eventsSized.handler ev (by rw [hh]; rfl)
  have hfield := busIdOf_assembled s c hlen
  have hmatch : strcmp (busId ++ [0]) (busIdOf (s.assembled ev c)) = 0 ↔
      cString (c.unread.take 32) = busId := by
    rw [hfield]
    exact strcmp_busId (by rw [List.length_take, min_eq_left hread])
  by_cases hbus : cString (c.unread.take 32) = busId
  · have hzero := hmatch.2 hbus
    by_cases hd : s.driver.enumerated = true
    · -- granted: the descriptors are there and the reply says so
      obtain ⟨rep, hb, hstatus, -⟩ := importBuild_of_enumerated hzero hd
      obtain ⟨t, ht, hbusy, hsent⟩ := importHandling_of_reply hcr hh hlen hc hread hb
      have hgrants : s.grants (c.unread.take 32) := ⟨hbus, hd⟩
      refine ⟨fun _ => .inl hgrants, fun _ => ⟨t, rep, ht, hsent, ?_, ?_⟩⟩
      · exact ⟨fun _ => hgrants, fun _ => ⟨hstatus, hbusy⟩⟩
      · exact fun hno => absurd hgrants hno
    · -- the descriptors are read without having been checked
      have hgrants : ¬ s.grants (c.unread.take 32) := fun h => hd h.2
      obtain ⟨x, hx, hlive⟩ := importBuild_of_not_enumerated hzero hd
      constructor
      · rintro ⟨t, rep, -, -, -, hrefuse⟩
        exact absurd ((hrefuse hgrants).2.2 x hx) hlive
      · rintro (h | ⟨hne, -⟩)
        · exact absurd h hgrants
        · exact absurd hbus hne
  · have hgrants : ¬ s.grants (c.unread.take 32) := fun h => hbus h.1
    obtain ⟨t, ht, hbusy, hsent, haccesses⟩ := importHandling_refused hcr hh hlen hc hread hbus
    constructor
    · rintro ⟨t', rep, ht', -, -, hrefuse⟩
      rw [ht] at ht'
      cases ht'
      exact .inr ⟨hbus, (hrefuse hgrants).2.1.symm.trans hbusy⟩
    · rintro (h | ⟨-, hbefore⟩)
      · exact absurd h hgrants
      · refine ⟨t, _, ht, hsent, ?_, fun _ => ⟨by decide, hbusy.trans hbefore.symm, ?_⟩⟩
        · exact ⟨fun h => absurd h.1 (by decide), fun h => absurd h hgrants⟩
        · rw [haccesses]
          exact fun x hx => absurd hx List.not_mem_nil

def importArrives (field : Bytes) : List Action :=
  (importing 3 (requestHeader opReqImport 0 ++ field)).take 6

/-- An import of bus id "1-1" with nothing plugged in is refused, and sets `device_busy`. -/
theorem refused_import_sets_busy :
    ¬ ∀ s ev c, Reachable s → s.crashed = false → s.loop1.handler = .importCopy ev →
      openOn s.conn ev.sock = some c → 32 ≤ c.unread.length → ImportContract s ev c := by
  intro hall
  let field : Bytes := [0x31, 0x2d, 0x31] ++ List.replicate 29 0
  let ev : TcpData := ⟨3, 8, opReqImport, requestHeader opReqImport 0, 8, 8⟩
  let c : Conn := ⟨0, 3, requestHeader opReqImport 0 ++ field, 8⟩
  have hrun : (run coldBoot (importArrives field)).map
      (fun s => (s.crashed, s.deviceBusy, s.loop1.handler, s.conn)) =
      some (false, false, .importCopy ev, some c) := by
    decide +kernel
  obtain ⟨s, hs, hstate⟩ := Option.map_eq_some_iff.1 hrun
  simp only [Prod.mk.injEq] at hstate
  obtain ⟨hcr, hidle, hh, hconn⟩ := hstate
  have hopen : openOn s.conn ev.sock = some c := openOn_eq_some.2 ⟨hconn, rfl⟩
  have hread : 32 ≤ c.unread.length := by decide
  have hother : cString (c.unread.take 32) ≠ busId := by decide +kernel
  have hreach : Reachable s := ⟨_, _, _, _, _, _, importArrives field, hs⟩
  obtain ⟨t, rep, ht, -, -, hrefuse⟩ := hall s ev c hreach hcr hh hopen hread
  obtain ⟨t', ht', hbusy, -⟩ := importHandling_refused hcr hh rfl hopen hread hother
  rw [ht] at ht'
  cases ht'
  have hunchanged := (hrefuse fun h => hother h.1).2.1
  rw [hbusy, hidle] at hunchanged
  cases hunchanged

theorem importContract_keyboard :
    ∃ s ev c, run coldBoot (keyboardEnumeration ++
        importArrives (busId ++ List.replicate 29 0)) = some s ∧
      (ImportContract s ev c ↔
        s.grants (c.unread.take 32) ∨ cString (c.unread.take 32) ≠ busId ∧
          s.deviceBusy = true) := by
  let ev : TcpData := ⟨3, 8, opReqImport, requestHeader opReqImport 0, 8, 8⟩
  let c : Conn := ⟨0, 3, requestHeader opReqImport 0 ++ (busId ++ List.replicate 29 0), 8⟩
  have hrun : (run coldBoot (keyboardEnumeration ++
      importArrives (busId ++ List.replicate 29 0))).map
      (fun s => (s.crashed, s.loop1.handler, s.conn)) =
      some (false, .importCopy ev, some c) := by
    decide +kernel
  obtain ⟨s, hs, hstate⟩ := Option.map_eq_some_iff.1 hrun
  simp only [Prod.mk.injEq] at hstate
  obtain ⟨hcr, hh, hconn⟩ := hstate
  have hreach : Reachable s := ⟨_, _, _, _, _, _, _, hs⟩
  exact ⟨s, ev, c, hs, importContract_iff hreach hcr hh (openOn_eq_some.2 ⟨hconn, rfl⟩)
    (by decide)⟩

end UsbRepeater
