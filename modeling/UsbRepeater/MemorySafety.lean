import UsbRepeater.RequestMemory
import UsbRepeater.ImportHandOver

/-! Memory safety of the firmware, over whole runs: the steps of the class driver, of `do_recv` and
of the first event loop join those on a request. -/
namespace UsbRepeater

open Memory Schedule

structure Driver.ReadsLive (d : Driver) : Prop where
  start : d.pc = .start → d.devHdl = none
  strings : d.actions.getStrDesc = true → d.pc = .getStrDesc ∧ d.enumerated = true

theorem Driver.ReadsLive.getStrDesc_eq_false {d : Driver} (hd : d.ReadsLive)
    (hpc : d.pc ≠ .getStrDesc) : d.actions.getStrDesc = false :=
  Bool.eq_false_iff.2 fun h => hpc (hd.strings h).1

theorem readsLive_of_clear {d : Driver} (hpc : d.pc ≠ .start)
    (hstr : d.actions.getStrDesc = false) : d.ReadsLive where
  start h := absurd h hpc
  strings h := by
    rw [hstr] at h
    cases h

theorem clientEventCb_getStrDesc {d : Driver} (hstr : d.actions.getStrDesc = false)
    (e : ClientEvent) : (clientEventCb d e).1.actions.getStrDesc = false := by
  unfold clientEventCb
  split
  · split_ifs <;> exact hstr
  · split_ifs
    · rfl
    · exact hstr
  · exact hstr

theorem actionGetConfigDesc_readsLive {lib : HostLib} {d : Driver} (hturn : d.InTurn)
    (hbit : d.actions.getConfigDesc = true) (hstr : d.actions.getStrDesc = false)
    (desc : Option UsbConfigDesc) (claims : List Bool) :
    Driver.ReadsLive { (actionGetConfigDesc lib d desc claims).1 with pc := .getStrDesc } := by
  unfold actionGetConfigDesc
  split
  · exact readsLive_of_clear nofun hstr
  · exact readsLive_of_clear nofun hstr
  · rename_i k desc hk
    obtain ⟨k', dev, hk', hdev⟩ := hturn.next hbit
    obtain rfl : k = k' := Option.some.inj (hk.symm.trans hk')
    exact ⟨nofun, fun _ => ⟨rfl, Driver.enumerated_iff.2 ⟨k, dev, desc, hk, hdev, rfl⟩⟩⟩

theorem actionGetStrDesc_getStrDesc {d : Driver} (hlive : d.enumerated = true) :
    (actionGetStrDesc d).1.actions.getStrDesc = false := by
  obtain ⟨k, dev, config, hk, hdev, hconfig⟩ := Driver.enumerated_iff.1 hlive
  simp only [actionGetStrDesc, hk, hdev, hconfig]

theorem usbClassDriverTask_readsLive {lib : HostLib} {d d' : Driver} {a : DriverAction}
    {e : DriverEffect} (hd : d.ReadsLive) (ho : d.Orderly) (hturn : d.InTurn)
    (h : usbClassDriverTask lib d a = some (d', e)) : d'.ReadsLive := by
  have hclear : ∀ pc, d.pc = pc → pc ≠ .getStrDesc → d.actions.getStrDesc = false :=
    fun pc hpc hne => hd.getStrDesc_eq_false (hpc ▸ hne)
  unfold usbClassDriverTask at h
  split at h
  case h_1 hpc =>
    obtain ⟨rfl, rfl⟩ := Prod.mk.inj (Option.some.inj h)
    exact readsLive_of_clear nofun rfl
  case h_4 ev hpc =>
    obtain ⟨rfl, rfl⟩ := Prod.mk.inj (Option.some.inj h)
    exact readsLive_of_clear nofun (clientEventCb_getStrDesc (hclear _ hpc nofun) ev)
  case h_6 ok hpc =>
    split_ifs at h
    obtain ⟨rfl, rfl⟩ := Prod.mk.inj (Option.some.inj h)
    refine readsLive_of_clear nofun ?_
    unfold actionOpenDev
    split_ifs <;> exact hclear _ hpc nofun
  case h_8 info hpc =>
    split_ifs at h
    obtain ⟨rfl, rfl⟩ := Prod.mk.inj (Option.some.inj h)
    refine readsLive_of_clear nofun ?_
    unfold actionGetInfo
    split <;> exact hclear _ hpc nofun
  case h_10 desc hpc =>
    split_ifs at h
    obtain ⟨rfl, rfl⟩ := Prod.mk.inj (Option.some.inj h)
    refine readsLive_of_clear nofun ?_
    unfold actionGetDevDesc
    split <;> exact hclear _ hpc nofun
  case h_12 desc claims hpc =>
    split_ifs at h with hbit
    obtain ⟨rfl, rfl⟩ := Prod.mk.inj (Option.some.inj h)
    exact actionGetConfigDesc_readsLive hturn hbit (hclear _ hpc nofun) desc claims
  case h_14 hpc =>
    obtain ⟨rfl, rfl⟩ := Prod.mk.inj (Option.some.inj h)
    split_ifs with hstr
    · exact readsLive_of_clear nofun (actionGetStrDesc_getStrDesc (hd.strings hstr).2)
    · exact readsLive_of_clear nofun (Bool.eq_false_iff.2 hstr)
  case h_15 ok hpc =>
    split_ifs at h
    obtain ⟨rfl, rfl⟩ := Prod.mk.inj (Option.some.inj h)
    refine readsLive_of_clear nofun ?_
    unfold acitonCloseDev
    split_ifs <;> exact hclear _ hpc nofun
  case h_17 hpc =>
    split_ifs at h with hexit
    · obtain ⟨rfl, rfl⟩ := Prod.mk.inj (Option.some.inj h)
      refine ⟨fun _ => ho.leaving hexit, fun hstr => ?_⟩
      rw [hclear _ hpc nofun] at hstr
      cases hstr
    · obtain ⟨rfl, rfl⟩ := Prod.mk.inj (Option.some.inj h)
      exact readsLive_of_clear nofun (hclear _ hpc nofun)
  case h_18 => cases h
  -- round the loop, and past an action whose bit is clear
  all_goals
    rename_i hpc
    try split_ifs at h
    all_goals
      obtain ⟨rfl, rfl⟩ := Prod.mk.inj (Option.some.inj h)
      exact readsLive_of_clear nofun (hclear _ hpc nofun)

theorem Reachable.readsLive {s : Server} (h : Reachable s) :
    s.driver.InTurn ∧ s.driver.ReadsLive := by
  have hboth : (s.driver.Orderly ∧ s.driver.Placed) ∧ s.driver.InTurn ∧ s.driver.ReadsLive := by
    refine Reachable.invariant (I := fun s => (s.driver.Orderly ∧ s.driver.Placed) ∧
      s.driver.InTurn ∧ s.driver.ReadsLive)
      (fun lib devRecv header cmdSubmit transferBuffer cmdUnlink => ?_)
      (fun s a t hs ht => ?_) h
    · have hboot := Reachable.boot lib devRecv header cmdSubmit transferBuffer cmdUnlink
      exact ⟨hboot.orderly, ⟨nofun, nofun⟩, ⟨fun _ => rfl, nofun⟩⟩
    · refine ⟨step_orderly hs.1 ht, ?_⟩
      rcases step_driver_or_other ht with ⟨b, e, rfl, hd⟩ | ⟨-, heq⟩
      · exact ⟨(usbClassDriverTask_descriptors hs.2.1 hs.1.1 hd).inTurn,
          usbClassDriverTask_readsLive hs.2.2 hs.1.1 hs.2.1 hd⟩
      · rw [heq]
        exact hs.2
  exact hboth.2

theorem applyEffect_memory (s : Server) (e : DriverEffect) :
    (applyEffect s e).memory = s.memory := by
  cases e <;> rfl

theorem actionOpenDev_devHdl (d : Driver) (ok : Bool) : (actionOpenDev d ok).1.devHdl =
    if ok = true ∧ d.devAddr ≠ 0 then some d.opened else d.devHdl := by
  unfold actionOpenDev
  by_cases haddr : d.devAddr = 0
  · simp [haddr]
  · cases ok <;> simp [haddr]

theorem usbClassDriverTask_openDev_eq {lib : HostLib} {d d' : Driver} {e : DriverEffect} {ok : Bool}
    (h : usbClassDriverTask lib d (.openDev ok) = some (d', e)) :
    d' = { (actionOpenDev d ok).1 with pc := .getInfo } := by
  cases hpc : d.pc with
  | openDev =>
    simp only [usbClassDriverTask, hpc] at h
    split_ifs at h
    exact (Prod.mk.inj (Option.some.inj h)).1.symm
  | _ => simp [usbClassDriverTask, hpc] at h

theorem usbClassDriverTask_closeDev_eq {lib : HostLib} {d d' : Driver} {e : DriverEffect}
    {ok : Bool} (h : usbClassDriverTask lib d (.closeDev ok) = some (d', e)) :
    d' = { (acitonCloseDev d ok).1 with pc := .exit } := by
  cases hpc : d.pc with
  | closeDev =>
    simp only [usbClassDriverTask, hpc] at h
    split_ifs at h
    exact (Prod.mk.inj (Option.some.inj h)).1.symm
  | _ => simp [usbClassDriverTask, hpc] at h

theorem legalIff_openDev {s : Server} {d : Driver} {e : DriverEffect} {ok : Bool}
    (ho : s.driver.Orderly)
    (h : usbClassDriverTask s.lib s.driver (.openDev ok) = some (d, e)) :
    LegalIff s.memory (driverEvents s (.openDev ok))
      (memoryOf s.heap s.tcp.pc.inCall d.devHdl) True := by
  have hnone := ho.opening (usbClassDriverTask_bit h)
  have hhdl : d.devHdl = (actionOpenDev s.driver ok).1.devHdl := by
    rw [usbClassDriverTask_openDev_eq h]
  rw [hhdl, actionOpenDev_devHdl]
  by_cases hopens : ok = true ∧ s.driver.devAddr ≠ 0
  · have hev : driverEvents s (.openDev ok) = [.alloc (.device s.driver.opened) 0] :=
      if_pos hopens
    have hfresh : s.memory (.device s.driver.opened) = none := by
      simp [Server.memory, memoryOf, hnone]
    rw [hev, if_pos hopens, memoryOf_open, ← hnone]
    exact LegalIff.alloc hfresh 0
  · have hev : driverEvents s (.openDev ok) = [] := if_neg hopens
    rw [hev, if_neg hopens]
    exact LegalIff.nil s.memory

theorem legalIff_closeDev {s : Server} {d : Driver} {e : DriverEffect} {ok : Bool}
    (ho : s.driver.Orderly)
    (h : usbClassDriverTask s.lib s.driver (.closeDev ok) = some (d, e)) :
    LegalIff s.memory (driverEvents s (.closeDev ok))
      (memoryOf s.heap s.tcp.pc.inCall d.devHdl) True := by
  obtain ⟨k, hk⟩ := Option.ne_none_iff_exists'.1 (ho.closing (usbClassDriverTask_bit h)).1
  have hhdl : d.devHdl = (acitonCloseDev s.driver ok).1.devHdl := by
    rw [usbClassDriverTask_closeDev_eq h]
  rw [hhdl]
  cases ok with
  | true =>
    have hev : driverEvents s (.closeDev true) = [.free (.device k)] := by
      simp [driverEvents, hk]
    have hclosed : (acitonCloseDev s.driver true).1.devHdl = none := rfl
    have hthere : s.memory (.device k) = some 0 := by simp [Server.memory, memoryOf, hk]
    rw [hev, hclosed, memoryOf_close k, ← hk]
    exact LegalIff.free hthere
  | false => exact LegalIff.nil s.memory

theorem forall_mem_mpsWrites_iff (lib : HostLib) (config : UsbConfigDesc) (claims : List Bool) :
    (∀ w ∈ mpsWrites lib config claims, w.1 + 1 ≤ 10) ↔ ClaimsFit lib config claims := by
  constructor
  · intro hall n hn hclaim hintf
    obtain ⟨intf, hintf⟩ := Option.isSome_iff_exists.1 hintf
    obtain ⟨size, hmem⟩ : ∃ size, (n, size) ∈ mpsWrites lib config claims := by
      simp only [mpsWrites, List.mem_filterMap, List.mem_range]
      cases hep : lib.usbParseEndpointDescriptorByIndex intf 0 config.wTotalLength with
      | none => exact ⟨0, n, hn, by simp [hclaim, hintf, hep]⟩
      | some ep =>
        exact ⟨UInt32.ofNat ep.wMaxPacketSize.toNat, n, hn, by simp [hclaim, hintf, hep]⟩
    exact hall _ hmem
  · intro hfit w hw
    obtain ⟨n, hn, hwrite⟩ := List.mem_filterMap.1 hw
    rw [List.mem_range] at hn
    split_ifs at hwrite with hclaim
    split at hwrite
    · cases hwrite
    · rename_i intf hintf
      have hlt := hfit n hn hclaim (by rw [hintf]; rfl)
      split at hwrite <;> cases hwrite <;> exact hlt

theorem legalIff_deref {s : Server} {α : Type} {p : Option (Owned α)} :
    LegalIff s.memory [deref p] s.memory (s.driver.live p = true) := by
  cases p with
  | none => exact (LegalIff.dangling rfl 0 0).congr (by simp [Driver.live])
  | some p =>
    by_cases hopen : s.driver.devHdl = some p.owner
    · have hthere : s.memory (.device p.owner) = some 0 := if_pos hopen
      exact (legalIff_use hthere).congr (by simp [Driver.live, hopen])
    · have hgone : s.memory (.device p.owner) = none := if_neg hopen
      refine (LegalIff.dangling hgone 0 0).congr ?_
      cases hhdl : s.driver.devHdl with
      | none => simp [Driver.live, hhdl]
      | some k =>
        have hne : p.owner ≠ k := fun h => hopen (by rw [hhdl, h])
        simp [Driver.live, hhdl, hne]

theorem legalIff_getStrDesc {s : Server} (hd : s.driver.ReadsLive) :
    LegalIff s.memory (driverEvents s .run) s.memory True := by
  by_cases hruns : s.driver.pc = .getStrDesc ∧ s.driver.actions.getStrDesc = true
  · have hev : driverEvents s .run = [deref s.driver.configDesc, deref s.driver.devDesc] :=
      if_pos hruns
    obtain ⟨hdev, hconfig⟩ := Bool.and_eq_true_iff.1 (hd.strings hruns.2).2
    rw [hev]
    exact (legalIff_deref.cons legalIff_deref).congr (iff_of_true ⟨hconfig, hdev⟩ trivial)
  · have hev : driverEvents s .run = [] := if_neg hruns
    rw [hev]
    exact LegalIff.nil s.memory

theorem driver_legalIff {s t : Server} {a : DriverAction} (hs : Reachable s)
    (h : step s (.driver a) = some t) :
    LegalIff s.memory (driverEvents s a) t.memory (StaysInside s (.driver a)) := by
  obtain ⟨-, hlive⟩ := hs.readsLive
  have ho := hs.orderly.1
  obtain ⟨-, -, d, e, hd, rfl⟩ := driverStep_effect h
  have hsame : (∀ ok, a ≠ .closeDev ok) → (∀ ok, a ≠ .openDev ok) →
      (applyEffect { s with driver := d } e).memory = s.memory := by
    intro hclose hopen
    have hhdl : d.devHdl = s.driver.devHdl := by
      cases usbClassDriverTask_handle ho hlive.start hd with
      | keeps a ha hhdl => exact hhdl
      | opens => exact absurd rfl (hopen true)
      | closes => exact absurd rfl (hclose true)
      | closeFailed => exact absurd rfl (hclose false)
    rw [applyEffect_memory, Server.memory, hhdl]
    rfl
  have hopen : LegalIff s.memory (useHandle s.driver.devHdl) s.memory True :=
    (legalIff_useHandle s.driver.devHdl).congr (iff_true_intro (.inr rfl))
  cases a with
  | openDev ok =>
    rw [applyEffect_memory]
    exact legalIff_openDev ho hd
  | closeDev ok =>
    rw [applyEffect_memory]
    exact legalIff_closeDev ho hd
  | getConfigDesc desc claims =>
    rw [hsame (by simp) (by simp)]
    cases desc with
    | none => exact LegalIff.nil s.memory
    | some config =>
      have hmps : s.memory .mps = some 10 := rfl
      have hwrites := LegalIff.forall (l := mpsWrites s.lib config claims)
        fun w _ => LegalIff.access hmps w.1 1
      exact (hopen.append hwrites).congr
        ((iff_of_eq (true_and _)).trans (forall_mem_mpsWrites_iff s.lib config claims))
  | run =>
    rw [hsame (by simp) (by simp)]
    exact legalIff_getStrDesc hlive
  | getDevDesc desc =>
    rw [hsame (by simp) (by simp)]
    cases desc with
    | none => exact LegalIff.nil s.memory
    | some desc => exact hopen
  | clientEvent ev | getInfo info =>
    rw [hsame (by simp) (by simp)]
    exact LegalIff.nil s.memory

theorem TcpPc.inCall_of_serving {pc : TcpPc} (h : pc.serving = true) : pc.inCall = true := by
  cases pc <;> first | rfl | cases h

theorem Server.memory_of_tcp {s t : Server} (hheap : t.heap = s.heap)
    (hpc : t.tcp.pc.inCall = s.tcp.pc.inCall) (hdriver : t.driver = s.driver) :
    t.memory = s.memory := by
  rw [Server.memory, hheap, hpc, hdriver]
  rfl

theorem TcpEffect.memory_eq {s t : Server} {a : TcpAction} (h : TcpEffect s a t)
    (hbegin : s.tcp.pc ≠ .begin) (hclose : s.tcp.pc ≠ .cleanupClose) : t.memory = s.memory := by
  have hserves : ∀ {tcp : TcpTask}, s.tcp.Serves tcp → tcp.pc.inCall = s.tcp.pc.inCall := by
    intro tcp h
    rw [TcpPc.inCall_of_serving h.target,
      TcpPc.inCall_of_serving (h.source.resolve_left hbegin)]
  cases h with
  | own a tcp conn recvBytes urbEntries unlinks htcp =>
    exact Server.memory_of_tcp rfl (hserves htcp) rfl
  | acceptFailed => rfl
  | accept number stream hpc => exact Server.memory_of_tcp rfl (by rw [hpc]; rfl) rfl
  | postCommand tcp htcp => exact Server.memory_of_tcp rfl (hserves htcp) rfl
  | postSubmit tcp htcp => exact Server.memory_of_tcp rfl (hserves htcp) rfl
  | unlink tcp c r n htcp => exact Server.memory_of_tcp rfl (hserves htcp) rfl
  | clientGone hpc => exact Server.memory_of_tcp rfl (by rw [hpc]; rfl) rfl
  | cleanupBusy hpc => exact Server.memory_of_tcp rfl (by rw [hpc]; rfl) rfl
  | cleanupEp1 hpc => exact Server.memory_of_tcp rfl (by rw [hpc]; rfl) rfl
  | cleanupEp2 hpc => exact Server.memory_of_tcp rfl (by rw [hpc]; rfl) rfl
  | close hpc => exact absurd hpc hclose

theorem memory_stack {s : Server} (hpc : s.tcp.pc.inCall = true) (x : Local) :
    s.memory (.stack x) = some x.size :=
  if_pos hpc

/-- Between the call and the return each `recv` stays inside the local it is given. -/
theorem legalIff_recv {s : Server} (hfits : s.PayloadFits) (a : TcpAction)
    (hbegin : s.tcp.pc ≠ .begin) (hclose : s.tcp.pc ≠ .cleanupClose) :
    LegalIff s.memory (tcpEvents s a) s.memory True := by
  unfold tcpEvents
  split
  case h_1 hpc => exact absurd hpc hbegin
  case h_2 hpc => exact .inside (memory_stack (by rw [hpc]; rfl) .devRecv) (by decide)
  case h_3 hpc => exact .inside (memory_stack (by rw [hpc]; rfl) .header) (by decide)
  case h_4 hpc => exact .inside (memory_stack (by rw [hpc]; rfl) .cmdSubmit) (by decide)
  case h_5 hpc =>
    have hlen := hfits hpc
    have hsize : Local.cmdSubmit.size = cmdHeaderSize + 1024 := rfl
    exact .inside (memory_stack (by rw [hpc]; rfl) .cmdSubmit) (by omega)
  case h_6 hpc => exact .inside (memory_stack (by rw [hpc]; rfl) .cmdUnlink) (by decide)
  case h_7 hpc => exact absurd hpc hclose
  case h_8 => exact LegalIff.nil s.memory

theorem step_begin {s t : Server} {a : TcpAction} (hpc : s.tcp.pc = .begin)
    (h : step s (.tcp a) = some t) : a = .run ∧ t = s.goto .outer := by
  have hrun : step s (.tcp a) = tcpServerStart s a := by simp [step, step_running h, hpc]
  rw [hrun] at h
  cases a <;> simp [tcpServerStart, hpc] at h
  exact ⟨rfl, h.symm⟩

theorem step_cleanupClose {s t : Server} {a : TcpAction} (hpc : s.tcp.pc = .cleanupClose)
    (h : step s (.tcp a) = some t) :
    a = .run ∧ t = { s with conn := none, tcp := { s.tcp with pc := .accepting, sock := -1 } } := by
  have hrun : step s (.tcp a) = doRecv s a := by simp [step, step_running h, hpc]
  rw [hrun] at h
  cases a <;> simp [doRecv, hpc] at h
  exact ⟨rfl, h.symm⟩

theorem tcp_legalIff {s t : Server} {a : TcpAction} (hs : Reachable s)
    (h : step s (.tcp a) = some t) :
    LegalIff s.memory (tcpEvents s a) t.memory (StaysInside s (.tcp a)) := by
  by_cases hbegin : s.tcp.pc = .begin
  · obtain ⟨rfl, rfl⟩ := step_begin hbegin h
    have hev : tcpEvents s .run = Local.all.map fun x => .alloc (.stack x) x.size := by
      simp only [tcpEvents, hbegin]
    rw [hev, Server.memory, hbegin]
    exact legalIff_enter
  by_cases hclose : s.tcp.pc = .cleanupClose
  · obtain ⟨rfl, rfl⟩ := step_cleanupClose hclose h
    have hev : tcpEvents s .run = Local.all.map fun x => .free (.stack x) := by
      simp only [tcpEvents, hclose]
    rw [hev, Server.memory, hclose]
    exact legalIff_leave
  · rw [(tcpStep h).2.effect.memory_eq hbegin hclose]
    exact legalIff_recv hs.sized.2 a hbegin hclose

def Handler1.ImportSized : Handler1 → Prop
  | .importRecv _ devImport | .importBuild _ devImport => devImport.length = opReqImportSize
  | _ => True

theorem step_handler1_eq {s t : Server} {a : Action} (h : step s a = some t)
    (ha : ∀ b, a ≠ .loop1 b) : t.loop1.handler = s.loop1.handler := by
  cases a with
  | tcp a =>
    obtain ⟨-, heff⟩ := tcpStep_effect h
    cases heff <;> rfl
  | loop1 a => exact absurd rfl (ha a)
  | loop2 a =>
    obtain ⟨-, heff⟩ := loop2Step_effect h
    cases heff <;> rfl
  | host a =>
    obtain ⟨-, heff⟩ := hostStep_effect h
    cases heff <;> rfl
  | driver a =>
    obtain ⟨-, -, d, e, -, rfl⟩ := driverStep_effect h
    cases e <;> rfl

theorem deliver1_importSized (ev : TcpData) : (deliver1 ev).ImportSized := by
  unfold deliver1
  split_ifs <;> trivial

theorem Loop1Step.importSized {s t : Server} {a : Loop1Action} (h : Loop1Step s a t)
    (hs : s.loop1.handler.ImportSized) (hev : s.EventsSized) (htcp : s.tcp.Sized) :
    t.loop1.handler.ImportSized := by
  have hcommon : headerCommonSize ≤ opReqImportSize := by decide
  cases h with
  | dispatch ev queue => exact deliver1_importSized ev
  | devlistCrash | buildCrash => exact hs
  | copy ev hh =>
    refine overwrite_sized List.length_replicate ?_
    rw [List.length_take, htcp.devRecv]
    omega
  | recv ev devImport r conn bytes hh hrecv hlen =>
    rw [hh] at hs
    have hdev : devImport.length = opReqImportSize := hs
    have hev : ev.len = headerCommonSize := hev.handler ev (by rw [hh]; rfl)
    change (devImport.take ev.len ++ bytes).length = opReqImportSize
    rw [List.length_append, List.length_take, hlen]
    omega
  | _ => trivial

theorem Reachable.importSized {s : Server} (h : Reachable s) : s.loop1.handler.ImportSized := by
  have hboth : Reachable s ∧ s.loop1.handler.ImportSized := by
    refine Reachable.invariant (I := fun s => Reachable s ∧ s.loop1.handler.ImportSized)
      (fun _ _ _ _ _ _ => ⟨Reachable.boot _ _ _ _ _ _, trivial⟩) (fun s a t hs ht => ?_) h
    refine ⟨hs.1.of_step ht, ?_⟩
    by_cases hloop : ∃ b, a = .loop1 b
    · obtain ⟨b, rfl⟩ := hloop
      exact (loop1Step ht).2.importSized hs.2 hs.1.eventsSized hs.1.sized.1
    · rw [step_handler1_eq ht fun b hb => hloop ⟨b, hb⟩]
      exact hs.2
  exact hboth.2

theorem cString_length_lt_iff (mem : Bytes) :
    (cString mem).length < mem.length ↔ (0 : UInt8) ∈ mem := by
  induction mem with
  | nil => simp [cString]
  | cons b mem ih =>
    by_cases hb : b = 0
    · simp [cString, hb]
    · simpa [cString, hb, Ne.symm hb] using ih

theorem legalIff_both {s : Server} :
    LegalIff s.memory [deref s.driver.devDesc, deref s.driver.configDesc] s.memory
      (s.driver.enumerated = true) :=
  (legalIff_deref.cons legalIff_deref).congr
    (by rw [Driver.enumerated, Bool.and_eq_true])

theorem legalIff_listEvent (s : Server) (config : UsbConfigDesc) (n : ℕ) :
    LegalIff s.memory [listEvent s.lib config n] s.memory
      ((s.lib.usbParseInterfaceDescriptor config n 0).isSome = true ∧ n + 1 ≤ maxInterfaces) := by
  unfold listEvent
  split
  · rename_i hnone
    exact (LegalIff.dangling rfl 0 0).congr (by simp [hnone])
  · rename_i intf hintf
    have hthere : s.memory .intfs = some maxInterfaces := rfl
    exact (LegalIff.access hthere n 1).congr (by simp [hintf])

theorem legalIff_devlist {s : Server} {ev : TcpData} (hh : s.loop1.handler = .devlist ev)
    (stack : List UsbipInterface) (r : SendResult) :
    LegalIff s.memory (loop1Events s (.devlist stack r)) s.memory
      (StaysInside s (.loop1 (.devlist stack r))) := by
  cases hdev : s.driver.devDesc with
  | none =>
    have hev : loop1Events s (.devlist stack r) = [] := by simp only [loop1Events, hh, hdev]
    rw [hev]
    exact (LegalIff.nil s.memory).congr (by simp [StaysInside, hdev])
  | some dev =>
    cases hconfig : s.driver.configDesc with
    | none =>
      have hev : loop1Events s (.devlist stack r) = [] := by
        simp only [loop1Events, hh, hdev, hconfig]
      rw [hev]
      exact (LegalIff.nil s.memory).congr (by simp [StaysInside, hconfig])
    | some config =>
      have hev : loop1Events s (.devlist stack r) =
          [deref s.driver.devDesc, deref s.driver.configDesc] ++
            (List.range config.val.bNumInterfaces.toNat).map (listEvent s.lib config.val) := by
        simp only [loop1Events, hh, hdev, hconfig]
      have hloop := LegalIff.forall (l := List.range config.val.bNumInterfaces.toNat)
        fun n _ => legalIff_listEvent s config.val n
      rw [hev]
      refine (legalIff_both.append hloop).congr ?_
      have hcond : StaysInside s (.loop1 (.devlist stack r)) ↔ s.Listable := by
        simp [StaysInside, hdev, hconfig]
      rw [hcond, Server.Listable, hconfig]
      simp only [List.mem_range, Option.mem_def, Option.some.injEq, forall_eq']
      refine and_congr_right fun _ => ⟨fun hall => ⟨?_, fun n hn => (hall n hn).1⟩, ?_⟩
      · by_contra hmany
        exact absurd (hall maxInterfaces (by omega)).2 (by omega)
      · rintro ⟨hfew, hfound⟩ n hn
        exact ⟨hfound n hn, by omega⟩

theorem legalIff_importCopy {s : Server} {ev : TcpData} (hh : s.loop1.handler = .importCopy ev)
    (hlen : ev.len = headerCommonSize) :
    LegalIff s.memory (loop1Events s .run) s.memory (StaysInside s (.loop1 .run)) := by
  have hev : loop1Events s .run =
      [.access (.stack .devRecv) 0 ev.len, .access .devImport 0 ev.len] := by
    simp only [loop1Events, hh]
  have hcond : StaysInside s (.loop1 .run) ↔ s.tcp.pc ≠ .accepting ∧ s.tcp.pc ≠ .begin := by
    simp only [StaysInside, hh]
  have hdest : s.memory .devImport = some opReqImportSize := rfl
  have hwrite : LegalIff s.memory [.access .devImport 0 ev.len] s.memory True :=
    .inside hdest (by rw [hlen]; decide)
  rw [hev, hcond]
  cases hpc : s.tcp.pc.inCall with
  | true =>
    have hread : LegalIff s.memory [.access (.stack .devRecv) 0 ev.len] s.memory True :=
      .inside (memory_stack hpc .devRecv) (by rw [hlen]; decide)
    refine (hread.cons hwrite).congr (iff_of_true ⟨trivial, trivial⟩ ⟨fun h => ?_, fun h => ?_⟩)
    · rw [h] at hpc
      cases hpc
    · rw [h] at hpc
      cases hpc
  | false =>
    have hgone : s.memory (.stack .devRecv) = none := by simp [Server.memory, memoryOf, hpc]
    refine ((LegalIff.dangling hgone 0 ev.len).cons hwrite).congr
      (iff_of_false (fun h => h.1) fun h => ?_)
    cases hat : s.tcp.pc <;> simp_all [TcpPc.inCall]

theorem legalIff_importBuild {s : Server} {ev : TcpData} {devImport : Bytes}
    (hh : s.loop1.handler = .importBuild ev devImport)
    (hlen : devImport.length = opReqImportSize) :
    LegalIff s.memory (loop1Events s .run) s.memory (StaysInside s (.loop1 .run)) := by
  have hcond : StaysInside s (.loop1 .run) ↔ s.Importable devImport := by
    simp only [StaysInside, hh]
  have hdest : s.memory .devImport = some opReqImportSize := rfl
  have hfield : (busIdOf devImport).length = 32 := by
    rw [busIdOf, List.length_drop, hlen]
    rfl
  have hstring : LegalIff s.memory
      [.access .devImport 8 ((cString (busIdOf devImport)).length + 1)] s.memory
      ((0 : UInt8) ∈ busIdOf devImport) := by
    refine (LegalIff.access hdest 8 _).congr ?_
    rw [← cString_length_lt_iff, hfield]
    have hsize : opReqImportSize = 40 := rfl
    omega
  rw [hcond]
  by_cases hbus : strcmp (busId ++ [0]) (busIdOf devImport) = 0
  · have hev : loop1Events s .run =
        .access .devImport 8 ((cString (busIdOf devImport)).length + 1) ::
          [deref s.driver.devDesc, deref s.driver.configDesc] := by
      simp only [loop1Events, hh, hbus, if_true]
    rw [hev]
    exact (hstring.cons legalIff_both).congr (by simp [Server.Importable, hbus])
  · have hev : loop1Events s .run =
        [.access .devImport 8 ((cString (busIdOf devImport)).length + 1)] := by
      simp only [loop1Events, hh, hbus, if_false]
    rw [hev]
    exact hstring.congr (by simp [Server.Importable, hbus])

theorem loop1_legalIff {s t : Server} {a : Loop1Action} (hs : Reachable s)
    (h : step s (.loop1 a) = some t) :
    LegalIff s.memory (loop1Events s a) t.memory (StaysInside s (.loop1 a)) := by
  have hlen : ∀ ev, s.loop1.handler.event = some ev → ev.len = headerCommonSize :=
    hs.eventsSized.handler
  have hsized := hs.importSized
  have hdest : s.memory .devImport = some opReqImportSize := rfl
  have hrecv : ∀ ev devImport r, s.loop1.handler = .importRecv ev devImport →
      LegalIff s.memory (loop1Events s (.recv r)) s.memory True := by
    intro ev devImport r hh
    have hev : loop1Events s (.recv r) =
        [.access .devImport ev.len (opReqImportSize - ev.len)] := by
      simp only [loop1Events, hh]
    rw [hev]
    refine .inside hdest ?_
    rw [hlen ev (by rw [hh]; rfl)]
    decide
  have hnone : ∀ {b : Loop1Action}, loop1Events s b = [] →
      LegalIff s.memory (loop1Events s b) s.memory True := by
    intro b hev
    rw [hev]
    exact LegalIff.nil s.memory
  obtain ⟨-, hstep⟩ := loop1Step h
  cases hstep with
  | dispatch ev queue hh hq => exact hnone (by simp only [loop1Events, hh])
  | devlistCrash ev stack r hh hd => exact legalIff_devlist hh stack r
  | devlistFailed ev stack frame hh hd => exact legalIff_devlist hh stack .failed
  | devlistSent ev stack frame r c n hh hd hc hr => exact legalIff_devlist hh stack r
  | copy ev hh => exact legalIff_importCopy hh (hlen ev (by rw [hh]; rfl))
  | recv ev devImport r conn bytes hh hr hl => exact hrecv ev devImport r hh
  | recvFailed ev devImport r conn o hh hr ho => exact hrecv ev devImport r hh
  | buildCrash ev devImport hh hb => exact legalIff_importBuild hh (by rwa [hh] at hsized)
  | build ev devImport rep hh hb => exact legalIff_importBuild hh (by rwa [hh] at hsized)
  | sendFailed ev devImport rep hh => exact hnone (by simp only [loop1Events, hh])
  | sendShort ev devImport rep c n hh hc => exact hnone (by simp only [loop1Events, hh])
  | send ev devImport rep c hh hc => exact hnone (by simp only [loop1Events, hh])
  | busy ev devImport rep hh =>
    have hcond : StaysInside s (.loop1 .run) := by simp only [StaysInside, hh]
    exact (hnone (by simp only [loop1Events, hh])).congr (iff_of_true trivial hcond)

theorem step_legalIff {s t : Server} {a : Action} (hs : Reachable s)
    (hreported : ∀ c, s.callback = some c → c.actualNumBytes ≤ 1000) (ha : ReportsFit s a)
    (h : step s a = some t) :
    LegalIff s.memory (memoryEvents s a) t.memory (StaysInside s a) := by
  have hheap : s.HeapOk := ⟨hs.accounted, hs.objectsOwned⟩
  cases a with
  | tcp a => exact tcp_legalIff hs h
  | loop1 a => exact loop1_legalIff hs h
  | loop2 a => exact (loop2Step_effect h).2.legalIff hheap hs.made
  | host a =>
    exact (hostStep_effect h).2.legalIff hheap hs.contextsOk.callback hs.skt_nonneg hreported ha
  | driver a => exact driver_legalIff hs h

section Boot

variable {lib : HostLib} {devRecv header cmdSubmit transferBuffer cmdUnlink : Bytes}

/-- A run touches only memory that is there, and frees only what has been allocated, exactly when
each step meets its condition. -/
theorem memory_safe_iff_staysInside {as : List Action} {t : Server} {es : List (MemEvent Obj)}
    (h : exec (watch step (noteEvents memoryEvents))
      (.boot lib devRecv header cmdSubmit transferBuffer cmdUnlink, []) as = some (t, es))
    (hreports : Always step ReportsFit
      (.boot lib devRecv header cmdSubmit transferBuffer cmdUnlink) as) :
    Legal staticMemory es ↔ Always step StaysInside
      (.boot lib devRecv header cmdSubmit transferBuffer cmdUnlink) as := by
  have hboot : (Server.boot lib devRecv header cmdSubmit transferBuffer cmdUnlink).memory =
      staticMemory := memoryOf_boot
  rw [← hboot]
  exact legal_iff_always
    (I := fun s => Reachable s ∧ ∀ c, s.callback = some c → c.actualNumBytes ≤ 1000)
    (fun s a u hs ha hu => ⟨hs.1.of_step hu, step_reported hs.2 ha hu⟩)
    (fun s a u hs ha hu => step_legalIff hs.1 hs.2 ha hu)
    ⟨Reachable.boot _ _ _ _ _ _, nofun⟩ hreports h

end Boot

def readAndGone : List Action := descriptorSession ++ disconnecting

theorem memory_safe_readAndGone : ∃ t es,
    exec (watch step (noteEvents memoryEvents)) (coldBoot, []) readAndGone = some (t, es) ∧
      es.length = 39 ∧ Legal staticMemory es := by
  have hrun : (exec (watch step (noteEvents memoryEvents)) (coldBoot, []) readAndGone).map
      (fun x => x.2.length) = some 39 := by
    decide +kernel
  obtain ⟨⟨t, es⟩, ht, hlength⟩ := Option.map_eq_some_iff.1 hrun
  have hreports : Always step ReportsFit coldBoot readAndGone := by decide +kernel
  exact ⟨t, es, ht, hlength, (memory_safe_iff_staysInside ht hreports).2 (by decide +kernel)⟩

end UsbRepeater
