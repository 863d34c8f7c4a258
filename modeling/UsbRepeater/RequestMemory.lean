import UsbRepeater.MemoryEvents
import UsbRepeater.Completion
import UsbRepeater.TransferObjects

/-! The objects that are there, which follow from the state: the allocations from the heap, the
locals from the place of `do_recv`, the descriptors from the open device. The steps on a request
keep to the objects of the request. -/
namespace UsbRepeater

open Memory Schedule

/-- `do_recv` has been called and has not returned. -/
def TcpPc.inCall : TcpPc → Bool
  | .accepting | .begin => false
  | _ => true

def memoryOf (heap : Heap) (inCall : Bool) (devHdl : Option ℕ) : Mem Obj
  | .retSubmit id => if id ∈ heap.rets then some retSubmitSize else none
  | .transfer id => if id ∈ heap.transfers then some dataBufferSize else none
  | .stack x => if inCall then some x.size else none
  | .device h => if devHdl = some h then some 0 else none
  | x => staticMemory x

def Server.memory (s : Server) : Mem Obj := memoryOf s.heap s.tcp.pc.inCall s.driver.devHdl

variable {rets transfers : List ℕ} {heap : Heap} {inCall : Bool} {devHdl : Option ℕ}

theorem memoryOf_boot : memoryOf {} false none = staticMemory := by
  funext x
  cases x <;> simp [memoryOf, staticMemory]

theorem memoryOf_cons_ret (id : ℕ) : memoryOf ⟨id :: rets, transfers⟩ inCall devHdl =
    Function.update (memoryOf ⟨rets, transfers⟩ inCall devHdl) (.retSubmit id)
      (some retSubmitSize) := by
  refine Function.eq_update_iff.2 ⟨by simp [memoryOf], fun x hx => ?_⟩
  cases x with
  | retSubmit id' =>
    have hne : id' ≠ id := fun h => hx (by rw [h])
    simp [memoryOf, hne]
  | _ => rfl

theorem memoryOf_cons_transfer (id : ℕ) : memoryOf ⟨rets, id :: transfers⟩ inCall devHdl =
    Function.update (memoryOf ⟨rets, transfers⟩ inCall devHdl) (.transfer id)
      (some dataBufferSize) := by
  refine Function.eq_update_iff.2 ⟨by simp [memoryOf], fun x hx => ?_⟩
  cases x with
  | transfer id' =>
    have hne : id' ≠ id := fun h => hx (by rw [h])
    simp [memoryOf, hne]
  | _ => rfl

theorem memoryOf_erase_ret (h : rets.Nodup) (id : ℕ) :
    memoryOf ⟨rets.erase id, transfers⟩ inCall devHdl =
      Function.update (memoryOf ⟨rets, transfers⟩ inCall devHdl) (.retSubmit id) none := by
  refine Function.eq_update_iff.2 ⟨by simp [memoryOf, h.not_mem_erase], fun x hx => ?_⟩
  cases x with
  | retSubmit id' =>
    have hne : id' ≠ id := fun h => hx (by rw [h])
    simp [memoryOf, List.mem_erase_of_ne hne]
  | _ => rfl

theorem memoryOf_erase_transfer (h : transfers.Nodup) (id : ℕ) :
    memoryOf ⟨rets, transfers.erase id⟩ inCall devHdl =
      Function.update (memoryOf ⟨rets, transfers⟩ inCall devHdl) (.transfer id) none := by
  refine Function.eq_update_iff.2 ⟨by simp [memoryOf, h.not_mem_erase], fun x hx => ?_⟩
  cases x with
  | transfer id' =>
    have hne : id' ≠ id := fun h => hx (by rw [h])
    simp [memoryOf, List.mem_erase_of_ne hne]
  | _ => rfl

theorem memoryOf_open (h : ℕ) : memoryOf heap inCall (some h) =
    Function.update (memoryOf heap inCall none) (.device h) (some 0) := by
  refine Function.eq_update_iff.2 ⟨by simp [memoryOf], fun x hx => ?_⟩
  cases x with
  | device h' =>
    have hne : h ≠ h' := fun heq => hx (by rw [heq])
    simp [memoryOf, hne]
  | _ => rfl

theorem memoryOf_close (h : ℕ) : memoryOf heap inCall none =
    Function.update (memoryOf heap inCall (some h)) (.device h) none := by
  rw [memoryOf_open, Function.update_idem]
  exact Function.eq_update_iff.2 ⟨by simp [memoryOf], fun _ _ => rfl⟩

theorem legalIff_enter : LegalIff (memoryOf heap false devHdl)
    (Local.all.map fun x => .alloc (.stack x) x.size) (memoryOf heap true devHdl) True := by
  have hlegal : exec memStep (memoryOf heap false devHdl)
      (Local.all.map fun x => .alloc (.stack x) x.size) = some (memoryOf heap true devHdl) := by
    simp only [Local.all, List.map_cons, List.map_nil, exec, memStep, memoryOf,
      Function.update_apply, reduceCtorEq, if_false, if_true, Option.bind_some,
      Obj.stack.injEq, Bool.false_eq_true]
    congr 1
    funext x
    cases x with
    | stack x => cases x <;> simp [memoryOf]
    | _ => simp [memoryOf]
  exact ⟨fun _ => hlegal, fun h => absurd trivial h⟩

theorem legalIff_leave : LegalIff (memoryOf heap true devHdl)
    (Local.all.map fun x => .free (.stack x)) (memoryOf heap false devHdl) True := by
  have hlegal : exec memStep (memoryOf heap true devHdl)
      (Local.all.map fun x => .free (.stack x)) = some (memoryOf heap false devHdl) := by
    simp only [Local.all, List.map_cons, List.map_nil, exec, memStep, memoryOf,
      Function.update_apply, reduceCtorEq, if_false, if_true, Option.bind_some,
      Obj.stack.injEq]
    congr 1
    funext x
    cases x with
    | stack x => cases x <;> simp [memoryOf]
    | _ => simp [memoryOf]
  exact ⟨fun _ => hlegal, fun h => absurd trivial h⟩

def Handler2.requestId (h : Handler2) : Option ℕ := h.request.map Submit.id

theorem filterMap_sublist {α β : Type*} {f g : α → Option β} (h : ∀ a, f a = none ∨ f a = g a)
    (l : List α) : (l.filterMap f).Sublist (l.filterMap g) := by
  induction l with
  | nil => exact List.Sublist.refl _
  | cons a l ih =>
    rcases h a with hnone | heq
    · rw [List.filterMap_cons_none hnone]
      cases hg : g a with
      | none => rwa [List.filterMap_cons_none hg]
      | some b => rw [List.filterMap_cons_some hg]; exact ih.cons b
    · cases hg : g a with
      | none => rwa [List.filterMap_cons_none hg, List.filterMap_cons_none (heq.trans hg)]
      | some b =>
        rw [List.filterMap_cons_some hg, List.filterMap_cons_some (heq.trans hg)]
        exact ih.cons_cons b

theorem owners_le {held : Handler2 → Option ℕ} (h : ∀ x, held x = none ∨ held x = x.requestId)
    (s : Server) : s.owners held ≤ s.owners Handler2.requestId :=
  Multiset.add_le_add_right
    (Multiset.coe_le.2 (filterMap_sublist (fun x => h x.2) s.loop2.handlers).subperm)

/-- The requests that handlers, the library and the refused transfers stand for are different
ones. -/
theorem Server.Accounted.owners_nodup {s : Server} (hs : s.Accounted) :
    (s.owners Handler2.requestId).Nodup := by
  have hsum : ∑ k ∈ {Stage.handled, .inFlight, .completed, .dropped}, s.stage k =
      s.stage .handled + (s.stage .inFlight + (s.stage .completed + s.stage .dropped)) := by
    rw [Finset.sum_insert (by decide), Finset.sum_insert (by decide), Finset.sum_pair (by decide)]
  have htotal : s.stage .handled +
      (s.stage .inFlight + (s.stage .completed + s.stage .dropped)) ≤ s.history.posted := by
    rw [← hs.total, ← hsum]
    exact Finset.sum_le_sum_of_subset (Finset.subset_univ _)
  have hcallback : ((s.callback.toList.map fun c => c.transfer.ev : List Submit) :
      Multiset Submit) ≤ s.stage .completed := Multiset.le_add_right _ _
  have hrefused : (((s.history.dropped.filter fun x => x.2 = .rejected).map Prod.fst :
      List Submit) : Multiset Submit) ≤ s.stage .dropped :=
    Multiset.coe_le.2 (List.filter_sublist.map Prod.fst).subperm
  have hids := Multiset.map_le_map (f := Submit.id) ((Multiset.add_le_add_left
    (Multiset.add_le_add_left (add_le_add hcallback hrefused))).trans htotal)
  rw [Multiset.map_coe Submit.id s.history.posted, hs.ids] at hids
  refine Multiset.nodup_of_le (le_of_eq_of_le ?_ hids) (Multiset.coe_nodup.2 List.nodup_range)
  simp only [Server.owners, Server.atLibrary, Server.refused, Server.stage, Handler2.requestId,
    Multiset.map_add, Multiset.map_coe, List.map_map, List.map_filterMap, ← Multiset.coe_add,
    add_assoc]
  rfl

theorem heldRet_eq (h : Handler2) : h.heldRet = none ∨ h.heldRet = h.requestId := by
  cases h <;> simp [Handler2.heldRet, Handler2.requestId, Handler2.request]

theorem heldTransfer_eq (h : Handler2) :
    h.heldTransfer = none ∨ h.heldTransfer = h.requestId := by
  cases h <;> simp [Handler2.heldTransfer, Handler2.requestId, Handler2.request]

/-- An object that a handler has not allocated yet is not there. -/
theorem Server.Accounted.not_mem_owners {s : Server} (hs : s.Accounted)
    {held : Handler2 → Option ℕ} (hheld : ∀ x, held x = none ∨ held x = x.requestId)
    {j l id : ℕ} {h : Handler2} (hj : s.loop2.handlers[j]? = some (l, h)) (hn : held h = none)
    (hr : h.requestId = some id) : id ∉ s.owners held := by
  have hnodup := hs.owners_nodup
  rw [owners_of_some hj hr, Multiset.nodup_cons] at hnodup
  rw [owners_of_none hj hn]
  exact fun hmem => hnodup.1 (Multiset.mem_of_le (owners_le hheld _) hmem)

theorem mem_owners_atLibrary {s : Server} (held : Handler2 → Option ℕ) {id : ℕ}
    (h : id ∈ s.atLibrary) : id ∈ s.owners held :=
  Multiset.mem_add.2 (.inr (Multiset.mem_add.2 (.inl (Multiset.mem_coe.2 h))))

structure Server.HeapOk (s : Server) : Prop where
  accounted : s.Accounted
  owned : s.ObjectsOwned

theorem Server.HeapOk.nodup {s : Server} (hs : s.HeapOk) :
    s.heap.rets.Nodup ∧ s.heap.transfers.Nodup := by
  have hnodup := hs.accounted.owners_nodup
  have hrets := Multiset.nodup_of_le (owners_le heldRet_eq s) hnodup
  have htransfers := Multiset.nodup_of_le (owners_le heldTransfer_eq s) hnodup
  rw [← hs.owned.rets] at hrets
  rw [← hs.owned.transfers] at htransfers
  exact ⟨Multiset.coe_nodup.1 hrets, Multiset.coe_nodup.1 htransfers⟩

theorem memory_ret {s : Server} {id : ℕ} (h : id ∈ s.heap.rets) :
    s.memory (.retSubmit id) = some retSubmitSize :=
  if_pos h

theorem memory_transfer {s : Server} {id : ℕ} (h : id ∈ s.heap.transfers) :
    s.memory (.transfer id) = some dataBufferSize :=
  if_pos h

section Handler

variable {s : Server} {j l id : ℕ} {h : Handler2}

theorem Server.HeapOk.fresh_ret (hs : s.HeapOk) (hj : s.loop2.handlers[j]? = some (l, h))
    (hn : h.heldRet = none) (hr : h.requestId = some id) : s.memory (.retSubmit id) = none := by
  have hnot := hs.accounted.not_mem_owners heldRet_eq hj hn hr
  rw [← hs.owned.rets, Multiset.mem_coe] at hnot
  exact if_neg hnot

theorem Server.HeapOk.fresh_transfer (hs : s.HeapOk) (hj : s.loop2.handlers[j]? = some (l, h))
    (hn : h.heldTransfer = none) (hr : h.requestId = some id) :
    s.memory (.transfer id) = none := by
  have hnot := hs.accounted.not_mem_owners heldTransfer_eq hj hn hr
  rw [← hs.owned.transfers, Multiset.mem_coe] at hnot
  exact if_neg hnot

theorem Server.HeapOk.live_ret (hs : s.HeapOk) (hj : s.loop2.handlers[j]? = some (l, h))
    (hh : h.heldRet = some id) : s.memory (.retSubmit id) = some retSubmitSize := by
  have hmem : id ∈ s.owners Handler2.heldRet := by
    rw [owners_of_some hj hh]
    exact Multiset.mem_cons_self id _
  rw [← hs.owned.rets, Multiset.mem_coe] at hmem
  exact memory_ret hmem

theorem Server.HeapOk.live_transfer (hs : s.HeapOk) (hj : s.loop2.handlers[j]? = some (l, h))
    (hh : h.heldTransfer = some id) : s.memory (.transfer id) = some dataBufferSize := by
  have hmem : id ∈ s.owners Handler2.heldTransfer := by
    rw [owners_of_some hj hh]
    exact Multiset.mem_cons_self id _
  rw [← hs.owned.transfers, Multiset.mem_coe] at hmem
  exact memory_transfer hmem

end Handler

/-- The objects of an accepted transfer stay until its callback has ended. -/
theorem Server.HeapOk.live_atLibrary {s : Server} (hs : s.HeapOk) {id : ℕ}
    (h : id ∈ s.atLibrary) : s.memory (.retSubmit id) = some retSubmitSize ∧
      s.memory (.transfer id) = some dataBufferSize := by
  have hret := mem_owners_atLibrary Handler2.heldRet h
  have htransfer := mem_owners_atLibrary Handler2.heldTransfer h
  rw [← hs.owned.rets, Multiset.mem_coe] at hret
  rw [← hs.owned.transfers, Multiset.mem_coe] at htransfer
  exact ⟨memory_ret hret, memory_transfer htransfer⟩

theorem Server.HeapOk.legalIff_release {s : Server} (hs : s.HeapOk) {id : ℕ}
    (hret : s.memory (.retSubmit id) = some retSubmitSize)
    (htransfer : s.memory (.transfer id) = some dataBufferSize) :
    LegalIff s.memory [.free (.transfer id), .free (.retSubmit id)]
      (memoryOf ⟨s.heap.rets.erase id, s.heap.transfers.erase id⟩ s.tcp.pc.inCall
        s.driver.devHdl) True := by
  have hstill : Function.update s.memory (.transfer id) none (.retSubmit id) =
      some retSubmitSize := by
    rw [Function.update_of_ne (by simp), hret]
  have hlast := (LegalIff.free htransfer).cons (LegalIff.free hstill)
  rw [memoryOf_erase_ret hs.nodup.1, memoryOf_erase_transfer hs.nodup.2]
  exact hlast.congr (by simp)

theorem legalIff_use {m : Mem Obj} {x : Obj} {size : ℕ} (h : m x = some size) :
    LegalIff m [useOf x] m True :=
  .inside h (Nat.zero_le size)

theorem legalIff_useHandle {s : Server} (h : Option ℕ) :
    LegalIff s.memory (useHandle h) s.memory (h = none ∨ h = s.driver.devHdl) := by
  cases h with
  | none => exact (LegalIff.nil s.memory).congr (by simp)
  | some h =>
    by_cases hopen : s.driver.devHdl = some h
    · have hthere : s.memory (.device h) = some 0 := if_pos hopen
      exact (legalIff_use hthere).congr (by simp [hopen])
    · have hgone : s.memory (.device h) = none := if_neg hopen
      exact (LegalIff.dangling hgone 0 0).congr (by simp [Ne.symm hopen])

/-- The handle that a transfer was given is followed when it is submitted. -/
theorem legalIff_submit {s : Server} (hs : s.HeapOk) {j l : ℕ} {tr : UsbTransfer} (accepted : Bool)
    (hj : s.loop2.handlers[j]? = some (l, .built tr)) :
    LegalIff s.memory (loop2Events s (.submit j accepted)) s.memory
      (StaysInside s (.loop2 (.submit j accepted))) := by
  have hev : loop2Events s (.submit j accepted) =
      useOf (.transfer tr.ev.id) :: useHandle tr.deviceHandle := by
    simp only [loop2Events, hj]
  have hready : s.readyTransfer j = some tr := readyTransfer_eq_some.2 ⟨l, hj⟩
  have hcond : StaysInside s (.loop2 (.submit j accepted)) ↔
      tr.deviceHandle = none ∨ tr.deviceHandle = s.driver.devHdl := by
    simp [StaysInside, hready]
  have htransfer := legalIff_use (hs.live_transfer hj rfl)
  rw [hev]
  exact (htransfer.cons (legalIff_useHandle tr.deviceHandle)).congr
    ((iff_of_eq (true_and _)).trans hcond.symm)

theorem legalIff_build {s : Server} (hs : s.HeapOk) {j l : ℕ} {tr : UsbTransfer} (beyond : UInt32)
    (hj : s.loop2.handlers[j]? = some (l, .checked tr)) (hep : tr.ev.header.ep ≠ 0) :
    LegalIff s.memory (loop2Events s (.build j beyond)) s.memory
      (StaysInside s (.loop2 (.build j beyond))) := by
  have hcond : StaysInside s (.loop2 (.build j beyond)) ↔ tr.BuildFits := by
    simp only [StaysInside, hj]
  have hlive := hs.live_transfer hj rfl
  have huses := (legalIff_use hlive).cons (legalIff_use (hs.live_ret hj rfl))
  by_cases hdir : tr.ev.header.direction = 0
  · have hev : loop2Events s (.build j beyond) =
        [.access .eventBuffer 0 tr.ev.cmdSubmit.transferBufferLength.toNat,
          .access (.transfer tr.ev.id) 0 tr.ev.cmdSubmit.transferBufferLength.toNat] ++
          [useOf (.transfer tr.ev.id), useOf (.retSubmit tr.ev.id)] := by
      simp only [loop2Events, hj, hdir, ne_eq, not_true_eq_false, if_false]
    have hevent : s.memory .eventBuffer = some 1024 := rfl
    have hcopy := (LegalIff.access hevent 0 tr.ev.cmdSubmit.transferBufferLength.toNat).cons
      (LegalIff.access hlive 0 tr.ev.cmdSubmit.transferBufferLength.toNat)
    rw [hev]
    refine (hcopy.append huses).congr ?_
    rw [hcond, UsbTransfer.BuildFits, if_pos hdir]
    have hsize : dataBufferSize = 1000 := rfl
    simp only [and_self, and_true]
    omega
  · have hev : loop2Events s (.build j beyond) =
        [.access .mps (tr.ev.header.ep - 1).toNat 1] ++
          [useOf (.transfer tr.ev.id), useOf (.retSubmit tr.ev.id)] := by
      simp only [loop2Events, hj, hdir, ne_eq, not_false_eq_true, if_true]
    have hmps : s.memory .mps = some 10 := rfl
    rw [hev]
    refine ((LegalIff.access hmps _ 1).append huses).congr ?_
    rw [hcond, UsbTransfer.BuildFits, if_neg hdir, toNat_sub_one hep]
    have hpos : tr.ev.header.ep.toNat ≠ 0 := fun h => hep (UInt32.toNat_inj.1 h)
    simp only [and_self, and_true]
    omega

theorem Loop2Effect.legalIff {s t : Server} {a : Loop2Action} (h : Loop2Effect s a t)
    (hs : s.HeapOk) (hmade : s.Carries (madeClaim s.lib)) :
    LegalIff s.memory (loop2Events s a) t.memory (StaysInside s (.loop2 a)) := by
  cases h with
  | dispatch i l ev hi => exact LegalIff.nil s.memory
  | noReply j l ev hj =>
    have hev : loop2Events s (.malloc j none) = [] := by simp only [loop2Events, hj]
    rw [hev]
    exact LegalIff.nil s.memory
  | fill j l ev heap hj =>
    have hev : loop2Events s (.malloc j (some heap)) =
        [.alloc (.retSubmit ev.id) retSubmitSize,
          .access (.retSubmit ev.id) 0 retSubmitHeadSize] := by
      simp only [loop2Events, hj]
    have hmemory : Function.update s.memory (.retSubmit ev.id) (some retSubmitSize) =
        memoryOf ⟨ev.id :: s.heap.rets, s.heap.transfers⟩ s.tcp.pc.inCall s.driver.devHdl :=
      (memoryOf_cons_ret ev.id).symm
    have halloc := LegalIff.alloc (hs.fresh_ret hj rfl rfl) retSubmitSize
    have hthere := Function.update_self (Obj.retSubmit ev.id) (some retSubmitSize) s.memory
    rw [hev]
    have hhead : 0 + retSubmitHeadSize ≤ retSubmitSize := by decide
    have hboth := halloc.cons (LegalIff.inside hthere hhead)
    rw [hmemory] at hboth
    exact hboth.congr (and_self_iff.trans Iff.rfl)
  | setSkt j l ev ret hj => exact LegalIff.nil s.memory
  | noTransfer j l ev ret hj =>
    have hev : loop2Events s (.alloc j none) = [.free (.retSubmit ev.id)] := by
      simp only [loop2Events, hj]
    have hfree := LegalIff.free (hs.live_ret hj rfl)
    rw [Server.memory, ← memoryOf_erase_ret hs.nodup.1] at hfree
    rw [hev]
    exact hfree
  | alloc j l ev ret heap hj =>
    have hev : loop2Events s (.alloc j (some heap)) =
        [.alloc (.transfer ev.id) dataBufferSize, useOf (.retSubmit ev.id)] := by
      simp only [loop2Events, hj]
    have hmemory : Function.update s.memory (.transfer ev.id) (some dataBufferSize) =
        memoryOf ⟨s.heap.rets, ev.id :: s.heap.transfers⟩ s.tcp.pc.inCall s.driver.devHdl :=
      (memoryOf_cons_transfer ev.id).symm
    have hret : Function.update s.memory (.transfer ev.id) (some dataBufferSize)
        (.retSubmit ev.id) = some retSubmitSize := by
      rw [Function.update_of_ne (by simp)]
      exact hs.live_ret hj rfl
    have hboth := (LegalIff.alloc (hs.fresh_transfer hj rfl rfl) dataBufferSize).cons
      (legalIff_use hret)
    rw [hmemory] at hboth
    rw [hev]
    exact hboth.congr (and_self_iff.trans Iff.rfl)
  | control j l tr hj hep =>
    have hev : loop2Events s (.check j) = [.access (.transfer tr.ev.id) 0 8] := by
      simp only [loop2Events, hj, hep, if_true]
    rw [hev]
    exact .inside (hs.live_transfer hj rfl) (by decide)
  | pending j l tr hj hep hp =>
    have hev : loop2Events s (.check j) =
        [.free (.transfer tr.ev.id), .free (.retSubmit tr.ev.id)] := by
      simp only [loop2Events, hj, hep, hp, if_false, if_true]
    rw [hev]
    exact hs.legalIff_release (hs.live_ret hj rfl) (hs.live_transfer hj rfl)
  | checked j l tr hj hep hp =>
    have hev : loop2Events s (.check j) = [] := by
      simp only [loop2Events, hj, hep, hp, if_false, Bool.false_eq_true]
    rw [hev]
    exact LegalIff.nil s.memory
  | build j l tr beyond hj =>
    exact legalIff_build hs beyond hj (hmade.handler _ (List.mem_of_getElem? hj)).1
  | rejected j l tr hj => exact legalIff_submit hs false hj
  | submitControl j l tr hj hc => exact legalIff_submit hs true hj
  | submitBulk j l tr hj hc => exact legalIff_submit hs true hj
  | setPending j l ep hj => exact LegalIff.nil s.memory

theorem callback_legalIff_control {s : Server} {c : Callback} (hc : c.transfer.control = true)
    (hskt : 0 ≤ s.skt) (hn : c.actualNumBytes ≤ 1000)
    (hret : s.memory (.retSubmit c.transfer.ev.id) = some retSubmitSize)
    (htransfer : s.memory (.transfer c.transfer.ev.id) = some dataBufferSize) :
    LegalIff s.memory (callbackEvents s c) s.memory True := by
  have hopen : ¬ s.skt < 0 := not_lt.2 hskt
  have hdata : dataBufferSize = 1000 := rfl
  have hstruct : retSubmitSize = 1072 := rfl
  have hhead : retSubmitHeadSize = 48 := rfl
  obtain ⟨hlow, hhigh⟩ := controlDataLen_bounds c.status hn
  have hsend := ofInt32_toNat hlow hhigh
  have hread : LegalIff s.memory [.access (.transfer c.transfer.ev.id) 8
      (controlDataLen c.status c.actualNumBytes).toNat] s.memory True :=
    .inside htransfer (by omega)
  have hwrite : LegalIff s.memory [.access (.retSubmit c.transfer.ev.id) retSubmitHeadSize
      (controlDataLen c.status c.actualNumBytes).toNat] s.memory True :=
    .inside hret (by omega)
  simp only [callbackEvents, hc, if_true, hopen, if_false]
  split_ifs with hdir
  · exact ((hread.cons hwrite).append (.inside hret (by omega))).congr (by simp)
  · refine ((hread.cons hwrite).append (.inside hret ?_)).congr (by simp)
    rw [sendSize_eq (by omega)]
    omega

/-- On the other endpoints the length that the client asked for is taken as it is. -/
theorem callback_legalIff_bulk {s : Server} {c : Callback} (hc : c.transfer.control = false)
    (hskt : 0 ≤ s.skt) (hret : s.memory (.retSubmit c.transfer.ev.id) = some retSubmitSize)
    (htransfer : s.memory (.transfer c.transfer.ev.id) = some dataBufferSize) :
    LegalIff s.memory (callbackEvents s c) s.memory
      (c.transfer.context.base.direction ≠ 0 →
        c.transfer.context.actualLength.toNat ≤ dataBufferSize) := by
  have hopen : ¬ s.skt < 0 := not_lt.2 hskt
  have hdata : dataBufferSize = 1000 := rfl
  have hstruct : retSubmitSize = 1072 := rfl
  have hhead : retSubmitHeadSize = 48 := rfl
  by_cases hdir : c.transfer.context.base.direction ≠ 0
  · have hev : callbackEvents s c =
        [.access (.transfer c.transfer.ev.id) 0 c.transfer.context.actualLength.toNat,
          .access (.retSubmit c.transfer.ev.id) retSubmitHeadSize
            c.transfer.context.actualLength.toNat,
          .access (.retSubmit c.transfer.ev.id) 0
            (sendSize c.transfer.context.actualLength)] := by
      simp only [callbackEvents, hc, Bool.false_eq_true, if_false, hopen]
      exact if_pos hdir
    have hread := LegalIff.access htransfer 0 c.transfer.context.actualLength.toNat
    have hwrite := LegalIff.access hret retSubmitHeadSize c.transfer.context.actualLength.toNat
    have hsend := LegalIff.access hret 0 (sendSize c.transfer.context.actualLength)
    rw [hev]
    -- what the copy may read, the copy may write, and `send` may read
    refine (hread.cons (hwrite.cons hsend)).congr ⟨fun h _ => by omega, fun h => ?_⟩
    have hlen := h hdir
    rw [sendSize_eq (by omega)]
    omega
  · have hev : callbackEvents s c =
        [.access (.retSubmit c.transfer.ev.id) 0 retSubmitHeadSize] := by
      simp only [callbackEvents, hc, Bool.false_eq_true, if_false, hopen]
      exact if_neg hdir
    have hsend : LegalIff s.memory [.access (.retSubmit c.transfer.ev.id) 0 retSubmitHeadSize]
        s.memory True := .inside hret (by omega)
    rw [hev]
    exact hsend.congr (iff_of_true trivial fun h => absurd h hdir)

theorem callback_legalIff {s : Server} {c : Callback} (hok : c.transfer.Ok) (hskt : 0 ≤ s.skt)
    (hn : c.actualNumBytes ≤ 1000)
    (hret : s.memory (.retSubmit c.transfer.ev.id) = some retSubmitSize)
    (htransfer : s.memory (.transfer c.transfer.ev.id) = some dataBufferSize) :
    LegalIff s.memory (callbackEvents s c) s.memory c.ReplyFits := by
  cases hc : c.transfer.control with
  | true =>
    have hfits : c.ReplyFits := fun hep => absurd (hok.control.1 hc) hep
    exact (callback_legalIff_control hc hskt hn hret htransfer).congr (iff_of_true trivial hfits)
  | false =>
    have hep : c.transfer.ev.header.ep ≠ 0 := fun h => by simp [hok.control.2 h] at hc
    refine (callback_legalIff_bulk hc hskt hret htransfer).congr ?_
    rw [hok.context.base, hok.context.actualLength]
    exact ⟨fun h _ => h, fun h => h hep⟩

theorem HostEffect.legalIff {s t : Server} {a : HostAction} (h : HostEffect s a t)
    (hs : s.HeapOk) (hok : ∀ c, s.callback = some c → c.transfer.Ok) (hskt : 0 ≤ s.skt)
    (hreported : ∀ c, s.callback = some c → c.actualNumBytes ≤ 1000)
    (ha : ReportsFit s (.host a)) :
    LegalIff s.memory (hostEvents s a) t.memory (StaysInside s (.host a)) := by
  have hends : ∀ c heap r, s.callback = some c → LegalIff s.memory (hostEvents s (.send heap r))
      (memoryOf ⟨s.heap.rets.erase c.transfer.ev.id, s.heap.transfers.erase c.transfer.ev.id⟩
        s.tcp.pc.inCall s.driver.devHdl) (StaysInside s (.host (.send heap r))) := by
    intro c heap r hcb
    have hid : c.transfer.ev.id ∈ s.atLibrary := by simp [Server.atLibrary, hcb]
    obtain ⟨hret, htransfer⟩ := hs.live_atLibrary hid
    have hev : hostEvents s (.send heap r) = callbackEvents s c ++
        [.free (.transfer c.transfer.ev.id), .free (.retSubmit c.transfer.ev.id)] := by
      simp only [hostEvents, hcb]
    rw [hev]
    exact ((callback_legalIff (hok c hcb) hskt (hreported c hcb) hret htransfer).append
      (hs.legalIff_release hret htransfer)).congr (by simp [StaysInside, hcb])
  cases h with
  | complete i tr status n data hcb hi =>
    have hid : tr.ev.id ∈ s.atLibrary :=
      List.mem_append_left _ (List.mem_map_of_mem (List.mem_of_getElem? hi))
    have hev : hostEvents s (.complete i status n data) =
        [.access (.transfer tr.ev.id) 0 n.toNat] := by
      simp only [hostEvents, hi]
    have hn : n ≤ 1000 := ha
    have hsize : dataBufferSize = 1000 := rfl
    rw [hev]
    exact .inside (hs.live_atLibrary hid).2 (by omega)
  | clear c hcb hcl =>
    have hid : c.transfer.ev.id ∈ s.atLibrary := by simp [Server.atLibrary, hcb]
    have hev : hostEvents s .clear = [useOf (.transfer c.transfer.ev.id)] := by
      simp only [hostEvents, hcb]
    rw [hev]
    exact legalIff_use (hs.live_atLibrary hid).2
  | silent c heap r hcb hr => exact hends c heap r hcb
  | reply c conn heap r n hcb hskt hconn hnum hn hr => exact hends c heap r hcb

end UsbRepeater
