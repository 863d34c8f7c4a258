import UsbRepeater.LostRequests

/-! The two objects allocated for a request, its reply and its transfer. Who holds them: a handler
between the allocation and the submit, then the host library and the callback; a transfer that
the library has refused is held by nobody. -/
namespace UsbRepeater

open Schedule

/-- The request whose reply a handler has allocated and not yet passed on. -/
def Handler2.heldRet : Handler2 → Option ℕ
  | .entry _ | .accepted _ => none
  | .filled ev _ | .sktSet ev _ => some ev.id
  | .allocated t | .checked t | .built t => some t.ev.id

def Handler2.heldTransfer : Handler2 → Option ℕ
  | .entry _ | .accepted _ | .filled _ _ | .sktSet _ _ => none
  | .allocated t | .checked t | .built t => some t.ev.id

def Server.atLibrary (s : Server) : List ℕ :=
  s.inFlight.map (fun t => t.ev.id) ++ s.callback.toList.map fun c => c.transfer.ev.id

def Server.refused (s : Server) : List ℕ :=
  (s.history.dropped.filter fun x => x.2 = .rejected).map fun x => x.1.id

/-- Where the objects of one kind are; `held` says which of them a handler has. -/
def Server.owners (s : Server) (held : Handler2 → Option ℕ) : Multiset ℕ :=
  (s.loop2.handlers.filterMap fun x => held x.2 : List ℕ) +
    ((s.atLibrary : List ℕ) + (s.refused : List ℕ))

structure Server.ObjectsOwned (s : Server) : Prop where
  rets : (s.heap.rets : Multiset ℕ) = s.owners Handler2.heldRet
  transfers : (s.heap.transfers : Multiset ℕ) = s.owners Handler2.heldTransfer

variable {held : Handler2 → Option ℕ}

theorem owners_of_same {s t : Server} (hh : t.loop2.handlers = s.loop2.handlers)
    (hf : t.inFlight = s.inFlight) (hc : t.callback = s.callback)
    (hd : t.history.dropped = s.history.dropped) : t.owners held = s.owners held := by
  simp only [Server.owners, Server.atLibrary, Server.refused, hh, hf, hc, hd]

theorem Server.ObjectsOwned.of_same {s t : Server} (hs : s.ObjectsOwned)
    (hheap : t.heap = s.heap) (hh : t.loop2.handlers = s.loop2.handlers)
    (hf : t.inFlight = s.inFlight) (hc : t.callback = s.callback)
    (hd : t.history.dropped = s.history.dropped) : t.ObjectsOwned where
  rets := by rw [hheap, owners_of_same hh hf hc hd]; exact hs.rets
  transfers := by rw [hheap, owners_of_same hh hf hc hd]; exact hs.transfers

theorem owners_eq {s : Server} {j l : ℕ} {h : Handler2} (hj : s.loop2.handlers[j]? = some (l, h)) :
    s.owners held = ((held h).toList : List ℕ) + (s.endHandler2 j).owners held := by
  have hhandlers : ((s.loop2.handlers.filterMap fun x => held x.2 : List ℕ) : Multiset ℕ) =
      ((held h).toList : List ℕ) +
        ((s.loop2.handlers.eraseIdx j).filterMap fun x => held x.2 : List ℕ) := by
    cases hh : held h with
    | none => simpa using Flow.coe_filterMap_eraseIdx_none _ hj hh
    | some id => simpa using Flow.coe_filterMap_eraseIdx _ hj hh
  simp only [Server.owners, hhandlers, add_assoc]
  rfl

theorem owners_setHandler2 {s : Server} {j l : ℕ} {h : Handler2}
    (hj : s.loop2.handlers[j]? = some (l, h)) (h' : Handler2) :
    (s.setHandler2 j h').owners held =
      ((held h').toList : List ℕ) + (s.endHandler2 j).owners held := by
  have hset : (s.setHandler2 j h').loop2.handlers[j]? = some (l, h') := by
    simp [Server.setHandler2, hj]
  have hrest : ((s.setHandler2 j h').endHandler2 j).loop2.handlers =
      (s.endHandler2 j).loop2.handlers := List.eraseIdx_modify_of_eq _ _ _
  rw [owners_eq hset, owners_of_same hrest rfl rfl rfl]

theorem owners_kept {s : Server} {j l : ℕ} {h : Handler2}
    (hj : s.loop2.handlers[j]? = some (l, h)) (h' : Handler2) (hh : held h' = held h) :
    (s.setHandler2 j h').owners held = s.owners held := by
  rw [owners_setHandler2 hj, hh, owners_eq hj]

theorem Server.ObjectsOwned.kept {s : Server} (hs : s.ObjectsOwned) {j l : ℕ} {h : Handler2}
    (hj : s.loop2.handlers[j]? = some (l, h)) (h' : Handler2) (hr : h'.heldRet = h.heldRet)
    (ht : h'.heldTransfer = h.heldTransfer) : (s.setHandler2 j h').ObjectsOwned where
  rets := hs.rets.trans (owners_kept hj h' hr).symm
  transfers := hs.transfers.trans (owners_kept hj h' ht).symm

theorem owners_taken {s : Server} {j l id : ℕ} {h : Handler2}
    (hj : s.loop2.handlers[j]? = some (l, h)) (h' : Handler2) (hn : held h = none)
    (hh : held h' = some id) :
    (s.setHandler2 j h').owners held = id ::ₘ s.owners held := by
  rw [owners_setHandler2 hj, hh, owners_eq hj, hn]
  simp

theorem owners_of_some {s : Server} {j l id : ℕ} {h : Handler2}
    (hj : s.loop2.handlers[j]? = some (l, h)) (hh : held h = some id) :
    s.owners held = id ::ₘ (s.endHandler2 j).owners held := by
  rw [owners_eq hj, hh]
  simp

theorem owners_of_none {s : Server} {j l : ℕ} {h : Handler2}
    (hj : s.loop2.handlers[j]? = some (l, h)) (hh : held h = none) :
    s.owners held = (s.endHandler2 j).owners held := by
  rw [owners_eq hj, hh]
  simp

theorem owners_drop2 (s : Server) (j : ℕ) (ev : Submit) {reason : DropReason}
    (hr : reason ≠ .rejected) :
    (s.drop2 j ev reason).owners held = (s.endHandler2 j).owners held := by
  have hrefused : (s.drop2 j ev reason).refused = (s.endHandler2 j).refused := by
    simp [Server.refused, Server.drop2, List.filter_append, hr, Server.endHandler2]
  simp only [Server.owners, hrefused]
  rfl

theorem owners_refused (s : Server) (j : ℕ) (ev : Submit) :
    (s.drop2 j ev .rejected).owners held = ev.id ::ₘ (s.endHandler2 j).owners held := by
  have hrefused : (s.drop2 j ev .rejected).refused = (s.endHandler2 j).refused ++ [ev.id] := by
    simp [Server.refused, Server.drop2, List.filter_append, Server.endHandler2]
  have hcons : (((s.endHandler2 j).refused ++ [ev.id] : List ℕ) : Multiset ℕ) =
      ev.id ::ₘ ((s.endHandler2 j).refused : List ℕ) := by
    rw [← Multiset.coe_add, Multiset.coe_singleton, Multiset.add_comm, Multiset.singleton_add]
  simp only [Server.owners, hrefused, hcons, Multiset.add_cons]
  rfl

theorem owners_entered (s : Server) (queue : List (ℕ × Submit)) (l : ℕ) {ev : Submit}
    (hn : held (.entry ev) = none) :
    Server.owners { s with loop2 := { s.loop2 with
      queue := queue
      handlers := s.loop2.handlers ++ [(l, .entry ev)] } } held = s.owners held := by
  have hhandlers : ((s.loop2.handlers ++ [(l, Handler2.entry ev)]).filterMap fun x => held x.2) =
      s.loop2.handlers.filterMap fun x => held x.2 := by
    simp [hn]
  simp only [Server.owners, hhandlers]
  rfl

theorem owners_submitted (s : Server) (tr : UsbTransfer) :
    Server.owners { s with inFlight := s.inFlight ++ [tr] } held =
      tr.ev.id ::ₘ s.owners held := by
  have hlibrary : ((Server.atLibrary { s with inFlight := s.inFlight ++ [tr] } : List ℕ) :
      Multiset ℕ) = tr.ev.id ::ₘ (s.atLibrary : List ℕ) := by
    rw [Multiset.cons_coe, Multiset.coe_eq_coe]
    simp only [Server.atLibrary, List.map_append, List.append_assoc, List.map_singleton,
      List.singleton_append]
    exact List.perm_middle
  have hsame : Server.refused { s with inFlight := s.inFlight ++ [tr] } = s.refused := rfl
  simp only [Server.owners, hlibrary, hsame, Multiset.cons_add, Multiset.add_cons]

theorem coe_cons_of_eq {heap : List ℕ} {m : Multiset ℕ} (h : (heap : Multiset ℕ) = m) (id : ℕ) :
    ((id :: heap : List ℕ) : Multiset ℕ) = id ::ₘ m := by
  rw [← Multiset.cons_coe, h]

theorem coe_erase_of_eq {heap : List ℕ} {m : Multiset ℕ} {id : ℕ}
    (h : (heap : Multiset ℕ) = id ::ₘ m) : ((heap.erase id : List ℕ) : Multiset ℕ) = m := by
  rw [← Multiset.coe_erase, h, Multiset.erase_cons_head]

theorem Loop2Effect.objectsOwned {s t : Server} {a : Loop2Action} (h : Loop2Effect s a t)
    (hs : s.ObjectsOwned) : t.ObjectsOwned := by
  have hkept := hs
  obtain ⟨hrets, htransfers⟩ := hs
  cases h with
  | dispatch i l ev hi =>
    exact ⟨hrets.trans (owners_entered s _ l rfl).symm,
      htransfers.trans (owners_entered s _ l rfl).symm⟩
  | noReply j l ev hj =>
    refine ⟨?_, ?_⟩
    · rw [owners_drop2 s j ev (by decide), ← owners_of_none hj rfl]
      exact hrets
    · rw [owners_drop2 s j ev (by decide), ← owners_of_none hj rfl]
      exact htransfers
  | fill j l ev heap hj =>
    exact ⟨(coe_cons_of_eq hrets ev.id).trans
        (owners_taken hj (.filled ev (fillRetSubmit ev heap)) rfl rfl).symm,
      htransfers.trans (owners_kept hj (.filled ev (fillRetSubmit ev heap)) rfl).symm⟩
  | setSkt j l ev ret hj =>
    exact (hkept.kept hj (.sktSet ev ret) rfl rfl).of_same rfl rfl rfl rfl rfl
  | noTransfer j l ev ret hj =>
    rw [owners_of_some hj rfl] at hrets
    rw [owners_of_none hj rfl] at htransfers
    exact ⟨(coe_erase_of_eq hrets).trans (owners_drop2 s j ev (by decide)).symm,
      htransfers.trans (owners_drop2 s j ev (by decide)).symm⟩
  | alloc j l ev ret heap hj =>
    let next := Handler2.allocated (allocTransfer ev ret heap s.driver.devHdl)
    exact ⟨hrets.trans (owners_kept hj next rfl).symm,
      (coe_cons_of_eq htransfers ev.id).trans (owners_taken hj next rfl rfl).symm⟩
  | control j l tr hj hep => exact hkept.kept hj (.built (buildControl tr)) rfl rfl
  | pending j l tr hj hep hp =>
    rw [owners_of_some hj rfl] at hrets htransfers
    exact ⟨(coe_erase_of_eq hrets).trans (owners_drop2 s j tr.ev (by decide)).symm,
      (coe_erase_of_eq htransfers).trans (owners_drop2 s j tr.ev (by decide)).symm⟩
  | checked j l tr hj hep hp => exact hkept.kept hj (.checked tr) rfl rfl
  | build j l tr beyond hj =>
    have hev := buildBulk_ev s.lib s.driver.mps beyond tr
    have hid : some (buildBulk s.lib s.driver.mps beyond tr).ev.id = some tr.ev.id := by rw [hev]
    exact hkept.kept hj _ hid hid
  | rejected j l tr hj =>
    -- nothing is freed: the library has not taken the objects, and the handler forgets them
    rw [owners_of_some hj rfl] at hrets htransfers
    exact ⟨hrets.trans (owners_refused s j tr.ev).symm,
      htransfers.trans (owners_refused s j tr.ev).symm⟩
  | submitControl j l tr hj hc =>
    rw [owners_of_some hj rfl] at hrets htransfers
    exact ⟨hrets.trans (owners_submitted (s.endHandler2 j) tr).symm,
      htransfers.trans (owners_submitted (s.endHandler2 j) tr).symm⟩
  | submitBulk j l tr hj hc =>
    have hset : ∀ held : Handler2 → Option ℕ, held (.accepted tr.ev.header.ep) = none →
        Server.owners (Server.setHandler2 { s with inFlight := s.inFlight ++ [tr] } j
          (.accepted tr.ev.header.ep)) held = tr.ev.id ::ₘ (s.endHandler2 j).owners held := by
      intro held hnone
      rw [owners_setHandler2 (s := { s with inFlight := s.inFlight ++ [tr] }) hj, hnone]
      refine (Multiset.zero_add _).trans ?_
      exact owners_submitted (s.endHandler2 j) tr
    rw [owners_of_some hj rfl] at hrets htransfers
    exact ⟨hrets.trans (hset _ rfl).symm, htransfers.trans (hset _ rfl).symm⟩
  | setPending j l ep hj =>
    rw [owners_of_none hj rfl] at hrets htransfers
    exact ⟨hrets, htransfers⟩

/-- A completed transfer stays the library's until its callback has ended. -/
theorem atLibrary_complete {s : Server} {i : ℕ} {tr : UsbTransfer} (hcb : s.callback = none)
    (hi : s.inFlight[i]? = some tr) {c : Callback} (hc : c.transfer.ev = tr.ev) :
    ((Server.atLibrary { s with inFlight := s.inFlight.eraseIdx i, callback := some c } : List ℕ) :
      Multiset ℕ) = (s.atLibrary : List ℕ) := by
  have hflight := (Flow.perm_cons_eraseIdx hi).map fun t => t.ev.id
  rw [Multiset.coe_eq_coe]
  simp only [Server.atLibrary, hcb, Option.toList_some, Option.toList_none, List.map_nil,
    List.append_nil, List.map_singleton, hc]
  exact (List.perm_append_singleton _ _).trans hflight.symm

theorem owners_callback {s t : Server} {c : Callback} (hcb : s.callback = some c)
    (hh : t.loop2.handlers = s.loop2.handlers) (hf : t.inFlight = s.inFlight)
    (hc : t.callback = none) (hd : t.history.dropped = s.history.dropped) :
    s.owners held = c.transfer.ev.id ::ₘ t.owners held := by
  have hlibrary : (s.atLibrary : Multiset ℕ) = c.transfer.ev.id ::ₘ (t.atLibrary : List ℕ) := by
    rw [Multiset.cons_coe, Multiset.coe_eq_coe]
    simp only [Server.atLibrary, hcb, hf, hc, Option.toList_some, Option.toList_none,
      List.map_nil, List.append_nil, List.map_singleton]
    exact List.perm_append_singleton _ _
  simp only [Server.owners, hlibrary, Server.refused, hh, hd, Multiset.cons_add,
    Multiset.add_cons]

theorem HostEffect.objectsOwned {s t : Server} {a : HostAction} (h : HostEffect s a t)
    (hs : s.ObjectsOwned) : t.ObjectsOwned := by
  cases h with
  | complete i tr status n data hcb hi =>
    have hlibrary : ∀ held : Handler2 → Option ℕ, Server.owners { s with
        inFlight := s.inFlight.eraseIdx i
        callback := some ⟨{ tr with dataBuffer := sized tr.dataBuffer.length data }, status, n,
          false⟩ } held = s.owners held := by
      intro held
      have hsame := atLibrary_complete hcb hi
        (c := ⟨{ tr with dataBuffer := sized tr.dataBuffer.length data }, status, n, false⟩) rfl
      simp only [Server.owners, hsame]
      rfl
    exact ⟨hs.rets.trans (hlibrary _).symm, hs.transfers.trans (hlibrary _).symm⟩
  | clear c hcb hcl =>
    have hlibrary : ∀ held : Handler2 → Option ℕ, Server.owners { s with
        callback := some { c with cleared := true } } held = s.owners held := by
      intro held
      simp only [Server.owners, Server.atLibrary, hcb, Option.toList_some, List.map_singleton]
      rfl
    exact ⟨hs.rets.trans (hlibrary _).symm, hs.transfers.trans (hlibrary _).symm⟩
  | silent c heap r hcb hr =>
    exact ⟨coe_erase_of_eq (hs.rets.trans (owners_callback hcb rfl rfl rfl rfl)),
      coe_erase_of_eq (hs.transfers.trans (owners_callback hcb rfl rfl rfl rfl))⟩
  | reply c conn heap r n hcb hskt hconn hnum hn hr =>
    exact ⟨coe_erase_of_eq (hs.rets.trans (owners_callback hcb rfl rfl rfl rfl)),
      coe_erase_of_eq (hs.transfers.trans (owners_callback hcb rfl rfl rfl rfl))⟩

theorem step_objectsOwned {s t : Server} {a : Action} (hs : s.ObjectsOwned)
    (h : step s a = some t) : t.ObjectsOwned := by
  cases a with
  | tcp a =>
    obtain ⟨-, heff⟩ := tcpStep_effect h
    cases heff <;> exact hs.of_same rfl rfl rfl rfl rfl
  | loop1 a =>
    obtain ⟨-, heff⟩ := loop1Step_effect h
    cases heff <;> exact hs.of_same rfl rfl rfl rfl rfl
  | loop2 a => exact (loop2Step_effect h).2.objectsOwned hs
  | host a => exact (hostStep_effect h).2.objectsOwned hs
  | driver a =>
    obtain ⟨-, -, d, e, -, rfl⟩ := driverStep_effect h
    cases e <;> exact hs.of_same rfl rfl rfl rfl rfl

theorem Reachable.objectsOwned {s : Server} (h : Reachable s) : s.ObjectsOwned :=
  h.invariant (fun _ _ _ _ _ _ => ⟨rfl, rfl⟩) fun _ _ _ => step_objectsOwned

structure Server.NoLeak (s : Server) : Prop where
  rets : s.heap.rets.Perm s.atLibrary
  transfers : s.heap.transfers.Perm s.atLibrary
  distinct : s.atLibrary.Nodup

def SubmitsAccepted (_ : Server) : Action → Prop
  | .loop2 (.submit _ accepted) => accepted = true
  | _ => True

instance (s : Server) : ∀ a, Decidable (SubmitsAccepted s a)
  | .loop2 (.submit _ accepted) => inferInstanceAs (Decidable (accepted = true))
  | .loop2 (.dispatch _) | .loop2 (.malloc _ _) | .loop2 (.setSkt _) | .loop2 (.alloc _ _)
  | .loop2 (.check _) | .loop2 (.build _ _) | .loop2 (.setPending _) | .tcp _ | .loop1 _
  | .host _ | .driver _ => isTrue trivial

theorem Server.Accounted.atLibrary_nodup {s : Server} (hs : s.Accounted) : s.atLibrary.Nodup := by
  have hlibrary : ((s.inFlight.map UsbTransfer.ev : List Submit) : Multiset Submit) +
      (s.callback.toList.map (fun c => c.transfer.ev) : List Submit) ≤ s.history.posted := by
    rw [← hs.total]
    refine le_trans ?_ (Flow.pair_le_total s.stage (show Stage.inFlight ≠ .completed by decide))
    exact Multiset.add_le_add_left (Multiset.le_add_right _ _)
  have hids := Multiset.map_le_map (f := Submit.id) hlibrary
  rw [Multiset.map_add, Multiset.map_coe, Multiset.map_coe, Multiset.map_coe, hs.ids,
    Multiset.coe_add, List.map_map, List.map_map] at hids
  exact Multiset.coe_nodup.1 (Multiset.nodup_of_le hids (Multiset.coe_nodup.2 List.nodup_range))

theorem Server.ObjectsOwned.noLeak_iff {s : Server} (hs : s.ObjectsOwned) (ha : s.Accounted)
    (hidle : s.loop2.handlers = []) : s.NoLeak ↔ s.refused = [] := by
  have howners : ∀ held : Handler2 → Option ℕ,
      s.owners held = (s.atLibrary : List ℕ) + (s.refused : List ℕ) := by
    intro held
    simp [Server.owners, hidle]
  have hobjects : ∀ heap : List ℕ, (heap : Multiset ℕ) = (s.atLibrary : List ℕ) +
      (s.refused : List ℕ) → (heap.Perm s.atLibrary ↔ s.refused = []) := by
    intro heap h
    rw [← Multiset.coe_eq_coe, h, add_eq_left, Multiset.coe_eq_zero]
  constructor
  · intro h
    exact (hobjects _ (hs.rets.trans (howners _))).1 h.rets
  · intro h
    exact ⟨(hobjects _ (hs.rets.trans (howners _))).2 h,
      (hobjects _ (hs.transfers.trans (howners _))).2 h, ha.atLibrary_nodup⟩

theorem step_refused {s t : Server} {a : Action} (h : step s a = some t) :
    (SubmitsAccepted s a ∧ t.refused = s.refused) ∨
      (¬ SubmitsAccepted s a ∧ ∃ id, t.refused = s.refused ++ [id]) := by
  cases a with
  | tcp a =>
    obtain ⟨-, heff⟩ := tcpStep_effect h
    cases heff <;> exact .inl ⟨trivial, rfl⟩
  | loop1 a =>
    obtain ⟨-, heff⟩ := loop1Step_effect h
    cases heff <;> exact .inl ⟨trivial, rfl⟩
  | loop2 a =>
    have hother : ∀ (j : ℕ) (ev : Submit) (reason : DropReason), reason ≠ .rejected →
        (s.drop2 j ev reason).refused = s.refused := by
      intro j ev reason hr
      simp [Server.refused, Server.drop2, List.filter_append, hr, Server.endHandler2]
    obtain ⟨-, heff⟩ := loop2Step_effect h
    cases heff with
    | noReply j l ev hj => exact .inl ⟨trivial, hother j ev _ (by decide)⟩
    | noTransfer j l ev ret hj => exact .inl ⟨trivial, hother j ev _ (by decide)⟩
    | pending j l tr hj hep hp => exact .inl ⟨trivial, hother j tr.ev _ (by decide)⟩
    | rejected j l tr hj =>
      refine .inr ⟨Bool.false_ne_true, tr.ev.id, ?_⟩
      simp [Server.refused, Server.drop2, List.filter_append, Server.endHandler2]
    | submitControl j l tr hj hc => exact .inl ⟨rfl, rfl⟩
    | submitBulk j l tr hj hc => exact .inl ⟨rfl, rfl⟩
    | _ => exact .inl ⟨trivial, rfl⟩
  | host a =>
    obtain ⟨-, heff⟩ := hostStep_effect h
    cases heff <;> exact .inl ⟨trivial, rfl⟩
  | driver a =>
    obtain ⟨-, -, d, e, -, rfl⟩ := driverStep_effect h
    cases e <;> exact .inl ⟨trivial, rfl⟩

section Boot

variable {lib : HostLib} {devRecv header cmdSubmit transferBuffer cmdUnlink : Bytes}

/-- While no handler is at work, the live objects are those of the accepted transfers exactly if
no submit of the run has been refused. -/
theorem no_leak_iff_submitsAccepted {as : List Action} {t : Server}
    (h : run (.boot lib devRecv header cmdSubmit transferBuffer cmdUnlink) as = some t)
    (hidle : t.loop2.handlers = []) :
    t.NoLeak ↔ Always step SubmitsAccepted
      (.boot lib devRecv header cmdSubmit transferBuffer cmdUnlink) as := by
  have hreach : Reachable t := ⟨_, _, _, _, _, _, _, h⟩
  have hcount := always_iff_of_monotone (P := SubmitsAccepted) (I := fun _ => True)
    (m := fun s : Server => s.refused.length) (fun _ _ _ _ _ => trivial)
    (fun s a u _ hstep ha => by
      rcases step_refused hstep with ⟨-, heq⟩ | ⟨hnot, -⟩
      · rw [heq]
      · exact absurd ha hnot)
    (fun s a u _ hstep ha => by
      rcases step_refused hstep with ⟨hok, -⟩ | ⟨-, id, heq⟩
      · exact absurd hok ha
      · rw [heq, List.length_append]
        exact Nat.lt_succ_self _) trivial h
  rw [hreach.objectsOwned.noLeak_iff hreach.accounted hidle, hcount, ← List.length_eq_zero_iff]
  exact Iff.rfl

end Boot

def NeverLeaks : Prop :=
  ∀ as t, run coldBoot as = some t → t.loop2.handlers = [] → t.NoLeak

def submittingControl (accepted : Bool) : List Action :=
  keyboardEnumeration ++ importing 3 (importSession [submitIn 7 0 18]).stream ++ submitting ++
    handlingControl accepted

theorem refused_submit_leaks : ¬ NeverLeaks := by
  intro hall
  have hrun : (run coldBoot (submittingControl false)).map (fun t =>
      (t.loop2.handlers.isEmpty, t.heap.rets, t.atLibrary)) = some (true, [0], []) := by
    decide +kernel
  obtain ⟨t, ht, hstate⟩ := Option.map_eq_some_iff.1 hrun
  simp only [Prod.mk.injEq, List.isEmpty_iff] at hstate
  obtain ⟨hidle, hrets, hlibrary⟩ := hstate
  have hperm := (hall _ t ht hidle).rets
  rw [hrets, hlibrary] at hperm
  exact absurd hperm.length_eq (by decide)

theorem no_leak_iff_submitsAccepted_descriptor :
    ∃ t, run coldBoot (submittingControl true) = some t ∧ t.atLibrary = [0] ∧ t.NoLeak := by
  have hrun : (run coldBoot (submittingControl true)).map (fun t =>
      (t.loop2.handlers.isEmpty, t.atLibrary)) = some (true, [0]) := by
    decide +kernel
  obtain ⟨t, ht, hstate⟩ := Option.map_eq_some_iff.1 hrun
  simp only [Prod.mk.injEq, List.isEmpty_iff] at hstate
  obtain ⟨hidle, hlibrary⟩ := hstate
  have haccepted : Always step SubmitsAccepted coldBoot (submittingControl true) := by
    decide +kernel
  exact ⟨t, ht, hlibrary, (no_leak_iff_submitsAccepted ht hidle).2 haccepted⟩

end UsbRepeater
