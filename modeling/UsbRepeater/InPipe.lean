import UsbRepeater.Repeater

/-! An IN endpoint as a stream of bytes. The relay tells the device's answers in the order they
came; so the data in the RET_SUBMITs for one endpoint are what the transfers there have brought, cut
to what each request asked for. -/
namespace UsbRepeater

open Schedule

/-- What a message says, if it is a RET_SUBMIT written whole. -/
def Sent.answer (m : Sent) : Option UrbAnswer :=
  match m.message with
  | .retSubmit _ _ => if m.written = m.frame.length then some (.ofFrame m.frame) else none
  | _ => none

def Server.told (s : Server) : List UrbAnswer := s.history.sent.filterMap Sent.answer

/-- The data of the answers to the IN requests for one endpoint. -/
def inStream (ep : ℕ) (xs : List (Urb × UrbAnswer)) : Bytes :=
  (xs.filter fun x => x.1.direction ≠ 0 ∧ x.1.ep = ep).flatMap fun x => x.2.data

theorem inStream_append (ep : ℕ) (xs ys : List (Urb × UrbAnswer)) :
    inStream ep (xs ++ ys) = inStream ep xs ++ inStream ep ys := by
  rw [inStream, List.filter_append, List.flatMap_append]
  rfl

theorem inStream_singleton (ep : ℕ) (r : Urb) (a : UrbAnswer) :
    inStream ep [(r, a)] = if r.direction ≠ 0 ∧ r.ep = ep then a.data else [] := by
  by_cases h : r.direction ≠ 0 ∧ r.ep = ep
  · simp [inStream, h]
  · simp [inStream, h]

structure Server.Noted (s : Server) (es : List (RelayEvent ℕ Urb UrbAnswer)) : Prop where
  told : (es.filterMap RelayEvent.told).map Prod.snd = s.told
  lost : (es.filterMap RelayEvent.lost).length = s.history.silent.length

section Noted

variable {s t : Server} {es new : List (RelayEvent ℕ Urb UrbAnswer)}

theorem Server.Noted.of_quiet (hs : s.Noted es) (hnew : ∀ e ∈ new, e.settled = none)
    (hsent : t.told = s.told) (hsilent : t.history.silent = s.history.silent) :
    t.Noted (es ++ new) := by
  have hnone : ∀ e ∈ new, e.told = none ∧ e.lost = none := by
    intro e he
    have hsettled := hnew e he
    cases e with
    | tell r a => cases hsettled
    | lose r a => cases hsettled
    | _ => exact ⟨rfl, rfl⟩
  have htold : new.filterMap RelayEvent.told = [] :=
    List.filterMap_eq_nil_iff.2 fun e he => (hnone e he).1
  have hlost : new.filterMap RelayEvent.lost = [] :=
    List.filterMap_eq_nil_iff.2 fun e he => (hnone e he).2
  refine ⟨?_, ?_⟩
  · rw [List.filterMap_append, htold, List.append_nil, hsent, hs.told]
  · rw [List.filterMap_append, hlost, List.append_nil, hsilent, hs.lost]

theorem told_emit {m : Sent} (h : m.answer = none) : (s.emit m).told = s.told := by
  simp [Server.told, Server.emit, h]

theorem seen_unsettled {a : Action} (w : WireNote) (ha : ∀ heap r, a ≠ .host (.send heap r)) :
    ∀ e ∈ s.seen w a, e.settled = none := by
  intro e he
  unfold Server.seen at he
  split at he
  · split_ifs at he
    · rw [List.mem_singleton.1 he]
      rfl
    · cases he
  · rcases List.mem_append.1 he with he | he
    · obtain ⟨x, -, rfl⟩ := List.mem_map.1 he
      rfl
    · obtain ⟨x, -, rfl⟩ := List.mem_map.1 he
      rfl
  · obtain ⟨x, -, rfl⟩ := List.mem_map.1 he
    rfl
  · exact absurd rfl (ha _ _)
  · cases he

theorem HostEffect.noted {a : HostAction} {w : WireNote} (h : HostEffect s a t) (hs : s.Noted es)
    (ha : Relays s (.host a)) : t.Noted (es ++ s.seen w (.host a)) := by
  cases h with
  | complete i tr status n data hcb hi => exact hs.of_quiet (seen_unsettled w (by simp)) rfl rfl
  | clear c hcb hcl => exact hs.of_quiet (seen_unsettled w (by simp)) rfl rfl
  | silent c heap r hcb hr =>
    have hseen : s.seen w (.host (.send heap r)) = [.lose (w.urb c.transfer.ev) c.answer] := by
      simp only [Server.seen, hcb, Option.toList_some, List.map_cons, List.map_nil, if_pos hr]
    rw [hseen]
    refine ⟨?_, ?_⟩
    · rw [List.filterMap_append]
      exact (congrArg (List.map Prod.snd) (List.append_nil _)).trans hs.told
    · rw [List.filterMap_append, List.length_append, hs.lost]
      show _ = (s.history.silent ++ [c.transfer.ev]).length
      rw [List.length_append]
      rfl
  | reply c conn heap r n hcb hskt hconn hnum hn hr =>
    have hsent : r ≠ .failed := by
      rintro rfl
      rcases hr with ⟨hfull, -⟩ | hshort
      · cases hfull
      · cases hshort
    have hno : ¬ (s.skt < 0 ∨ r = .failed) := not_or.2 ⟨not_lt.2 hskt, hsent⟩
    have hseen : s.seen w (.host (.send heap r)) =
        [.tell (w.urb c.transfer.ev) (.ofFrame (c.frame heap))] := by
      simp only [Server.seen, hcb, Option.toList_some, List.map_cons, List.map_nil, if_neg hno]
    have hwhole : n = (c.frame heap).length := by
      obtain ⟨rfl, -⟩ := ha.resolve_left hsent
      rcases hr with ⟨-, hfull⟩ | hshort
      · exact hfull
      · cases hshort
    rw [hseen]
    refine ⟨?_, ?_⟩
    · rw [List.filterMap_append, List.map_append, hs.told]
      simp only [Server.told, Server.emit, Server.endCallback, List.filterMap_append,
        List.filterMap_cons, Sent.answer, if_pos hwhole]
      rfl
    · rw [List.filterMap_append]
      exact (congrArg List.length (List.append_nil _)).trans hs.lost

theorem step_noted {a : Action} {w : WireNote} (hs : s.Noted es) (ha : Relays s a)
    (h : step s a = some t) : t.Noted (es ++ s.seen w a) := by
  cases a with
  | tcp a =>
    obtain ⟨-, heff⟩ := tcpStep_effect h
    refine hs.of_quiet (seen_unsettled w (by simp)) ?_ ?_
    · cases heff with
      | unlink tcp c r n htcp hpc hc hn hr => exact told_emit rfl
      | _ => rfl
    · cases heff <;> rfl
  | loop1 a =>
    obtain ⟨-, heff⟩ := loop1Step_effect h
    refine hs.of_quiet (seen_unsettled w (by simp)) ?_ ?_
    · cases heff with
      | send loop1 c m hc hm hmsg =>
        refine told_emit ?_
        rcases hmsg with h | ⟨rep, h⟩ <;> rw [Sent.answer, h]
      | _ => rfl
    · cases heff <;> rfl
  | loop2 a =>
    obtain ⟨-, heff⟩ := loop2Step_effect h
    refine hs.of_quiet (seen_unsettled w (by simp)) ?_ ?_ <;> cases heff <;> rfl
  | host a => exact (hostStep_effect h).2.noted hs ha
  | driver a =>
    obtain ⟨-, -, d, e, -, rfl⟩ := driverStep_effect h
    refine hs.of_quiet (seen_unsettled w (by simp)) ?_ ?_ <;> cases e <;> rfl

end Noted

/-- What the device sends on an IN endpoint with the transfer that ends, uncut. -/
def Server.brings (s : Server) (ep : ℕ) : Action → Bytes
  | .host (.complete i _ n data) =>
      (s.inFlight[i]?).toList.flatMap fun t =>
        if t.urb.direction ≠ 0 ∧ t.urb.ep = ep then (sized t.dataBuffer.length data).take n.toNat
        else []
  | _ => []

def noteDevice (ep : ℕ) (s : Server) (a : Action) (bytes : Bytes) : Bytes := bytes ++ s.brings ep a

/-- A transfer on an IN endpoint ends with as many bytes as its request asked for. -/
def BringsAsked (s : Server) : Action → Prop
  | .host (.complete i _ n _) => ∀ t ∈ s.inFlight[i]?, t.urb.direction ≠ 0 → t.urb.ep ≠ 0 →
      n = t.ev.cmdSubmit.transferBufferLength.toNat
  | _ => True

instance (s : Server) : ∀ a, Decidable (BringsAsked s a)
  | .host (.complete i _ n _) =>
    inferInstanceAs (Decidable (∀ t ∈ s.inFlight[i]?, t.urb.direction ≠ 0 → t.urb.ep ≠ 0 →
      n = t.ev.cmdSubmit.transferBufferLength.toNat))
  | .host .clear | .host (.send _ _) | .tcp _ | .loop1 _ | .loop2 _ | .driver _ => isTrue trivial

theorem seen_given_eq_nil {s : Server} {a : Action} (w : WireNote)
    (ha : ∀ i status n data, a ≠ .host (.complete i status n data)) :
    (s.seen w a).filterMap RelayEvent.given = [] := by
  refine List.filterMap_eq_nil_iff.2 fun e he => ?_
  unfold Server.seen at he
  split at he
  · split_ifs at he
    · rw [List.mem_singleton.1 he]
      rfl
    · cases he
  · rcases List.mem_append.1 he with he | he
    · obtain ⟨x, -, rfl⟩ := List.mem_map.1 he
      rfl
    · obtain ⟨x, -, rfl⟩ := List.mem_map.1 he
      rfl
  · exact absurd rfl (ha _ _ _ _)
  · obtain ⟨x, -, rfl⟩ := List.mem_map.1 he
    split_ifs <;> rfl
  · cases he

theorem brings_eq_nil {s : Server} {a : Action} (ep : ℕ)
    (ha : ∀ i status n data, a ≠ .host (.complete i status n data)) : s.brings ep a = [] := by
  unfold Server.brings
  split
  · exact absurd rfl (ha _ _ _ _)
  · rfl

/-- What is seen of the end of a transfer is what the device has sent with it. -/
theorem Server.Relaying.inStream_seen {s : Server} {a : Action} {ep : ℕ}
    {m : WireNote × List (RelayEvent ℕ Urb UrbAnswer)} (hs : s.Relaying m) (hep : ep ≠ 0)
    (ha : BringsAsked s a) :
    inStream ep ((s.seen m.1 a).filterMap RelayEvent.given) = s.brings ep a := by
  by_cases hends : ∃ i status n data, a = .host (.complete i status n data)
  · obtain ⟨i, status, n, data, rfl⟩ := hends
    cases hi : s.inFlight[i]? with
    | none =>
      simp only [Server.seen, Server.brings, hi]
      rfl
    | some t =>
      have hmem : t ∈ s.inFlight := List.mem_of_getElem? hi
      obtain ⟨hnumber, hdir⟩ := (hs.carries.inFlight t hmem).1.address
      rw [← (hs.reachable.address (.inFlight hmem)).1] at hnumber hdir
      have hfields : t.urb.ep = t.ev.header.ep.toNat ∧
          t.urb.direction = t.ev.header.direction.toNat := ⟨hnumber, hdir⟩
      simp only [Server.seen, Server.brings, hi, Option.toList_some, List.map_cons, List.map_nil,
        List.filterMap_cons, List.filterMap_nil, RelayEvent.given, List.flatMap_cons,
        List.flatMap_nil, List.append_nil, inStream_singleton, WireNote.urb, Submit.urb,
        hfields.1, hfields.2]
      by_cases hin : t.ev.header.direction.toNat ≠ 0 ∧ t.ev.header.ep.toNat = ep
      · have hzero : t.ev.header.ep ≠ 0 := by
          intro hzero
          rw [hzero] at hin
          exact hep hin.2.symm
        have hout : t.ev.header.direction ≠ 0 := by
          intro hzero
          rw [hzero] at hin
          exact hin.1 rfl
        have hall : n = t.ev.cmdSubmit.transferBufferLength.toNat :=
          ha t hi (by rw [hfields.2]; exact hin.1) (by rw [hfields.1, hin.2]; exact hep)
        rw [if_pos hin, if_pos hin]
        simp only [Callback.answer, if_neg hzero, if_neg hout, ← hall, min_self, List.drop_zero]
      · rw [if_neg hin, if_neg hin]
  · have hnone : ∀ i status n data, a ≠ .host (.complete i status n data) :=
      fun i status n data h => hends ⟨i, status, n, data, h⟩
    rw [seen_given_eq_nil m.1 hnone, brings_eq_nil ep hnone]
    rfl

section Boot

variable {lib : HostLib} {devRecv header cmdSubmit transferBuffer cmdUnlink : Bytes}

theorem run_noted {as : List Action} {t : Server}
    {m : WireNote × List (RelayEvent ℕ Urb UrbAnswer)}
    (h : exec (watch step noteRelay)
      (.boot lib devRecv header cmdSubmit transferBuffer cmdUnlink, ({}, [])) as = some (t, m))
    (hrelays : Always step Relays
      (.boot lib devRecv header cmdSubmit transferBuffer cmdUnlink) as) : t.Noted m.2 := by
  have hstep : ∀ (s : Server) (m : WireNote × List (RelayEvent ℕ Urb UrbAnswer)) (a : Action)
      (u : Server), s.Noted m.2 → Relays s a → step s a = some u → u.Noted (noteRelay s a m).2 :=
    fun s m a u hs ha hu => step_noted hs ha hu
  exact watch_invariant (I := fun s m => Server.Noted s m.2) hstep ⟨rfl, rfl⟩ hrelays h

theorem run_given {as : List Action} {t : Server} {w : WireNote}
    {es : List (RelayEvent ℕ Urb UrbAnswer)} {ep : ℕ} {bytes : Bytes} (hep : ep ≠ 0)
    (h : exec (watch step noteRelay)
      (.boot lib devRecv header cmdSubmit transferBuffer cmdUnlink, ({}, [])) as =
        some (t, (w, es)))
    (hdevice : exec (watch step (noteDevice ep))
      (.boot lib devRecv header cmdSubmit transferBuffer cmdUnlink, []) as = some (t, bytes))
    (hrelays : Always step Relays
      (.boot lib devRecv header cmdSubmit transferBuffer cmdUnlink) as)
    (hasked : Always step BringsAsked
      (.boot lib devRecv header cmdSubmit transferBuffer cmdUnlink) as) :
    inStream ep (es.filterMap RelayEvent.given) = bytes := by
  have hstep : ∀ (s : Server) (m : (WireNote × List (RelayEvent ℕ Urb UrbAnswer)) × Bytes)
      (a : Action) (u : Server),
      (s.Relaying m.1 ∧ inStream ep (m.1.2.filterMap RelayEvent.given) = m.2) →
      (Relays s a ∧ BringsAsked s a) → step s a = some u →
      u.Relaying (noteRelay s a m.1) ∧
        inStream ep ((noteRelay s a m.1).2.filterMap RelayEvent.given) =
          noteDevice ep s a m.2 := by
    rintro s m a u ⟨hs, hgiven⟩ ⟨ha, hall⟩ hu
    refine ⟨step_relaying hs ha hu, ?_⟩
    rw [noteRelay, noteDevice, List.filterMap_append, inStream_append, hgiven,
      hs.inStream_seen hep hall]
  have hboot : (Server.boot lib devRecv header cmdSubmit transferBuffer cmdUnlink).Relaying
      ({}, []) := run_relaying (exec_nil _) trivial
  exact (watch_invariant
    (I := fun s (m : (WireNote × List (RelayEvent ℕ Urb UrbAnswer)) × Bytes) =>
      Server.Relaying s m.1 ∧ inStream ep (m.1.2.filterMap RelayEvent.given) = m.2)
    hstep ⟨hboot, rfl⟩ (hrelays.and hasked) (exec_watch_pair h hdevice)).2

/-- The RET_SUBMITs say what the transfers have come to, in the order they ended, except for replies
that were not sent; so for each IN endpoint their data are a prefix of what the transfers brought
there, each cut to what its request asked for, and all of it when no reply is under way. Where
the transfers bring as much as was asked for, nothing is cut from what the device sends. -/
theorem in_stream_in_order {as : List Action} {t : Server} {w : WireNote}
    {es : List (RelayEvent ℕ Urb UrbAnswer)}
    (h : exec (watch step noteRelay)
      (.boot lib devRecv header cmdSubmit transferBuffer cmdUnlink, ({}, [])) as =
        some (t, (w, es)))
    (hrelays : Always step Relays
      (.boot lib devRecv header cmdSubmit transferBuffer cmdUnlink) as) :
    t.told = (es.filterMap RelayEvent.told).map Prod.snd ∧
      (es.filterMap RelayEvent.told).Sublist (es.filterMap RelayEvent.given) ∧
      (t.history.silent = [] → ∀ ep,
        inStream ep (es.filterMap RelayEvent.told) <+: inStream ep (es.filterMap RelayEvent.given) ∧
          (t.callback = none → inStream ep (es.filterMap RelayEvent.told) =
            inStream ep (es.filterMap RelayEvent.given))) ∧
      (t.history.silent = [] → Always step BringsAsked
        (.boot lib devRecv header cmdSubmit transferBuffer cmdUnlink) as →
        ∀ ep bytes, ep ≠ 0 → exec (watch step (noteDevice ep))
          (.boot lib devRecv header cmdSubmit transferBuffer cmdUnlink, []) as = some (t, bytes) →
            inStream ep (es.filterMap RelayEvent.told) <+: bytes ∧
              (t.callback = none → inStream ep (es.filterMap RelayEvent.told) = bytes)) := by
  obtain ⟨htold, hlost⟩ := run_noted h hrelays
  obtain ⟨u, hu, hR⟩ := (run_relaying h hrelays).relayed
  obtain ⟨hsub, hall⟩ := Relay.told_in_order hu
  have hstream : t.history.silent = [] → ∀ ep,
      inStream ep (es.filterMap RelayEvent.told) <+: inStream ep (es.filterMap RelayEvent.given) ∧
        (t.callback = none → inStream ep (es.filterMap RelayEvent.told) =
          inStream ep (es.filterMap RelayEvent.given)) := by
    intro hsilent ep
    have hnone : es.filterMap RelayEvent.lost = [] := by
      rw [hsilent] at hlost
      exact List.eq_nil_of_length_eq_zero hlost
    have hsplit := congrArg (inStream ep) (hall hnone)
    rw [inStream_append] at hsplit
    refine ⟨⟨_, hsplit⟩, fun hidle => ?_⟩
    rw [← hsplit, hR.answers, hidle]
    exact (List.append_nil _).symm
  refine ⟨htold.symm, hsub, hstream, fun hsilent hasked ep bytes hep hdevice => ?_⟩
  have hgiven := run_given hep h hdevice hrelays hasked
  rw [← hgiven]
  exact hstream hsilent ep

end Boot

def reportsRead : List Action :=
  keyboardEnumeration ++ importing 3 (importSession [submitIn 7 1 2, submitIn 8 1 2]).stream ++
    submitting ++ handlingBulk ++ bringing [0x01, 0x02] ++
    submitting ++ handlingBulk ++ bringing [0x03, 0x04]

theorem in_stream_in_order_reportsRead :
    ∃ t w es, exec (watch step noteRelay) (coldBoot, ({}, [])) reportsRead = some (t, (w, es)) ∧
      t.told.length = 2 ∧ exec (watch step (noteDevice 1)) (coldBoot, []) reportsRead =
        some (t, [0x01, 0x02, 0x03, 0x04]) ∧
      inStream 1 (es.filterMap RelayEvent.told) = [0x01, 0x02, 0x03, 0x04] := by
  have hrun : (exec (watch step noteRelay) (coldBoot, ({}, [])) reportsRead).map (fun x =>
      (x.1.told.length, x.1.history.silent.isEmpty, x.1.callback.isNone)) =
      some (2, true, true) := by
    decide +kernel
  have hsent : (exec (watch step (noteDevice 1)) (coldBoot, []) reportsRead).map Prod.snd =
      some [0x01, 0x02, 0x03, 0x04] := by
    decide +kernel
  have hrelays : Always step Relays coldBoot reportsRead := by decide +kernel
  have hasked : Always step BringsAsked coldBoot reportsRead := by decide +kernel
  obtain ⟨⟨t, w, es⟩, ht, hstate⟩ := Option.map_eq_some_iff.1 hrun
  simp only [Prod.mk.injEq, List.isEmpty_iff, Option.isNone_iff_eq_none] at hstate
  obtain ⟨hcount, hsilent, hidle⟩ := hstate
  obtain ⟨⟨t', bytes⟩, hdevice, hbytes⟩ := Option.map_eq_some_iff.1 hsent
  obtain rfl : t' = t :=
    Option.some.inj ((exec_of_watch hdevice).symm.trans (exec_of_watch ht))
  obtain rfl : bytes = _ := hbytes
  obtain ⟨-, -, -, hstream⟩ := in_stream_in_order ht hrelays
  exact ⟨t', w, es, ht, hcount, hdevice,
    (hstream hsilent hasked 1 _ (by decide) hdevice).2 hidle⟩

end UsbRepeater
