import UsbRepeater.SubmitOrder

/-! The order of RET_SUBMITs. The events of a loop reach the host library in the order they were
posted; if the library ends the transfers of one pipe in the order it took them, the replies for
that pipe follow the order of the requests, with some left out at most. -/
namespace UsbRepeater

open Schedule Fifo

/-- The pipe a request is for: none for the default control pipe, else the endpoint address. -/
def Submit.pipe (ev : Submit) : Option UInt8 :=
  if ev.header.ep = 0 then none else some (endpointAddress ev)

/-- The host library ends the transfers of one pipe in the order it took them. -/
def EndsInOrder (s : Server) : Action → Prop
  | .host (.complete i _ _ _) =>
      ∀ t ∈ s.inFlight[i]?, ∀ x ∈ s.inFlight.take i, x.ev.pipe ≠ t.ev.pipe
  | _ => True

instance (s : Server) (a : Action) : Decidable (EndsInOrder s a) :=
  match a with
  | .host (.complete i _ _ _) =>
      inferInstanceAs (Decidable (∀ t ∈ s.inFlight[i]?, ∀ x ∈ s.inFlight.take i, _))
  | .host .clear => isTrue trivial
  | .host (.send _ _) => isTrue trivial
  | .tcp _ => isTrue trivial
  | .loop1 _ => isTrue trivial
  | .loop2 _ => isTrue trivial
  | .driver _ => isTrue trivial

/-- The requests that the host library took, the answered ones first. -/
def Server.taken (s : Server) : List Submit :=
  s.replies.map Prod.fst ++
    (s.callback.toList.map (fun c => c.transfer.ev) ++ s.inFlight.map UsbTransfer.ev)

def Server.handing (s : Server) : Action → List (ℕ × UsbTransfer)
  | .loop2 a => (s.hands a).toList
  | _ => []

theorem noteTraffic_handed (s : Server) (a : Action) (m : Traffic) :
    (noteTraffic s a m).handed = m.handed ++ s.handing a := by
  have hnil : m.handed = m.handed ++ [] := (List.append_nil _).symm
  unfold noteTraffic
  split
  · split_ifs <;> exact hnil
  · rfl
  · rename_i hloop
    cases a with
    | loop2 a => exact absurd rfl (hloop a)
    | _ => exact hnil

theorem taken_congr {s t : Server} (hr : t.replies = s.replies) (hc : t.callback = s.callback)
    (hf : t.inFlight = s.inFlight) : t.taken = s.taken := by
  rw [Server.taken, hr, hc, hf]
  rfl

theorem HostEffect.taken_sublist {s t : Server} {a : HostAction} (h : HostEffect s a t)
    (horder : EndsInOrder s (.host a)) (p : Option UInt8) :
    (lane Submit.pipe p t.taken).Sublist (lane Submit.pipe p s.taken) := by
  cases h with
  | complete i tr status n data hcb hi =>
    have hev : (s.inFlight.map UsbTransfer.ev)[i]? = some tr.ev := by
      rw [List.getElem?_map, hi]
      rfl
    have herase : (s.inFlight.eraseIdx i).map UsbTransfer.ev =
        (s.inFlight.map UsbTransfer.ev).eraseIdx i := (List.eraseIdx_map _ _ _).symm
    have hlane : lane Submit.pipe p (tr.ev :: (s.inFlight.map UsbTransfer.ev).eraseIdx i) =
        lane Submit.pipe p (s.inFlight.map UsbTransfer.ev) := by
      by_cases hp : tr.ev.pipe = p
      · subst hp
        rw [lane_cons_self rfl]
        refine (lane_eraseIdx_self hev fun x hx => ?_).symm
        rw [← List.map_take] at hx
        obtain ⟨y, hy, rfl⟩ := List.mem_map.1 hx
        exact horder tr hi y hy
      · rw [lane_cons_of_ne hp, lane_eraseIdx_of_ne hev hp]
    have hafter : Server.taken { s with
        inFlight := s.inFlight.eraseIdx i
        callback := some ⟨{ tr with dataBuffer := sized tr.dataBuffer.length data }, status, n,
          false⟩ } =
        s.replies.map Prod.fst ++ (tr.ev :: (s.inFlight.eraseIdx i).map UsbTransfer.ev) := rfl
    have hbefore : s.taken = s.replies.map Prod.fst ++ s.inFlight.map UsbTransfer.ev := by
      rw [Server.taken, hcb]
      rfl
    rw [hafter, hbefore, lane_append, lane_append, herase, hlane]
  | clear c hcb hcl =>
    have hsame : Server.taken { s with
        ep1TransferPending :=
          s.ep1TransferPending && (c.transfer.control || callbackEp c.transfer != 1)
        ep2TransferPending :=
          s.ep2TransferPending && (c.transfer.control || callbackEp c.transfer != 2)
        callback := some { c with cleared := true } } = s.taken := by
      rw [Server.taken, Server.taken, hcb]
      rfl
    rw [hsame]
  | silent c heap r hcb hr =>
    have hbefore : s.taken = s.replies.map Prod.fst ++
        (c.transfer.ev :: s.inFlight.map UsbTransfer.ev) := by
      rw [Server.taken, hcb]
      rfl
    have hsub : ((s.endCallback c.transfer.ev).silence c.transfer.ev).taken.Sublist s.taken := by
      rw [hbefore]
      exact (List.sublist_cons_self _ _).append_left _
    exact hsub.filter _
  | reply c conn heap r n hcb hskt hconn hnum hn hr =>
    have hsame : ((s.endCallback c.transfer.ev).emit
        ⟨conn.id, .retSubmit c.transfer.ev (c.reply heap), c.frame heap, n⟩).taken = s.taken := by
      have hreplies : ((s.endCallback c.transfer.ev).emit
          ⟨conn.id, .retSubmit c.transfer.ev (c.reply heap), c.frame heap, n⟩).replies =
          s.replies ++ [(c.transfer.ev, c.reply heap)] := by
        simp only [Server.replies, Server.emit, Server.endCallback, List.filterMap_append,
          List.filterMap_cons, List.filterMap_nil, Message.reply]
      rw [Server.taken, Server.taken, hreplies, hcb, List.map_append, List.append_assoc]
      rfl
    rw [hsame]

/-- The requests taken stay in the order they were handed over in. -/
theorem step_taken {s t : Server} {a : Action} (h : step s a = some t)
    (horder : EndsInOrder s a) (p : Option UInt8) :
    (lane Submit.pipe p t.taken).Sublist
      (lane Submit.pipe p (s.taken ++ (s.handing a).map fun x => x.2.ev)) := by
  have hkeep : ∀ {u : Server}, u.taken = s.taken →
      (lane Submit.pipe p u.taken).Sublist
        (lane Submit.pipe p (s.taken ++ (s.handing a).map fun x => x.2.ev)) := by
    intro u hu
    rw [hu, lane_append]
    exact List.sublist_append_left _ _
  cases a with
  | tcp a =>
    obtain ⟨-, heff⟩ := tcpStep_effect h
    cases heff with
    | unlink tcp c r n htcp hpc hc hn hr =>
      exact hkeep (taken_congr (replies_emit rfl) rfl rfl)
    | _ => exact hkeep rfl
  | loop1 a =>
    obtain ⟨-, heff⟩ := loop1Step_effect h
    cases heff with
    | send loop1 c m hc hm hmsg =>
      refine hkeep (taken_congr (replies_emit ?_) rfl rfl)
      rcases hmsg with h | ⟨rep, h⟩ <;> rw [h] <;> rfl
    | _ => exact hkeep rfl
  | loop2 a =>
    obtain ⟨-, heff⟩ := loop2Step_effect h
    have hsubmit : ∀ {u : Server} {j l : ℕ} {tr : UsbTransfer},
        s.loop2.handlers[j]? = some (l, .built tr) → a = .submit j true →
        u.replies = s.replies → u.callback = s.callback → u.inFlight = s.inFlight ++ [tr] →
        (lane Submit.pipe p u.taken).Sublist
          (lane Submit.pipe p (s.taken ++ (s.handing (.loop2 a)).map fun x => x.2.ev)) := by
      intro u j l tr hj ha hr hc hf
      have hhanding : (s.handing (.loop2 a)).map (fun x => x.2.ev) = [tr.ev] := by
        simp only [ha, Server.handing, Server.hands, hj]
        rfl
      have htaken : u.taken = s.taken ++ [tr.ev] := by
        rw [Server.taken, hr, hc, hf, List.map_append, Server.taken, List.append_assoc,
          List.append_assoc]
        rfl
      rw [hhanding, htaken]
    cases heff with
    | submitControl j l tr hj hc => exact hsubmit hj rfl rfl rfl rfl
    | submitBulk j l tr hj hc => exact hsubmit hj rfl rfl rfl rfl
    | _ => exact hkeep rfl
  | host a =>
    obtain ⟨-, heff⟩ := hostStep_effect h
    have hnil : (s.handing (.host a)).map (fun x => x.2.ev) = [] := rfl
    rw [hnil, List.append_nil]
    exact heff.taken_sublist horder p
  | driver a =>
    obtain ⟨-, -, d, e, -, rfl⟩ := driverStep_effect h
    cases e <;> exact hkeep rfl

structure Server.InTurn (s : Server) (m : Traffic) : Prop where
  tracked : s.Tracked m
  accounted : s.Accounted
  taken : ∀ p, (lane Submit.pipe p s.taken).Sublist
    (lane Submit.pipe p (m.handed.map fun x => x.2.ev))

theorem step_inTurn {s t : Server} {a : Action} {m : Traffic} (hs : s.InTurn m)
    (horder : EndsInOrder s a) (h : step s a = some t) : t.InTurn (noteTraffic s a m) where
  tracked := step_tracked hs.tracked h
  accounted := step_accounted hs.accounted h
  taken p := by
    rw [noteTraffic_handed, List.map_append, lane_append]
    refine (step_taken h horder p).trans ?_
    rw [lane_append]
    exact (hs.taken p).append_right _

theorem Server.InTurn.handed_of_loop {s : Server} {m : Traffic} (hs : s.InTurn m) (l : ℕ) :
    (m.handed.map fun x => x.2.ev).filter (fun ev => (l, ev) ∈ m.posted) =
      (lane Prod.fst l (m.handed.map fun x => (x.1, x.2.ev))).map Prod.snd := by
  have hposted : ∀ x ∈ m.handed, (x.1, x.2.ev) ∈ m.posted := by
    intro x hx
    have hlane : (x.1, x.2.ev) ∈ lane Prod.fst x.1 (m.handed.map fun x => (x.1, x.2.ev)) :=
      List.mem_filter.2 ⟨List.mem_map.2 ⟨x, hx, rfl⟩, by simp⟩
    have hkept := hs.tracked.handed_eq hs.accounted x.1
    have hmem := hkept ▸ List.mem_append_left _ hlane
    exact (lane_sublist x.1 m.posted).mem (List.mem_filter.1 hmem).1
  have hone : ∀ {k j : ℕ} {ev : Submit}, (k, ev) ∈ m.posted → (j, ev) ∈ m.posted → k = j := by
    intro k j ev hk hj
    have hnodup := hs.accounted.posted_nodup
    rw [← hs.tracked.posted] at hnodup
    exact congrArg Prod.fst (List.inj_on_of_nodup_map hnodup hk hj rfl)
  rw [lane, List.filter_map, List.filter_map, List.map_map]
  refine congrArg (List.map fun x : ℕ × UsbTransfer => x.2.ev) (List.filter_congr fun x hx => ?_)
  refine decide_eq_decide.2 ⟨fun hl => ?_, fun hl => ?_⟩
  · exact (hone (hposted x hx) hl)
  · obtain rfl : x.1 = l := hl
    exact hposted x hx

section Boot

variable {lib : HostLib} {devRecv header cmdSubmit transferBuffer cmdUnlink : Bytes}

theorem boot_inTurn :
    (Server.boot lib devRecv header cmdSubmit transferBuffer cmdUnlink).InTurn {} where
  tracked := boot_tracked
  accounted := boot_accounted lib devRecv header cmdSubmit transferBuffer cmdUnlink
  taken _ := List.Sublist.refl []

/-- In every run whose transfers end in order pipe by pipe, the requests of a loop that were
answered for one pipe, in the order of their replies, are among those posted for it, in the order
of posting. -/
theorem replies_in_order {as : List Action} {t : Server} {m : Traffic}
    (h : exec (watch step noteTraffic)
      (.boot lib devRecv header cmdSubmit transferBuffer cmdUnlink, {}) as = some (t, m))
    (horder : Always step EndsInOrder
      (.boot lib devRecv header cmdSubmit transferBuffer cmdUnlink) as)
    (l : ℕ) (p : Option UInt8) :
    (lane Submit.pipe p ((t.replies.map Prod.fst).filter fun ev => (l, ev) ∈ m.posted)).Sublist
      (lane Submit.pipe p ((lane Prod.fst l m.posted).map Prod.snd)) := by
  have hstep : ∀ s m a u, Server.InTurn s m → EndsInOrder s a → step s a = some u →
      u.InTurn (noteTraffic s a m) := fun s m a u hs ho hu => step_inTurn hs ho hu
  have hturn := watch_invariant hstep boot_inTurn horder h
  have hreplied : (lane Submit.pipe p (t.replies.map Prod.fst)).Sublist
      (lane Submit.pipe p (m.handed.map fun x => x.2.ev)) := by
    have hsub : (t.replies.map Prod.fst).Sublist t.taken := List.sublist_append_left _ _
    exact (hsub.filter _).trans (hturn.taken p)
  have hhanded : ((lane Prod.fst l (m.handed.map fun x => (x.1, x.2.ev))).map Prod.snd).Sublist
      ((lane Prod.fst l m.posted).map Prod.snd) := by
    have hkept := hturn.tracked.handed_eq hturn.accounted l
    have hsub : (lane Prod.fst l (m.handed.map fun x => (x.1, x.2.ev))).Sublist
        ((lane Prod.fst l m.posted).filter fun x => x ∉ m.dropped) := by
      rw [← hkept]
      exact List.sublist_append_left _ _
    exact (hsub.trans List.filter_sublist).map _
  rw [lane_filter]
  refine (hreplied.filter _).trans ?_
  rw [← lane_filter, hturn.handed_of_loop l]
  exact hhanded.filter _

end Boot

def twoDescriptors : List Action :=
  keyboardEnumeration ++
    importing 3 (importSession [submitIn 7 0 18, submitIn 8 0 9]).stream ++
    submitting ++ submitting ++ handlingControl true ++ handlingControl true ++
    completing 26 ++ completing 17

theorem replies_in_order_twoDescriptors :
    ∃ t m, exec (watch step noteTraffic) (coldBoot, {}) twoDescriptors = some (t, m) ∧
      t.replies.length = 2 ∧
      (lane Submit.pipe none
          ((t.replies.map Prod.fst).filter fun ev => (1, ev) ∈ m.posted)).Sublist
        (lane Submit.pipe none ((lane Prod.fst 1 m.posted).map Prod.snd)) := by
  have hrun : (exec (watch step noteTraffic) (coldBoot, {}) twoDescriptors).map (fun x =>
      x.1.replies.length) = some 2 := by
    decide +kernel
  have horder : Always step EndsInOrder coldBoot twoDescriptors := by decide +kernel
  obtain ⟨⟨t, m⟩, ht, htwo⟩ := Option.map_eq_some_iff.1 hrun
  exact ⟨t, m, ht, htwo, replies_in_order ht horder 1 none⟩

end UsbRepeater
