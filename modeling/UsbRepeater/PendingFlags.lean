import UsbRepeater.Carried
import UsbRepeater.Replies

/-! The two pending flags. A flag is checked before a transfer is submitted, set after the host
library has taken it, cleared by its callback and reset when a connection is cleaned up. An
abstract endpoint counts who is where; every step of the firmware is a move of it. -/
namespace UsbRepeater

open Schedule

/-- One tracked endpoint: its flag, the handlers between their check and their submit, those
about to set the flag, and the accepted transfers, in flight or in a callback that has not yet
come to the flag. -/
structure Endpoint where
  pending : Bool
  entering : ℕ
  marking : ℕ
  inFlight : ℕ
  completing : ℕ

/-- The moves of an endpoint. `foreign` is the callback of a transfer whose address only looks
like this endpoint's. -/
inductive EndpointMove
  | stay | enter | leave | accept | mark | complete | clear | foreign | reset
  deriving DecidableEq

inductive Endpoint.Moves (v : Endpoint) : EndpointMove → Endpoint → Prop
  | stay : v.Moves .stay v
  | enter (w : Endpoint) (hclear : v.pending = false)
      (h : w = { v with entering := v.entering + 1 }) : v.Moves .enter w
  | leave (w : Endpoint) (h : v = { w with entering := w.entering + 1 }) : v.Moves .leave w
  | accept (w : Endpoint)
      (h : { v with marking := v.marking + 1, inFlight := v.inFlight + 1 } =
        { w with entering := w.entering + 1 }) : v.Moves .accept w
  | mark (w : Endpoint) (h : { v with pending := true } = { w with marking := w.marking + 1 }) :
      v.Moves .mark w
  | complete (w : Endpoint)
      (h : { v with completing := v.completing + 1 } = { w with inFlight := w.inFlight + 1 }) :
      v.Moves .complete w
  | clear (w : Endpoint)
      (h : { v with pending := false } = { w with completing := w.completing + 1 }) :
      v.Moves .clear w
  | foreign (w : Endpoint) (h : w = { v with pending := false }) : v.Moves .foreign w
  | reset (w : Endpoint) (h : w = { v with pending := false }) : v.Moves .reset w

def Endpoint.accepted (v : Endpoint) : ℕ := v.inFlight + v.completing

/-- Whoever enters is alone, and the flag is reset only when no transfer stands behind it, or
when it is about to be set again. -/
def Endpoint.Exclusive (v : Endpoint) : EndpointMove → Prop
  | .enter => v.entering = 0 ∧ v.marking = 0
  | .reset => v.accepted = 0 ∨ 0 < v.marking
  | _ => True

instance (v : Endpoint) (m : EndpointMove) : Decidable (v.Exclusive m) := by
  unfold Endpoint.Exclusive
  split <;> infer_instance

/-- At most one handler or transfer, and the flag is set behind an accepted one, or is about to
be. -/
structure Endpoint.Single (v : Endpoint) : Prop where
  one : v.entering + v.accepted ≤ 1
  marked : 0 < v.accepted → v.pending = true ∨ 0 < v.marking

theorem Endpoint.Moves.single {v w : Endpoint} {m : EndpointMove} (h : v.Moves m w)
    (hv : v.Single) (hm : v.Exclusive m) (hown : m ≠ .foreign) : w.Single := by
  obtain ⟨hone, hmarked⟩ := hv
  unfold Endpoint.accepted at hone hmarked
  cases h with
  | stay => exact ⟨hone, hmarked⟩
  | enter _ hclear h =>
    subst h
    obtain ⟨hentering, hmarking⟩ := hm
    have hnone : ¬ 0 < v.inFlight + v.completing := by
      intro hpos
      rcases hmarked hpos with hpending | hpos
      · rw [hclear] at hpending
        cases hpending
      · omega
    exact ⟨by simp only [Endpoint.accepted]; omega, fun hpos => absurd hpos hnone⟩
  | leave _ h =>
    subst h
    exact ⟨by simp only [Endpoint.accepted]; dsimp only at hone; omega, hmarked⟩
  | accept _ h =>
    simp only [Endpoint.mk.injEq] at h
    obtain ⟨hpending, hentering, hmarking, hinFlight, hcompleting⟩ := h
    exact ⟨by simp only [Endpoint.accepted]; omega, fun _ => .inr (by omega)⟩
  | mark _ h =>
    simp only [Endpoint.mk.injEq] at h
    obtain ⟨hpending, hentering, hmarking, hinFlight, hcompleting⟩ := h
    exact ⟨by simp only [Endpoint.accepted]; omega, fun _ => .inl hpending.symm⟩
  | complete _ h =>
    simp only [Endpoint.mk.injEq] at h
    obtain ⟨hpending, hentering, hmarking, hinFlight, hcompleting⟩ := h
    refine ⟨by simp only [Endpoint.accepted]; omega, fun hpos => ?_⟩
    rw [← hpending, ← hmarking]
    exact hmarked (by simp only [Endpoint.accepted] at hpos; omega)
  | clear _ h =>
    simp only [Endpoint.mk.injEq] at h
    obtain ⟨hpending, hentering, hmarking, hinFlight, hcompleting⟩ := h
    refine ⟨by simp only [Endpoint.accepted]; omega, fun hpos => ?_⟩
    simp only [Endpoint.accepted] at hpos
    omega
  | foreign _ h => exact absurd rfl hown
  | reset _ h =>
    subst h
    refine ⟨hone, fun hpos => ?_⟩
    rcases hm with hnone | hmarking
    · simp only [Endpoint.accepted] at hpos hnone
      omega
    · exact .inr hmarking

/-- A callback comes to the flag only when no handler is about to set it, or when the flag will
still stand for another transfer in flight. -/
def Endpoint.InTurn (v : Endpoint) : EndpointMove → Prop
  | .clear => v.marking = 0 ∨ 0 < v.inFlight
  | _ => True

instance (v : Endpoint) (m : EndpointMove) : Decidable (v.InTurn m) := by
  unfold Endpoint.InTurn
  split <;> infer_instance

def Endpoint.Backed (v : Endpoint) : Prop :=
  v.pending = true ∨ 0 < v.marking → 0 < v.accepted

theorem Endpoint.Moves.backed {v w : Endpoint} {m : EndpointMove} (h : v.Moves m w)
    (hv : v.Backed) (hm : v.InTurn m) : w.Backed := by
  unfold Endpoint.Backed Endpoint.accepted at hv ⊢
  cases h with
  | stay => exact hv
  | enter _ hclear h => subst h; exact hv
  | leave _ h => subst h; exact hv
  | accept _ h =>
    simp only [Endpoint.mk.injEq] at h
    omega
  | mark _ h =>
    simp only [Endpoint.mk.injEq] at h
    obtain ⟨hpending, hentering, hmarking, hinFlight, hcompleting⟩ := h
    have hbefore := hv (.inr (by omega))
    omega
  | complete _ h =>
    simp only [Endpoint.mk.injEq] at h
    omega
  | clear _ h =>
    simp only [Endpoint.mk.injEq] at h
    obtain ⟨hpending, hentering, hmarking, hinFlight, hcompleting⟩ := h
    rintro (hset | hpos)
    · rw [← hpending] at hset
      cases hset
    · rcases hm with hnone | hpos
      · omega
      · omega
  | foreign _ h =>
    subst h
    exact fun hset => hv (.inr (hset.resolve_left nofun))
  | reset _ h =>
    subst h
    exact fun hset => hv (.inr (hset.resolve_left nofun))

def UsbTransfer.on (t : UsbTransfer) (e : UInt32) : Bool := t.ev.header.ep == e

def Handler2.entering (e : UInt32) : Handler2 → Bool
  | .checked t | .built t => t.on e
  | _ => false

def Handler2.marking (e : UInt32) : Handler2 → Bool
  | .accepted ep => ep == e
  | _ => false

def Callback.completing (c : Callback) (e : UInt32) : Bool := !c.cleared && c.transfer.on e

def Server.endpoint (s : Server) (e : UInt32) : Endpoint where
  pending := s.pending e
  entering := s.loop2.handlers.countP fun x => x.2.entering e
  marking := s.loop2.handlers.countP fun x => x.2.marking e
  inFlight := s.inFlight.countP fun t => t.on e
  completing := s.callback.toList.countP fun c => c.completing e

/-- What a step means for the endpoint number `e`. -/
def Server.endpointMove (s : Server) (e : UInt32) : Action → EndpointMove
  | .loop2 (.check j) =>
      match s.loop2.handlers[j]? with
      | some (_, .allocated t) => if t.on e && !s.pending e then .enter else .stay
      | _ => .stay
  | .loop2 (.submit j accepted) =>
      match s.loop2.handlers[j]? with
      | some (_, .built t) => if t.on e then if accepted then .accept else .leave else .stay
      | _ => .stay
  | .loop2 (.setPending j) =>
      match s.loop2.handlers[j]? with
      | some (_, .accepted ep) => if ep = e then .mark else .stay
      | _ => .stay
  | .host (.complete i _ _ _) =>
      match s.inFlight[i]? with
      | some t => if t.on e then .complete else .stay
      | none => .stay
  | .host .clear =>
      match s.callback with
      | some c =>
          if c.transfer.on e then .clear
          else if !c.transfer.control && (callbackEp c.transfer).toNat == e.toNat then .foreign
          else .stay
      | none => .stay
  | .tcp .run =>
      if s.tcp.pc = .cleanupEp1 ∧ e = 1 ∨ s.tcp.pc = .cleanupEp2 ∧ e = 2 then .reset else .stay
  | _ => .stay

def addressed : PipelineClaim where
  queued _ := True
  handler
    | .built t => t.bEndpointAddress = endpointAddress t.ev
    | _ => True
  inFlight t := t.bEndpointAddress = endpointAddress t.ev
  callback t := t.bEndpointAddress = endpointAddress t.ev

theorem addressed_moves (s : Server) : addressed.Moves s where
  dispatch _ _ := trivial
  fill _ _ _ := trivial
  setSkt _ _ _ := trivial
  alloc _ _ _ _ := trivial
  control _ _ _ := rfl
  checked _ _ _ := trivial
  build t beyond _ := by
    simp only [addressed, buildBulk]
    split_ifs <;> rfl
  submit _ h := h
  accepted _ _ _ := trivial
  complete _ _ h := h

theorem endpointAddress_toNat (ev : Submit) :
    (endpointAddress ev &&& 0x7F).toNat = ev.header.ep.toNat % 128 := by
  have hmask : ∀ n : ℕ, n &&& 127 = n % 2 ^ 7 := fun n => Nat.and_two_pow_sub_one_eq_mod n 7
  have hdir : ev.header.direction.toNat <<< 7 % 2 ^ 32 % 2 ^ 7 = 0 := by
    rw [Nat.mod_mod_of_dvd _ (Nat.pow_dvd_pow 2 (by decide)), Nat.shiftLeft_eq]
    exact Nat.mul_mod_left _ _
  have hword : (ev.header.ep ||| ev.header.direction <<< 7).toNat =
      ev.header.ep.toNat ||| ev.header.direction.toNat <<< 7 % 2 ^ 32 := by
    simp
  rw [endpointAddress, UInt8.toNat_and, UInt32.toNat_toUInt8, hword]
  have hseven : (0x7F : UInt8).toNat = 127 := rfl
  rw [hseven, hmask, Nat.mod_mod_of_dvd _ (by decide : 2 ^ 7 ∣ 256), Nat.or_mod_two_pow, hdir,
    Nat.or_zero]

theorem callbackEp_toNat {t : UsbTransfer} (h : t.bEndpointAddress = endpointAddress t.ev) :
    (callbackEp t).toNat = t.ev.header.ep.toNat % 128 := by
  rw [callbackEp, h, endpointAddress_toNat]

theorem countP_setHandler2 {s : Server} {j l : ℕ} {h : Handler2} (p : Handler2 → Bool)
    (hj : s.loop2.handlers[j]? = some (l, h)) (h' : Handler2) :
    (s.setHandler2 j h').loop2.handlers.countP (fun x => p x.2) + (p h).toNat =
      s.loop2.handlers.countP (fun x => p x.2) + (p h').toNat := by
  have hnew := Flow.countP_modify (fun x => p x.2) (fun x => (x.1, h')) hj
  have hold := Flow.countP_eraseIdx (fun x => p x.2) hj
  dsimp only [Server.setHandler2] at hnew ⊢
  rw [hnew, hold]
  cases p h <;> cases p h' <;> simp

theorem countP_endHandler2 {s : Server} {j l : ℕ} {h : Handler2} (p : Handler2 → Bool)
    (hj : s.loop2.handlers[j]? = some (l, h)) :
    (s.endHandler2 j).loop2.handlers.countP (fun x => p x.2) + (p h).toNat =
      s.loop2.handlers.countP fun x => p x.2 := by
  have hold := Flow.countP_eraseIdx (fun x => p x.2) hj
  dsimp only [Server.endHandler2]
  rw [hold]
  cases p h <;> simp

theorem endpoint_setHandler2 {s : Server} {j l : ℕ} {h h' : Handler2} {e : UInt32}
    (hj : s.loop2.handlers[j]? = some (l, h)) (hentering : h'.entering e = h.entering e)
    (hmarking : h'.marking e = h.marking e) : (s.setHandler2 j h').endpoint e = s.endpoint e := by
  have hcount := countP_setHandler2 (Handler2.entering e) hj h'
  have hmark := countP_setHandler2 (Handler2.marking e) hj h'
  rw [hentering, Nat.add_right_cancel_iff] at hcount
  rw [hmarking, Nat.add_right_cancel_iff] at hmark
  exact Endpoint.mk.injEq .. ▸ ⟨rfl, hcount, hmark, rfl, rfl⟩

theorem endpoint_endHandler2 {s : Server} {j l : ℕ} {h : Handler2} {e : UInt32}
    (hj : s.loop2.handlers[j]? = some (l, h)) (hentering : h.entering e = false)
    (hmarking : h.marking e = false) : (s.endHandler2 j).endpoint e = s.endpoint e := by
  have hcount := countP_endHandler2 (Handler2.entering e) hj
  have hmark := countP_endHandler2 (Handler2.marking e) hj
  rw [hentering] at hcount
  rw [hmarking] at hmark
  exact Endpoint.mk.injEq .. ▸ ⟨rfl, hcount, hmark, rfl, rfl⟩

theorem Endpoint.Moves.of_eq {v w : Endpoint} (h : w = v) : v.Moves .stay w := by
  subst h
  exact .stay

theorem UsbTransfer.on_eq_false {t : UsbTransfer} {e : UInt32} (he : e ≠ 0)
    (hep : t.ev.header.ep = 0) : t.on e = false := by
  simpa [UsbTransfer.on, hep] using Ne.symm he

def Tracked (e : UInt32) : Prop := e = 1 ∨ e = 2

theorem Tracked.ne_zero {e : UInt32} (he : Tracked e) : e ≠ 0 := by
  rcases he with rfl | rfl <;> decide

theorem Loop2Effect.endpoint {s t : Server} {a : Loop2Action} {e : UInt32} (he : Tracked e)
    (hs : s.ContextsOk) (h : Loop2Effect s a t) :
    (s.endpoint e).Moves (s.endpointMove e (.loop2 a)) (t.endpoint e) := by
  cases h with
  | dispatch i l ev hi =>
    refine .of_eq ?_
    simp [Server.endpoint, Server.pending, Handler2.entering, Handler2.marking]
  | noReply j l ev hj => exact .of_eq (endpoint_endHandler2 hj rfl rfl)
  | fill j l ev heap hj => exact .of_eq (endpoint_setHandler2 hj rfl rfl)
  | setSkt j l ev ret hj => exact .of_eq (endpoint_setHandler2 hj rfl rfl)
  | noTransfer j l ev ret hj => exact .of_eq (endpoint_endHandler2 hj rfl rfl)
  | alloc j l ev ret heap hj => exact .of_eq (endpoint_setHandler2 hj rfl rfl)
  | control j l tr hj hep =>
    have hoff := UsbTransfer.on_eq_false he.ne_zero hep
    have hmove : s.endpointMove e (.loop2 (.check j)) = .stay := by
      simp [Server.endpointMove, hj, hoff]
    rw [hmove]
    exact .of_eq (endpoint_setHandler2 hj hoff rfl)
  | pending j l tr hj hep hp =>
    have hmove : s.endpointMove e (.loop2 (.check j)) = .stay := by
      simp only [Server.endpointMove, hj]
      split_ifs with henter
      · rw [Bool.and_eq_true, UsbTransfer.on, beq_iff_eq] at henter
        rw [← henter.1, hp] at henter
        simp at henter
      · rfl
    rw [hmove]
    exact .of_eq (endpoint_endHandler2 hj rfl rfl)
  | checked j l tr hj hep hp =>
    by_cases hon : tr.on e = true
    · have hclear : s.pending e = false := by
        rw [UsbTransfer.on, beq_iff_eq] at hon
        rw [← hon, hp]
      have hmove : s.endpointMove e (.loop2 (.check j)) = .enter := by
        simp [Server.endpointMove, hj, hon, hclear]
      have hin : Handler2.entering e (.checked tr) = true := hon
      have hcount := countP_setHandler2 (Handler2.entering e) hj (.checked tr)
      have hmark := countP_setHandler2 (Handler2.marking e) hj (.checked tr)
      rw [hin] at hcount
      rw [hmove]
      exact .enter _ hclear (Endpoint.mk.injEq .. ▸ ⟨rfl, hcount, hmark, rfl, rfl⟩)
    · have hoff : tr.on e = false := by simpa using hon
      have hmove : s.endpointMove e (.loop2 (.check j)) = .stay := by
        simp [Server.endpointMove, hj, hoff]
      rw [hmove]
      exact .of_eq (endpoint_setHandler2 hj hoff rfl)
  | build j l tr beyond hj =>
    refine .of_eq (endpoint_setHandler2 hj ?_ rfl)
    simp only [Handler2.entering, UsbTransfer.on, buildBulk]
    split_ifs <;> rfl
  | rejected j l tr hj =>
    by_cases hon : tr.on e = true
    · have hmove : s.endpointMove e (.loop2 (.submit j false)) = .leave := by
        simp [Server.endpointMove, hj, hon]
      have hin : Handler2.entering e (.built tr) = true := hon
      have hcount := countP_endHandler2 (Handler2.entering e) hj
      have hmark := countP_endHandler2 (Handler2.marking e) hj
      rw [hin] at hcount
      rw [hmove]
      exact .leave _ (Endpoint.mk.injEq .. ▸ ⟨rfl, hcount.symm, hmark.symm, rfl, rfl⟩)
    · have hoff : tr.on e = false := by simpa using hon
      have hmove : s.endpointMove e (.loop2 (.submit j false)) = .stay := by
        simp [Server.endpointMove, hj, hoff]
      rw [hmove]
      exact .of_eq (endpoint_endHandler2 hj hoff rfl)
  | submitControl j l tr hj hc =>
    have hok : tr.Ok := hs.handlers _ (List.mem_of_getElem? hj)
    have hoff := UsbTransfer.on_eq_false he.ne_zero (hok.control.1 hc)
    have hmove : s.endpointMove e (.loop2 (.submit j true)) = .stay := by
      simp [Server.endpointMove, hj, hoff]
    rw [hmove]
    refine .of_eq ((endpoint_endHandler2 (s := { s with inFlight := s.inFlight ++ [tr] }) hj hoff
      rfl).trans ?_)
    simp [Server.endpoint, Server.pending, hoff]
  | submitBulk j l tr hj hc =>
    by_cases hon : tr.on e = true
    · have hmove : s.endpointMove e (.loop2 (.submit j true)) = .accept := by
        simp [Server.endpointMove, hj, hon]
      have hin : Handler2.entering e (.built tr) = true := hon
      have hout : Handler2.marking e (.accepted tr.ev.header.ep) = true := hon
      have hcount := countP_setHandler2 (s := { s with inFlight := s.inFlight ++ [tr] })
        (Handler2.entering e) hj (.accepted tr.ev.header.ep)
      have hmark := countP_setHandler2 (s := { s with inFlight := s.inFlight ++ [tr] })
        (Handler2.marking e) hj (.accepted tr.ev.header.ep)
      rw [hin] at hcount
      rw [hout] at hmark
      have hflight : (s.inFlight ++ [tr]).countP (fun t => t.on e) =
          s.inFlight.countP (fun t => t.on e) + 1 := by
        simp [hon]
      rw [hmove]
      exact .accept _ (Endpoint.mk.injEq .. ▸
        ⟨rfl, hcount.symm, hmark.symm, hflight.symm, rfl⟩)
    · have hoff : tr.on e = false := by simpa using hon
      have hmove : s.endpointMove e (.loop2 (.submit j true)) = .stay := by
        simp [Server.endpointMove, hj, hoff]
      rw [hmove]
      have hset : (Server.setHandler2 { s with inFlight := s.inFlight ++ [tr] } j
          (.accepted tr.ev.header.ep)).endpoint e =
          Server.endpoint { s with inFlight := s.inFlight ++ [tr] } e :=
        endpoint_setHandler2 hj hoff.symm hoff
      refine .of_eq (hset.trans ?_)
      simp [Server.endpoint, Server.pending, hoff]
  | setPending j l ep hj =>
    have hcount := countP_endHandler2 (Handler2.entering e) hj
    have hmark := countP_endHandler2 (Handler2.marking e) hj
    by_cases hep : ep = e
    · subst hep
      have hmove : s.endpointMove ep (.loop2 (.setPending j)) = .mark := by
        simp [Server.endpointMove, hj]
      have hin : Handler2.marking ep (.accepted ep) = true := beq_self_eq_true ep
      rw [hin] at hmark
      rw [hmove]
      refine .mark _ (Endpoint.mk.injEq .. ▸ ⟨?_, hcount.symm, hmark.symm, rfl, rfl⟩)
      rcases he with rfl | rfl <;> simp [Server.endpoint, Server.pending]
    · have hmove : s.endpointMove e (.loop2 (.setPending j)) = .stay := by
        simp [Server.endpointMove, hj, hep]
      have hout : Handler2.marking e (.accepted ep) = false := beq_eq_false_iff_ne.2 hep
      rw [hout] at hmark
      rw [hmove]
      refine .of_eq (Endpoint.mk.injEq .. ▸ ⟨?_, hcount, hmark, rfl, rfl⟩)
      rcases he with rfl | rfl <;> simp [Server.pending, hep]

theorem pending_clear {e : UInt32} (he : Tracked e) (s : Server) (tr : UsbTransfer)
    (callback : Option Callback) :
    Server.pending { s with
      ep1TransferPending := s.ep1TransferPending && (tr.control || callbackEp tr != 1)
      ep2TransferPending := s.ep2TransferPending && (tr.control || callbackEp tr != 2)
      callback := callback } e =
      (s.pending e && (tr.control || (callbackEp tr).toNat != e.toNat)) := by
  rcases he with rfl | rfl <;> simp [Server.pending, bne, ← UInt8.toNat_inj, Bool.beq_eq_decide_eq]

theorem cleared_of_send {s t : Server} {c : Callback} {heap : Bytes} {r : SendResult}
    (hcb : s.callback = some c) (h : step s (.host (.send heap r)) = some t) :
    c.cleared = true := by
  simp only [step, transferCallback, hcb] at h
  by_contra hcl
  rw [if_neg hcl] at h
  split_ifs at h

theorem hostStep_endpoint {s t : Server} {a : HostAction} {e : UInt32} (he : Tracked e)
    (hs : s.ContextsOk) (hc : s.Carries addressed) (h : step s (.host a) = some t) :
    (s.endpoint e).Moves (s.endpointMove e (.host a)) (t.endpoint e) := by
  obtain ⟨-, heff⟩ := hostStep_effect h
  cases heff with
  | complete i tr status n data hcb hi =>
    have hflight := Flow.countP_eraseIdx (fun t => t.on e) hi
    by_cases hon : tr.on e = true
    · have hmove : s.endpointMove e (.host (.complete i status n data)) = .complete := by
        simp [Server.endpointMove, hi, hon]
      rw [if_pos hon] at hflight
      rw [hmove]
      refine .complete _ (Endpoint.mk.injEq .. ▸ ⟨rfl, rfl, rfl, hflight, ?_⟩)
      have hon' : UsbTransfer.on { tr with dataBuffer := sized tr.dataBuffer.length data } e =
          true := hon
      simp [Server.endpoint, hcb, Callback.completing, hon']
    · have hoff : tr.on e = false := by simpa using hon
      have hmove : s.endpointMove e (.host (.complete i status n data)) = .stay := by
        simp [Server.endpointMove, hi, hoff]
      rw [if_neg hon] at hflight
      rw [hmove]
      refine .of_eq (Endpoint.mk.injEq .. ▸ ⟨rfl, rfl, rfl, hflight.symm, ?_⟩)
      have hoff' : UsbTransfer.on { tr with dataBuffer := sized tr.dataBuffer.length data } e =
          false := hoff
      simp [hcb, Callback.completing, hoff']
  | clear c hcb hcl =>
    have hok := hs.callback c hcb
    have hep := callbackEp_toNat (hc.callback c hcb)
    have hflag := pending_clear he s c.transfer (some { c with cleared := true })
    by_cases hon : c.transfer.on e = true
    · have hmove : s.endpointMove e (.host .clear) = .clear := by
        simp [Server.endpointMove, hcb, hon]
      have hsame : c.transfer.ev.header.ep = e := beq_iff_eq.1 hon
      have hctrl : c.transfer.control = false :=
        Bool.eq_false_iff.2 fun h => he.ne_zero (hsame ▸ hok.control.1 h)
      have haddress : (callbackEp c.transfer).toNat = e.toNat := by
        rw [hep, hsame]
        rcases he with rfl | rfl <;> rfl
      rw [hmove]
      refine .clear _ (Endpoint.mk.injEq .. ▸ ⟨?_, rfl, rfl, rfl, ?_⟩)
      · have hgone : (c.transfer.control || (callbackEp c.transfer).toNat != e.toNat) = false := by
          simp [hctrl, haddress]
        rw [hgone, Bool.and_false] at hflag
        exact hflag.symm
      · simp [Server.endpoint, hcb, Callback.completing, hcl, hon]
    · have hoff : c.transfer.on e = false := by simpa using hon
      have hcount : (some { c with cleared := true }).toList.countP (fun c => c.completing e) =
          s.callback.toList.countP fun c => c.completing e := by
        simp [hcb, Callback.completing, hoff]
      by_cases hforeign : (!c.transfer.control && (callbackEp c.transfer).toNat == e.toNat) = true
      · have hmove : s.endpointMove e (.host .clear) = .foreign := by
          simp only [Server.endpointMove, hcb, hoff, if_pos hforeign]
          rfl
        rw [Bool.and_eq_true, Bool.not_eq_true', beq_iff_eq] at hforeign
        have hgone : (c.transfer.control || (callbackEp c.transfer).toNat != e.toNat) = false := by
          simp [hforeign.1, hforeign.2]
        rw [hgone, Bool.and_false] at hflag
        rw [hmove]
        exact .foreign _ (Endpoint.mk.injEq .. ▸ ⟨hflag, rfl, rfl, rfl, hcount⟩)
      · have hmove : s.endpointMove e (.host .clear) = .stay := by
          simp only [Server.endpointMove, hcb, hoff, if_neg hforeign]
          rfl
        rw [hmove]
        refine .of_eq (Endpoint.mk.injEq .. ▸ ⟨?_, rfl, rfl, rfl, hcount⟩)
        have hkeep : (c.transfer.control || (callbackEp c.transfer).toNat != e.toNat) = true := by
          cases hctrl : c.transfer.control <;> simp_all
        rw [hkeep, Bool.and_true] at hflag
        exact hflag
  | silent c heap r hcb hr =>
    have hcl := cleared_of_send hcb h
    refine .of_eq (Endpoint.mk.injEq .. ▸ ⟨rfl, rfl, rfl, rfl, ?_⟩)
    simp [Server.endCallback, Server.silence, hcb, Callback.completing, hcl]
  | reply c conn heap r n hcb hskt hconn hnum hn hr =>
    have hcl := cleared_of_send hcb h
    refine .of_eq (Endpoint.mk.injEq .. ▸ ⟨rfl, rfl, rfl, rfl, ?_⟩)
    simp [Server.endCallback, Server.emit, hcb, Callback.completing, hcl]

theorem cleanup_endpoint {s t : Server} {e k : UInt32}
    (hmove : s.endpointMove e (.tcp .run) = if e = k then .reset else .stay)
    (hpending : t.pending e = if e = k then false else s.pending e)
    (hloop : t.loop2 = s.loop2) (hflight : t.inFlight = s.inFlight)
    (hcallback : t.callback = s.callback) :
    (s.endpoint e).Moves (s.endpointMove e (.tcp .run)) (t.endpoint e) := by
  have ht : t.endpoint e = { s.endpoint e with pending := t.pending e } := by
    rw [Server.endpoint, hloop, hflight, hcallback]
    rfl
  rw [hmove, ht, hpending]
  split_ifs
  · exact .reset _ rfl
  · exact .of_eq rfl

theorem TcpEffect.endpoint {s t : Server} {a : TcpAction} {e : UInt32} (h : TcpEffect s a t) :
    (s.endpoint e).Moves (s.endpointMove e (.tcp a)) (t.endpoint e) := by
  -- only two places of the cleanup touch a flag
  have hstay : s.tcp.pc ≠ .cleanupEp1 → s.tcp.pc ≠ .cleanupEp2 →
      s.endpointMove e (.tcp a) = .stay := by
    intro h1 h2
    cases a <;> simp [Server.endpointMove, h1, h2]
  have hserves : ∀ {tcp : TcpTask}, s.tcp.Serves tcp → s.endpointMove e (.tcp a) = .stay := by
    intro tcp htcp
    refine hstay ?_ ?_ <;> intro hpc <;> rcases htcp.source with h | h <;> rw [hpc] at h <;> cases h
  cases h with
  | own a tcp conn recvBytes urbEntries unlinks htcp hconn =>
    rw [hserves htcp]
    exact .stay
  | acceptFailed stream hpc => exact .stay
  | accept number stream hpc => exact .stay
  | postCommand tcp htcp hpc => exact .stay
  | postSubmit tcp htcp hpc hloop => exact .stay
  | unlink tcp c r n htcp hpc hc hn hr => exact .stay
  | clientGone hpc =>
    rw [hstay (by rw [hpc]; nofun) (by rw [hpc]; nofun)]
    exact .stay
  | cleanupBusy hpc =>
    rw [hstay (by rw [hpc]; nofun) (by rw [hpc]; nofun)]
    exact .stay
  | cleanupEp1 hpc =>
    refine cleanup_endpoint (k := 1) ?_ ?_ rfl rfl rfl
    · simp [Server.endpointMove, hpc]
    · split_ifs with he <;> simp [Server.pending, Server.goto, he]
  | cleanupEp2 hpc =>
    refine cleanup_endpoint (k := 2) ?_ ?_ rfl rfl rfl
    · simp [Server.endpointMove, hpc]
    · split_ifs with he <;> simp [Server.pending, Server.goto, he]
  | close hpc =>
    rw [hstay (by rw [hpc]; nofun) (by rw [hpc]; nofun)]
    exact .stay

/-- The refinement: a step of the firmware is a move of each tracked endpoint. -/
theorem step_endpoint {s t : Server} {a : Action} {e : UInt32} (he : Tracked e)
    (hs : s.ContextsOk) (hc : s.Carries addressed) (h : step s a = some t) :
    (s.endpoint e).Moves (s.endpointMove e a) (t.endpoint e) := by
  cases a with
  | tcp a => exact (tcpStep_effect h).2.endpoint
  | loop1 a =>
    obtain ⟨-, heff⟩ := loop1Step_effect h
    cases heff <;> exact .stay
  | loop2 a => exact (loop2Step_effect h).2.endpoint he hs
  | host a => exact hostStep_endpoint he hs hc h
  | driver a =>
    obtain ⟨-, -, d, e, -, rfl⟩ := driverStep_effect h
    cases e <;> exact .stay

def Server.OneTransfer (s : Server) : Prop := ∀ e, Tracked e → (s.endpoint e).inFlight ≤ 1

/-- While no handler is at work, a flag that is set has a transfer behind it: one in flight, or
one whose callback is about to clear the flag. -/
def Server.FlagsBacked (s : Server) : Prop :=
  s.loop2.handlers = [] → ∀ e, Tracked e → s.pending e = true → 0 < (s.endpoint e).accepted

def EndpointsInRange (s : Server) : Action → Prop
  | .tcp (.post true) => s.tcp.pc = .postSubmit → s.header.ep.toNat ≤ 15
  | _ => True

def EndpointsExclusive (s : Server) (a : Action) : Prop :=
  (s.endpoint 1).Exclusive (s.endpointMove 1 a) ∧ (s.endpoint 2).Exclusive (s.endpointMove 2 a)

def EndpointsInTurn (s : Server) (a : Action) : Prop :=
  (s.endpoint 1).InTurn (s.endpointMove 1 a) ∧ (s.endpoint 2).InTurn (s.endpointMove 2 a)

instance (s : Server) : ∀ a, Decidable (EndpointsInRange s a)
  | .tcp (.post true) =>
      inferInstanceAs (Decidable (s.tcp.pc = .postSubmit → s.header.ep.toNat ≤ 15))
  | .tcp (.post false) | .tcp .run | .tcp (.accept _ _) | .tcp (.recv _) | .tcp (.send _)
  | .loop1 _ | .loop2 _ | .host _ | .driver _ => isTrue trivial

instance (s : Server) (a : Action) : Decidable (EndpointsExclusive s a) := by
  unfold EndpointsExclusive
  infer_instance

instance (s : Server) (a : Action) : Decidable (EndpointsInTurn s a) := by
  unfold EndpointsInTurn
  infer_instance

theorem EndpointsExclusive.of_tracked {s : Server} {a : Action} (h : EndpointsExclusive s a)
    {e : UInt32} (he : Tracked e) : (s.endpoint e).Exclusive (s.endpointMove e a) := by
  rcases he with rfl | rfl
  · exact h.1
  · exact h.2

theorem EndpointsInTurn.of_tracked {s : Server} {a : Action} (h : EndpointsInTurn s a)
    {e : UInt32} (he : Tracked e) : (s.endpoint e).InTurn (s.endpointMove e a) := by
  rcases he with rfl | rfl
  · exact h.1
  · exact h.2

def inRange : PipelineClaim where
  queued ev := ev.header.ep.toNat ≤ 15
  handler h := ∀ ev, h.request = some ev → ev.header.ep.toNat ≤ 15
  inFlight t := t.ev.header.ep.toNat ≤ 15
  callback t := t.ev.header.ep.toNat ≤ 15

theorem inRange_moves (s : Server) : inRange.Moves s where
  dispatch ev h := by
    rintro ev' ⟨⟩
    exact h
  fill _ _ h := h
  setSkt _ _ h := h
  alloc _ _ _ h := h
  control _ h _ := h
  checked _ h _ := h
  build t beyond h := by
    rintro ev ⟨⟩
    rw [buildBulk_ev]
    exact h t.ev rfl
  submit t h := h t.ev rfl
  accepted _ _ _ := nofun
  complete _ _ h := h

theorem endpointMove_ne_foreign {s : Server} {a : Action} {e : UInt32}
    (hc : s.Carries addressed) (hr : s.Carries inRange) : s.endpointMove e a ≠ .foreign := by
  unfold Server.endpointMove
  split
  · split
    · split_ifs <;> nofun
    · nofun
  · split
    · split_ifs <;> nofun
    · nofun
  · split
    · split_ifs <;> nofun
    · nofun
  · split
    · split_ifs <;> nofun
    · nofun
  · split
    · rename_i c hcb
      split_ifs with hon hforeign
      · nofun
      · rw [Bool.and_eq_true, beq_iff_eq, callbackEp_toNat (hc.callback c hcb)] at hforeign
        have hsmall : c.transfer.ev.header.ep.toNat ≤ 15 := hr.callback c hcb
        have hep : c.transfer.ev.header.ep = e := by
          rw [← UInt32.toNat_inj]
          omega
        exact absurd (beq_iff_eq.2 hep) hon
      · nofun
    · nofun
  · split_ifs <;> nofun
  · nofun

structure Server.FlagsOk (s : Server) : Prop where
  contexts : s.ContextsOk
  addressed : s.Carries addressed

theorem step_flagsOk {s t : Server} {a : Action} (hs : s.FlagsOk) (h : step s a = some t) :
    t.FlagsOk :=
  ⟨step_contextsOk hs.contexts h,
    step_carries (addressed_moves s) hs.addressed (fun _ _ => trivial) h⟩

section Boot

variable {lib : HostLib} {devRecv header cmdSubmit transferBuffer cmdUnlink : Bytes}

theorem boot_flagsOk :
    (Server.boot lib devRecv header cmdSubmit transferBuffer cmdUnlink).FlagsOk :=
  ⟨(Reachable.boot lib devRecv header cmdSubmit transferBuffer cmdUnlink).contextsOk,
    boot_carries⟩

theorem boot_endpoint (e : UInt32) :
    (Server.boot lib devRecv header cmdSubmit transferBuffer cmdUnlink).endpoint e =
      ⟨false, 0, 0, 0, 0⟩ := by
  simp [Server.endpoint, Server.boot, Server.pending]

/-- In every run in which a handler that finds a flag clear is alone, and a flag is reset only
when nothing stands behind it. -/
theorem one_transfer_of_exclusive {as : List Action} {t : Server}
    (h : run (.boot lib devRecv header cmdSubmit transferBuffer cmdUnlink) as = some t)
    (hrange : Always step EndpointsInRange
      (.boot lib devRecv header cmdSubmit transferBuffer cmdUnlink) as)
    (hexclusive : Always step EndpointsExclusive
      (.boot lib devRecv header cmdSubmit transferBuffer cmdUnlink) as) : t.OneTransfer := by
  have hstep : ∀ s a u,
      (s.FlagsOk ∧ s.Carries inRange ∧ ∀ e, Tracked e → (s.endpoint e).Single) →
        EndpointsInRange s a ∧ EndpointsExclusive s a → step s a = some u →
          u.FlagsOk ∧ u.Carries inRange ∧ ∀ e, Tracked e → (u.endpoint e).Single := by
    rintro s a u ⟨hok, hcarries, hsingle⟩ ⟨hin, hex⟩ hu
    refine ⟨step_flagsOk hok hu, step_carries (inRange_moves s) hcarries ?_ hu, fun e he => ?_⟩
    · rintro rfl hpc
      exact hin hpc
    · exact (step_endpoint he hok.contexts hok.addressed hu).single (hsingle e he)
        (hex.of_tracked he) (endpointMove_ne_foreign hok.addressed hcarries)
  have hboot : ∀ e, Tracked e →
      ((Server.boot lib devRecv header cmdSubmit transferBuffer cmdUnlink).endpoint e).Single := by
    intro e _
    rw [boot_endpoint]
    exact ⟨Nat.zero_le 1, nofun⟩
  obtain ⟨-, -, hsingle⟩ :=
    exec_invariant hstep ⟨boot_flagsOk, boot_carries, hboot⟩ (hrange.and hexclusive) h
  intro e he
  have hone := (hsingle e he).one
  unfold Endpoint.accepted at hone
  omega

/-- In every run in which no callback clears a flag that a handler is about to set. -/
theorem flags_backed_of_inTurn {as : List Action} {t : Server}
    (h : run (.boot lib devRecv header cmdSubmit transferBuffer cmdUnlink) as = some t)
    (hturn : Always step EndpointsInTurn
      (.boot lib devRecv header cmdSubmit transferBuffer cmdUnlink) as) : t.FlagsBacked := by
  have hstep : ∀ s a u, (s.FlagsOk ∧ ∀ e, Tracked e → (s.endpoint e).Backed) →
      EndpointsInTurn s a → step s a = some u →
        u.FlagsOk ∧ ∀ e, Tracked e → (u.endpoint e).Backed := by
    rintro s a u ⟨hok, hbacked⟩ hin hu
    refine ⟨step_flagsOk hok hu, fun e he => ?_⟩
    exact (step_endpoint he hok.contexts hok.addressed hu).backed (hbacked e he)
      (hin.of_tracked he)
  have hboot : ∀ e, Tracked e →
      ((Server.boot lib devRecv header cmdSubmit transferBuffer cmdUnlink).endpoint e).Backed := by
    intro e _
    rw [boot_endpoint]
    rintro (h | h) <;> cases h
  obtain ⟨-, hbacked⟩ := exec_invariant hstep ⟨boot_flagsOk, hboot⟩ hturn h
  intro _ e he hset
  exact hbacked e he (.inl hset)

end Boot

def reportRequest : List Action :=
  importing 3 (importSession [submitIn 7 1 8]).stream ++ submitting

/-- The first client closes the connection while its transfer is in flight; the second one asks
the same endpoint. -/
def secondReport : List Action :=
  keyboardEnumeration ++ reportRequest ++ handlingBulk ++ disconnecting ++ reportRequest ++
    handlingBulk

def OneTransferAtATime : Prop :=
  ∀ as t, run coldBoot as = some t → Always step EndpointsInRange coldBoot as → t.OneTransfer

theorem two_transfers_in_flight : ¬ OneTransferAtATime := by
  intro hall
  have hrun : (run coldBoot secondReport).map (fun t => (t.endpoint 1).inFlight) = some 2 := by
    decide +kernel
  obtain ⟨t, ht, hflight⟩ := Option.map_eq_some_iff.1 hrun
  have hrange : Always step EndpointsInRange coldBoot secondReport := by decide +kernel
  have hone := hall secondReport t ht hrange 1 (.inl rfl)
  omega

def twoReports : List Action :=
  keyboardEnumeration ++ importing 3 (importSession [submitIn 7 1 8, submitIn 8 1 8]).stream ++
    submitting ++ handlingBulk ++ completing 8 ++ submitting ++ handlingBulk

theorem one_transfer_twoReports : ∃ t, run coldBoot twoReports = some t ∧ t.OneTransfer := by
  have hrun : (run coldBoot twoReports).isSome = true := by decide +kernel
  obtain ⟨t, ht⟩ := Option.isSome_iff_exists.1 hrun
  have hrange : Always step EndpointsInRange coldBoot twoReports := by decide +kernel
  have hexclusive : Always step EndpointsExclusive coldBoot twoReports := by decide +kernel
  exact ⟨t, ht, one_transfer_of_exclusive ht hrange hexclusive⟩

/-- The transfer completes, and its callback runs, before the handler comes to set the flag. -/
def lateMark : List Action :=
  keyboardEnumeration ++ reportRequest ++ handlingBulk.take 7 ++ completing 8 ++
    [.loop2 (.setPending 0)]

def FlagsAlwaysBacked : Prop :=
  ∀ as t, run coldBoot as = some t → t.history.accepted = 1 → t.FlagsBacked

theorem flag_left_set : ¬ FlagsAlwaysBacked := by
  intro hall
  have hrun : (run coldBoot lateMark).map (fun t => (t.history.accepted, t.loop2.handlers,
      t.pending 1, (t.endpoint 1).accepted)) = some (1, [], true, 0) := by
    decide +kernel
  obtain ⟨t, ht, hstate⟩ := Option.map_eq_some_iff.1 hrun
  simp only [Prod.mk.injEq] at hstate
  obtain ⟨haccepted, hhandlers, hset, hnone⟩ := hstate
  have hbacked := hall lateMark t ht haccepted hhandlers 1 (.inl rfl) hset
  omega

theorem flags_backed_twoReports : ∃ t, run coldBoot twoReports = some t ∧ t.FlagsBacked := by
  have hrun : (run coldBoot twoReports).isSome = true := by decide +kernel
  obtain ⟨t, ht⟩ := Option.isSome_iff_exists.1 hrun
  have hturn : Always step EndpointsInTurn coldBoot twoReports := by decide +kernel
  exact ⟨t, ht, flags_backed_of_inTurn ht hturn⟩

end UsbRepeater
