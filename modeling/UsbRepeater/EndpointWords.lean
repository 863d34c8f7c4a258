import UsbRepeater.Completion
import UsbRepeater.PendingFlags

/-! The endpoint and direction words of a CMD_SUBMIT. The handler uses them in full, as an index
and cut to one byte; the callback has that byte alone. -/
namespace UsbRepeater

open Schedule

inductive PendingFlag
  | ep1 | ep2
  deriving DecidableEq, Repr

def Server.flag (s : Server) : PendingFlag → Bool
  | .ep1 => s.ep1TransferPending
  | .ep2 => s.ep2TransferPending

def PendingFlag.endpoint : PendingFlag → UInt32
  | .ep1 => 1
  | .ep2 => 2

/-- The flag that the handler consults, and sets, for an endpoint word. -/
def guardFlag (ep : UInt32) : Option PendingFlag :=
  if ep = 1 then some .ep1 else if ep = 2 then some .ep2 else none

/-- The flag that the callback of a transfer clears. -/
def clearedFlag (t : UsbTransfer) : Option PendingFlag :=
  if t.control then none
  else if callbackEp t = 1 then some .ep1
  else if callbackEp t = 2 then some .ep2
  else none

/-- The index at which the handler reads the table of packet sizes, if it does. -/
def mpsIndex (ev : Submit) : Option ℕ :=
  if ev.header.ep ≠ 0 ∧ ev.header.direction ≠ 0 then some (ev.header.ep - 1).toNat else none

theorem guardFlag_eq_some {ep : UInt32} {f : PendingFlag} :
    guardFlag ep = some f ↔ ep = f.endpoint := by
  unfold guardFlag
  cases f with
  | ep1 => split_ifs <;> simp_all [PendingFlag.endpoint]
  | ep2 => split_ifs <;> simp_all [PendingFlag.endpoint]

theorem clearedFlag_eq_some {t : UsbTransfer} {f : PendingFlag} :
    clearedFlag t = some f ↔ t.control = false ∧ callbackEp t = f.endpoint.toUInt8 := by
  unfold clearedFlag
  cases f with
  | ep1 => split_ifs <;> simp_all [PendingFlag.endpoint]
  | ep2 => split_ifs <;> simp_all [PendingFlag.endpoint]

theorem pending_iff {s : Server} {ep : UInt32} :
    s.pending ep = true ↔ ∃ f, guardFlag ep = some f ∧ s.flag f = true := by
  constructor
  · intro h
    simp only [Server.pending, Bool.or_eq_true, Bool.and_eq_true, beq_iff_eq] at h
    rcases h with ⟨hep, hset⟩ | ⟨hep, hset⟩
    · exact ⟨.ep1, guardFlag_eq_some.2 hep, hset⟩
    · exact ⟨.ep2, guardFlag_eq_some.2 hep, hset⟩
  · rintro ⟨f, hguard, hset⟩
    rw [guardFlag_eq_some.1 hguard]
    cases f with
    | ep1 => exact Bool.or_eq_true_iff.2 (.inl hset)
    | ep2 => exact Bool.or_eq_true_iff.2 (.inr hset)

/-- The flag set after a transfer has been accepted is the one that was consulted. -/
theorem setPending_flag {s t : Server} {j : ℕ} (h : step s (.loop2 (.setPending j)) = some t) :
    ∃ l ep, s.loop2.handlers[j]? = some (l, .accepted ep) ∧
      ∀ f, t.flag f = (s.flag f || decide (guardFlag ep = some f)) := by
  obtain ⟨-, heff⟩ := loop2Step_effect h
  cases heff with
  | setPending j l ep hj =>
    refine ⟨l, ep, hj, fun f => ?_⟩
    simp only [guardFlag_eq_some]
    cases f <;> rfl

theorem clear_flag {s t : Server} (h : step s (.host .clear) = some t) :
    ∃ c, s.callback = some c ∧
      ∀ f, t.flag f = (s.flag f && !decide (clearedFlag c.transfer = some f)) := by
  obtain ⟨-, heff⟩ := hostStep_effect h
  cases heff with
  | clear c hcb hcl =>
    refine ⟨c, hcb, fun f => ?_⟩
    simp only [clearedFlag_eq_some]
    cases f <;> cases hctrl : c.transfer.control <;>
      simp [Server.flag, PendingFlag.endpoint, bne, Bool.beq_eq_decide_eq]

/-- With an index inside the table the rounding does not depend on what lies behind it. -/
theorem buildBulk_of_mpsIndex {lib : HostLib} {mps : List UInt32} {t : UsbTransfer}
    (hep : t.ev.header.ep ≠ 0) (hindex : ∀ i, mpsIndex t.ev = some i → i < mps.length)
    (beyond beyond' : UInt32) : buildBulk lib mps beyond t = buildBulk lib mps beyond' t := by
  unfold buildBulk
  by_cases hdir : t.ev.header.direction ≠ 0
  · simp only [mpsEntry_eq (hindex _ (if_pos ⟨hep, hdir⟩)) beyond beyond']
  · simp only [if_neg hdir]

/-- The address of the transfer is that of the endpoint named, the table is read inside its ten
entries, and the callback clears the flag that was consulted. -/
structure UsbTransfer.WordsSafe (t : UsbTransfer) : Prop where
  number : (t.bEndpointAddress &&& 0x0F).toNat = t.ev.header.ep.toNat
  directionBit : (t.bEndpointAddress >>> 7).toNat = t.ev.header.direction.toNat
  index : ∀ i, mpsIndex t.ev = some i → i < 10
  flag : guardFlag t.ev.header.ep = clearedFlag t

/-- The words name an endpoint that has an address and, for an IN request, a table entry. -/
def Submit.WordsInRange (ev : Submit) : Prop :=
  ev.header.direction.toNat ≤ 1 ∧
    ev.header.ep.toNat ≤ if ev.header.direction = 0 then 15 else 10

inductive Server.HandsOver (s : Server) (t : UsbTransfer) : Prop
  | ready (j : ℕ) (h : s.readyTransfer j = some t)
  | inFlight (h : t ∈ s.inFlight)
  | callback (c : Callback) (hc : s.callback = some c) (ht : c.transfer = t)

theorem UsbTransfer.Made.address {lib : HostLib} {mps : List UInt32} {t : UsbTransfer}
    (h : t.Made lib mps) : t.bEndpointAddress = endpointAddress t.ev ∧
      (t.control = true ↔ t.ev.header.ep = 0) := by
  cases h with
  | control ev reply memory devHdl hep hsetup => exact ⟨rfl, ⟨fun _ => hep, fun _ => rfl⟩⟩
  | bulk ev reply memory devHdl beyond hep =>
    have hne : ¬ (allocated ev reply memory devHdl).ev.header.ep = 0 := hep
    unfold buildBulk
    dsimp only
    split_ifs <;> exact ⟨rfl, ⟨fun h => absurd h Bool.false_ne_true, fun h => absurd h hne⟩⟩

theorem Reachable.address {s : Server} (hs : Reachable s) {t : UsbTransfer}
    (ht : s.HandsOver t) : t.bEndpointAddress = endpointAddress t.ev ∧
      (t.control = true ↔ t.ev.header.ep = 0) := by
  cases ht with
  | ready j h =>
    obtain ⟨l, hj⟩ := readyTransfer_eq_some.1 h
    obtain ⟨mps, -, hmade⟩ := hs.made.handler _ (List.mem_of_getElem? hj)
    exact UsbTransfer.Made.address hmade
  | inFlight h =>
    obtain ⟨mps, -, hmade⟩ := hs.made.inFlight t h
    exact hmade.address
  | callback c hc ht =>
    obtain ⟨mps, -, made, data, hmade, htransfer⟩ := hs.callback_ran hc
    rw [← ht, htransfer]
    exact hmade.address

theorem endpointAddress_fields : ∀ ep : Fin 16, ∀ dir : Fin 2,
    ((UInt32.ofNat ep ||| UInt32.ofNat dir <<< 7).toUInt8 &&& 0x0F).toNat = ep ∧
      ((UInt32.ofNat ep ||| UInt32.ofNat dir <<< 7).toUInt8 >>> 7).toNat = dir := by
  decide

theorem Submit.WordsInRange.address {ev : Submit} (h : ev.WordsInRange) :
    (endpointAddress ev &&& 0x0F).toNat = ev.header.ep.toNat ∧
      (endpointAddress ev >>> 7).toNat = ev.header.direction.toNat := by
  obtain ⟨hdir, hep⟩ := h
  have hlow : ev.header.ep.toNat < 16 := by
    split_ifs at hep <;> omega
  have hfields := endpointAddress_fields ⟨_, hlow⟩ ⟨ev.header.direction.toNat, by omega⟩
  simpa only [endpointAddress, UInt32.ofNat_toNat] using hfields

theorem Submit.WordsInRange.flag {t : UsbTransfer} (h : t.ev.WordsInRange)
    (haddress : t.bEndpointAddress = endpointAddress t.ev)
    (hctrl : t.control = true ↔ t.ev.header.ep = 0) :
    guardFlag t.ev.header.ep = clearedFlag t := by
  have hep := h.2
  have hlow : t.ev.header.ep.toNat % 128 = t.ev.header.ep.toNat := by
    split_ifs at hep <;> omega
  have hcallback := (callbackEp_toNat haddress).trans hlow
  ext f
  rw [guardFlag_eq_some, clearedFlag_eq_some, ← UInt8.toNat_inj, hcallback, ← UInt32.toNat_inj]
  cases f <;> cases hc : t.control <;> simp_all [PendingFlag.endpoint]

/-- A transfer is safe exactly if the two words of its request are in range. -/
theorem endpoint_words_safe_iff {s : Server} {t : UsbTransfer} (hs : Reachable s)
    (ht : s.HandsOver t) : t.WordsSafe ↔ t.ev.WordsInRange := by
  obtain ⟨haddress, hctrl⟩ := hs.address ht
  constructor
  · rintro ⟨hnumber, hbit, hindex, -⟩
    have hlow : (t.bEndpointAddress &&& 0x0F).toNat ≤ 15 := by
      rw [UInt8.toNat_and]
      exact Nat.and_le_right
    have hhigh : (t.bEndpointAddress >>> 7).toNat ≤ 1 := by
      have hbyte := t.bEndpointAddress.toNat_lt
      rw [UInt8.toNat_shiftRight, Nat.shiftRight_eq_div_pow]
      show t.bEndpointAddress.toNat / 128 ≤ 1
      omega
    refine ⟨hbit ▸ hhigh, ?_⟩
    split_ifs with hdir
    · omega
    · by_cases hep : t.ev.header.ep = 0
      · simp [hep]
      · have hread := hindex _ (if_pos ⟨hep, hdir⟩)
        rw [toNat_sub_one hep] at hread
        omega
  · intro h
    obtain ⟨hnumber, hbit⟩ := h.address
    rw [← haddress] at hnumber hbit
    refine ⟨hnumber, hbit, fun i hi => ?_, h.flag haddress hctrl⟩
    unfold mpsIndex at hi
    split_ifs at hi with huse
    · have hrange := h.2
      rw [if_neg huse.2] at hrange
      rw [← Option.some.inj hi, toNat_sub_one huse.1]
      omega

def EndpointWordsSafe : Prop := ∀ s t, Reachable s → s.HandsOver t → t.WordsSafe

def building (ep : UInt32) : List Action :=
  keyboardEnumeration ++ importing 3 (importSession [submitIn 7 ep 8]).stream ++ submitting ++
    handlingBulk.take 6

/-- The transfer goes to endpoint 1, and the table is read far outside. -/
theorem endpoint_257_built : ¬ EndpointWordsSafe := by
  intro hall
  have hrun : ((run coldBoot (building 257)).bind fun s => (s.readyTransfer 0).map fun t =>
      mpsIndex t.ev) = some (some 256) := by
    decide +kernel
  obtain ⟨s, hs, hrest⟩ := Option.bind_eq_some_iff.1 hrun
  obtain ⟨t, ht, hindex⟩ := Option.map_eq_some_iff.1 hrest
  have hreach : Reachable s := (Reachable.boot idfLibrary [] [] [] [] []).of_run hs
  have hread := (hall s t hreach (.ready 0 ht)).index 256 hindex
  exact absurd hread (by decide)

theorem endpoint_words_safe_iff_report :
    ∃ s t, run coldBoot (building 1) = some s ∧ s.HandsOver t ∧ t.WordsSafe := by
  have hrun : ((run coldBoot (building 1)).bind fun s => (s.readyTransfer 0).map fun t =>
      (t.ev.header.direction, t.ev.header.ep)) = some (1, 1) := by
    decide +kernel
  obtain ⟨s, hs, hrest⟩ := Option.bind_eq_some_iff.1 hrun
  obtain ⟨t, ht, hwords⟩ := Option.map_eq_some_iff.1 hrest
  obtain ⟨hdir, hep⟩ := Prod.mk.inj hwords
  have hreach : Reachable s := (Reachable.boot idfLibrary [] [] [] [] []).of_run hs
  have hrange : t.ev.WordsInRange := by
    unfold Submit.WordsInRange
    rw [hdir, hep]
    decide
  exact ⟨s, t, hs, .ready 0 ht, (endpoint_words_safe_iff hreach (.ready 0 ht)).2 hrange⟩

end UsbRepeater
