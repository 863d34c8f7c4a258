import UsbRepeater.Completion

/-! The length of an IN transfer. The host library checks the length rounded up to the packet
size; `transfer_cb` copies and sends the length the client asked for. -/
namespace UsbRepeater

open Schedule

/-- `usb_round_up_to_mps` as ESP-IDF documents it. -/
structure HostLib.RoundsUp (lib : HostLib) : Prop where
  zero : ∀ x m, x ≤ 0 ∨ m ≤ 0 → lib.usbRoundUpToMps x m = 0
  least : ∀ x m, 0 < x → 0 < m → IsLeast {y | m ∣ y ∧ x ≤ y} (lib.usbRoundUpToMps x m)

def UsbTransfer.Fits (t : UsbTransfer) : Prop := 0 ≤ t.numBytes ∧ t.numBytes ≤ dataBufferSize

instance (t : UsbTransfer) : Decidable t.Fits := by
  unfold UsbTransfer.Fits
  infer_instance

def AcceptsFitting (s : Server) : Action → Prop
  | .loop2 (.submit j true) => ∀ t, s.readyTransfer j = some t → t.Fits
  | _ => True

/-- What `transfer_cb` reads and writes for an IN transfer lies inside the two buffers: the bytes
it copies, the transfer buffer they are copied to, and the bytes it sends. -/
structure Callback.InBounds (c : Callback) (heap : Bytes) : Prop where
  read : c.transfer.context.actualLength.toNat ≤ c.transfer.dataBuffer.length
  write : (c.reply heap).transferBuffer.length = 1024
  send : (c.frame heap).length ≤ retSubmitHeadSize + 1024

/-- The length asked for fits the buffer, or the rounded one will tell. -/
def LengthChecked (length mps : UInt32) : Prop :=
  length.toNat ≤ dataBufferSize ∨ 0 < toInt32 length ∧ 0 < toInt32 mps

instance (length mps : UInt32) : Decidable (LengthChecked length mps) := by
  unfold LengthChecked
  infer_instance

def Server.withMps (s : Server) (mps : List UInt32) : Server :=
  { s with driver := { s.driver with mps := mps } }

theorem UsbTransfer.Made.bulk_fields {lib : HostLib} {mps : List UInt32} {t : UsbTransfer}
    (h : t.Made lib mps) : t.context.actualLength = t.ev.cmdSubmit.transferBufferLength ∧
      t.context.base.direction = t.ev.header.direction ∧
        (t.ev.header.ep ≠ 0 → t.control = false) := by
  cases h with
  | control ev reply memory devHdl hep hsetup => exact ⟨rfl, rfl, fun h => absurd hep h⟩
  | bulk ev reply memory devHdl beyond hep =>
    unfold buildBulk
    dsimp only
    split_ifs <;> exact ⟨rfl, rfl, fun _ => rfl⟩

theorem buildBulk_numBytes (lib : HostLib) (mps : List UInt32) (beyond : UInt32)
    {t : UsbTransfer} (hin : t.ev.header.direction ≠ 0) :
    (buildBulk lib mps beyond t).numBytes =
      lib.usbRoundUpToMps (toInt32 t.ev.cmdSubmit.transferBufferLength)
        (toInt32 (mpsEntry mps t.ev.header.ep beyond)) := by
  unfold buildBulk
  dsimp only
  rw [if_pos hin]

theorem toInt32_of_pos {w : UInt32} (h : 0 < toInt32 w) : toInt32 w = w.toNat := by
  have hw := w.toNat_lt
  unfold toInt32 at h ⊢
  split_ifs at h ⊢ with hlow
  · rfl
  · omega

theorem lengthChecked_iff_of_fits {lib : HostLib} (hlib : lib.RoundsUp) {length mps : UInt32}
    (hfits : lib.usbRoundUpToMps (toInt32 length) (toInt32 mps) ≤ dataBufferSize) :
    LengthChecked length mps ↔ length.toNat ≤ dataBufferSize := by
  constructor
  · rintro (hfit | ⟨hlength, hmps⟩)
    · exact hfit
    · have hround : toInt32 length ≤ lib.usbRoundUpToMps (toInt32 length) (toInt32 mps) :=
        (hlib.least _ _ hlength hmps).1.2
      have hvalue := toInt32_of_pos hlength
      omega
  · exact Or.inl

theorem Callback.inBounds_iff {c : Callback} {lib : HostLib} {mps : List UInt32}
    (hran : c.transfer.Ran lib mps) (hep : c.transfer.ev.header.ep ≠ 0)
    (hin : c.transfer.ev.header.direction ≠ 0) (heap : Bytes) :
    c.InBounds heap ↔ c.transfer.ev.cmdSubmit.transferBufferLength.toNat ≤ dataBufferSize := by
  have hregions := hran.regions
  obtain ⟨made, data, hmade, htransfer⟩ := hran
  obtain ⟨hlength, hdir, hctrl⟩ : c.transfer.context.actualLength =
      c.transfer.ev.cmdSubmit.transferBufferLength ∧
        c.transfer.context.base.direction = c.transfer.ev.header.direction ∧
          (c.transfer.ev.header.ep ≠ 0 → c.transfer.control = false) := by
    rw [htransfer]
    exact hmade.bulk_fields
  have hbulk : ¬ c.transfer.control = true := by simp [hctrl hep]
  have hbuffer := hregions.data (.inr hin)
  constructor
  · rintro ⟨hread, -, -⟩
    rwa [hlength, hbuffer] at hread
  · intro hfit
    have hsize : dataBufferSize = 1000 := rfl
    refine ⟨?_, ?_, ?_⟩
    · rwa [hlength, hbuffer]
    · rw [Callback.reply_bulk hbulk, bulkReply, if_pos (hdir ▸ hin), hlength]
      refine (overwrite_length _ _ ?_).trans hregions.buffer
      rw [sized_length, hregions.buffer]
      omega
    · have hframe : c.frame heap = bulkFrame c.transfer (c.reply heap) heap := if_neg hbulk
      have hsend : (c.reply heap).actualLength = c.transfer.ev.cmdSubmit.transferBufferLength := by
        rw [Callback.reply_bulk hbulk, (bulkReply_prefilled c.transfer heap).2, hlength]
      rw [hframe, bulkFrame, if_pos (hdir ▸ hin), sized_length, hsend, sendSize]
      unfold retSubmitHeadSize
      omega

/-- The event `ev` is with the transfer `b` from the moment this is ready. -/
def tracedClaim (ev : Submit) (b : UsbTransfer) : PipelineClaim where
  queued ev' := ev' ≠ ev
  handler
    | .built t => t.ev = ev → t = b
    | h => h.request ≠ some ev
  inFlight t := t.ev = ev → t = b
  callback t := t.ev = ev → ∃ data, t = { b with dataBuffer := sized b.dataBuffer.length data }

theorem tracedClaim_moves (ev : Submit) (b : UsbTransfer) (s : Server) :
    (tracedClaim ev b).Moves s where
  dispatch ev' h := by simpa [tracedClaim, Handler2.request] using h
  fill ev' heap h := h
  setSkt ev' ret h := h
  alloc ev' ret heap h := h
  control t h hep := fun hev => absurd (congrArg some hev) h
  checked t h hep := h
  build t beyond h := fun hev => absurd (congrArg some ((buildBulk_ev _ _ _ _).symm.trans hev)) h
  submit t h := h
  accepted t h hc := by simp [tracedClaim, Handler2.request]
  complete t data h := fun hev => ⟨data, by rw [h hev]⟩

theorem submitEvent_ne {s : Server} (hs : s.Accounted) {ev : Submit}
    (hev : ev ∈ s.history.posted) : submitEvent s ≠ ev := by
  rintro rfl
  have hid := List.mem_map_of_mem (f := Submit.id) hev
  rw [hs.ids, List.mem_range] at hid
  exact absurd hid (lt_irrefl _)

structure Server.Traced (s : Server) (ev : Submit) (b : UsbTransfer) : Prop where
  accounted : s.Accounted
  posted : ev ∈ s.history.posted
  carries : s.Carries (tracedClaim ev b)

theorem step_traced {s t : Server} {a : Action} {ev : Submit} {b : UsbTransfer}
    (hs : s.Traced ev b) (h : step s a = some t) : t.Traced ev b where
  accounted := step_accounted hs.accounted h
  posted := (step_extends h).posted.subset hs.posted
  carries := step_carries (tracedClaim_moves ev b s) hs.carries
    (fun _ _ => submitEvent_ne hs.accounted hs.posted) h

theorem tracedClaim_handler {ev : Submit} {h : Handler2} (hr : h.request ≠ some ev)
    (b : UsbTransfer) : (tracedClaim ev b).handler h := by
  cases h with
  | built t => exact fun hev => absurd (congrArg some hev) hr
  | _ => exact hr

theorem Server.Accounted.traced {s : Server} (hs : s.Accounted) {j l : ℕ} {tr b : UsbTransfer}
    (hj : s.loop2.handlers[j]? = some (l, .checked tr)) (hb : b.ev = tr.ev) :
    (s.setHandler2 j (.built b)).Traced tr.ev b := by
  have helse : ¬ (s.endHandler2 j).Outstanding tr.ev := hs.elsewhere hj rfl
  have hstage : (s.setHandler2 j (.built b)).stage = s.stage :=
    stage_setHandler2 hj (congrArg some hb)
  refine ⟨⟨?_, hs.ids⟩, hs.mem_posted (.handled _ (List.mem_of_getElem? hj) rfl), ?_⟩
  · rw [hstage]
    exact hs.total
  · refine ⟨fun x hx hev => helse (.queued x.1 (hev ▸ hx)), fun x hx => ?_,
      fun t ht hev => absurd (.inFlight t ht hev) helse,
      fun c hc hev => absurd (.callback c hc hev) helse⟩
    rcases List.mem_cons.1 ((Flow.modify_perm _ hj).mem_iff.1 hx) with rfl | hx
    · exact fun _ => rfl
    · exact tracedClaim_handler (fun hr => helse (.handled x hx hr)) b

theorem step_build {s t : Server} {j : ℕ} {beyond : UInt32}
    (h : step s (.loop2 (.build j beyond)) = some t) :
    ∃ l tr, s.loop2.handlers[j]? = some (l, .checked tr) ∧
      t = s.setHandler2 j (.built (buildBulk s.lib s.driver.mps beyond tr)) := by
  obtain ⟨-, heff⟩ := loop2Step_effect h
  cases heff with
  | build j l tr beyond hj => exact ⟨l, tr, hj, rfl⟩

/-- An accepted and completed IN transfer stays inside its buffers exactly if its length fits
them or both words the rounding gets are positive. The table of packet sizes may hold anything. -/
theorem in_lengths_bounded_iff {s t u : Server} {mps : List UInt32} {j l : ℕ} {tr : UsbTransfer}
    {beyond : UInt32} {as : List Action} {c : Callback} (hs : Reachable s)
    (hlib : s.lib.RoundsUp) (hmps : mps.length = 10)
    (hj : s.loop2.handlers[j]? = some (l, .checked tr)) (hin : tr.ev.header.direction = 1)
    (hlow : 1 ≤ tr.ev.header.ep.toNat) (hhigh : tr.ev.header.ep.toNat ≤ 10)
    (hbuild : step (s.withMps mps) (.loop2 (.build j beyond)) = some t)
    (hfits : Always step AcceptsFitting t as) (hu : run t as = some u)
    (hc : u.callback = some c) (hev : c.transfer.ev = tr.ev) (heap : Bytes) :
    c.InBounds heap ↔
      LengthChecked tr.ev.cmdSubmit.transferBufferLength (mpsEntry mps tr.ev.header.ep 0) := by
  obtain ⟨l', tr', hj', rfl⟩ := step_build hbuild
  obtain ⟨-, rfl⟩ : l = l' ∧ tr = tr' := by simpa using hj.symm.trans hj'
  have hep : tr.ev.header.ep ≠ 0 := fun h => by simp [h] at hlow
  have hdir : tr.ev.header.direction ≠ 0 := by simp [hin]
  have hindex : (tr.ev.header.ep - 1).toNat < mps.length := by
    rw [toNat_sub_one hep, hmps]
    omega
  have hmade : (buildBulk s.lib mps beyond tr).Made s.lib mps := by
    obtain ⟨-, reply, memory, devHdl, htr⟩ :=
      hs.made.handler _ (List.mem_of_getElem? hj)
    rw [htr]
    exact .bulk tr.ev reply memory devHdl beyond hep
  have hacc : (s.withMps mps).Accounted := ⟨hs.accounted.total, hs.accounted.ids⟩
  have helse : ¬ (s.endHandler2 j).Outstanding tr.ev := hs.accounted.elsewhere hj rfl
  obtain ⟨htraced, hsubmitted⟩ := exec_invariant
    (I := fun x => x.Traced tr.ev (buildBulk s.lib mps beyond tr) ∧
      x.Submitted fun t => t.ev = tr.ev → t.Fits)
    (fun x a y hx ha h => ⟨step_traced hx.1 h, step_submitted hx.2 (fun t data h => h)
      (fun i t hi hready _ => by rw [hi] at ha; exact ha t hready) h⟩)
    ⟨hacc.traced hj' (buildBulk_ev _ _ _ _),
      fun t ht htr => absurd (.inFlight t ht htr) helse,
      fun c hc htr => absurd (.callback c hc htr) helse⟩ hfits hu
  obtain ⟨data, htransfer⟩ := htraced.carries.callback c hc hev
  have hran : c.transfer.Ran s.lib mps := ⟨_, data, hmade, htransfer⟩
  have hsize := (hsubmitted.callback c hc hev).2
  rw [htransfer, buildBulk_numBytes _ _ _ hdir, mpsEntry_eq hindex beyond 0] at hsize
  rw [Callback.inBounds_iff hran (hev ▸ hep) (hev ▸ hdir), hev]
  exact (lengthChecked_iff_of_fits hlib hsize).symm

theorem idfLibrary_roundsUp : idfLibrary.RoundsUp where
  zero x m h := if_pos h
  least x m hx hm := by
    have hround : idfLibrary.usbRoundUpToMps x m = (x + m - 1) / m * m := if_neg (by omega)
    have hdiv := Int.emod_add_mul_ediv (x + m - 1) m
    have hnonneg := Int.emod_nonneg (x + m - 1) hm.ne'
    have hlt := Int.emod_lt_of_pos (x + m - 1) hm
    rw [hround]
    refine ⟨⟨Dvd.intro_left _ rfl, ?_⟩, ?_⟩
    · rw [mul_comm]
      omega
    · rintro y ⟨⟨k, rfl⟩, hy⟩
      have hle : (x + m - 1) / m ≤ k := by
        refine Int.lt_add_one_iff.1 (Int.ediv_lt_of_lt_mul hm ?_)
        rw [add_mul, mul_comm k]
        omega
      rw [mul_comm]
      exact mul_le_mul_of_nonneg_left hle hm.le

def InLengthsBounded : Prop :=
  ∀ s t u mps j l tr beyond as c heap, Reachable s → s.lib.RoundsUp → mps.length = 10 →
    s.loop2.handlers[j]? = some (l, .checked tr) → tr.ev.header.direction = 1 →
      1 ≤ tr.ev.header.ep.toNat → tr.ev.header.ep.toNat ≤ 10 →
        step (s.withMps mps) (.loop2 (.build j beyond)) = some t →
          Always step AcceptsFitting t as → run t as = some u → u.callback = some c →
            c.transfer.ev = tr.ev → c.InBounds heap

def rounding (ep length : UInt32) : List Action :=
  keyboardEnumeration ++ importing 3 (importSession [submitIn 7 ep length]).stream ++
    submitting ++ handlingBulk.take 5

def roundedCompleting (n : ℤ) : List Action :=
  [.loop2 (.submit 0 true), .loop2 (.setPending 0), .host (.complete 0 .completed n [])]

structure Rounded (ep length : UInt32) (n : ℤ) (s t u : Server) (l : ℕ) (tr : UsbTransfer)
    (c : Callback) : Prop where
  start : run coldBoot (rounding ep length) = some s
  checked : s.loop2.handlers[0]? = some (l, .checked tr)
  request : tr.ev.header.direction = 1 ∧ tr.ev.header.ep = ep ∧
    tr.ev.cmdSubmit.transferBufferLength = length
  build : step (s.withMps s.driver.mps) (.loop2 (.build 0 0)) = some t
  fits : Always step AcceptsFitting t (roundedCompleting n)
  finish : run t (roundedCompleting n) = some u
  callback : u.callback = some c
  event : c.transfer.ev = tr.ev

def roundedTo (p : Server → Callback → Bool) (ep length : UInt32) (n : ℤ) : Option Bool :=
  (run coldBoot (rounding ep length)).bind fun s => (s.loop2.handlers[0]?).bind fun h =>
    match h with
    | (_, .checked tr) => (step (s.withMps s.driver.mps) (.loop2 (.build 0 0))).bind fun t =>
        (run t (roundedCompleting n)).bind fun u => u.callback.map fun c =>
          tr.ev.header.direction == 1 && tr.ev.header.ep == ep &&
            tr.ev.cmdSubmit.transferBufferLength == length && c.transfer.ev == tr.ev &&
            (t.readyTransfer 0).map (fun t => decide t.Fits) == some true && p s c
    | _ => none

theorem rounded_of_check {p : Server → Callback → Bool} {ep length : UInt32} {n : ℤ}
    (h : roundedTo p ep length n = some true) :
    ∃ s t u l tr c, Rounded ep length n s t u l tr c ∧ p s c = true := by
  obtain ⟨s, hs, hrest⟩ := Option.bind_eq_some_iff.1 h
  obtain ⟨⟨l, h2⟩, hj, hrest⟩ := Option.bind_eq_some_iff.1 hrest
  cases h2 with
  | checked tr =>
    obtain ⟨t, ht, hrest⟩ := Option.bind_eq_some_iff.1 hrest
    obtain ⟨u, hu, hrest⟩ := Option.bind_eq_some_iff.1 hrest
    obtain ⟨c, hc, hrest⟩ := Option.map_eq_some_iff.1 hrest
    simp only [Bool.and_eq_true, beq_iff_eq] at hrest
    obtain ⟨⟨⟨⟨⟨hdir, hep⟩, hlength⟩, hev⟩, hfits⟩, hp⟩ := hrest
    have halways : Always step AcceptsFitting t (roundedCompleting n) := by
      refine ⟨fun tr htr => ?_, fun _ _ => ⟨trivial, fun _ _ => ⟨trivial, fun _ _ => trivial⟩⟩⟩
      rw [htr] at hfits
      simpa using hfits
    exact ⟨s, t, u, l, tr, c, ⟨hs, hj, ⟨hdir, hep, hlength⟩, ht, halways, hu, hc, hev⟩, hp⟩
  | _ => cases hrest

/-- Endpoint 3 has no packet size in the table: 2000 bytes are rounded to none. -/
theorem in_length_unbounded : ¬ InLengthsBounded := by
  intro hall
  have hrun : roundedTo (fun s c => s.driver.mps.length == 10 &&
      decide (c.transfer.dataBuffer.length < c.transfer.context.actualLength.toNat)) 3 2000 0 =
        some true := by
    decide +kernel
  obtain ⟨s, t, u, l, tr, c, h, hover⟩ := rounded_of_check hrun
  simp only [Bool.and_eq_true, beq_iff_eq, decide_eq_true_eq] at hover
  obtain ⟨hmps, hover⟩ := hover
  obtain ⟨hdir, hep, -⟩ := h.request
  have hreach : Reachable s := (Reachable.boot idfLibrary [] [] [] [] []).of_run h.start
  have hlib : s.lib.RoundsUp := by
    rw [run_lib h.start]
    exact idfLibrary_roundsUp
  have hbounds := hall s t u s.driver.mps 0 l tr 0 _ c [] hreach hlib hmps h.checked hdir
    (by rw [hep]; decide) (by rw [hep]; decide) h.build h.fits h.finish h.callback h.event
  exact absurd hbounds.read (by omega)

theorem in_lengths_bounded_iff_report :
    ∃ s t u l tr c, Rounded 1 8 8 s t u l tr c ∧ c.InBounds [] := by
  have hrun : roundedTo (fun s _ => s.driver.mps.length == 10) 1 8 8 = some true := by
    decide +kernel
  obtain ⟨s, t, u, l, tr, c, h, hmps⟩ := rounded_of_check hrun
  rw [beq_iff_eq] at hmps
  obtain ⟨hdir, hep, hlength⟩ := h.request
  have hreach : Reachable s := (Reachable.boot idfLibrary [] [] [] [] []).of_run h.start
  have hlib : s.lib.RoundsUp := by
    rw [run_lib h.start]
    exact idfLibrary_roundsUp
  have hbounds := in_lengths_bounded_iff hreach hlib hmps h.checked hdir
    (by rw [hep]; decide) (by rw [hep]; decide) h.build h.fits h.finish h.callback h.event []
  refine ⟨s, t, u, l, tr, c, h, hbounds.2 (.inl ?_)⟩
  rw [hlength]
  decide

end UsbRepeater
