import UsbRepeater.LogStream

/-! The records of the log. `vsnprintf` returns the length of the whole text, and `log_write` takes
it for the length of what is in `temp_buffer`: a record is whole exactly when the text fits. -/
namespace UsbRepeater

open Schedule

/-- What `temp_buffer` has room for, behind a newline: an added one unless it ends in one. -/
def logRecord (text : Bytes) : Bytes :=
  let cut := text.take (tempBufferSize - 1)
  if cut.getLast? = some newline then cut else cut ++ [newline]

/-- The text and a newline fit `temp_buffer` beside the terminator of `vsnprintf`. -/
def FitsBuffer (text : Bytes) : Prop :=
  text.length < tempBufferSize - 1 ∨
    text.length = tempBufferSize - 1 ∧ text.getLast? = some newline

instance (text : Bytes) : Decidable (FitsBuffer text) := inferInstanceAs (Decidable (_ ∨ _))

theorem FitsBuffer.length_lt {text : Bytes} (h : FitsBuffer text) :
    text.length < tempBufferSize := by
  rcases h with h | ⟨h, -⟩
  · exact h.trans (by decide)
  · rw [h]
    decide

theorem logRecord_of_le {text : Bytes} (h : text.length ≤ tempBufferSize - 1) :
    logRecord text = if text.getLast? = some newline then text else text ++ [newline] := by
  simp only [logRecord, List.take_of_length_le h]

theorem formatRecord_of_le {text : Bytes} (hne : text ≠ [])
    (h : text.length ≤ tempBufferSize - 1) (stack : Bytes) :
    formatRecord text stack =
      if text.getLast? ≠ some newline ∧ text.length < tempBufferSize - 1 then
        ⟨text.length + 1, text ++ newline :: stack.drop (text.length + 1),
          List.range (text.length + 1) ++ [text.length - 1] ++ [text.length]⟩
      else
        ⟨text.length, text ++ 0 :: stack.drop (text.length + 1),
          List.range (text.length + 1) ++ [text.length - 1]⟩ := by
  have hbuffer : overwrite (text.take (tempBufferSize - 1) ++ [0]) stack =
      text ++ 0 :: stack.drop (text.length + 1) := by
    rw [List.take_of_length_le h, overwrite, List.length_append, List.append_assoc]
    rfl
  have hpos : 0 < text.length := List.length_pos_iff.2 hne
  have hlast : ((text ++ 0 :: stack.drop (text.length + 1))[text.length - 1]?).getD 0 ≠ newline ↔
      text.getLast? ≠ some newline := by
    rw [List.getElem?_append_left (by omega), ← List.getLast?_eq_getElem?]
    obtain ⟨x, hx⟩ := Option.isSome_iff_exists.1 (List.getLast?_isSome.2 hne)
    simp [hx]
  have hset : (text ++ 0 :: stack.drop (text.length + 1)).set text.length newline =
      text ++ newline :: stack.drop (text.length + 1) := by
    rw [List.set_append_right _ _ le_rfl, Nat.sub_self, List.set_cons_zero]
  simp only [formatRecord, hbuffer, hlast, hset, Nat.min_eq_left h]
  split_ifs <;> tauto

theorem sized_append_left (text rest : Bytes) : sized text.length (text ++ rest) = text := by
  rw [sized_eq_take (by simp), List.take_left]

/-- The text is written as it is, behind it a newline where one is needed and fits. -/
theorem bytes_of_le {text : Bytes} (hne : text ≠ []) (h : text.length ≤ tempBufferSize - 1)
    (stack : Bytes) : (formatRecord text stack).bytes =
      if text.getLast? ≠ some newline ∧ text.length < tempBufferSize - 1 then text ++ [newline]
      else text := by
  rw [formatRecord_of_le hne h, Formatted.bytes]
  split_ifs with hend
  · have hsize : text.length + 1 = (text ++ [newline]).length := by simp
    change sized (text.length + 1) (text ++ newline :: stack.drop (text.length + 1)) = _
    rw [List.append_cons, hsize]
    exact sized_append_left _ _
  · exact sized_append_left _ _

theorem FitsBuffer.bytes {text : Bytes} (h : FitsBuffer text) (hne : text ≠ []) (stack : Bytes) :
    (formatRecord text stack).bytes = logRecord text := by
  have hle : text.length ≤ tempBufferSize - 1 := Nat.le_sub_one_of_lt h.length_lt
  rw [bytes_of_le hne hle, logRecord_of_le hle]
  rcases h with hlt | ⟨-, hend⟩
  · by_cases hend : text.getLast? = some newline <;> simp [hend, hlt]
  · simp [hend]

/-- No room is left for the newline. -/
theorem bytes_of_eq {text : Bytes} (h : text.length = tempBufferSize - 1) (stack : Bytes) :
    (formatRecord text stack).bytes = text := by
  have hne : text ≠ [] := by
    rintro rfl
    exact absurd h (by decide)
  rw [bytes_of_le hne h.le, if_neg fun hand => hand.2.ne h]

/-- The terminator of `vsnprintf` is taken for the last byte of the text. -/
theorem bytes_of_truncated {text : Bytes} (h : text.length = tempBufferSize) (stack : Bytes) :
    (formatRecord text stack).bytes = text.take (tempBufferSize - 1) ++ [0] := by
  have hsize : (text.take (tempBufferSize - 1)).length = tempBufferSize - 1 := by
    rw [List.length_take, h]
    rfl
  have hindex : text.length - 1 = (text.take (tempBufferSize - 1)).length := by rw [hsize, h]
  have hlast :
      ((overwrite (text.take (tempBufferSize - 1) ++ [0]) stack)[text.length - 1]?).getD 0 = 0 := by
    rw [overwrite, hindex, List.append_assoc, List.getElem?_append_right le_rfl, Nat.sub_self]
    rfl
  have hlong : ¬ text.length < tempBufferSize - 1 := by
    rw [h]
    decide
  have hlen : text.length = (text.take (tempBufferSize - 1) ++ [0]).length := by
    rw [List.length_append, hsize, h]
    rfl
  simp only [formatRecord, hlast, if_neg hlong, ite_self, Formatted.bytes]
  rw [hlen, overwrite]
  exact sized_append_left _ _

def touched (text stack : Bytes) : List ℕ :=
  (formatRecord text stack).accesses ++ List.range (formatRecord text stack).len

/-- The test of the last byte reads where the text would end. -/
theorem touched_lt_iff {text : Bytes} (hne : text ≠ []) (stack : Bytes) :
    (∀ i ∈ touched text stack, i < tempBufferSize) ↔ text.length ≤ tempBufferSize := by
  have hpos : 0 < text.length := List.length_pos_iff.2 hne
  constructor
  · intro h
    have hmem : text.length - 1 ∈ touched text stack := by
      simp only [touched, formatRecord]
      split_ifs <;> simp
    have hlast := h _ hmem
    omega
  · intro h i hi
    simp only [touched, formatRecord] at hi
    have hsize : tempBufferSize = 512 := rfl
    split_ifs at hi <;> simp only [List.mem_append, List.mem_range, List.mem_singleton] at hi <;>
      omega

/-- A symbol that one side never has more of, and somewhere less, tells two texts apart. -/
theorem flatMap_ne_of_count {ι α : Type*} [DecidableEq α] (x : α) {f g : ι → List α} {l : List ι}
    (hle : ∀ a ∈ l, (f a).count x ≤ (g a).count x) (hlt : ∃ a ∈ l, (f a).count x < (g a).count x) :
    l.flatMap f ≠ l.flatMap g := by
  intro heq
  have hsum := List.sum_lt_sum (l := l) (fun a => (f a).count x) (fun a => (g a).count x) hle hlt
  have hcount := congrArg (List.count x) heq
  rw [List.count_flatMap, List.count_flatMap] at hcount
  exact hsum.ne hcount

theorem logRecord_count_zero (text : Bytes) :
    (logRecord text).count 0 = (text.take (tempBufferSize - 1)).count 0 := by
  rw [logRecord]
  split_ifs
  · rfl
  · rw [List.count_append, List.count_eq_zero.2 (by decide : (0 : UInt8) ∉ [newline]), add_zero]

theorem fitsBuffer_of_flatMap_eq {calls : List (Bytes × Bytes)} (hne : ∀ c ∈ calls, c.1 ≠ [])
    (hle : ∀ c ∈ calls, c.1.length ≤ tempBufferSize)
    (heq : (calls.flatMap fun c => (formatRecord c.1 c.2).bytes) =
      calls.flatMap fun c => logRecord c.1) : ∀ c ∈ calls, FitsBuffer c.1 := by
  have hzero : ∀ c ∈ calls, c.1.length ≤ tempBufferSize - 1 →
      (logRecord c.1).count 0 ≤ (formatRecord c.1 c.2).bytes.count 0 := by
    intro c hc hshort
    rw [logRecord_count_zero, List.take_of_length_le hshort, bytes_of_le (hne c hc) hshort]
    split_ifs
    · rw [List.count_append]
      exact Nat.le_add_right _ _
    · exact le_rfl
  have hcut : ∀ c : Bytes × Bytes, c.1.length = tempBufferSize →
      (logRecord c.1).count 0 < (formatRecord c.1 c.2).bytes.count 0 := by
    intro c hc
    rw [logRecord_count_zero, bytes_of_truncated hc, List.count_append]
    exact Nat.lt_add_one _
  have hshort : ∀ c ∈ calls, c.1.length ≤ tempBufferSize - 1 := by
    by_contra hlong
    push Not at hlong
    obtain ⟨c, hc, hlen⟩ := hlong
    have hfull : c.1.length = tempBufferSize := le_antisymm (hle c hc) (Nat.le_of_pred_lt hlen)
    refine flatMap_ne_of_count 0 ?_ ⟨c, hc, hcut c hfull⟩ heq.symm
    intro d hd
    rcases Nat.lt_or_ge d.1.length tempBufferSize with hlt | hge
    · exact hzero d hd (Nat.le_sub_one_of_lt hlt)
    · exact (hcut d (le_antisymm (hle d hd) hge)).le
  by_contra hunfit
  push Not at hunfit
  obtain ⟨c, hc, hbad⟩ := hunfit
  have hnewline : ∀ d ∈ calls, ¬ FitsBuffer d.1 →
      (formatRecord d.1 d.2).bytes.count newline < (logRecord d.1).count newline := by
    intro d hd hunfit
    rw [FitsBuffer, not_or, not_and] at hunfit
    have hlen := le_antisymm (hshort d hd) (not_lt.1 hunfit.1)
    rw [bytes_of_eq hlen, logRecord_of_le hlen.le, if_neg (hunfit.2 hlen), List.count_append]
    exact Nat.lt_add_one _
  refine flatMap_ne_of_count newline ?_ ⟨c, hc, hnewline c hc hbad⟩ heq
  intro d hd
  by_cases hfit : FitsBuffer d.1
  · rw [hfit.bytes (hne d hd)]
  · exact (hnewline d hd hfit).le

structure LogServer.Ready (s : LogServer) : Prop where
  calls : s.calls = []
  live : s.log.live s.log.logFile = true
  file : s.log.file.isSome = true

/-- A call of `log_write` that gets the mutex: the text, and what lies from `temp_buffer` on. All
it hands over is stored. -/
def writeCall (c : Bytes × Bytes) : List LogAction :=
  [.call (.write c.1 c.2), .write 0 (formatRecord c.1 c.2).len]

def writeCalls (calls : List (Bytes × Bytes)) : List LogAction := calls.flatMap writeCall

def written (calls : List (Bytes × Bytes)) : Bytes :=
  calls.flatMap fun c => (formatRecord c.1 c.2).bytes

structure LogServer.Written (s t : LogServer) (calls : List (Bytes × Bytes)) : Prop where
  ready : t.Ready
  content : t.log.content = s.log.content ++ written calls
  accesses : t.log.accesses = s.log.accesses ++ calls.flatMap fun c => touched c.1 c.2
  capacity : t.log.capacity = s.log.capacity
  get : t.get = s.get

theorem append_all {s : LogState} {bytes : Bytes} (hlive : s.live s.logFile = true)
    (hfile : s.file.isSome = true) (hroom : s.content.length + bytes.length ≤ s.capacity) :
    ∃ t, s.append bytes bytes.length = some t ∧ t.content = s.content ++ bytes ∧
      t.file.isSome = true ∧ t.accesses = s.accesses := by
  obtain ⟨old, hold⟩ := Option.isSome_iff_exists.1 hfile
  refine ⟨_, append_eq_some.2 ⟨⟨le_rfl, hroom⟩, rfl⟩, ?_, ?_, rfl⟩
  · simp [LogState.content, hlive, hold]
  · simp [hlive, hold]

theorem logStep_write {s : LogServer} {f : Formatted} (hcalls : s.calls = [.write f])
    (hlive : s.log.live s.log.logFile = true) (hfile : s.log.file.isSome = true)
    (hroom : s.log.content.length + f.bytes.length ≤ s.log.capacity) :
    ∃ t, logStep s (.write 0 f.len) = some t ∧ t.Ready ∧
      t.log.content = s.log.content ++ f.bytes ∧
        t.log.accesses = s.log.accesses ++ List.range f.len ∧
          t.log.capacity = s.log.capacity ∧ t.get = s.get := by
  obtain ⟨log, happend, hcontent, hkept, haccesses⟩ := append_all hlive hfile hroom
  rw [Formatted.bytes, sized_length] at happend
  have hsame := append_sameStream happend
  have hstep : logStep s (.write 0 f.len) = some { s with
      log := { log with accesses := log.accesses ++ List.range f.len }, calls := [] } := by
    simp [logStep, hcalls, logWrite, Formatted.bytes, happend]
  refine ⟨_, hstep, ⟨rfl, hsame.live.trans hlive, hkept⟩, hcontent, ?_, hsame.capacity, rfl⟩
  rw [haccesses]

theorem exec_writeCall {s : LogServer} (hs : s.Ready) {c : Bytes × Bytes} (hne : c.1 ≠ [])
    (hroom : s.log.content.length + (written [c]).length ≤ s.log.capacity) :
    ∃ t, exec logStep s (writeCall c) = some t ∧ s.Written t [c] := by
  have hwritten : written [c] = (formatRecord c.1 c.2).bytes := List.flatMap_singleton _ _
  have htouched : [c].flatMap (fun c => touched c.1 c.2) = touched c.1 c.2 :=
    List.flatMap_singleton _ _
  have hcall : logStep s (.call (.write c.1 c.2)) = some { s with
      log := { s.log with accesses := s.log.accesses ++ (formatRecord c.1 c.2).accesses }
      calls := [.write (formatRecord c.1 c.2)] } := by
    rw [logStep, if_pos (LogState.isSome_of_live hs.live), LogRequest.enter, if_neg hne, hs.calls]
    rfl
  rw [hwritten] at hroom
  obtain ⟨t, hwrite, hready, hcontent, haccesses, hcapacity, hget⟩ := logStep_write
    (s := { s with
      log := { s.log with accesses := s.log.accesses ++ (formatRecord c.1 c.2).accesses }
      calls := [.write (formatRecord c.1 c.2)] }) rfl hs.live hs.file hroom
  refine ⟨t, exec_cons.2 ⟨_, hcall, exec_cons.2 ⟨t, hwrite, rfl⟩⟩, hready, ?_, ?_, hcapacity, hget⟩
  · rw [hwritten]
    exact hcontent
  · rw [htouched, touched, ← List.append_assoc]
    exact haccesses

theorem exec_writeCalls {s : LogServer} (hs : s.Ready) {calls : List (Bytes × Bytes)}
    (hne : ∀ c ∈ calls, c.1 ≠ [])
    (hroom : s.log.content.length + (written calls).length ≤ s.log.capacity) :
    ∃ t, exec logStep s (writeCalls calls) = some t ∧ s.Written t calls := by
  induction calls generalizing s with
  | nil => exact ⟨s, rfl, hs, (List.append_nil _).symm, (List.append_nil _).symm, rfl, rfl⟩
  | cons c calls ih =>
    have hsplit : written (c :: calls) = written [c] ++ written calls := by simp [written]
    rw [hsplit, List.length_append] at hroom
    obtain ⟨u, hu, hfirst⟩ := exec_writeCall hs (hne c List.mem_cons_self) (by omega)
    have hroom' : u.log.content.length + (written calls).length ≤ u.log.capacity := by
      rw [hfirst.content, hfirst.capacity, List.length_append]
      omega
    obtain ⟨t, ht, hrest⟩ :=
      ih hfirst.ready (fun d hd => hne d (List.mem_cons_of_mem c hd)) hroom'
    refine ⟨t, exec_append.2 ⟨u, hu, ht⟩, hrest.ready, ?_, ?_, hrest.capacity.trans hfirst.capacity,
      hrest.get.trans hfirst.get⟩
    · rw [hrest.content, hfirst.content, List.append_assoc, ← hsplit]
    · rw [hrest.accesses, hfirst.accesses, List.append_assoc]
      simp

/-- The responses that show nothing but a first part of `text`. -/
def LogsGet.Shows (text : Bytes) : LogsGet → Prop
  | .sending response =>
      response.bytes <+: text ∨ response.bytes = noLogs ∨ response.bytes = noMemory
  | _ => True

theorem LogStep.shows {s t : LogServer} {a : GetAction} (h : LogStep s (.get a) t) :
    t.log.content = s.log.content ∧ t.get.Shows s.log.content := by
  cases h with
  | begin hget =>
    refine ⟨rfl, ?_⟩
    dsimp only
    split_ifs <;> trivial
  | size measured hget => exact ⟨rfl, trivial⟩
  | malloc ok logSize hget =>
    refine ⟨rfl, ?_⟩
    dsimp only
    split_ifs
    · exact .inr (.inl rfl)
    · trivial
    · exact .inr (.inr rfl)
  | enter logSize hget =>
    refine ⟨rfl, ?_⟩
    dsimp only
    split_ifs
    · exact .inl List.nil_prefix
    · trivial
  | read r logSize log fill hget hlog =>
    rcases logGetBuffer_eq_some hlog with ⟨-, rfl, rfl⟩ | ⟨n, -, -, -, rfl, rfl⟩
    · exact ⟨rfl, .inl List.nil_prefix⟩
    · exact ⟨rfl, .inl (List.take_prefix n s.log.content)⟩
  | send response hget => exact ⟨rfl, trivial⟩

theorem exec_get_shows {s t : LogServer} {gets : List GetAction} {text : Bytes}
    (htext : s.log.content = text) (hs : s.get.Shows text)
    (hrun : exec logStep s (gets.map .get) = some t) : t.get.Shows text := by
  have hshows : t.log.content = text ∧ t.get.Shows text := by
    refine exec_invariant (I := fun u => u.log.content = text ∧ u.get.Shows text)
      (P := fun _ a => ∃ g, a = .get g) ?_ ⟨htext, hs⟩ (.of_forall_mem fun a ha _ => ?_) hrun
    · rintro u a v ⟨rfl, -⟩ ⟨g, rfl⟩ hstep
      exact (logStep_cases hstep).shows
    · obtain ⟨g, -, rfl⟩ := List.mem_map.1 ha
      exact ⟨g, rfl⟩
  exact hshows.2

structure LogServer.Fresh (s : LogServer) : Prop extends s.Ready where
  content : s.log.content = []
  bounded : ∀ i ∈ s.log.accesses, i < tempBufferSize
  idle : s.get = .idle

/-- The file has one record for each text, no call has accessed anything behind `temp_buffer`, and
a GET /logs that follows shows nothing else. -/
structure RecordsWhole (t : LogServer) (texts : List Bytes) : Prop where
  content : t.log.content = texts.flatMap logRecord
  bounded : ∀ i ∈ t.log.accesses, i < tempBufferSize
  shown : ∀ (gets : List GetAction) u, exec logStep t (gets.map .get) = some u →
    u.get.Shows (texts.flatMap logRecord)

/-- The records that calls of `log_write` leave in an empty log are whole exactly when every text
fits its buffer. -/
theorem recordsWhole_iff_fitsBuffer {s : LogServer} (hs : s.Fresh) {calls : List (Bytes × Bytes)}
    (hne : ∀ c ∈ calls, c.1 ≠ []) (hroom : (written calls).length ≤ s.log.capacity) :
    ∃ t, exec logStep s (writeCalls calls) = some t ∧
      (RecordsWhole t (calls.map Prod.fst) ↔ ∀ c ∈ calls, FitsBuffer c.1) := by
  have hstart : s.log.content.length + (written calls).length ≤ s.log.capacity := by
    rw [hs.content, List.length_nil, Nat.zero_add]
    exact hroom
  obtain ⟨t, ht, hwritten⟩ := exec_writeCalls hs.toReady hne hstart
  have hcontent : t.log.content = written calls := by
    rw [hwritten.content, hs.content, List.nil_append]
  have hrecords : (calls.map Prod.fst).flatMap logRecord = calls.flatMap fun c => logRecord c.1 :=
    List.flatMap_map _ _ _
  refine ⟨t, ht, fun hwhole => ?_, fun hfits => ?_⟩
  · have hle : ∀ c ∈ calls, c.1.length ≤ tempBufferSize := by
      intro c hc
      refine (touched_lt_iff (hne c hc) c.2).1 fun i hi => hwhole.bounded i ?_
      rw [hwritten.accesses]
      exact List.mem_append_right _ (List.mem_flatMap.2 ⟨c, hc, hi⟩)
    exact fitsBuffer_of_flatMap_eq hne hle
      (hcontent.symm.trans (hwhole.content.trans hrecords))
  · have hwhole : t.log.content = (calls.map Prod.fst).flatMap logRecord := by
      rw [hcontent, hrecords]
      exact List.flatMap_congr fun c hc => (hfits c hc).bytes (hne c hc) c.2
    refine ⟨hwhole, ?_, fun gets u hu => exec_get_shows hwhole ?_ hu⟩
    · rw [hwritten.accesses]
      intro i hi
      rcases List.mem_append.1 hi with hi | hi
      · exact hs.bounded i hi
      · obtain ⟨c, hc, hi⟩ := List.mem_flatMap.1 hi
        exact (touched_lt_iff (hne c hc) c.2).2 (hfits c hc).length_lt.le i hi
    · rw [hwritten.get, hs.idle]
      trivial

def emptyLog : LogServer := .start (logClear ((LogState.boot none none).openLog true) true)

theorem emptyLog_fresh : emptyLog.Fresh :=
  ⟨⟨rfl, by decide, rfl⟩, rfl, by decide, rfl⟩

def twoTexts : List (Bytes × Bytes) :=
  [([104, 105], List.replicate 512 83), ([104, 10], List.replicate 512 83)]

theorem recordsWhole_twoTexts : ∃ t, exec logStep emptyLog (writeCalls twoTexts) = some t ∧
    t.log.content = [104, 105, 10, 104, 10] := by
  obtain ⟨t, ht, hiff⟩ := recordsWhole_iff_fitsBuffer emptyLog_fresh
    (show ∀ c ∈ twoTexts, c.1 ≠ [] by decide) (by decide +kernel)
  have hwhole : RecordsWhole t (twoTexts.map Prod.fst) := hiff.2 (by decide)
  have hrecords : (twoTexts.map Prod.fst).flatMap logRecord = [104, 105, 10, 104, 10] := by
    decide +kernel
  exact ⟨t, ht, hwhole.content.trans hrecords⟩

def LogRecordsWhole : Prop :=
  ∀ s calls t, s.Fresh → (∀ c ∈ calls, c.1 ≠ []) →
    exec logStep s (writeCalls calls) = some t → RecordsWhole t (calls.map Prod.fst)

/-- A text of 600 bytes: what lies behind `temp_buffer` is written as well. -/
def longText : List (Bytes × Bytes) := [(List.replicate 600 97, List.replicate 600 83)]

theorem not_logRecordsWhole : ¬ LogRecordsWhole := by
  intro hwhole
  have hrun : (exec logStep emptyLog (writeCalls longText)).map
      (fun t => decide ((83 : UInt8) ∈ t.log.content)) = some true := by
    decide +kernel
  obtain ⟨t, ht, hleak⟩ := Option.map_eq_some_iff.1 hrun
  have hrecords : (83 : UInt8) ∉ (longText.map Prod.fst).flatMap logRecord := by
    decide +kernel
  rw [← (hwhole emptyLog longText t emptyLog_fresh (by decide) ht).content] at hrecords
  exact hrecords (of_decide_eq_true hleak)

end UsbRepeater
