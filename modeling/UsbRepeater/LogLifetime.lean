import UsbRepeater.Lib.Watch
import UsbRepeater.LogSnapshot

/-! The log over the resets of the firmware. `log_handler_init` finds the files of the last boot,
appends to the log file or makes it the backup, and may fail on the way; behind it a reset can come
between any two steps. What has been stored stays, in its order, until it is cleared, or displaced
by a backup above the limit. -/
namespace UsbRepeater

open Schedule

/-- What has been stored since the last `log_clear` and has not gone with a cache, and the backups
displaced since then. -/
structure Tape where
  text : Bytes
  lost : Bytes
  deriving DecidableEq, Repr

def Tape.rotate (m : Tape) (r : InitResults) (s : LogState) : Tape :=
  if r.measured ∧ s.content.length > logMaxSize then { m with lost := m.lost ++ s.old.getD [] }
  else m

def Tape.boot (m : Tape) (r : InitResults) (s : LogState) (ok : Bool) : Tape :=
  if r.mutex ∧ r.mounted ∧ r.appended then
    let m := m.rotate r s
    if ok then { m with text := m.text ++ (bootHeader 1 r.reason r.freeHeap).take r.stored } else m
  else m

def LogState.backup (s : LogState) : Bytes := s.old.getD []

/-- What has been stored is in the log, in the backup or in a backup displaced, in its order; a
backup is displaced only by more than `LOG_MAX_SIZE` bytes. -/
structure LogState.Keeps (s : LogState) (m : Tape) : Prop where
  text : m.text = m.lost ++ (s.backup ++ s.content)
  enough : m.lost ≠ [] → logMaxSize < s.backup.length
  file : s.logFile.isSome = true → s.file.isSome = true
  count : s.bootCount = 0 ∨ s.bootCount = 1

theorem LogState.Keeps.of_same {s t : LogState} {m : Tape} (hs : s.Keeps m)
    (hlog : t.logFile = s.logFile) (hfile : t.file = s.file) (hold : t.old = s.old)
    (hcount : t.bootCount = s.bootCount) : t.Keeps m := by
  have hcontent : t.content = s.content := by rw [LogState.content, hfile]; rfl
  have hbackup : t.backup = s.backup := by rw [LogState.backup, hold]; rfl
  refine ⟨?_, ?_, ?_, ?_⟩
  · rw [hcontent, hbackup]
    exact hs.text
  · rw [hbackup]
    exact hs.enough
  · rw [hlog, hfile]
    exact hs.file
  · rw [hcount]
    exact hs.count

theorem LogState.Keeps.append {s t : LogState} {m : Tape} {bytes : Bytes} {stored : ℕ}
    (hs : s.Keeps m) (h : s.append bytes stored = some t) :
    t.Keeps (if s.live s.logFile then { m with text := m.text ++ bytes.take stored } else m) := by
  obtain ⟨-, rfl⟩ := append_eq_some.1 h
  by_cases hlive : s.live s.logFile = true
  · obtain ⟨old, hold⟩ := Option.isSome_iff_exists.1 (hs.file (LogState.isSome_of_live hlive))
    have htext := hs.text
    simp only [LogState.content, hold, Option.getD_some] at htext
    rw [if_pos hlive, if_pos hlive]
    refine ⟨?_, hs.enough, fun _ => ?_, hs.count⟩
    · simp only [LogState.content, LogState.backup, LogState.use, hold, Option.map_some,
        Option.getD_some, htext, List.append_assoc]
    · simp only [hold, Option.map_some, Option.isSome_some]
  · rw [if_neg hlive, if_neg hlive]
    exact hs.of_same rfl rfl rfl rfl

end UsbRepeater
