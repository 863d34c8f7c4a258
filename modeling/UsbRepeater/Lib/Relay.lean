import UsbRepeater.Lib.Schedule

/-! A relay between its clients and a service. Requests wait in lanes; the first of a lane is
passed to the service, or dropped. The service answers what it has in any order, and what it
answered is told to the client in that order, or lost. -/
namespace UsbRepeater

open Schedule

/-- What a relay has on its hands: the requests of each lane, those the service has, and the
answers nobody has been told. -/
structure Relay (κ ρ α : Type*) where
  waiting : κ → List ρ
  pending : Multiset ρ
  answers : List (ρ × α)

inductive RelayEvent (κ ρ α : Type*)
  | ask (k : κ) (r : ρ)
  | pass (k : κ) (r : ρ)
  | drop (k : κ) (r : ρ)
  | answer (r : ρ) (a : α)
  | tell (r : ρ) (a : α)
  | lose (r : ρ) (a : α)

variable {κ ρ α : Type*}

namespace RelayEvent

def given : RelayEvent κ ρ α → Option (ρ × α)
  | .answer r a => some (r, a)
  | _ => none

def told : RelayEvent κ ρ α → Option (ρ × α)
  | .tell r a => some (r, a)
  | _ => none

def lost : RelayEvent κ ρ α → Option (ρ × α)
  | .lose r a => some (r, a)
  | _ => none

def settled : RelayEvent κ ρ α → Option (ρ × α)
  | .tell r a => some (r, a)
  | .lose r a => some (r, a)
  | _ => none

theorem told_sublist_settled (es : List (RelayEvent κ ρ α)) :
    (es.filterMap told).Sublist (es.filterMap settled) := by
  induction es with
  | nil => exact .slnil
  | cons e es ih =>
    cases e with
    | tell r a => exact ih.cons_cons _
    | lose r a => exact ih.cons _
    | _ => exact ih

theorem told_eq_settled {es : List (RelayEvent κ ρ α)} (h : es.filterMap lost = []) :
    es.filterMap told = es.filterMap settled := by
  induction es with
  | nil => rfl
  | cons e es ih =>
    cases e with
    | tell r a => exact congrArg (List.cons (r, a)) (ih h)
    | lose r a => cases h
    | _ => exact ih h

end RelayEvent

namespace Relay

def empty : Relay κ ρ α := ⟨fun _ => [], 0, []⟩

section Leave

variable [DecidableEq κ] [DecidableEq ρ] {s t : Relay κ ρ α} {k : κ} {r : ρ}

/-- The first request of its lane leaves it. -/
def leave (s : Relay κ ρ α) (k : κ) (r : ρ) : Option (Relay κ ρ α) :=
  if (s.waiting k).head? = some r then
    some { s with waiting := Function.update s.waiting k (s.waiting k).tail }
  else none

theorem leave_eq_some : s.leave k r = some t ↔ ∃ rest, s.waiting k = r :: rest ∧
    t = { s with waiting := Function.update s.waiting k rest } := by
  unfold leave
  cases hs : s.waiting k with
  | nil => simp
  | cons x rest =>
    simp only [List.head?_cons, List.tail_cons, Option.ite_none_right_eq_some, Option.some.injEq,
      List.cons.injEq]
    constructor
    · rintro ⟨rfl, rfl⟩
      exact ⟨rest, ⟨rfl, rfl⟩, rfl⟩
    · rintro ⟨rest, ⟨rfl, rfl⟩, rfl⟩
      exact ⟨rfl, rfl⟩

end Leave

section Settle

variable [DecidableEq ρ] [DecidableEq α] {s t : Relay κ ρ α} {r : ρ} {a : α}

/-- The answer that has waited longest is done with. -/
def settle (s : Relay κ ρ α) (r : ρ) (a : α) : Option (Relay κ ρ α) :=
  if s.answers.head? = some (r, a) then some { s with answers := s.answers.tail } else none

theorem settle_eq_some : s.settle r a = some t ↔
    ∃ rest, s.answers = (r, a) :: rest ∧ t = { s with answers := rest } := by
  unfold settle
  cases hs : s.answers with
  | nil => simp
  | cons x rest =>
    simp only [List.head?_cons, List.tail_cons, Option.ite_none_right_eq_some, Option.some.injEq,
      List.cons.injEq]
    constructor
    · rintro ⟨rfl, rfl⟩
      exact ⟨rest, ⟨rfl, rfl⟩, rfl⟩
    · rintro ⟨rest, ⟨rfl, rfl⟩, rfl⟩
      exact ⟨rfl, rfl⟩

end Settle

variable [DecidableEq κ] [DecidableEq ρ] [DecidableEq α]

def step (s : Relay κ ρ α) : RelayEvent κ ρ α → Option (Relay κ ρ α)
  | .ask k r => some { s with waiting := Function.update s.waiting k (s.waiting k ++ [r]) }
  | .pass k r => (s.leave k r).map fun t => { t with pending := r ::ₘ t.pending }
  | .drop k r => s.leave k r
  | .answer r a =>
      if r ∈ s.pending then
        some { s with pending := s.pending.erase r, answers := s.answers ++ [(r, a)] }
      else none
  | .tell r a => s.settle r a
  | .lose r a => s.settle r a

variable {s t : Relay κ ρ α} {e : RelayEvent κ ρ α} {es : List (RelayEvent κ ρ α)}

theorem step_answers (h : s.step e = some t) :
    s.answers ++ e.given.toList = e.settled.toList ++ t.answers := by
  cases e with
  | ask k r =>
    obtain rfl := Option.some.inj h
    exact List.append_nil _
  | pass k r =>
    obtain ⟨u, hu, rfl⟩ := Option.map_eq_some_iff.1 h
    obtain ⟨rest, -, rfl⟩ := leave_eq_some.1 hu
    exact List.append_nil _
  | drop k r =>
    obtain ⟨rest, -, rfl⟩ := leave_eq_some.1 h
    exact List.append_nil _
  | answer r a =>
    simp only [step, Option.ite_none_right_eq_some, Option.some.injEq] at h
    rw [← h.2]
    rfl
  | tell r a | lose r a =>
    obtain ⟨rest, hs, rfl⟩ := settle_eq_some.1 h
    rw [hs]
    exact List.append_nil _

theorem exec_answers (h : exec step s es = some t) :
    s.answers ++ es.filterMap RelayEvent.given = es.filterMap RelayEvent.settled ++ t.answers := by
  induction es generalizing s with
  | nil =>
    obtain rfl : s = t := by simpa using h
    exact List.append_nil _
  | cons e es ih =>
    obtain ⟨u, hu, hrest⟩ := exec_cons.1 h
    have hcons : ∀ f : RelayEvent κ ρ α → Option (ρ × α),
        (e :: es).filterMap f = (f e).toList ++ es.filterMap f := by
      intro f
      cases hf : f e <;> simp [hf]
    calc s.answers ++ (e :: es).filterMap RelayEvent.given
        = e.settled.toList ++ (u.answers ++ es.filterMap RelayEvent.given) := by
          rw [hcons, ← List.append_assoc, step_answers hu, List.append_assoc]
      _ = (e :: es).filterMap RelayEvent.settled ++ t.answers := by
          rw [ih hrest, hcons, List.append_assoc]

/-- Clients are told what the service answered in the order it did, except for what is lost. -/
theorem told_in_order (h : exec step empty es = some t) :
    (es.filterMap RelayEvent.told).Sublist (es.filterMap RelayEvent.given) ∧
      (es.filterMap RelayEvent.lost = [] →
        es.filterMap RelayEvent.told ++ t.answers = es.filterMap RelayEvent.given) := by
  have hanswers : es.filterMap RelayEvent.given =
      es.filterMap RelayEvent.settled ++ t.answers := exec_answers h
  refine ⟨?_, fun hlost => ?_⟩
  · rw [hanswers]
    exact (RelayEvent.told_sublist_settled es).trans (List.sublist_append_left _ _)
  · rw [hanswers, RelayEvent.told_eq_settled hlost]

end Relay

end UsbRepeater
