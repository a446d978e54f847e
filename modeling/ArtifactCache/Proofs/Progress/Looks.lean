import ArtifactCache.Progress.Stream

/-!
# Looks at a stream

A stream under observation is looked at any number of times.  What the observer hears at a look
follows from what the stream has given until then: how many bytes have come, and whether the stream
has settled, by a failure or by its end.
-/

namespace ArtifactCache

namespace Polled

def data? : Polled → Option (List UInt8)
  | .data bytes => some bytes
  | .pending | .failure _ | .ended => none

/-- The stream has failed or ended, and the transfer is over. -/
def settles : Polled → Bool
  | .failure _ | .ended => true
  | .pending | .data _ => false

def content (seen : List Polled) : List UInt8 := seen.flatMap fun item => item.data?.getD []

@[simp] theorem content_nil : content [] = [] := rfl

@[simp] theorem content_append (earlier later : List Polled) :
    content (earlier ++ later) = content earlier ++ content later :=
  List.flatMap_append

@[simp] theorem content_singleton (item : Polled) : content [item] = item.data?.getD [] :=
  List.flatMap_singleton _ _

theorem data?_of_settles {item : Polled} (h : item.settles = true) : item.data? = none := by
  cases item with
  | pending | data _ => cases h
  | failure _ | ended => rfl

end Polled

namespace Progress.Event

def isStart : Event → Bool
  | .start _ _ => true
  | .update _ | .finish _ | .abandon _ => false

def update? : Event → Option Progress
  | .update p => some p
  | .start _ _ | .finish _ | .abandon _ => none

theorem isStart_of_isTerminal {e : Event} (h : e.isTerminal = true) : e.isStart = false := by
  cases e with
  | start | update => cases h
  | finish | abandon => rfl

theorem isTerminal_of_updates {events : List Event} (h : ∀ e ∈ events, ∃ p, e = .update p)
    {e : Event} (he : e ∈ events) : e.isTerminal = false := by
  obtain ⟨p, rfl⟩ := h e he
  rfl

theorem filter_isTerminal_of_updates {events : List Event}
    (h : ∀ e ∈ events, ∃ p, e = .update p) : events.filter isTerminal = [] :=
  List.filter_eq_nil_iff.2 fun e he => by simp [isTerminal_of_updates h he]

end Progress.Event

/-! ## What a meter has counted -/

namespace Meter

/-- The meter after some items have gone by. -/
def carry (m : Meter) (seen : List Polled) : Meter :=
  { m with
    transferred := m.transferred + (Polled.content seen).length
    isDone := m.isDone || seen.any Polled.settles }

@[simp] theorem carry_nil (m : Meter) : m.carry [] = m := by simp [carry]

theorem carry_append (m : Meter) (earlier later : List Polled) :
    m.carry (earlier ++ later) = (m.carry earlier).carry later := by
  simp [carry, Nat.add_assoc, Bool.or_assoc]

theorem pass_meter (m : Meter) (elapsed : Duration) (item : Polled) :
    (m.pass elapsed item).2 = m.carry [item] := by
  obtain ⟨total, transferred, isDone⟩ := m
  cases item with
  | pending | data _ => simp [pass, carry, Polled.data?, Polled.settles]
  | failure _ | ended => cases isDone <;> simp [pass, carry, Polled.data?, Polled.settles]

end Meter

/-! ## Looks at a stream -/

/-- One look at a stream under observation: when, what it gave, and what the observer heard. -/
structure Look where
  elapsed : Duration
  seen : Polled
  heard : List Progress.Event
  deriving DecidableEq, Repr

/-- How far a transfer has come with what was seen at some looks. -/
def Look.tally (total : Option Nat) (looks : List Look) (elapsed : Duration) : Progress :=
  ⟨(Polled.content (looks.map (·.seen))).length, total, elapsed⟩

namespace ObservedStream

variable {s : ObservedStream} {times : List Duration} {earlier later : List Look} {look : Look}

def looks (s : ObservedStream) : List Duration → List Look
  | [] => []
  | elapsed :: times =>
      let (seen, heard, rest) := s.poll elapsed
      { elapsed, seen, heard } :: rest.looks times

theorem looks_cons (s : ObservedStream) (elapsed : Duration) (times : List Duration) :
    s.looks (elapsed :: times) =
      ⟨elapsed, s.next, (s.poll elapsed).2.1⟩ :: ((s.poll elapsed).2.2).looks times := rfl

/-- The looks give what the script says, whether or not anyone hears of it. -/
theorem seen_looks (times : List Duration) (s : ObservedStream) :
    (s.looks times).map (·.seen) =
      (List.range times.length).map fun n => s.script.getD n .ended := by
  induction times generalizing s with
  | nil => rfl
  | cons elapsed times ih =>
      rw [looks_cons, List.map_cons, ih, List.length_cons, List.range_succ_eq_map, List.map_cons,
        List.map_map]
      congr 1
      · cases hscript : s.script <;> simp [next, hscript]
      · refine List.map_congr_left fun n _ => ?_
        cases hscript : s.script <;> simp [poll, hscript]

theorem looks_take (n : Nat) (times : List Duration) (s : ObservedStream) :
    s.looks (times.take n) = (s.looks times).take n := by
  induction times generalizing s n with
  | nil => simp [looks]
  | cons elapsed times ih =>
      cases n with
      | zero => rfl
      | succ n => simp only [List.take_succ_cons, looks_cons, ih]

theorem meter_poll (s : ObservedStream) (elapsed : Duration) :
    ((s.poll elapsed).2.2).meter = s.meter.carry [s.next] :=
  Meter.pass_meter _ _ _

theorem meter_after (times : List Duration) (s : ObservedStream) :
    (s.after times).meter = s.meter.carry ((s.looks times).map (·.seen)) := by
  induction times generalizing s with
  | nil => simp [ObservedStream.after, looks]
  | cons elapsed times ih =>
      rw [ObservedStream.after, ih, meter_poll, ← Meter.carry_append]
      rfl

theorem elapsed_looks (times : List Duration) (s : ObservedStream) :
    (s.looks times).map (·.elapsed) = times := by
  induction times generalizing s with
  | nil => rfl
  | cons elapsed times ih => rw [looks_cons, List.map_cons, ih]

/-- What is heard at a look follows from what was seen before. -/
theorem heard_of_looks (earlier : List Look) :
    ∀ {s : ObservedStream} {times : List Duration}, s.looks times = earlier ++ look :: later →
      look.heard =
        ((s.meter.carry (earlier.map (·.seen))).pass look.elapsed look.seen).1 := by
  induction earlier with
  | nil =>
      intro s times h
      cases times with
      | nil => cases h
      | cons elapsed times =>
          obtain ⟨rfl, -⟩ := List.cons.inj ((looks_cons s elapsed times).symm.trans h)
          rw [List.map_nil, Meter.carry_nil]
          rfl
  | cons first earlier ih =>
      intro s times h
      cases times with
      | nil => cases h
      | cons elapsed times =>
          obtain ⟨rfl, hrest⟩ := List.cons.inj ((looks_cons s elapsed times).symm.trans h)
          rw [ih hrest, meter_poll, ← Meter.carry_append]
          rfl

end ObservedStream

end ArtifactCache
