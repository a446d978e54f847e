import ArtifactCache.Proofs.Download.Delivery

/-!
# What an observer hears

Once a body has begun, its observer hears how far it has come, and at last how it came to an end,
which says how much had come until then.
-/

namespace ArtifactCache

/-- How many bytes the last of some updates tells of. -/
def Progress.lastBytes (start : Nat) (updates : List Progress) : Nat :=
  (updates.getLast?.map (·.bytes)).getD start

theorem Progress.lastBytes_cons (start : Nat) (p : Progress) (updates : List Progress) :
    lastBytes start (p :: updates) = lastBytes p.bytes updates := by
  cases updates with
  | nil => rfl
  | cons q rest => simp [lastBytes, List.getLast?_cons]

/-- The event with which a transfer comes to an end. -/
def Transfer.closing (t : Transfer) : Progress → Progress.Event :=
  match t.ending with
  | .done _ => .finish
  | .failed _ | .stuck => .abandon

namespace Notice

@[simp] theorem events_append (l m : List Notice) : events (l ++ m) = events l ++ events m :=
  List.filterMap_append

@[simp] theorem events_log (record : Log.Record) (l : List Notice) :
    events (.log record :: l) = events l := rfl

@[simp] theorem events_progress (instant : Duration) (event : Progress.Event) (l : List Notice) :
    events (.progress instant event :: l) = event :: events l := rfl

@[simp] theorem events_nil : events [] = [] := rfl

end Notice

namespace Arrival

variable {a : Arrival}

theorem notice_data (a : Arrival) (now : Nat) (bytes : List UInt8) (m : Meter) :
    ∃ p : Progress, p.bytes = m.transferred + bytes.length ∧
      a.notice now (.data bytes) (some m) =
        ([.progress (.ofMillis now) (.update p)],
          some { m with transferred := m.transferred + bytes.length }) :=
  ⟨_, rfl, rfl⟩

theorem events_failure {m : Meter} (hm : m.isDone = false) (now : Nat) (causes : Causes) :
    ∃ p : Progress, p.bytes = m.transferred ∧
      Notice.events (a.notice now (.failure causes) (some m)).1 = [.abandon p] := by
  simp only [notice, Meter.pass, hm]
  exact ⟨_, rfl, rfl⟩

theorem events_ended {m : Meter} (hm : m.isDone = false) (now : Nat) :
    ∃ p : Progress, p.bytes = m.transferred ∧
      Notice.events (a.notice now .ended (some m)).1 = [.finish p] := by
  simp only [notice, Meter.pass, hm]
  exact ⟨_, rfl, rfl⟩

theorem events_giveUp {m : Meter} (hm : m.isDone = false) (now : Nat) :
    ∃ p : Progress, p.bytes = m.transferred ∧
      Notice.events (a.giveUp now (some m)) = [.abandon p] := by
  simp only [giveUp, Meter.drop, hm]
  exact ⟨_, rfl, rfl⟩

/-- An observer of a body hears updates, and then one event that fits the end and tells the bytes
of the last update. -/
theorem events_receive (a : Arrival) (body : List (Wait Chunk)) :
    ∀ (now written : Nat) (meter : Meter) (files : FileSystem), meter.isDone = false →
      let t := a.receive now written (some meter) files body
      ∃ (updates : List Progress) (p : Progress),
        Notice.events t.notices = updates.map .update ++ [t.closing p] ∧
          p.bytes = Progress.lastBytes meter.transferred updates := by
  induction body with
  | nil =>
      intro now written meter files hmeter
      unfold receive
      split
      · next instant _ =>
          obtain ⟨p, hbytes, hevents⟩ := events_ended (a := a) hmeter instant
          exact ⟨[], p, hevents, hbytes⟩
      · next limit _ =>
          obtain ⟨p, hbytes, hevents⟩ := events_giveUp (a := a) hmeter limit.deadline
          exact ⟨[], p, hevents, hbytes⟩
      · obtain ⟨p, hbytes, hevents⟩ := events_giveUp (a := a) hmeter now
        exact ⟨[], p, hevents, hbytes⟩
  | cons chunk rest ih =>
      intro now written meter files hmeter
      unfold receive
      split
      · next instant bytes _ =>
          obtain ⟨q, hq, hnotice⟩ := a.notice_data instant bytes meter
          obtain ⟨updates, p, hevents, hbytes⟩ := ih instant (written + bytes.length)
            { meter with transferred := meter.transferred + bytes.length }
            (a.replacement.write files bytes) hmeter
          refine ⟨q :: updates, p, ?_, ?_⟩
          · simp only [hnotice, Transfer.after, Notice.events_append, Notice.events_progress,
              Notice.events_nil, hevents, List.map_cons]
            rfl
          · rw [hbytes, Progress.lastBytes_cons, hq]
      · next instant causes _ =>
          obtain ⟨p, hbytes, hevents⟩ := events_failure (a := a) hmeter instant causes
          exact ⟨[], p, hevents, hbytes⟩
      · next limit _ =>
          obtain ⟨p, hbytes, hevents⟩ := events_giveUp (a := a) hmeter limit.deadline
          exact ⟨[], p, hevents, hbytes⟩
      · obtain ⟨p, hbytes, hevents⟩ := events_giveUp (a := a) hmeter now
        exact ⟨[], p, hevents, hbytes⟩

end Arrival

namespace Courier

variable {c : Courier} {url : Url} {answer : GetAnswer}

theorem events_accept (hobserver : c.observer.isSome = true) (url : Url) (r : Replacement)
    (fs : FileSystem) (now : Nat) (answer : GetAnswer) :
    let t := c.accept url r fs now answer
    ∃ (updates : List Progress) (p : Progress),
      Notice.events t.notices =
          .start url.text answer.contentLength :: (updates.map .update ++ [t.closing p]) ∧
        p.bytes = Progress.lastBytes 0 updates := by
  obtain ⟨observer, hobserver⟩ := Option.isSome_iff_exists.1 hobserver
  obtain ⟨updates, p, hevents, hbytes⟩ := (c.arrival url r now answer).events_receive answer.body
    now 0 { total := answer.contentLength } fs rfl
  refine ⟨updates, p, ?_, hbytes⟩
  simp only [accept, hobserver, Meter.start, Transfer.after, Notice.events_append,
    Notice.events_progress, Notice.events_nil, hevents]
  rfl

/-- The body of an answer that comes in time and is a success has begun, and its observer hears how
it ends. -/
theorem events_transfer {delay : Nat} (r : Replacement) (fs : FileSystem)
    (hobserver : c.observer.isSome = true) (hget : c.server.get url = .after delay (.ok answer))
    (hdelay : InTime c.limit delay) (hstatus : answer.isSuccess = true) :
    let t := c.transfer url r fs
    ∃ (updates : List Progress) (p : Progress),
      Notice.events t.notices =
          .start url.text answer.contentLength :: (updates.map .update ++ [t.closing p]) ∧
        p.bytes = Progress.lastBytes 0 updates := by
  rw [transfer_of_answer r fs hget hdelay hstatus]
  exact events_accept hobserver url r fs delay answer

/-- Nothing is heard any more once a transfer is settled. -/
theorem events_settle (url : Url) (r : Replacement) (storage : Storage) (t : Transfer) :
    Notice.events (settle url r storage t).notices = Notice.events t.notices := by
  unfold settle
  split
  · split
    · simp
    · rfl
  · rfl
  · rfl

end Courier

end ArtifactCache
