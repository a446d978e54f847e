import ArtifactCache.Proofs.Download.Deadline

/-!
# The course of a body

A body brings pieces, one after the other, until it ends or something else comes in between: a
failure, the limit, or nothing at all any more.  An observer hears of exactly that.  It hears
nothing when there is no body, and what it hears at last agrees with the file that is stored and
with the log.
-/

namespace ArtifactCache

/-- What comes next in a body, from an instant on, is its end, and that by the limit. -/
inductive AtEnd (limit : Option Duration) (bodyEnd : Wait Unit) (now : Nat) :
    List (Wait Chunk) → Prop
  | ended {delay : Nat} : bodyEnd = .after delay () → InTime limit (now + delay) →
      AtEnd limit bodyEnd now []

/-- What comes next in a body, from an instant on, is no piece of data and not the end. -/
inductive BreaksOff (limit : Option Duration) (bodyEnd : Wait Unit) (now : Nat) :
    List (Wait Chunk) → Prop
  | failure {delay : Nat} {causes : Causes} {rest : List (Wait Chunk)} :
      InTime limit (now + delay) →
      BreaksOff limit bodyEnd now (.after delay (.error causes) :: rest)
  | expired {d : Duration} {chunk : Wait Chunk} {rest : List (Wait Chunk)} :
      limit = some d → (∀ delay item, chunk = .after delay item → d.deadline < now + delay) →
      BreaksOff limit bodyEnd now (chunk :: rest)
  /-- Nothing comes and there is no limit, so that the body is given up. -/
  | dropped {rest : List (Wait Chunk)} : limit = none →
      BreaksOff limit bodyEnd now (.never :: rest)
  | endExpired {d : Duration} :
      limit = some d → (∀ delay, bodyEnd = .after delay () → d.deadline < now + delay) →
      BreaksOff limit bodyEnd now []
  | endDropped : limit = none → bodyEnd = .never → BreaksOff limit bodyEnd now []

/-- A body that begins at an instant brings these pieces by the limit, and then ends or breaks off
with the rest. -/
structure RunsTo (limit : Option Duration) (bodyEnd : Wait Unit) (start : Nat)
    (body : List (Wait Chunk)) (pieces : Pieces) (rest : List (Wait Chunk)) : Prop where
  body_eq : body = pieces.body ++ rest
  inTime : InTime limit (start + pieces.delay)
  stops : AtEnd limit bodyEnd (start + pieces.delay) rest ∨
    BreaksOff limit bodyEnd (start + pieces.delay) rest

namespace RunsTo

variable {limit : Option Duration} {bodyEnd : Wait Unit} {start time : Nat} {bytes : List UInt8}
  {body rest : List (Wait Chunk)} {pieces : Pieces}

theorem cons (h : RunsTo limit bodyEnd (start + time) body pieces rest) :
    RunsTo limit bodyEnd start (.after time (.ok bytes) :: body) ((time, bytes) :: pieces)
      rest := by
  obtain ⟨rfl, htime, hstops⟩ := h
  rw [Nat.add_assoc] at htime hstops
  exact ⟨rfl, htime, hstops⟩

theorem tail (h : RunsTo limit bodyEnd start body ((time, bytes) :: pieces) rest) :
    InTime limit (start + time) ∧
      RunsTo limit bodyEnd (start + time) (pieces.body ++ rest) pieces rest := by
  obtain ⟨-, htime, hstops⟩ := h
  rw [Pieces.delay_cons, ← Nat.add_assoc] at htime hstops
  exact ⟨htime.mono (Nat.le_add_right _ _), rfl, htime, hstops⟩

end RunsTo

section

variable {limit : Option Duration} {start : Nat}

theorem AtEnd.not_breaksOff {bodyEnd : Wait Unit} {rest : List (Wait Chunk)}
    (h : AtEnd limit bodyEnd start rest) : ¬ BreaksOff limit bodyEnd start rest := by
  obtain ⟨hend, htime⟩ := h
  intro hbreak
  cases hbreak with
  | endExpired hlimit hlate =>
      exact absurd (htime _ hlimit) (Nat.not_le.2 (hlate _ hend))
  | endDropped _ hnever =>
      rw [hend] at hnever
      cases hnever

theorem atEnd_or_breaksOff (limit : Option Duration) (bodyEnd : Wait Unit) (start : Nat) :
    AtEnd limit bodyEnd start [] ∨ BreaksOff limit bodyEnd start [] := by
  cases hend : bodyEnd.resolve limit start with
  | answered now item =>
      obtain ⟨delay, rfl, rfl, htime⟩ := Wait.resolve_eq_answered_iff.1 hend
      exact .inl (.ended rfl htime)
  | expired d =>
      obtain ⟨hlimit, hlate⟩ := Wait.resolve_eq_expired_iff.1 hend
      exact .inr (.endExpired hlimit fun delay => hlate delay ())
  | stuck =>
      obtain ⟨rfl, hlimit⟩ := Wait.resolve_eq_stuck_iff.1 hend
      exact .inr (.endDropped hlimit rfl)

theorem exists_runsTo (bodyEnd : Wait Unit) (body : List (Wait Chunk)) :
    ∀ {start : Nat}, InTime limit start →
      ∃ pieces rest, RunsTo limit bodyEnd start body pieces rest := by
  induction body with
  | nil => exact fun h => ⟨[], [], rfl, h, atEnd_or_breaksOff limit bodyEnd _⟩
  | cons chunk more ih =>
      intro start h
      cases hchunk : chunk.resolve limit start with
      | answered now item =>
          obtain ⟨time, rfl, rfl, htime⟩ := Wait.resolve_eq_answered_iff.1 hchunk
          cases item with
          | ok bytes =>
              obtain ⟨pieces, rest, hcourse⟩ := ih htime
              exact ⟨(time, bytes) :: pieces, rest, hcourse.cons⟩
          | error causes => exact ⟨[], _, rfl, h, .inr (.failure htime)⟩
      | expired d =>
          obtain ⟨hlimit, hlate⟩ := Wait.resolve_eq_expired_iff.1 hchunk
          exact ⟨[], _, rfl, h, .inr (.expired hlimit hlate)⟩
      | stuck =>
          obtain ⟨rfl, hlimit⟩ := Wait.resolve_eq_stuck_iff.1 hchunk
          exact ⟨[], _, rfl, h, .inr (.dropped hlimit)⟩

end

namespace Pieces

/-- How many bytes have come with each piece, counted on from those before the first. -/
def runningSums (start : Nat) : Pieces → List Nat
  | [] => []
  | piece :: rest => (start + piece.2.length) :: runningSums (start + piece.2.length) rest

theorem lastBytes_of_runningSums (pieces : Pieces) :
    ∀ {start : Nat} {updates : List Progress},
      updates.map (·.bytes) = runningSums start pieces →
        Progress.lastBytes start updates = start + pieces.content.length := by
  induction pieces with
  | nil =>
      intro start updates h
      rw [runningSums, List.map_eq_nil_iff] at h
      subst h
      rfl
  | cons piece rest ih =>
      obtain ⟨time, bytes⟩ := piece
      intro start updates h
      cases updates with
      | nil => cases h
      | cons p more =>
          obtain ⟨hp, hmore⟩ := List.cons.inj h
          have hp' : p.bytes = start + bytes.length := hp
          rw [Progress.lastBytes_cons, hp', ih hmore, Pieces.content_cons, List.length_append,
            Nat.add_assoc]

end Pieces

namespace Arrival

variable {a : Arrival} {now : Nat} {pieces : Pieces} {rest : List (Wait Chunk)}

/-- The observer of a body that is at its end hears that it is finished. -/
theorem receive_of_atEnd (h : AtEnd a.limit a.bodyEnd now rest) {meter : Meter}
    (hmeter : meter.isDone = false) (written : Nat) (files : FileSystem) :
    ∃ p : Progress, p.bytes = meter.transferred ∧
      Notice.events (a.receive now written (some meter) files rest).notices = [.finish p] := by
  obtain ⟨hend, htime⟩ := h
  rw [receive_ended hend htime]
  exact events_ended hmeter _

/-- A body that breaks off has no end, and its observer hears that it is abandoned. -/
theorem receive_of_breaksOff (h : BreaksOff a.limit a.bodyEnd now rest) {meter : Meter}
    (hmeter : meter.isDone = false) (written : Nat) (files : FileSystem) :
    let t := a.receive now written (some meter) files rest
    (∀ n, t.ending ≠ .done n) ∧
      ∃ p : Progress, p.bytes = meter.transferred ∧ Notice.events t.notices = [.abandon p] := by
  cases h with
  | @failure _ causes _ htime =>
      rw [receive_error htime]
      refine ⟨fun n hn => ?_, events_failure hmeter _ causes⟩
      cases hn
  | @expired d chunk _ hlimit hlate =>
      have hchunk : chunk.resolve a.limit now = .expired d :=
        Wait.resolve_eq_expired_iff.2 ⟨hlimit, hlate⟩
      rw [receive, hchunk]
      refine ⟨fun n hn => ?_, events_giveUp hmeter _⟩
      cases hn
  | dropped hlimit =>
      have hchunk : (Wait.never : Wait Chunk).resolve a.limit now = .stuck :=
        Wait.resolve_eq_stuck_iff.2 ⟨rfl, hlimit⟩
      rw [receive, hchunk]
      refine ⟨fun n hn => ?_, events_giveUp hmeter _⟩
      cases hn
  | @endExpired d hlimit hlate =>
      have hend : a.bodyEnd.resolve a.limit now = .expired d :=
        Wait.resolve_eq_expired_iff.2 ⟨hlimit, fun delay _ => hlate delay⟩
      simp only [receive, hend]
      refine ⟨fun n hn => ?_, events_giveUp hmeter _⟩
      cases hn
  | endDropped hlimit hend =>
      have hstuck : a.bodyEnd.resolve a.limit now = .stuck :=
        Wait.resolve_eq_stuck_iff.2 ⟨hend, hlimit⟩
      simp only [receive, hstuck]
      refine ⟨fun n hn => ?_, events_giveUp hmeter _⟩
      cases hn

/-- An observer hears of each piece how far the body has come with it, and then of the end or the
break. -/
theorem events_of_runsTo (a : Arrival) (pieces : Pieces) {rest : List (Wait Chunk)} :
    ∀ {now : Nat} {body : List (Wait Chunk)} (meter : Meter) (written : Nat)
      (files : FileSystem), meter.isDone = false → RunsTo a.limit a.bodyEnd now body pieces rest →
      ∃ (updates : List Progress) (last : Progress.Event) (p : Progress),
        Notice.events (a.receive now written (some meter) files body).notices =
            updates.map .update ++ [last] ∧
          updates.map (·.bytes) = Pieces.runningSums meter.transferred pieces ∧
          p.bytes = Progress.lastBytes meter.transferred updates ∧
          (AtEnd a.limit a.bodyEnd (now + pieces.delay) rest ∧ last = .finish p ∨
            BreaksOff a.limit a.bodyEnd (now + pieces.delay) rest ∧ last = .abandon p) := by
  induction pieces with
  | nil =>
      intro now body meter written files hmeter h
      obtain ⟨rfl, -, hend | hbreak⟩ := h
      · obtain ⟨p, hbytes, hevents⟩ := receive_of_atEnd hend hmeter written files
        exact ⟨[], .finish p, p, hevents, rfl, hbytes, .inl ⟨hend, rfl⟩⟩
      · obtain ⟨-, p, hbytes, hevents⟩ := receive_of_breaksOff hbreak hmeter written files
        exact ⟨[], .abandon p, p, hevents, rfl, hbytes, .inr ⟨hbreak, rfl⟩⟩
  | cons piece pieces ih =>
      obtain ⟨time, bytes⟩ := piece
      intro now body meter written files hmeter h
      obtain ⟨htime, hrest⟩ := h.tail
      obtain ⟨q, hq, hnotice⟩ := a.notice_data (now + time) bytes meter
      obtain ⟨updates, last, p, hevents, hsums, hbytes, hlast⟩ := ih
        { meter with transferred := meter.transferred + bytes.length } (written + bytes.length)
        (a.replacement.write files bytes) hmeter hrest
      refine ⟨q :: updates, last, p, ?_, ?_, ?_, ?_⟩
      · rw [h.body_eq, Pieces.body_cons, List.cons_append, receive_ok htime, hnotice]
        simp only [Transfer.after, Notice.events_append, Notice.events_progress,
          Notice.events_nil, hevents, List.map_cons]
        rfl
      · rw [List.map_cons, hsums, hq]
        rfl
      · rw [hbytes, Progress.lastBytes_cons, hq]
      · rwa [Pieces.delay_cons, ← Nat.add_assoc]

end Arrival

namespace Courier

variable {c : Courier} {url : Url} {destination : Path} {s : Storage} {delay : Nat}
  {answer : GetAnswer}

/-- The delivery gets an answer in time that is a success. -/
structure Obtains (c : Courier) (url : Url) (destination : Path) (s : Storage) (delay : Nat)
    (answer : GetAnswer) : Prop where
  reaches : Reaches url destination s
  answers : c.server.get url = .after delay (.ok answer)
  inTime : InTime c.limit delay
  low : 200 ≤ answer.status
  high : answer.status ≤ 299

theorem Obtains.isSuccess (h : c.Obtains url destination s delay answer) :
    answer.isSuccess = true :=
  GetAnswer.isSuccess_iff.2 ⟨h.low, h.high⟩

theorem notices_of_not_reaches (h : ¬ Reaches url destination s) :
    (c.deliver url destination s).notices = [] := by
  obtain ⟨e, s', -, hdeliver⟩ := deliver_eq_fail h
  rw [hdeliver]
  rfl

theorem notices_transfer (r : Replacement) (files : FileSystem)
    (h : ∀ delay answer, c.server.get url = .after delay (.ok answer) → InTime c.limit delay →
      ¬ answer.isSuccess = true) : (c.transfer url r files).notices = [] := by
  unfold transfer
  cases hanswer : (c.server.get url).resolve c.limit 0 with
  | answered now item =>
      obtain ⟨delay, hget, hnow, htime⟩ := Wait.resolve_eq_answered_iff.1 hanswer
      rw [Nat.zero_add] at hnow
      subst hnow
      cases item with
      | ok answer => simp only [if_neg (h now answer hget htime)]
      | error causes => rfl
  | expired d => rfl
  | stuck => rfl

theorem events_of_not_obtains (h : ∀ delay answer, ¬ c.Obtains url destination s delay answer) :
    Notice.events (c.deliver url destination s).notices = [] := by
  by_cases hreaches : Reaches url destination s
  · obtain ⟨r, s', -, -, hdeliver⟩ := deliver_of_reaches hreaches
    have hnone : (c.transfer url r s'.files).notices = [] := by
      refine notices_transfer r s'.files fun delay answer hget htime hstatus => ?_
      obtain ⟨hlow, hhigh⟩ := GetAnswer.isSuccess_iff.1 hstatus
      exact h delay answer ⟨hreaches, hget, htime, hlow, hhigh⟩
    simp only [hdeliver, Run.after, Notice.events_append, events_settle, hnone]
    rfl
  · rw [notices_of_not_reaches hreaches]
    rfl

/-- An observer hears of the whole course of a body that is obtained, and of nothing else. -/
theorem events_of_obtains (hobserver : c.observer.isSome = true)
    (h : c.Obtains url destination s delay answer) {pieces : Pieces} {rest : List (Wait Chunk)}
    (hcourse : RunsTo c.limit answer.bodyEnd delay answer.body pieces rest) :
    ∃ (updates : List Progress) (last : Progress.Event) (p : Progress),
      Notice.events (c.deliver url destination s).notices =
          .start url.text answer.contentLength :: (updates.map .update ++ [last]) ∧
        updates.map (·.bytes) = Pieces.runningSums 0 pieces ∧
        p.bytes = Progress.lastBytes 0 updates ∧
        (AtEnd c.limit answer.bodyEnd (delay + pieces.delay) rest ∧ last = .finish p ∨
          BreaksOff c.limit answer.bodyEnd (delay + pieces.delay) rest ∧ last = .abandon p) := by
  obtain ⟨observer, hobserver⟩ := Option.isSome_iff_exists.1 hobserver
  obtain ⟨r, s', -, -, hdeliver⟩ := deliver_of_reaches h.reaches
  obtain ⟨updates, last, p, hevents, hlaws⟩ := (c.arrival url r delay answer).events_of_runsTo
    pieces { total := answer.contentLength } 0 s'.files rfl hcourse
  refine ⟨updates, last, p, ?_, hlaws⟩
  have htransfer := transfer_of_answer r s'.files h.answers h.inTime h.isSuccess
  simp only [accept, hobserver, Meter.start] at htransfer
  simp only [hdeliver, Run.after, Notice.events_append, events_settle, htransfer, Transfer.after,
    Notice.events_log, Notice.events_progress, Notice.events_nil, hevents]
  rfl

/-- The last thing that is told about a delivery that is done is the size of what it stored. -/
theorem getLast?_notices_settle {r : Replacement} {t : Transfer} {n : Nat} {path : Path}
    (hending : t.ending = .done n) (hdone : (settle url r s t).ending = .done path) :
    (settle url r s t).notices.getLast? = some (.log (.debug (storedText url n path))) := by
  unfold settle at hdone ⊢
  simp only [hending] at hdone ⊢
  cases hcommit : r.commit t.files with
  | mk committed files =>
      rw [hcommit] at hdone
      cases committed with
      | error e => cases hdone
      | ok place =>
          cases hdone
          exact List.getLast?_concat

theorem stored_of_done {path : Path} (hobserver : c.observer.isSome = true)
    (hdone : (c.deliver url destination s).ending = .done path) :
    ∃ (p : Progress) (l : Location) (content : List UInt8),
      (Notice.events (c.deliver url destination s).notices).getLast? = some (.finish p) ∧
        s.files.NamesEntry path l ∧
        (c.deliver url destination s).files.get? l = some (.file content) ∧
        content.length = p.bytes ∧
        (c.deliver url destination s).notices.getLast? =
          some (.log (.debug (storedText url p.bytes path))) := by
  obtain ⟨content, l, hbody, hl, hending, hfiles⟩ :=
    (c.deliver_cases url destination s).resolve_right fun h => h.1 path hdone
  obtain rfl : destination = path := by
    rw [hending] at hdone
    cases hdone
    rfl
  have hreaches : Reaches url destination s := Classical.not_not.1 fun hno =>
    (deliver_of_obstacle fun h => hno ⟨h.1, h.2.1⟩).1 destination hending
  obtain ⟨delay, answer, pieces, last, hget, hlow, hhigh, hwhole, hend, rfl, htime⟩ := id hbody
  have hpieces : InTime c.limit (delay + pieces.delay) := htime.mono (Nat.le_add_right _ _)
  have hobtains : c.Obtains url destination s delay answer :=
    ⟨hreaches, hget, hpieces.mono (Nat.le_add_right _ _), hlow, hhigh⟩
  have hcourse : RunsTo c.limit answer.bodyEnd delay answer.body pieces [] :=
    ⟨by rw [hwhole, List.append_nil], hpieces, .inl (.ended hend htime)⟩
  obtain ⟨updates, last, p, hevents, hsums, hbytes, hlast⟩ :=
    events_of_obtains hobserver hobtains hcourse
  obtain ⟨-, rfl⟩ := hlast.resolve_right fun h => (AtEnd.ended hend htime).not_breaksOff h.1
  have hsize : pieces.content.length = p.bytes := by
    rw [hbytes, Pieces.lastBytes_of_runningSums pieces hsums, Nat.zero_add]
  refine ⟨p, l, pieces.content, ?_, hl.namesEntry, ?_, hsize, ?_⟩
  · rw [hevents, ← List.cons_append]
    exact List.getLast?_concat
  · rw [hfiles]
    exact FileSystem.get?_put_self _ hl.namesEntry.ne_nil _
  · obtain ⟨r, s', -, hstaged, hdeliver⟩ := deliver_of_reaches hreaches
    have htransfer := (transfer_of_delivers r s.files hbody).1
    rw [← hstaged] at htransfer
    rw [hdeliver] at hending ⊢
    have hlast := getLast?_notices_settle htransfer hending
    rw [hsize] at hlast
    simp only [Run.after, List.getLast?_append, hlast]
    rfl

/-- What an observer hears of a delivery: nothing unless there is a body; then that it starts, how
far it has come with each piece that arrives, and last that it is finished or abandoned, with as
many bytes as were told last.  It is finished exactly when its end is reached.  When the delivery is
done, the bytes that are told at last are those of the stored file, and the last line of the log
names their number. -/
theorem observer_hears_the_course (server : Server) (limit : Option Duration) (url : Url)
    (destination : Path) (s : Storage) :
    let c : Courier := { server, observer := some .recorder, limit }
    let run := c.deliver url destination s
    let events := Notice.events run.notices
    (events = [] ↔ ∀ delay answer, ¬ c.Obtains url destination s delay answer) ∧
      (∀ delay answer, c.Obtains url destination s delay answer →
        ∃ (pieces : Pieces) (rest : List (Wait Chunk)) (updates : List Progress)
          (last : Progress.Event) (p : Progress),
          RunsTo limit answer.bodyEnd delay answer.body pieces rest ∧
            events = .start url.text answer.contentLength :: (updates.map .update ++ [last]) ∧
            updates.map (·.bytes) = pieces.runningSums 0 ∧
            p.bytes = Progress.lastBytes 0 updates ∧
            (AtEnd limit answer.bodyEnd (delay + pieces.delay) rest ∧ last = .finish p ∨
              BreaksOff limit answer.bodyEnd (delay + pieces.delay) rest ∧ last = .abandon p)) ∧
      ∀ path, run.ending = .done path →
        ∃ (p : Progress) (l : Location) (content : List UInt8),
          events.getLast? = some (.finish p) ∧ s.files.NamesEntry path l ∧
            run.files.get? l = some (.file content) ∧ content.length = p.bytes ∧
            run.notices.getLast? = some (.log ⟨.debug,
              "stored " ++ toString p.bytes ++ " bytes of " ++ url.text ++ " at " ++
                path.text⟩) := by
  intro c run events
  have hevents : ∀ delay answer, c.Obtains url destination s delay answer →
      ∃ (pieces : Pieces) (rest : List (Wait Chunk)) (updates : List Progress)
        (last : Progress.Event) (p : Progress),
        RunsTo limit answer.bodyEnd delay answer.body pieces rest ∧
          events = .start url.text answer.contentLength :: (updates.map .update ++ [last]) ∧
          updates.map (·.bytes) = pieces.runningSums 0 ∧
          p.bytes = Progress.lastBytes 0 updates ∧
          (AtEnd limit answer.bodyEnd (delay + pieces.delay) rest ∧ last = .finish p ∨
            BreaksOff limit answer.bodyEnd (delay + pieces.delay) rest ∧ last = .abandon p) := by
    intro delay answer h
    obtain ⟨pieces, rest, hcourse⟩ := exists_runsTo answer.bodyEnd answer.body h.inTime
    obtain ⟨updates, last, p, hlaws⟩ := events_of_obtains rfl h hcourse
    exact ⟨pieces, rest, updates, last, p, hcourse, hlaws⟩
  refine ⟨⟨?_, events_of_not_obtains⟩, hevents, fun path => stored_of_done rfl⟩
  intro hnil delay answer h
  obtain ⟨_, _, _, _, _, -, hstart, -⟩ := hevents delay answer h
  rw [hnil] at hstart
  cases hstart

end Courier

end ArtifactCache
