import ArtifactCache.Progress.Bar
import ArtifactCache.Proofs.Progress.Looks

/-!
# Reports at a distance

A reporter hears events at instants of a clock that does not run backwards.  It logs a record for
every start and every end of a transfer, and for an update only if the interval has passed since
the latest start or reported update.  What is heard in between does not count, so that updates
neither flood the log nor keep each other out of it.
-/

namespace ArtifactCache

namespace Progress.Event

def url? : Event → Option String
  | .start url _ => some url
  | .update _ | .finish _ | .abandon _ => none

theorem exists_update {e : Event} (h : e.update?.isSome = true) : ∃ p, e = .update p := by
  cases e with
  | update p => exact ⟨p, rfl⟩
  | start | finish | abandon => cases h

/-- The level of a record about an event. -/
def level : Event → Log.Level
  | .abandon _ => .warn
  | .start _ _ | .update _ | .finish _ => .info

end Progress.Event

/-- One event as a reporter hears it: when, what, and the log about it. -/
structure Hearing where
  instant : Duration
  event : Progress.Event
  log : Log
  deriving DecidableEq, Repr

namespace Hearing

/-- The interval begins anew: a transfer starts, or an update is reported. -/
def isMark (h : Hearing) : Bool :=
  h.event.isStart || (h.event.update?.isSome && !h.log.isEmpty)

/-- The URL of the latest start. -/
def latestUrl (heard : List Hearing) : String :=
  (heard.filterMap (·.event.url?)).getLast?.getD ""

/-- An update comes before any mark, or no sooner than the interval after the latest one. -/
def IsDue (interval : Duration) (earlier : List Hearing) (now : Duration) : Prop :=
  (∀ h ∈ earlier, h.isMark = false) ∨
    ∃ last ∈ earlier, last.isMark = true ∧
      (∀ h ∈ earlier, h.isMark = true → h.instant.nanos ≤ last.instant.nanos) ∧
      last.instant.nanos + interval.nanos ≤ now.nanos

/-- How an event is logged after what was heard earlier. -/
structure Follows (interval : Duration) (earlier : List Hearing) (h : Hearing) : Prop where
  once : h.event.update? = none → h.log.length = 1
  due : h.event.update?.isSome = true → IsDue interval earlier h.instant → h.log.length = 1
  suppressed : h.event.update?.isSome = true → ¬ IsDue interval earlier h.instant → h.log = []
  level {record : Log.Record} : record ∈ h.log → record.level = h.event.level
  url {record : Log.Record} : record ∈ h.log →
    ∃ rest, record.text = latestUrl (earlier ++ [h]) ++ ": " ++ rest

/-- The instant of the latest mark. -/
def mark? (heard : List Hearing) : Option Duration :=
  (heard.filter isMark).getLast?.map (·.instant)

end Hearing

namespace Reporter

variable {r : Reporter} {now : Duration} {event : Progress.Event}
  {events : List (Duration × Progress.Event)} {earlier later : List Hearing} {h : Hearing}

/-! ## What a reporter keeps in mind -/

/-- The reporter after some events. -/
def carry (r : Reporter) (heard : List Hearing) : Reporter :=
  { r with
    url := (heard.filterMap (·.event.url?)).getLast?.getD r.url
    lastReport := (Hearing.mark? heard).or r.lastReport }

theorem carry_append (r : Reporter) (earlier later : List Hearing) :
    r.carry (earlier ++ later) = (r.carry earlier).carry later := by
  simp only [carry, Hearing.mark?, List.filterMap_append, List.filter_append,
    List.getLast?_append, mk.injEq, true_and]
  constructor
  · cases (later.filterMap (·.event.url?)).getLast? <;> rfl
  · cases (later.filter Hearing.isMark).getLast? <;> rfl

theorem hear_snd (r : Reporter) (now : Duration) (event : Progress.Event) :
    (r.hear now event).2 = r.carry [⟨now, event, (r.hear now event).1⟩] := by
  cases event with
  | start url total => rfl
  | update p =>
      simp only [hear]
      split <;> rfl
  | finish p => rfl
  | abandon p => rfl

def hearings (r : Reporter) : List (Duration × Progress.Event) → List Hearing
  | [] => []
  | (now, event) :: rest => ⟨now, event, (r.hear now event).1⟩ :: (r.hear now event).2.hearings rest

theorem hearings_cons (r : Reporter) (now : Duration) (event : Progress.Event)
    (rest : List (Duration × Progress.Event)) :
    r.hearings ((now, event) :: rest) =
      ⟨now, event, (r.hear now event).1⟩ :: (r.hear now event).2.hearings rest := rfl

theorem map_hearings (events : List (Duration × Progress.Event)) (r : Reporter) :
    (r.hearings events).map (fun h => (h.instant, h.event)) = events := by
  induction events generalizing r with
  | nil => rfl
  | cons first rest ih => rw [hearings_cons, List.map_cons, ih]

theorem hearings_take (n : Nat) (events : List (Duration × Progress.Event)) (r : Reporter) :
    r.hearings (events.take n) = (r.hearings events).take n := by
  induction events generalizing r n with
  | nil => simp [hearings]
  | cons first rest ih =>
      cases n with
      | zero => rfl
      | succ n => rw [List.take_succ_cons, hearings_cons, hearings_cons, ih, List.take_succ_cons]

theorem hearAll_eq (events : List (Duration × Progress.Event)) (r : Reporter) :
    r.hearAll events = ((r.hearings events).flatMap (·.log), r.carry (r.hearings events)) := by
  induction events generalizing r with
  | nil => rfl
  | cons first rest ih =>
      obtain ⟨now, event⟩ := first
      have hcarry := carry_append r [⟨now, event, (r.hear now event).1⟩]
        ((r.hear now event).2.hearings rest)
      rw [← hear_snd, List.singleton_append] at hcarry
      simp only [hearings_cons, List.flatMap_cons, hcarry, hearAll, ih]

/-- What is logged about an event follows from what was heard before. -/
theorem log_of_hearings (earlier : List Hearing) :
    ∀ {r : Reporter} {events : List (Duration × Progress.Event)},
      r.hearings events = earlier ++ h :: later →
        h.log = ((r.carry earlier).hear h.instant h.event).1 := by
  induction earlier with
  | nil =>
      intro r events hheard
      cases events with
      | nil => cases hheard
      | cons first rest =>
          obtain ⟨rfl, -⟩ :=
            List.cons.inj ((hearings_cons r first.1 first.2 rest).symm.trans hheard)
          rfl
  | cons first earlier ih =>
      intro r events hheard
      cases events with
      | nil => cases hheard
      | cons head rest =>
          obtain ⟨rfl, hrest⟩ :=
            List.cons.inj ((hearings_cons r head.1 head.2 rest).symm.trans hheard)
          rw [ih hrest, hear_snd, ← carry_append]
          rfl

theorem lastReport_carry_mark (r : Reporter) (h : Hearing) (hmark : h.isMark = true) :
    (r.carry [h]).lastReport = some h.instant := by
  simp [carry, Hearing.mark?, hmark]

theorem carry_of_not_mark (r : Reporter) (h : Hearing) (hmark : h.isMark = false) :
    r.carry [h] = r := by
  obtain ⟨instant, event, log⟩ := h
  cases event with
  | start url total => cases hmark
  | update p => simp [carry, Hearing.mark?, hmark, Progress.Event.url?]
  | finish p => rfl
  | abandon p => rfl

theorem carry_of_take (r : Reporter) (hheard : r.hearings events = earlier ++ h :: later) :
    (r.hearAll (events.take earlier.length)).2 = r.carry earlier ∧
      (r.hearAll (events.take (earlier.length + 1))).2 = (r.carry earlier).carry [h] := by
  constructor
  · rw [hearAll_eq, hearings_take, hheard, List.take_left]
  · rw [hearAll_eq, hearings_take, hheard, ← carry_append, List.take_length_add_append]
    rfl

/-! ## What is logged about one event -/

theorem hear_update (r : Reporter) (now : Duration) (p : Progress) :
    (r.hear now (.update p)).1 =
      if r.isDue now then [.info (r.url ++ ": " ++ describe p)] else [] := by
  simp only [hear]
  split <;> rfl

theorem length_hear (h : event.update? = none) : (r.hear now event).1.length = 1 := by
  cases event with
  | update p => cases h
  | start url total => rfl
  | finish p => rfl
  | abandon p => rfl

/-- A text that begins with a URL and a colon still does when it is continued. -/
theorem begins_append {text url : String} (more : String)
    (h : ∃ rest, text = url ++ ": " ++ rest) : ∃ rest, text ++ more = url ++ ": " ++ rest := by
  obtain ⟨rest, rfl⟩ := h
  exact ⟨rest ++ more, String.append_assoc⟩

/-- A record has the level of its event, and begins with the URL of the latest start. -/
theorem of_mem_hear {record : Log.Record} (h : record ∈ (r.hear now event).1) :
    record.level = event.level ∧
      ∃ rest, record.text = event.url?.getD r.url ++ ": " ++ rest := by
  have hbegins (url label : String) : ∃ rest, url ++ (": " ++ label) = url ++ ": " ++ rest :=
    ⟨label, String.append_assoc.symm⟩
  have hreceiving : ": receiving " = ": " ++ "receiving " := by decide
  have hcomplete : ": complete, " = ": " ++ "complete, " := by decide
  have hstopped : ": transfer stopped after " = ": " ++ "transfer stopped after " := by decide
  cases event with
  | start url total =>
      simp only [hear, hreceiving, List.mem_singleton] at h
      subst h
      exact ⟨rfl, begins_append _ (hbegins _ _)⟩
  | update p =>
      rw [hear_update] at h
      split at h
      · obtain rfl := List.mem_singleton.1 h
        exact ⟨rfl, describe p, rfl⟩
      · cases h
  | finish p =>
      simp only [hear, hcomplete, List.mem_singleton] at h
      subst h
      exact ⟨rfl, begins_append _ (begins_append _ (begins_append _ (begins_append _
        (hbegins _ _))))⟩
  | abandon p =>
      simp only [hear, hstopped, List.mem_singleton] at h
      subst h
      exact ⟨rfl, begins_append _ (hbegins _ _)⟩

end Reporter

/-! ## When an update is due -/

namespace Hearing

variable {interval now : Duration} {earlier heard : List Hearing}

/-- Heard on a clock that does not run backwards. -/
def InOrder (heard : List Hearing) : Prop :=
  heard.Pairwise fun h h' => h.instant.nanos ≤ h'.instant.nanos

theorem InOrder.before {h : Hearing} {later : List Hearing}
    (horder : InOrder (earlier ++ h :: later)) :
    InOrder earlier ∧ ∀ m ∈ earlier, m.instant.nanos ≤ h.instant.nanos := by
  obtain ⟨hearlier, -, hcross⟩ := List.pairwise_append.1 horder
  exact ⟨hearlier, fun m hm => hcross m hm h List.mem_cons_self⟩

theorem mark?_eq_none_iff : mark? heard = none ↔ ∀ h ∈ heard, h.isMark = false := by
  simp [mark?]

/-- On such a clock the latest of the marks is the one that was heard last. -/
theorem exists_latest (horder : InOrder heard) {t : Duration} (h : mark? heard = some t) :
    ∃ last ∈ heard, last.isMark = true ∧ last.instant = t ∧
      ∀ h ∈ heard, h.isMark = true → h.instant.nanos ≤ last.instant.nanos := by
  obtain ⟨last, hlast, rfl⟩ := Option.map_eq_some_iff.1 h
  obtain ⟨front, hmarks⟩ := List.getLast?_eq_some_iff.1 hlast
  have hmem : ∀ h, h ∈ front ++ [last] ↔ h ∈ heard ∧ h.isMark = true := by
    intro h
    rw [← hmarks, List.mem_filter]
  obtain ⟨hin, hmark⟩ := (hmem last).1 (by simp)
  refine ⟨last, hin, hmark, rfl, fun h hh hm => ?_⟩
  have hpair := horder.filter isMark
  rw [hmarks, List.pairwise_append] at hpair
  rcases List.mem_append.1 ((hmem h).2 ⟨hh, hm⟩) with hfront | hself
  · exact hpair.2.2 h hfront last (List.mem_singleton.2 rfl)
  · exact Nat.le_of_eq (congrArg (·.instant.nanos) (List.mem_singleton.1 hself))

/-- What a reporter goes by is the latest mark. -/
theorem isDue_carry_iff (horder : InOrder earlier)
    (hnow : ∀ h ∈ earlier, h.instant.nanos ≤ now.nanos) :
    (({ interval } : Reporter).carry earlier).isDue now = true ↔ IsDue interval earlier now := by
  have hlast : (({ interval } : Reporter).carry earlier).lastReport = mark? earlier :=
    Option.or_none
  rw [Reporter.isDue, hlast]
  cases hmark : mark? earlier with
  | none => exact iff_of_true rfl (.inl (mark?_eq_none_iff.1 hmark))
  | some t =>
      obtain ⟨last, hin, hlastMark, rfl, hlatest⟩ := exists_latest horder hmark
      have hle := hnow last hin
      have hbound : interval.nanos ≤ now.nanos - last.instant.nanos ↔
          last.instant.nanos + interval.nanos ≤ now.nanos := by omega
      simp only [decide_eq_true_eq]
      constructor
      · exact fun h => .inr ⟨last, hin, hlastMark, hlatest, hbound.1 h⟩
      · rintro (hnone | ⟨last', hin', hmark', hlatest', htime⟩)
        · rw [hnone last hin] at hlastMark
          cases hlastMark
        · have := hlatest' last hin hlastMark
          exact hbound.2 (by omega)

theorem isDue_of_no_interval (horder : InOrder earlier)
    (hnow : ∀ h ∈ earlier, h.instant.nanos ≤ now.nanos) (hinterval : interval.nanos = 0) :
    IsDue interval earlier now := by
  refine (isDue_carry_iff horder hnow).1 ?_
  rw [Reporter.isDue]
  split
  · rfl
  · exact decide_eq_true (hinterval ▸ Nat.zero_le _)

end Hearing

namespace Reporter

open Hearing

variable {interval : Duration} {events : List (Duration × Progress.Event)}
  {earlier later : List Hearing} {h : Hearing}

theorem inOrder_hearings (r : Reporter)
    (hclock : (events.map (·.1.nanos)).Pairwise (· ≤ ·)) : InOrder (r.hearings events) := by
  rw [← map_hearings events r, List.map_map, List.pairwise_map] at hclock
  exact hclock

theorem follows_of_hearings (hclock : (events.map (·.1.nanos)).Pairwise (· ≤ ·))
    (hheard : ({ interval } : Reporter).hearings events = earlier ++ h :: later) :
    h.Follows interval earlier := by
  have horder := inOrder_hearings { interval } hclock
  rw [hheard] at horder
  have hdue : (({ interval } : Reporter).carry earlier).isDue h.instant = true ↔
      IsDue interval earlier h.instant := isDue_carry_iff horder.before.1 horder.before.2
  have hlog := log_of_hearings earlier hheard
  have hupdate : h.event.update?.isSome = true → h.log.length =
      if (({ interval } : Reporter).carry earlier).isDue h.instant then 1 else 0 := by
    intro hsome
    obtain ⟨p, hevent⟩ := Progress.Event.exists_update hsome
    rw [hlog, hevent, hear_update]
    split <;> rfl
  have hurl : latestUrl (earlier ++ [h]) =
      h.event.url?.getD (({ interval } : Reporter).carry earlier).url := by
    rw [latestUrl, List.filterMap_append, List.getLast?_append]
    cases hcase : h.event.url? <;> simp [hcase, carry]
  refine ⟨fun hnone => ?_, fun hsome h' => ?_, fun hsome h' => ?_, fun hmem => ?_, fun hmem => ?_⟩
  · rw [hlog]
    exact length_hear hnone
  · rw [hupdate hsome, if_pos (hdue.2 h')]
  · rw [← List.length_eq_zero_iff, hupdate hsome, if_neg fun hyes => h' (hdue.1 hyes)]
  · rw [hlog] at hmem
    exact (of_mem_hear hmem).1
  · rw [hlog] at hmem
    rw [hurl]
    exact (of_mem_hear hmem).2

theorem isDue_of_reported (hclock : (events.map (·.1.nanos)).Pairwise (· ≤ ·))
    (hheard : ({ interval } : Reporter).hearings events = earlier ++ h :: later)
    (hupdate : h.event.update?.isSome = true) (hlog : h.log ≠ []) :
    IsDue interval earlier h.instant :=
  Classical.not_not.1 fun hnot =>
    hlog ((follows_of_hearings hclock hheard).suppressed hupdate hnot)

/-- A reporter that starts anew logs one record for every start, finish and abandonment, and for an
update one if it is due and none if not, each of the level of the event and beginning with the URL
of the latest start.  Only starts and reported updates count for what is due; nothing else that is
heard leaves a trace in the reporter.  So an update is reported no sooner than the interval after
any update that was reported before, and without an interval every update is. -/
theorem reports_keep_their_distance (interval : Duration)
    (events : List (Duration × Progress.Event))
    (hclock : (events.map (·.1.nanos)).Pairwise (· ≤ ·)) :
    let r : Reporter := { interval }
    let heard := r.hearings events
    (heard.map (fun h => (h.instant, h.event)) = events ∧
        (r.hearAll events).1 = heard.flatMap (·.log)) ∧
      (∀ earlier h later, heard = earlier ++ h :: later → h.Follows interval earlier) ∧
      (∀ earlier h later, heard = earlier ++ h :: later →
        let before := (r.hearAll (events.take earlier.length)).2
        let after := (r.hearAll (events.take (earlier.length + 1))).2
        (h.isMark = true → after.lastReport = some h.instant) ∧
          (h.isMark = false → after = before)) ∧
      (∀ earlier first between second later,
        heard = earlier ++ first :: (between ++ second :: later) →
        first.event.update?.isSome = true → first.log ≠ [] →
        second.event.update?.isSome = true → second.log ≠ [] →
        first.instant.nanos + interval.nanos ≤ second.instant.nanos) ∧
      (interval.nanos = 0 → ∀ h ∈ heard, h.event.update?.isSome = true → h.log.length = 1) := by
  intro r heard
  refine ⟨⟨map_hearings events r, congrArg Prod.fst (hearAll_eq events r)⟩,
    fun _ _ _ => follows_of_hearings hclock, ?marks, ?spaced, ?unthrottled⟩
  case marks =>
    intro earlier h later hheard before after
    obtain ⟨hbefore, hafter⟩ := carry_of_take r hheard
    constructor
    · intro hmark
      simp only [after, hafter]
      exact lastReport_carry_mark _ h hmark
    · intro hmark
      simp only [before, after, hbefore, hafter]
      exact carry_of_not_mark _ h hmark
  case spaced =>
    intro earlier first between second later hheard hfirst hfirstLog hsecond hsecondLog
    rw [← List.cons_append, ← List.append_assoc] at hheard
    have hmem : first ∈ earlier ++ first :: between := by simp
    have hmark : first.isMark = true := by simp [isMark, hfirst, hfirstLog]
    rcases isDue_of_reported hclock hheard hsecond hsecondLog with hnone | ⟨last, -, -, hle, htime⟩
    · rw [hnone first hmem] at hmark
      cases hmark
    · have := hle first hmem hmark
      omega
  case unthrottled =>
    intro hinterval h hh hupdate
    obtain ⟨earlier, later, hheard⟩ := List.append_of_mem hh
    have horder : InOrder (earlier ++ h :: later) := hheard ▸ inOrder_hearings r hclock
    exact (follows_of_hearings hclock hheard).due hupdate
      (isDue_of_no_interval horder.before.1 horder.before.2 hinterval)

/-- Updates before a start, around it, and around a finish. -/
def restlessTransfer : List (Duration × Progress.Event) :=
  [(.ofMillis 0, .update ⟨1, none, .zero⟩), (.ofMillis 100, .update ⟨2, none, .zero⟩),
    (.ofMillis 300, .start "http://host/a" (some 9)), (.ofMillis 700, .update ⟨3, some 9, .zero⟩),
    (.ofMillis 800, .update ⟨4, some 9, .zero⟩), (.ofMillis 900, .finish ⟨9, some 9, .zero⟩),
    (.ofMillis 1300, .update ⟨9, some 9, .zero⟩), (.ofMillis 1300, .abandon ⟨9, some 9, .zero⟩)]

theorem finish_does_not_delay :
    let heard := ({ interval := .ofMillis 500 } : Reporter).hearings restlessTransfer
    heard.map (·.log.length) = [1, 0, 1, 0, 1, 1, 1, 1] ∧
      ∃ earlier h later, heard = earlier ++ h :: later ∧ h.instant = .ofMillis 1300 ∧
        IsDue (.ofMillis 500) earlier h.instant ∧ h.log.length = 1 := by
  intro heard
  obtain ⟨-, hfollows, -⟩ :=
    reports_keep_their_distance (.ofMillis 500) restlessTransfer (by decide)
  have hheard : heard = heard.take 6 ++ heard[6] :: heard.drop 7 := rfl
  have hdue : IsDue (.ofMillis 500) (heard.take 6) heard[6].instant := by
    refine .inr ⟨(heard.take 6)[4], List.getElem_mem _, rfl, ?_, by decide⟩
    decide
  exact ⟨rfl, _, _, _, hheard, rfl, hdue, (hfollows _ _ _ hheard).due rfl hdue⟩

end Reporter

end ArtifactCache
