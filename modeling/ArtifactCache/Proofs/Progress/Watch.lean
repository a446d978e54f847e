import ArtifactCache.Proofs.Progress.Looks
import Mathlib.Data.List.Basic
import Mathlib.Data.List.TakeWhile

/-!
# The reports of a stream

A stream is started, looked at any number of times, and dropped.  Its observer hears first that it
starts.  Each piece of data is reported with the bytes up to and including it, and it is reported
once how the transfer came to an end: by the first failure or end that the stream gives, or else
when it is dropped.  Data that the stream still gives after a failure or an end are reported too,
but nothing else is then.
-/

namespace ArtifactCache

/-- All that becomes of a stream, and all that its observer hears of it. -/
structure Watch where
  opening : Progress.Event
  looks : List Look
  closing : List Progress.Event
  deriving DecidableEq, Repr

namespace Watch

def seen (w : Watch) : List Polled := w.looks.map (·.seen)

def heard (w : Watch) : List Progress.Event :=
  w.opening :: (w.looks.flatMap (·.heard) ++ w.closing)

/-- The looks after the one that sees the stream settle. -/
def afterSettling (w : Watch) : List Look :=
  (w.looks.dropWhile fun look => !look.seen.settles).tail

/-- The report that the transfer is over: it comes at the look that sees the stream settle, or else
when the stream is dropped. -/
inductive ClosesWith (w : Watch) (total : Option Nat) (dropped : Duration) :
    Progress.Event → Prop
  | finished {earlier later : List Look} {look : Look} :
      w.looks = earlier ++ look :: later → earlier.any (·.seen.settles) = false →
      look.seen = .ended → look.heard = [.finish (Look.tally total earlier look.elapsed)] →
      ClosesWith w total dropped (.finish (Look.tally total earlier look.elapsed))
  | failed {earlier later : List Look} {look : Look} {causes : List String} :
      w.looks = earlier ++ look :: later → earlier.any (·.seen.settles) = false →
      look.seen = .failure causes →
      look.heard = [.abandon (Look.tally total earlier look.elapsed)] →
      ClosesWith w total dropped (.abandon (Look.tally total earlier look.elapsed))
  | givenUp :
      w.looks.any (·.seen.settles) = false →
      w.closing = [.abandon (Look.tally total w.looks dropped)] →
      ClosesWith w total dropped (.abandon (Look.tally total w.looks dropped))

theorem ClosesWith.isTerminal {w : Watch} {total : Option Nat} {dropped : Duration}
    {event : Progress.Event} (h : w.ClosesWith total dropped event) : event.isTerminal = true := by
  cases h <;> rfl

theorem exists_first {w : Watch} (h : w.looks.any (·.seen.settles) = true) :
    ∃ earlier look, w.looks = earlier ++ look :: w.afterSettling ∧
      earlier.any (·.seen.settles) = false ∧ look.seen.settles = true := by
  have hsplit := w.looks.takeWhile_append_dropWhile (p := fun look => !look.seen.settles)
  have hhead := w.looks.head?_dropWhile_not fun look => !look.seen.settles
  rw [afterSettling]
  cases hrest : w.looks.dropWhile fun look => !look.seen.settles with
  | nil =>
      have hnone := List.dropWhile_eq_nil_iff.1 hrest
      obtain ⟨look, hmem, hlook⟩ := List.any_eq_true.1 h
      simpa [hlook] using hnone look hmem
  | cons look later =>
      rw [hrest] at hsplit hhead
      refine ⟨_, look, hsplit.symm, List.any_eq_false.2 fun l hl => ?_, by simpa using hhead⟩
      simpa using List.mem_takeWhile_imp hl

theorem afterSettling_eq_nil {w : Watch} (h : w.looks.any (·.seen.settles) = false) :
    w.afterSettling = [] := by
  have hnone : (w.looks.dropWhile fun look => !look.seen.settles) = [] := by
    simpa [List.dropWhile_eq_nil_iff] using h
  rw [afterSettling, hnone]
  rfl

theorem exists_earlier_of_mem_afterSettling {w : Watch} {look : Look}
    (h : look ∈ w.afterSettling) :
    ∃ earlier later, w.looks = earlier ++ look :: later ∧
      earlier.any (·.seen.settles) = true := by
  cases hany : w.looks.any (·.seen.settles) with
  | false =>
      rw [afterSettling_eq_nil hany] at h
      cases h
  | true =>
      obtain ⟨front, first, hlooks, -, hfirst⟩ := exists_first hany
      obtain ⟨between, later, hafter⟩ := List.append_of_mem h
      refine ⟨front ++ first :: between, later, ?_, by simp [hfirst]⟩
      rw [hlooks, hafter, List.append_assoc, List.cons_append]

end Watch

/-- The stream is looked at once at each of these times and then dropped. -/
def ObservedStream.watch (url : String) (total : Option Nat) (script : List Polled)
    (times : List Duration) (dropped : Duration) : Watch :=
  let (opening, s) := ObservedStream.start url total script
  { opening, looks := s.looks times, closing := (s.after times).drop dropped }

namespace ObservedStream

variable {url : String} {total : Option Nat} {script : List Polled} {times : List Duration}
  {dropped : Duration} {earlier later : List Look} {look : Look}

theorem fresh_carry (total : Option Nat) (looks : List Look) :
    ({ total } : Meter).carry (looks.map (·.seen)) =
      { total
        transferred := (Polled.content (looks.map (·.seen))).length
        isDone := looks.any (·.seen.settles) } := by
  simp [Meter.carry, Function.comp_def]

theorem meter_after_start (times : List Duration) :
    ((start url total script).2.after times).meter =
      { total
        transferred :=
          (Polled.content (((start url total script).2.looks times).map (·.seen))).length
        isDone := ((start url total script).2.looks times).any (·.seen.settles) } := by
  rw [meter_after, ← fresh_carry]
  rfl

theorem heard_of_watch
    (h : (watch url total script times dropped).looks = earlier ++ look :: later) :
    look.heard = (Meter.pass
      { total
        transferred := (Polled.content (earlier.map (·.seen))).length
        isDone := earlier.any (·.seen.settles) } look.elapsed look.seen).1 := by
  rw [← fresh_carry]
  exact heard_of_looks earlier h

theorem closing_of_watch :
    (watch url total script times dropped).closing =
      if (watch url total script times dropped).looks.any (·.seen.settles) then []
      else [.abandon (Look.tally total (watch url total script times dropped).looks dropped)] := by
  have hmeter : ((start url total script).2.after times).meter = _ := meter_after_start times
  simp only [watch, drop, Meter.drop, hmeter]
  rfl

/-- Data are always reported; a failure or an end is reported only at the look that is the first to
see one. -/
theorem heard_of_not_first
    (h : (watch url total script times dropped).looks = earlier ++ look :: later)
    (hlook : look.seen.settles = false ∨ earlier.any (·.seen.settles) = true) :
    look.heard =
      if look.seen.data?.isSome then [.update (Look.tally total (earlier ++ [look]) look.elapsed)]
      else [] := by
  have hheard := heard_of_watch h
  cases hseen : look.seen with
  | pending => rw [hheard, hseen]; rfl
  | data bytes =>
      rw [hheard, hseen]
      simp [Meter.pass, Meter.snapshot, Look.tally, Polled.data?, hseen]
  | failure causes =>
      have hdone := hlook.resolve_left (by simp [hseen, Polled.settles])
      rw [hheard, hseen, hdone]
      rfl
  | ended =>
      have hdone := hlook.resolve_left (by simp [hseen, Polled.settles])
      rw [hheard, hseen, hdone]
      rfl

theorem heard_of_first
    (h : (watch url total script times dropped).looks = earlier ++ look :: later)
    (hlook : look.seen.settles = true) (hearlier : earlier.any (·.seen.settles) = false) :
    look.seen = .ended ∧ look.heard = [.finish (Look.tally total earlier look.elapsed)] ∨
      (∃ causes, look.seen = .failure causes) ∧
        look.heard = [.abandon (Look.tally total earlier look.elapsed)] := by
  have hheard := heard_of_watch h
  rw [hearlier] at hheard
  cases hseen : look.seen with
  | pending | data _ => simp [hseen, Polled.settles] at hlook
  | failure causes =>
      rw [hseen] at hheard
      exact .inr ⟨⟨causes, rfl⟩, hheard⟩
  | ended =>
      rw [hseen] at hheard
      exact .inl ⟨rfl, hheard⟩

theorem eq_update_of_not_first
    (h : (watch url total script times dropped).looks = earlier ++ look :: later)
    (hlook : look.seen.settles = false ∨ earlier.any (·.seen.settles) = true)
    {event : Progress.Event} (hevent : event ∈ look.heard) : ∃ p, event = .update p := by
  rw [heard_of_not_first h hlook] at hevent
  split at hevent
  · exact ⟨_, List.mem_singleton.1 hevent⟩
  · cases hevent

theorem updates_of_look
    (h : (watch url total script times dropped).looks = earlier ++ look :: later) :
    look.heard.filterMap Progress.Event.update? =
      if look.seen.data?.isSome then [Look.tally total (earlier ++ [look]) look.elapsed]
      else [] := by
  by_cases hlook : look.seen.settles = false ∨ earlier.any (·.seen.settles) = true
  · rw [heard_of_not_first h hlook]
    split <;> rfl
  · rw [not_or, Bool.not_eq_false, Bool.not_eq_true] at hlook
    rw [Polled.data?_of_settles hlook.1]
    obtain ⟨-, hheard⟩ | ⟨-, hheard⟩ := heard_of_first h hlook.1 hlook.2 <;> rw [hheard] <;> rfl

/-- The events before the end of a transfer is reported, and those after. -/
theorem exists_trace (url : String) (total : Option Nat) (script : List Polled)
    (times : List Duration) (dropped : Duration) :
    let w := watch url total script times dropped
    ∃ front event back, w.heard = .start url total :: (front ++ event :: back) ∧
      (∀ e ∈ front, ∃ p, e = .update p) ∧ w.ClosesWith total dropped event ∧
      back = w.afterSettling.flatMap (·.heard) ∧ ∀ e ∈ back, ∃ p, e = .update p := by
  intro w
  -- Until the stream settles, every look is heard as an update or not at all.
  have hupdates : ∀ {earlier later : List Look}, w.looks = earlier ++ later →
      earlier.any (·.seen.settles) = false →
      ∀ e ∈ earlier.flatMap (·.heard), ∃ p, e = .update p := by
    intro earlier later hlooks hquiet e he
    obtain ⟨look, hmem, hheard⟩ := List.mem_flatMap.1 he
    obtain ⟨front, back, rfl⟩ := List.append_of_mem hmem
    rw [List.append_assoc, List.cons_append] at hlooks
    refine eq_update_of_not_first hlooks (.inl ?_) hheard
    simpa using List.any_eq_false.1 hquiet look hmem
  have hclosing : w.closing = if w.looks.any (·.seen.settles) then []
      else [.abandon (Look.tally total w.looks dropped)] := closing_of_watch
  cases hany : w.looks.any (·.seen.settles) with
  | false =>
      rw [hany] at hclosing
      refine ⟨w.looks.flatMap (·.heard), _, [], ?_, hupdates (List.append_nil _).symm hany,
        .givenUp hany hclosing, ?_, nofun⟩
      · rw [Watch.heard, hclosing]
        rfl
      · rw [Watch.afterSettling_eq_nil hany]
        rfl
  | true =>
      rw [hany] at hclosing
      obtain ⟨earlier, look, hlooks, hearlier, hlook⟩ := Watch.exists_first hany
      have hfront := hupdates hlooks hearlier
      have hback : ∀ e ∈ w.afterSettling.flatMap (·.heard), ∃ p, e = .update p := by
        intro e he
        obtain ⟨l, hmem, hheard⟩ := List.mem_flatMap.1 he
        obtain ⟨_, _, hsplit, hsettled⟩ := Watch.exists_earlier_of_mem_afterSettling hmem
        exact eq_update_of_not_first hsplit (.inr hsettled) hheard
      have hheard : w.heard = .start url total ::
          (earlier.flatMap (·.heard) ++ (look.heard ++ w.afterSettling.flatMap (·.heard))) := by
        rw [Watch.heard, hclosing, hlooks]
        simp [w, watch, start, Meter.start]
      obtain ⟨hseen, hfirst⟩ | ⟨⟨causes, hseen⟩, hfirst⟩ := heard_of_first hlooks hlook hearlier
      · rw [hfirst] at hheard
        exact ⟨_, _, _, hheard, hfront, .finished hlooks hearlier hseen hfirst, rfl, hback⟩
      · rw [hfirst] at hheard
        exact ⟨_, _, _, hheard, hfront, .failed hlooks hearlier hseen hfirst, rfl, hback⟩

/-- A stream under observation gives what it would give anyway.  Its observer hears first that it
starts, and not again; at each look that gives data, once how many bytes there are with these; and
once how it came to an end. -/
theorem each_piece_and_one_end_reported (url : String) (total : Option Nat)
    (script : List Polled) (times : List Duration) (dropped : Duration) :
    let w := watch url total script times dropped
    (w.looks.map (·.elapsed) = times ∧
        w.seen = (List.range times.length).map fun n => script.getD n .ended) ∧
      (∃ later, w.heard = .start url total :: later ∧ ∀ e ∈ later, e.isStart = false) ∧
      (∀ earlier look later, w.looks = earlier ++ look :: later →
        look.heard.filterMap Progress.Event.update? =
          if look.seen.data?.isSome then [Look.tally total (earlier ++ [look]) look.elapsed]
          else []) ∧
      w.closing.filterMap Progress.Event.update? = [] ∧
      (∀ n elapsed,
        ((start url total script).2.after (times.take n)).meter.snapshot elapsed =
          Look.tally total (w.looks.take n) elapsed) ∧
      ∃ event, w.heard.filter Progress.Event.isTerminal = [event] ∧
        w.ClosesWith total dropped event := by
  intro w
  obtain ⟨front, event, back, hheard, hfront, hcloses, -, hback⟩ :=
    exists_trace url total script times dropped
  have hterminal := hcloses.isTerminal
  refine ⟨⟨elapsed_looks times _, seen_looks times _⟩, ⟨_, hheard, ?_⟩,
    fun _ _ _ => updates_of_look, ?_, fun n elapsed => ?_, event, ?_, hcloses⟩
  · intro e he
    rcases List.mem_append.1 he with he | he
    · obtain ⟨p, rfl⟩ := hfront e he
      rfl
    · rcases List.mem_cons.1 he with rfl | he
      · exact Progress.Event.isStart_of_isTerminal hterminal
      · obtain ⟨p, rfl⟩ := hback e he
        rfl
  · rw [closing_of_watch]
    split <;> rfl
  · rw [meter_after_start, looks_take]
    rfl
  · rw [hheard, List.filter_cons_of_neg (by simp [Progress.Event.isTerminal]), List.filter_append,
      List.filter_cons_of_pos hterminal, Progress.Event.filter_isTerminal_of_updates hfront,
      Progress.Event.filter_isTerminal_of_updates hback]
    rfl

theorem heard_afterSettling_eq_nil_iff :
    (watch url total script times dropped).afterSettling.flatMap (·.heard) = [] ↔
      ∀ look ∈ (watch url total script times dropped).afterSettling, look.seen.data? = none := by
  rw [List.flatMap_eq_nil_iff]
  refine forall₂_congr fun look hmem => ?_
  obtain ⟨_, _, hsplit, hsettled⟩ := Watch.exists_earlier_of_mem_afterSettling hmem
  rw [heard_of_not_first hsplit (.inr hsettled)]
  cases look.seen.data? <;> simp

/-- Once it is reported how the transfer came to an end, only data are reported, and only if the
stream is looked at again and still gives some. -/
theorem silent_once_over_iff (url : String) (total : Option Nat) (script : List Polled)
    (times : List Duration) (dropped : Duration) :
    let w := watch url total script times dropped
    (∀ front event back, w.heard = front ++ event :: back → event.isTerminal = true →
        back = w.afterSettling.flatMap (·.heard) ∧ ∀ e ∈ back, ∃ p, e = .update p) ∧
      ((∀ front event back, w.heard = front ++ event :: back → event.isTerminal = true →
          back = []) ↔
        ∀ look ∈ w.afterSettling, look.seen.data? = none) := by
  intro w
  obtain ⟨front, event, back, hheard, hfront, hcloses, hafter, hback⟩ :=
    exists_trace url total script times dropped
  -- Only one event is terminal, so a split at a terminal event can only be the one of the trace.
  have hunique : ∀ front' event' back', w.heard = front' ++ event' :: back' →
      event'.isTerminal = true → back' = back := by
    intro front' event' back' hheard' hterminal'
    have hfront' : event' ∉ .start url total :: front := by
      rintro (_ | ⟨_, hmem⟩)
      · cases hterminal'
      · rw [Progress.Event.isTerminal_of_updates hfront hmem] at hterminal'
        cases hterminal'
    have hback' : event' ∉ back := by
      intro hmem
      rw [Progress.Event.isTerminal_of_updates hback hmem] at hterminal'
      cases hterminal'
    have hsplits := hheard.symm.trans hheard'
    rw [← List.cons_append, List.append_cons_inj_of_notMem hfront' hback'] at hsplits
    exact hsplits.2.2.symm
  refine ⟨fun front' event' back' hheard' hterminal' => ?_, ?_⟩
  · rw [hunique front' event' back' hheard' hterminal']
    exact ⟨hafter, hback⟩
  · rw [← heard_afterSettling_eq_nil_iff, ← hafter]
    constructor
    · intro hsilent
      exact hsilent (.start url total :: front) event back hheard hcloses.isTerminal
    · rintro hnil front' event' back' hheard' hterminal'
      rw [hunique front' event' back' hheard' hterminal', hnil]

/-- A stream that fails and then gives data has these reported after it was reported abandoned. -/
theorem data_reported_after_abandon :
    ¬ ∀ (url : String) (total : Option Nat) (script : List Polled) (times : List Duration)
      (dropped : Duration) (front : List Progress.Event) (event : Progress.Event)
      (back : List Progress.Event),
      (watch url total script times dropped).heard = front ++ event :: back →
        event.isTerminal = true → back = [] := by
  intro h
  have hback := h "https://example.com/a" none [.failure ["reset"], .data [0x61, 0x62, 0x63]]
    [.zero, .zero] .zero [.start "https://example.com/a" none] (.abandon ⟨0, none, .zero⟩)
    [.update ⟨3, none, .zero⟩] rfl rfl
  cases hback

end ObservedStream

end ArtifactCache
