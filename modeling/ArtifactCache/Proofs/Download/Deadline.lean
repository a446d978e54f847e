import ArtifactCache.Proofs.Download.Elapsed
import ArtifactCache.Proofs.Download.Events
import ArtifactCache.Proofs.Download.Revalidation

/-!
# What a limit does

A limit cuts off what would be over only after it, and has no other effect.  So a longer limit, or
none, changes nothing about what was not cut off.
-/

namespace ArtifactCache

/-- So many milliseconds are within the range of the clock. -/
def OnClock (n : Nat) : Prop := (Duration.ofMillis n).seconds < clockRange

instance (n : Nat) : Decidable (OnClock n) := inferInstanceAs (Decidable (_ < _))

theorem OnClock.deadline_eq {n : Nat} (h : OnClock n) : (Duration.ofMillis n).deadline = n := by
  have hseconds : (Duration.ofMillis n).seconds < clockRange := h
  rw [Duration.deadline, if_pos hseconds, Duration.ceilMillis_ofMillis]

theorem OnClock.inTime {n t : Nat} (h : OnClock n) (ht : t ≤ n) :
    InTime (some (.ofMillis n)) t := by
  refine .of_le ?_
  rwa [h.deadline_eq]

/-- No limit at all, or one that is no shorter than `n` milliseconds. -/
inductive Relaxes (n : Nat) : Option Duration → Prop
  | unlimited : Relaxes n none
  | longer {m : Nat} : n ≤ m → OnClock m → Relaxes n (some (.ofMillis m))

theorem Relaxes.inTime {n t : Nat} {limit : Option Duration} (h : Relaxes n limit) (ht : t ≤ n) :
    InTime limit t := by
  cases h with
  | unlimited => exact .unlimited t
  | longer hm hclock => exact hclock.inTime (Nat.le_trans ht hm)

/-- The law of limits, for what is over at some instant without a limit, or never: if that comes
after the limit it is cut off, and otherwise the limit makes no difference. -/
structure CutsOnly {ρ : Type} (run : Option Duration → ρ) (over? : Option Nat)
    (CutOff : Nat → ρ → Prop) : Prop where
  inTime {n t : Nat} : OnClock n → over? = some t → t ≤ n → run (some (.ofMillis n)) = run none
  late {n : Nat} : OnClock n → (∀ t, over? = some t → n < t) → CutOff n (run (some (.ofMillis n)))
  relaxed {n : Nat} {limit : Option Duration} : OnClock n → Relaxes n limit →
    ¬ CutOff n (run (some (.ofMillis n))) → run limit = run (some (.ofMillis n))

/-- A limit that has not passed makes no difference, and a later one even less so. -/
theorem CutsOnly.of {ρ : Type} {run : Option Duration → ρ} {over? : Option Nat}
    {CutOff : Nat → ρ → Prop}
    (hin : ∀ limit t, over? = some t → InTime limit t → run limit = run none)
    (hlate : ∀ n, OnClock n → (∀ t, over? = some t → n < t) →
      CutOff n (run (some (.ofMillis n)))) : CutsOnly run over? CutOff where
  inTime hn hover ht := hin _ _ hover (hn.inTime ht)
  late hn hover := hlate _ hn hover
  relaxed := by
    intro n limit hn hlimit hkept
    -- What was not cut off was over by then, so neither limit makes a difference.
    have hover : ∃ t, over? = some t ∧ t ≤ n := by
      refine Classical.not_not.1 fun hno => hkept (hlate n hn fun t ht => ?_)
      exact Nat.lt_of_not_le fun hle => hno ⟨t, ht, hle⟩
    obtain ⟨t, hover, ht⟩ := hover
    calc
      run limit = run none := hin _ _ hover (hlimit.inTime ht)
      _ = run (some (.ofMillis n)) := (hin _ _ hover (hn.inTime ht)).symm

namespace Courier

variable {c : Courier} {url : Url} {destination : Path} {s : Storage} {limit : Option Duration}
  {t : Nat}

/-- The delivery gets as far as the request for the body. -/
def Reaches (url : Url) (destination : Path) (s : Storage) : Prop :=
  url.IsHttp ∧ s.Stages destination

theorem deliver_of_reaches (h : Reaches url destination s) :
    ∃ r s', r.WaitsBeside s.files ∧ s'.files = s.files.put r.location (.file []) ∧
      ∀ c : Courier, c.deliver url destination s =
        (settle url r s' (c.transfer url r s'.files)).after { gets := 1 }
          [.log (.info (startText url))] := by
  obtain ⟨hurl, hstage⟩ := h
  obtain ⟨r, s', hcreate⟩ := Replacement.create_ok_iff.2 hstage
  obtain ⟨hr, -, hfiles⟩ := Replacement.create_eq_ok hcreate
  refine ⟨r, s', hr, hfiles, fun c => ?_⟩
  simp only [deliver, requireHttp_eq_ok hurl, hcreate]

/-- Without a place to put the artifact, or an address to get it from, no server is asked. -/
theorem deliver_eq_fail (h : ¬ Reaches url destination s) :
    ∃ e s', ((∃ error, e = .file error) ∨ ∃ scheme, e = .notHttp url.text scheme) ∧
      ∀ c : Courier, c.deliver url destination s = .fail e s' := by
  unfold deliver
  by_cases hurl : url.IsHttp
  · rw [requireHttp_eq_ok hurl]
    cases hcreate : Replacement.create s destination with
    | mk answer s' =>
        cases answer with
        | error error => exact ⟨_, s', .inl ⟨error, rfl⟩, fun _ => rfl⟩
        | ok r => exact absurd ⟨hurl, Replacement.create_ok_iff.1 ⟨r, s', hcreate⟩⟩ h
  · rw [requireHttp_eq_error hurl]
    exact ⟨_, s, .inr ⟨_, rfl⟩, fun _ => rfl⟩

theorem deliver_of_not_reaches (h : ¬ Reaches url destination s) (c c' : Courier) :
    c.deliver url destination s = c'.deliver url destination s := by
  obtain ⟨e, s', -, hdeliver⟩ := deliver_eq_fail h
  rw [hdeliver, hdeliver]

theorem requests_settle (url : Url) (r : Replacement) (s : Storage) (t : Transfer) :
    (settle url r s t).requests = {} := by
  unfold settle
  split
  · split <;> rfl
  · rfl
  · rfl

theorem stuck_settle_iff {r : Replacement} {t : Transfer} :
    (settle url r s t).ending = .stuck ↔ t.ending = .stuck := by
  unfold settle
  split
  · next hdone => split <;> simp [hdone]
  · next hfailed => simp [hfailed]
  · next hstuck => simp [hstuck]

theorem ending_settle_of_failed {r : Replacement} {t : Transfer} {e : DownloadError}
    (h : t.ending = .failed e) : (settle url r s t).ending = .failed e := by
  rw [settle, h]

/-- A delivery that is cut off by a limit of so many milliseconds: it has no effect, and the
observer of a body hears at last that it is abandoned, with the bytes of the last update. -/
structure CutOff (c : Courier) (url : Url) (s : Storage) (n : Nat) (run : Run Path) : Prop where
  ending : run.ending = .failed (.timeout url.text .transfer (.ofMillis n))
  files : run.files = s.files
  requests : run.requests = ⟨0, 1⟩
  events {delay : Nat} {answer : GetAnswer} : c.observer.isSome = true →
    c.server.get url = .after delay (.ok answer) → answer.isSuccess = true → delay ≤ n →
      ∃ (updates : List Progress) (p : Progress),
        Notice.events run.notices =
            .start url.text answer.contentLength :: (updates.map .update ++ [.abandon p]) ∧
          p.bytes = Progress.lastBytes 0 updates

theorem deliver_within (h : Reaches url destination s) (hover : c.server.over? url = some t)
    (htime : InTime limit t) :
    (c.within limit).deliver url destination s = (c.within none).deliver url destination s := by
  obtain ⟨r, s', -, -, hdeliver⟩ := deliver_of_reaches h
  rw [hdeliver, hdeliver, transfer_within c r s'.files hover htime]

theorem deliver_of_late {n : Nat} (h : Reaches url destination s) (hn : OnClock n)
    (hlate : ∀ t, c.server.over? url = some t → n < t) :
    c.CutOff url s n ((c.within (some (.ofMillis n))).deliver url destination s) := by
  obtain ⟨r, s', hr, hfiles, hdeliver⟩ := deliver_of_reaches h
  have hending : ((c.within (some (.ofMillis n))).transfer url r s'.files).ending =
      .failed (.timeout url.text .transfer (.ofMillis n)) := by
    refine transfer_of_late r s'.files rfl ?_
    rw [hn.deadline_eq]
    exact hlate
  obtain ⟨content, htransfer⟩ :=
    (c.within (some (.ofMillis n))).files_transfer url r s.files
  rw [← hfiles] at htransfer
  rw [hdeliver]
  refine ⟨ending_settle_of_failed hending, ?_, ?_, ?_⟩
  · have hnot : ∀ n' : Nat, ((c.within (some (.ofMillis n))).transfer url r s'.files).ending =
        .done n' → ∀ l, ¬ s.files.Replaceable r.destination l := by
      intro n' hdone
      rw [hending] at hdone
      cases hdone
    exact (settle_of_not_done s' hr htransfer hnot).2
  · rw [Run.requests_after, requests_settle]
    rfl
  · intro delay answer hobserver hget hstatus hdelay
    obtain ⟨updates, p, hevents, hbytes⟩ := events_transfer (c := c.within (some (.ofMillis n)))
      r s'.files hobserver hget (hn.inTime hdelay) hstatus
    refine ⟨updates, p, ?_, hbytes⟩
    rw [Transfer.closing, hending] at hevents
    simp only [Run.after, Notice.events_append, events_settle, hevents]
    rfl

theorem cutsOnly_deliver (c : Courier) (h : Reaches url destination s) :
    CutsOnly (fun limit => (c.within limit).deliver url destination s) (c.server.over? url)
      (c.CutOff url s) :=
  .of (fun _ _ => deliver_within h) fun _ => deliver_of_late h

theorem stuck_deliver_iff (h : Reaches url destination s) :
    ((c.within none).deliver url destination s).ending = .stuck ↔ c.server.over? url = none := by
  obtain ⟨r, s', -, -, hdeliver⟩ := deliver_of_reaches h
  rw [hdeliver, Run.ending_after, stuck_settle_iff]
  exact stuck_transfer_iff r s'.files rfl

end Courier

theorem Server.headOver?_eq_some_iff {s : Server} {url : Url} {t : Nat} :
    s.headOver? url = some t ↔ ∃ item, s.head url = .after t item := by
  unfold headOver?
  cases s.head url with
  | never => simp
  | after delay item => simp

theorem Server.headOver?_eq_none_iff {s : Server} {url : Url} :
    s.headOver? url = none ↔ s.head url = .never := by
  unfold headOver?
  cases s.head url with
  | never => simp
  | after delay item => simp

namespace Enquirer

variable {e : Enquirer} {url : Url} {limit : Option Duration} {t : Nat}

def within (e : Enquirer) (limit : Option Duration) : Enquirer := { e with limit }

/-- An enquiry that a limit of so many milliseconds cuts off. -/
def CutOff (url : Url) (n : Nat) (outcome : Ending Announcement × Requests) : Prop :=
  outcome = (.failed (.timeout url.text .enquiry (.ofMillis n)), { heads := 1 })

theorem enquire_within (hurl : url.IsHttp) (hover : e.server.headOver? url = some t)
    (htime : InTime limit t) : (e.within limit).enquire url = (e.within none).enquire url := by
  obtain ⟨item, hhead⟩ := Server.headOver?_eq_some_iff.1 hover
  have hresolve (l : Option Duration) (h : InTime l t) :
      (e.server.head url).resolve l 0 = .answered t item := Wait.resolve_of_answer hhead h
  rw [enquire_of_isHttp hurl, enquire_of_isHttp hurl]
  simp only [ask, within, hresolve limit htime, hresolve none (.unlimited t)]

theorem enquire_of_late {n : Nat} (hurl : url.IsHttp) (hn : OnClock n)
    (hlate : ∀ t, e.server.headOver? url = some t → n < t) :
    CutOff url n ((e.within (some (.ofMillis n))).enquire url) := by
  have hresolve : (e.server.head url).resolve (some (.ofMillis n)) 0 =
      .expired (.ofMillis n) := by
    refine Wait.Expires.resolve_eq ⟨rfl, fun delay item hhead => ?_⟩
    rw [hn.deadline_eq]
    exact hlate delay (Server.headOver?_eq_some_iff.2 ⟨item, hhead⟩)
  rw [CutOff, enquire_of_isHttp hurl]
  simp only [ask, within, hresolve]

theorem cutsOnly_enquire (e : Enquirer) (hurl : url.IsHttp) :
    CutsOnly (fun limit => (e.within limit).enquire url) (e.server.headOver? url) (CutOff url) :=
  .of (fun _ _ => enquire_within hurl) fun _ => enquire_of_late hurl

theorem stuck_enquire_iff (hurl : url.IsHttp) :
    ((e.within none).enquire url).1 = .stuck ↔ e.server.headOver? url = none := by
  rw [Server.headOver?_eq_none_iff, enquire_of_isHttp hurl]
  simp only [ask, within]
  cases e.server.head url with
  | never => simp [Wait.resolve]
  | after delay item => cases item <;> simp [Wait.resolve]

end Enquirer

/-- A limit only cuts off what is over after it or never, be it a delivery or an enquiry, which then
times out; where nothing is waited for a limit has no effect at all. -/
theorem limits_only_cut_off (c : Courier) (e : Enquirer) (url : Url) (destination : Path)
    (s : Storage) :
    (Courier.Reaches url destination s →
      CutsOnly (fun limit => (c.within limit).deliver url destination s) (c.server.over? url)
          (c.CutOff url s) ∧
        (((c.within none).deliver url destination s).ending = .stuck ↔
          c.server.over? url = none)) ∧
      (¬ Courier.Reaches url destination s → ∀ limit,
        (c.within limit).deliver url destination s = (c.within none).deliver url destination s) ∧
      (url.IsHttp →
        CutsOnly (fun limit => (e.within limit).enquire url) (e.server.headOver? url)
            (Enquirer.CutOff url) ∧
          (((e.within none).enquire url).1 = .stuck ↔ e.server.headOver? url = none)) ∧
      (¬ url.IsHttp → ∀ limit, (e.within limit).enquire url = (e.within none).enquire url) := by
  refine ⟨?_, ?_, ?_, ?_⟩
  · intro hreaches
    exact ⟨c.cutsOnly_deliver hreaches, Courier.stuck_deliver_iff hreaches⟩
  · intro hobstacle limit
    exact Courier.deliver_of_not_reaches hobstacle _ _
  · intro hurl
    exact ⟨e.cutsOnly_enquire hurl, Enquirer.stuck_enquire_iff hurl⟩
  · intro hurl limit
    rw [Enquirer.enquire_of_foreign hurl, Enquirer.enquire_of_foreign hurl]

namespace Courier

/-- A server that takes eight milliseconds in all, and an observer of the body. -/
def trickle : Courier where
  server :=
    { head := fun _ => .never
      get := fun _ => .after 1 (.ok
        { status := 200, reason := "OK", contentLength := some 3,
          body := [.after 3 (.ok [1, 2]), .after 3 (.ok [3])], bodyEnd := .after 1 () }) }
  observer := some .recorder

def trickleUrl : Url where
  scheme := "http".toList
  host := some (.domain "host".toList)
  path := .segments ["file".toList]

def tricklePlace : Storage where
  files.nodes := [(["cache".toList], .directory)]
  files.here := []
  process := 1

theorem reaches_trickle : Reaches trickleUrl (.ofString "/cache/file") tricklePlace :=
  ⟨.inl rfl, _, _, _, _, rfl, rfl, by decide, rfl⟩

/-- Each piece comes within five milliseconds after the one before, but not the whole. -/
theorem trickle_cut_off :
    let run limit :=
      (trickle.within limit).deliver trickleUrl (.ofString "/cache/file") tricklePlace
    (run (some (.ofMillis 5))).ending =
        .failed (.timeout trickleUrl.text .transfer (.ofMillis 5)) ∧
      (run (some (.ofMillis 5))).files = tricklePlace.files ∧
      run (some (.ofMillis 8)) = run none ∧ run (some (.ofMillis 11)) = run none := by
  intro run
  obtain ⟨hlaw, -⟩ := (limits_only_cut_off trickle { server := trickle.server } trickleUrl
    (.ofString "/cache/file") tricklePlace).1 reaches_trickle
  have hover : trickle.server.over? trickleUrl = some 8 := rfl
  have hcut := hlaw.late (n := 5) (by decide) fun t ht => by
    rw [hover] at ht
    cases ht
    decide
  exact ⟨hcut.ending, hcut.files, hlaw.inTime (by decide) hover (Nat.le_refl 8),
    hlaw.inTime (by decide) hover (by decide)⟩

end Courier

end ArtifactCache
