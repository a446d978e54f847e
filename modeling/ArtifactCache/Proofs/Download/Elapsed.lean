import ArtifactCache.Proofs.Download.Delivery

/-!
# How long a transfer takes

Without a limit a transfer is over when its answer fails or its body ends or breaks off, which may
be never: what counts is the sum of all delays on the way.  A limit makes no difference if that
comes by then, and cuts the transfer off if not.
-/

namespace ArtifactCache

namespace Wait

variable {α : Type} {limit : Option Duration} {start delay : Nat} {answer : α} {d : Duration}

theorem resolve_of_inTime (h : InTime limit (start + delay)) :
    (after delay answer).resolve limit start = .answered (start + delay) answer :=
  resolve_eq_answered_iff.2 ⟨delay, rfl, rfl, h⟩

theorem resolve_of_late (h : d.deadline < start + delay) :
    (after delay answer).resolve (some d) start = .expired d := by
  refine resolve_eq_expired_iff.2 ⟨rfl, ?_⟩
  rintro _ _ ⟨rfl, rfl⟩
  exact h

end Wait

/-- When a body that begins now is over, by its end or by a failure, if it ever is. -/
def bodyOver? (bodyEnd : Wait Unit) (now : Nat) : List (Wait Chunk) → Option Nat
  | [] =>
      match bodyEnd with
      | .never => none
      | .after delay () => some (now + delay)
  | .never :: _ => none
  | .after delay (.error _) :: _ => some (now + delay)
  | .after delay (.ok _) :: rest => bodyOver? bodyEnd (now + delay) rest

namespace Server

/-- When the answer to a request for a body is over, and the body with it if there is one. -/
def over? (s : Server) (url : Url) : Option Nat :=
  match s.get url with
  | .never => none
  | .after delay (.error _) => some delay
  | .after delay (.ok answer) =>
      if answer.isSuccess then bodyOver? answer.bodyEnd delay answer.body else some delay

/-- When the answer to a request for the headers is there. -/
def headOver? (s : Server) (url : Url) : Option Nat :=
  match s.head url with
  | .never => none
  | .after delay _ => some delay

end Server

theorem bodyOver?_nil {bodyEnd : Wait Unit} {now t : Nat}
    (h : bodyOver? bodyEnd now [] = some t) :
    ∃ delay, bodyEnd = .after delay () ∧ t = now + delay := by
  cases bodyEnd with
  | never => cases h
  | after delay item =>
      cases h
      exact ⟨delay, rfl, rfl⟩

theorem le_of_bodyOver? {bodyEnd : Wait Unit} {body : List (Wait Chunk)} :
    ∀ {now t : Nat}, bodyOver? bodyEnd now body = some t → now ≤ t := by
  induction body with
  | nil =>
      intro now t h
      obtain ⟨delay, -, rfl⟩ := bodyOver?_nil h
      exact Nat.le_add_right _ _
  | cons chunk rest ih =>
      intro now t h
      cases chunk with
      | never => cases h
      | after delay item =>
          cases item with
          | error causes =>
              cases h
              exact Nat.le_add_right _ _
          | ok bytes => exact Nat.le_trans (Nat.le_add_right _ _) (ih h)

namespace Server

variable {s : Server} {url : Url} {delay t : Nat} {causes : Causes} {answer : GetAnswer}

theorem over?_of_never (h : s.get url = .never) : s.over? url = none := by
  rw [over?, h]

theorem over?_of_error (h : s.get url = .after delay (.error causes)) :
    s.over? url = some delay := by
  rw [over?, h]

theorem over?_of_refused (h : s.get url = .after delay (.ok answer))
    (hstatus : ¬ answer.isSuccess = true) : s.over? url = some delay := by
  simp only [over?, h, if_neg hstatus]

theorem over?_of_success (h : s.get url = .after delay (.ok answer))
    (hstatus : answer.isSuccess = true) :
    s.over? url = bodyOver? answer.bodyEnd delay answer.body := by
  simp only [over?, h, if_pos hstatus]

theorem le_of_over? (h : s.over? url = some t) :
    ∃ delay item, s.get url = .after delay item ∧ delay ≤ t := by
  cases hget : s.get url with
  | never =>
      rw [over?_of_never hget] at h
      cases h
  | after delay item =>
      refine ⟨delay, item, rfl, ?_⟩
      cases item with
      | error causes =>
          rw [over?_of_error hget] at h
          cases h
          exact Nat.le_refl _
      | ok answer =>
          by_cases hstatus : answer.isSuccess = true
          · rw [over?_of_success hget hstatus] at h
            exact le_of_bodyOver? h
          · rw [over?_of_refused hget hstatus] at h
            cases h
            exact Nat.le_refl _

end Server

namespace Arrival

variable {a : Arrival} {d : Duration}

def within (a : Arrival) (limit : Option Duration) : Arrival := { a with limit }

theorem receive_ok {now delay : Nat} (h : InTime a.limit (now + delay)) (written : Nat)
    (meter : Option Meter) (files : FileSystem) (bytes : List UInt8) (rest : List (Wait Chunk)) :
    a.receive now written meter files (.after delay (.ok bytes) :: rest) =
      (a.receive (now + delay) (written + bytes.length)
        (a.notice (now + delay) (.data bytes) meter).2 (a.replacement.write files bytes)
        rest).after (a.notice (now + delay) (.data bytes) meter).1 := by
  rw [receive, Wait.resolve_of_inTime h]

theorem receive_error {now delay : Nat} (h : InTime a.limit (now + delay)) (written : Nat)
    (meter : Option Meter) (files : FileSystem) (causes : Causes) (rest : List (Wait Chunk)) :
    a.receive now written meter files (.after delay (.error causes) :: rest) =
      { ending := .failed (.transfer a.url (CauseLine.ofTexts causes))
        files
        notices := (a.notice (now + delay) (.failure causes) meter).1 } := by
  rw [receive, Wait.resolve_of_inTime h]

theorem receive_ended {now delay : Nat} (hend : a.bodyEnd = .after delay ())
    (h : InTime a.limit (now + delay)) (written : Nat) (meter : Option Meter)
    (files : FileSystem) :
    a.receive now written meter files [] =
      { ending := .done written, files, notices := (a.notice (now + delay) .ended meter).1 } := by
  rw [receive, hend, Wait.resolve_of_inTime h]

/-- A limit makes no difference to a body that is over by then. -/
theorem receive_within (a : Arrival) {limit : Option Duration} {body : List (Wait Chunk)} :
    ∀ {now t : Nat} (written : Nat) (meter : Option Meter) (files : FileSystem),
      bodyOver? a.bodyEnd now body = some t → InTime limit t →
        (a.within limit).receive now written meter files body =
          (a.within none).receive now written meter files body := by
  induction body with
  | nil =>
      intro now t written meter files hover htime
      obtain ⟨delay, hend, rfl⟩ := bodyOver?_nil hover
      rw [receive_ended (a := a.within limit) hend htime,
        receive_ended (a := a.within none) hend (InTime.unlimited _)]
      rfl
  | cons chunk rest ih =>
      intro now t written meter files hover htime
      cases chunk with
      | never => cases hover
      | after delay item =>
          cases item with
          | error causes =>
              cases hover
              rw [receive_error (a := a.within limit) htime,
                receive_error (a := a.within none) (InTime.unlimited _)]
              rfl
          | ok bytes =>
              have hnow : InTime limit (now + delay) := htime.mono (le_of_bodyOver? hover)
              rw [receive_ok (a := a.within limit) hnow,
                receive_ok (a := a.within none) (InTime.unlimited _)]
              exact congrArg _ (ih _ _ _ hover htime)

/-- Only a body that is over by the limit escapes it. -/
theorem receive_of_late (hlimit : a.limit = some d) {body : List (Wait Chunk)} :
    ∀ {now : Nat} (written : Nat) (meter : Option Meter) (files : FileSystem),
      (∀ t, bodyOver? a.bodyEnd now body = some t → d.deadline < t) →
        (a.receive now written meter files body).ending =
          .failed (.timeout a.url .transfer d) := by
  induction body with
  | nil =>
      intro now written meter files hlate
      have hend : a.bodyEnd.resolve a.limit now = .expired d := by
        refine Wait.resolve_eq_expired_iff.2 ⟨hlimit, fun delay _ hend => hlate _ ?_⟩
        rw [hend]
        rfl
      simp only [receive, hend]
      rfl
  | cons chunk rest ih =>
      intro now written meter files hlate
      cases chunk with
      | never =>
          rw [receive, hlimit]
          rfl
      | after delay item =>
          by_cases hin : now + delay ≤ d.deadline
          · have htime : InTime a.limit (now + delay) := by
              rw [hlimit]
              exact .of_le hin
            cases item with
            | error causes => exact absurd hin (Nat.not_le.2 (hlate _ rfl))
            | ok bytes =>
                rw [receive_ok htime]
                exact ih _ _ _ hlate
          · rw [receive, hlimit, Wait.resolve_of_late (Nat.lt_of_not_le hin)]
            rfl

theorem stuck_receive_iff (hlimit : a.limit = none) {body : List (Wait Chunk)} :
    ∀ {now : Nat} (written : Nat) (meter : Option Meter) (files : FileSystem),
      (a.receive now written meter files body).ending = .stuck ↔
        bodyOver? a.bodyEnd now body = none := by
  induction body with
  | nil =>
      intro now written meter files
      cases hend : a.bodyEnd with
      | never => simp [receive, hend, hlimit, Wait.resolve, bodyOver?, hang]
      | after delay item =>
          rw [receive_ended hend (hlimit ▸ .unlimited _)]
          simp [bodyOver?]
  | cons chunk rest ih =>
      intro now written meter files
      cases chunk with
      | never => simp [receive, hlimit, Wait.resolve, bodyOver?, hang]
      | after delay item =>
          have htime : InTime a.limit (now + delay) := hlimit ▸ .unlimited _
          cases item with
          | error causes => simp [receive_error htime, bodyOver?]
          | ok bytes =>
              rw [receive_ok htime]
              exact ih _ _ _

end Arrival

namespace Courier

variable {c : Courier} {url : Url} {d : Duration} {limit : Option Duration} {t : Nat}

def within (c : Courier) (limit : Option Duration) : Courier := { c with limit }

theorem accept_within (c : Courier) (url : Url) (r : Replacement) (fs : FileSystem) {now : Nat}
    {answer : GetAnswer} (hover : bodyOver? answer.bodyEnd now answer.body = some t)
    (htime : InTime limit t) :
    (c.within limit).accept url r fs now answer = (c.within none).accept url r fs now answer := by
  have hreceive (meter : Option Meter) :=
    (c.arrival url r now answer).receive_within 0 meter fs hover htime
  simp only [Arrival.within, arrival] at hreceive
  cases hobserver : c.observer with
  | none => simp only [accept, within, arrival, hobserver, hreceive]
  | some observer => simp only [accept, within, arrival, hobserver, hreceive]

theorem transfer_within (c : Courier) (r : Replacement) (fs : FileSystem)
    (hover : c.server.over? url = some t) (htime : InTime limit t) :
    (c.within limit).transfer url r fs = (c.within none).transfer url r fs := by
  obtain ⟨delay, item, hget, hdelay⟩ := Server.le_of_over? hover
  have hresolve (l : Option Duration) (h : InTime l delay) :
      (c.server.get url).resolve l 0 = .answered delay item := Wait.resolve_of_answer hget h
  have hlimit := hresolve limit (htime.mono hdelay)
  have hnone := hresolve none (.unlimited delay)
  cases item with
  | error causes => simp only [transfer, within, hlimit, hnone]
  | ok answer =>
      by_cases hstatus : answer.isSuccess = true
      · rw [Server.over?_of_success hget hstatus] at hover
        have haccept := c.accept_within url r fs hover htime
        simp only [within] at haccept
        simp only [transfer, within, hlimit, hnone, if_pos hstatus, haccept]
      · simp only [transfer, within, hlimit, hnone, if_neg hstatus]

/-- Only an answer that is over by the limit, with its body, escapes it. -/
theorem transfer_of_late (r : Replacement) (fs : FileSystem) (hlimit : c.limit = some d)
    (hlate : ∀ t, c.server.over? url = some t → d.deadline < t) :
    (c.transfer url r fs).ending = .failed (.timeout url.text .transfer d) := by
  by_cases hanswer : ∃ delay item, c.server.get url = .after delay item ∧ delay ≤ d.deadline
  · obtain ⟨delay, item, hget, hdelay⟩ := hanswer
    have htime : InTime c.limit delay := hlimit ▸ .of_le hdelay
    cases item with
    | error causes =>
        exact absurd hdelay (Nat.not_le.2 (hlate delay (Server.over?_of_error hget)))
    | ok answer =>
        by_cases hstatus : answer.isSuccess = true
        · obtain ⟨meter, notices, haccept⟩ := c.accept_eq url r fs delay answer
          rw [Server.over?_of_success hget hstatus] at hlate
          rw [transfer_of_answer r fs hget htime hstatus, haccept, Transfer.ending_after]
          exact Arrival.receive_of_late hlimit 0 meter fs hlate
        · exact absurd hdelay (Nat.not_le.2 (hlate delay (Server.over?_of_refused hget hstatus)))
  · have hresolve : (c.server.get url).resolve c.limit 0 = .expired d := by
      refine Wait.Expires.resolve_eq ⟨hlimit, fun delay item hget => ?_⟩
      exact Nat.lt_of_not_le fun hdelay => hanswer ⟨delay, item, hget, hdelay⟩
    simp only [transfer, hresolve]

/-- Without a limit a transfer waits for ever exactly when its answer is never over. -/
theorem stuck_transfer_iff (r : Replacement) (fs : FileSystem) (hlimit : c.limit = none) :
    (c.transfer url r fs).ending = .stuck ↔ c.server.over? url = none := by
  cases hget : c.server.get url with
  | never =>
      rw [Server.over?_of_never hget]
      simp [transfer, hget, hlimit, Wait.resolve]
  | after delay item =>
      cases item with
      | error causes =>
          rw [Server.over?_of_error hget]
          simp [transfer, hget, hlimit, Wait.resolve]
      | ok answer =>
          by_cases hstatus : answer.isSuccess = true
          · obtain ⟨meter, notices, haccept⟩ := c.accept_eq url r fs delay answer
            rw [Server.over?_of_success hget hstatus,
              transfer_of_answer r fs hget (hlimit ▸ .unlimited delay) hstatus, haccept,
              Transfer.ending_after]
            exact Arrival.stuck_receive_iff hlimit 0 meter fs
          · rw [Server.over?_of_refused hget hstatus]
            simp [transfer, hget, hlimit, Wait.resolve, hstatus]

end Courier

end ArtifactCache
