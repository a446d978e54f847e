import ArtifactCache.Proofs.CauseLine
import ArtifactCache.Proofs.Download.Deadline
import ArtifactCache.Proofs.Download.Enquiry

/-!
# Reasons of failures

A server that fails reports a chain of causes: in the place of an answer about an artifact, of the
artifact, or of a piece of its body.  The error that comes of it tells them in one line, and none of
them is lost.
-/

namespace ArtifactCache

/-- The server answers with success, but in the place of a piece of the body there is a failure, and
all of that comes by the limit. -/
def Server.BreaksWith (s : Server) (url : Url) (limit : Option Duration) (causes : Causes) : Prop :=
  ∃ delay answer pieces time rest, s.get url = .after delay (.ok answer) ∧
    answer.isSuccess = true ∧
    answer.body = Pieces.body pieces ++ .after time (.error causes) :: rest ∧
    InTime limit (delay + Pieces.delay pieces + time)

/-- What a client has reported, where it is the client that has failed. -/
def DownloadError.reason? : DownloadError → Option String
  | .enquiry _ reason | .request _ reason | .transfer _ reason => some reason
  | _ => none

namespace Arrival

variable {a : Arrival} {e : DownloadError} {body : List (Wait Chunk)}

theorem receive_of_failure (a : Arrival) (pieces : Pieces) {time : Nat} (causes : Causes)
    (rest : List (Wait Chunk)) :
    ∀ {now : Nat} (written : Nat) (meter : Option Meter) (files : FileSystem),
      InTime a.limit (now + pieces.delay + time) →
        (a.receive now written meter files
          (pieces.body ++ .after time (.error causes) :: rest)).ending =
            .failed (.transfer a.url (CauseLine.ofTexts causes)) := by
  induction pieces with
  | nil =>
      intro now written meter files htime
      rw [Pieces.delay_nil, Nat.add_zero] at htime
      rw [Pieces.body_nil, List.nil_append, receive_error htime]
  | cons piece pieces ih =>
      obtain ⟨delay, bytes⟩ := piece
      intro now written meter files htime
      rw [Pieces.delay_cons, ← Nat.add_assoc] at htime
      have hpiece : InTime a.limit (now + delay) :=
        htime.mono (Nat.le_trans (Nat.le_add_right _ _) (Nat.le_add_right _ _))
      rw [Pieces.body_cons, List.cons_append, receive_ok hpiece, Transfer.ending_after]
      exact ih _ _ _ htime

/-- A body fails by the first failure in it, unless it takes too long. -/
theorem receive_failure_cases :
    ∀ {now written : Nat} {meter : Option Meter} {files : FileSystem},
      (a.receive now written meter files body).ending = .failed e →
        (∃ pieces time causes rest,
            body = Pieces.body pieces ++ .after time (.error causes) :: rest ∧
            InTime a.limit (now + pieces.delay + time) ∧
            e = .transfer a.url (CauseLine.ofTexts causes)) ∨ e.reason? = none := by
  induction body with
  | nil =>
      intro now written meter files h
      unfold receive at h
      split at h
      · cases h
      · cases h
        exact .inr rfl
      · cases h
  | cons chunk rest ih =>
      intro now written meter files h
      unfold receive at h
      split at h
      · next instant bytes hchunk =>
          obtain ⟨delay, rfl, rfl, -⟩ := Wait.resolve_eq_answered_iff.1 hchunk
          rw [Transfer.ending_after] at h
          rcases ih h with ⟨pieces, time, causes, more, rfl, htime, he⟩ | hlate
          · refine .inl ⟨(delay, bytes) :: pieces, time, causes, more, rfl, ?_, he⟩
            rwa [Pieces.delay_cons, ← Nat.add_assoc]
          · exact .inr hlate
      · next instant causes hchunk =>
          obtain ⟨time, rfl, rfl, htime⟩ := Wait.resolve_eq_answered_iff.1 hchunk
          cases h
          exact .inl ⟨[], time, causes, rest, rfl, htime, rfl⟩
      · cases h
        exact .inr rfl
      · cases h

end Arrival

namespace Courier

variable {c : Courier} {url : Url} {destination : Path} {s : Storage} {r : Replacement}
  {files : FileSystem} {t : Transfer} {causes : Causes} {e : DownloadError}

theorem transfer_of_failure (r : Replacement) (files : FileSystem)
    (h : (c.server.get url).Brings c.limit (.error causes)) :
    (c.transfer url r files).ending =
      .failed (.request url.text (CauseLine.ofTexts causes)) := by
  obtain ⟨delay, hresolve⟩ := h.resolve_eq
  simp only [transfer, hresolve]

theorem transfer_of_break (r : Replacement) (files : FileSystem)
    (h : c.server.BreaksWith url c.limit causes) :
    (c.transfer url r files).ending =
      .failed (.transfer url.text (CauseLine.ofTexts causes)) := by
  obtain ⟨delay, answer, pieces, time, rest, hget, hstatus, hbody, htime⟩ := h
  have hdelay : InTime c.limit delay :=
    htime.mono (Nat.le_trans (Nat.le_add_right _ _) (Nat.le_add_right _ _))
  obtain ⟨meter, notices, haccept⟩ := c.accept_eq url r files delay answer
  rw [transfer_of_answer r files hget hdelay hstatus, haccept, Transfer.ending_after, hbody]
  exact Arrival.receive_of_failure _ pieces causes rest 0 meter files htime

theorem transfer_failure_cases (h : (c.transfer url r files).ending = .failed e) :
    (∃ causes, (c.server.get url).Brings c.limit (.error causes) ∧
        e = .request url.text (CauseLine.ofTexts causes)) ∨
      (∃ causes, c.server.BreaksWith url c.limit causes ∧
        e = .transfer url.text (CauseLine.ofTexts causes)) ∨
      e.reason? = none := by
  unfold transfer at h
  split at h
  · next now answer hanswer =>
      split at h
      · next hstatus =>
          obtain ⟨delay, hget, hnow, -⟩ := Wait.resolve_eq_answered_iff.1 hanswer
          rw [Nat.zero_add] at hnow
          subst hnow
          obtain ⟨meter, notices, haccept⟩ := c.accept_eq url r files now answer
          rw [haccept, Transfer.ending_after] at h
          rcases Arrival.receive_failure_cases h with
            ⟨pieces, time, causes, rest, hbody, htime, he⟩ | hlate
          · exact .inr (.inl ⟨causes,
              ⟨now, answer, pieces, time, rest, hget, hstatus, hbody, htime⟩, he⟩)
          · exact .inr (.inr hlate)
      · cases h
        exact .inr (.inr rfl)
  · next now causes hanswer =>
      cases h
      exact .inl ⟨causes, Wait.brings_of_resolve hanswer, rfl⟩
  · cases h
    exact .inr (.inr rfl)
  · cases h

theorem settle_failure_cases (h : (settle url r s t).ending = .failed e) :
    t.ending = .failed e ∨ e.reason? = none := by
  unfold settle at h
  split at h
  · split at h
    · cases h
    · cases h
      exact .inr rfl
  · next hending =>
      cases h
      exact .inl hending
  · cases h

theorem deliver_failure_of_not_reaches (hreaches : ¬ Reaches url destination s)
    (h : (c.deliver url destination s).ending = .failed e) : e.reason? = none := by
  obtain ⟨e', s', herror, hdeliver⟩ := deliver_eq_fail hreaches
  rw [hdeliver] at h
  cases h
  rcases herror with ⟨error, rfl⟩ | ⟨scheme, rfl⟩
  · rfl
  · rfl

/-- A delivery fails by a failure of the request or by one in the body, or else no client is at
fault. -/
theorem deliver_failure_cases (h : (c.deliver url destination s).ending = .failed e) :
    (Reaches url destination s ∧ ∃ causes, (c.server.get url).Brings c.limit (.error causes) ∧
        e = .request url.text (CauseLine.ofTexts causes)) ∨
      (Reaches url destination s ∧ ∃ causes, c.server.BreaksWith url c.limit causes ∧
        e = .transfer url.text (CauseLine.ofTexts causes)) ∨
      e.reason? = none := by
  by_cases hreaches : Reaches url destination s
  · obtain ⟨r, s', -, -, hdeliver⟩ := deliver_of_reaches hreaches
    rw [hdeliver, Run.ending_after] at h
    rcases settle_failure_cases h with htransfer | hnone
    · rcases transfer_failure_cases htransfer with hrequest | hbody | hnone
      · exact .inl ⟨hreaches, hrequest⟩
      · exact .inr (.inl ⟨hreaches, hbody⟩)
      · exact .inr (.inr hnone)
    · exact .inr (.inr hnone)
  · exact .inr (.inr (deliver_failure_of_not_reaches hreaches h))

theorem ending_deliver_of_transfer (hreaches : Reaches url destination s)
    (h : ∀ r files, (c.transfer url r files).ending = .failed e) :
    (c.deliver url destination s).ending = .failed e := by
  obtain ⟨r, s', -, -, hdeliver⟩ := deliver_of_reaches hreaches
  rw [hdeliver, Run.ending_after]
  exact ending_settle_of_failed (h r s'.files)

theorem deliver_fails_by_request_iff {u reason : String} :
    (c.deliver url destination s).ending = .failed (.request u reason) ↔
      Reaches url destination s ∧ ∃ causes, (c.server.get url).Brings c.limit (.error causes) ∧
        u = url.text ∧ CauseLine.Tells reason causes := by
  constructor
  · intro h
    rcases deliver_failure_cases h with
      ⟨hreaches, causes, hbrings, he⟩ | ⟨-, causes, -, he⟩ | hnone
    · cases he
      exact ⟨hreaches, causes, hbrings, rfl, CauseLine.tells_iff.2 rfl⟩
    · cases he
    · cases hnone
  · rintro ⟨hreaches, causes, hbrings, rfl, htells⟩
    rw [CauseLine.tells_iff.1 htells]
    exact ending_deliver_of_transfer hreaches fun r files => transfer_of_failure r files hbrings

theorem deliver_fails_by_transfer_iff {u reason : String} :
    (c.deliver url destination s).ending = .failed (.transfer u reason) ↔
      Reaches url destination s ∧ ∃ causes, c.server.BreaksWith url c.limit causes ∧
        u = url.text ∧ CauseLine.Tells reason causes := by
  constructor
  · intro h
    rcases deliver_failure_cases h with
      ⟨-, causes, -, he⟩ | ⟨hreaches, causes, hbreaks, he⟩ | hnone
    · cases he
    · cases he
      exact ⟨hreaches, causes, hbreaks, rfl, CauseLine.tells_iff.2 rfl⟩
    · cases hnone
  · rintro ⟨hreaches, causes, hbreaks, rfl, htells⟩
    rw [CauseLine.tells_iff.1 htells]
    exact ending_deliver_of_transfer hreaches fun r files => transfer_of_break r files hbreaks

end Courier

theorem Enquirer.enquire_fails_by_enquiry_iff {e : Enquirer} {url : Url} {u reason : String} :
    (e.enquire url).1 = .failed (.enquiry u reason) ↔
      url.IsHttp ∧ ∃ causes, (e.server.head url).Brings e.limit (.error causes) ∧
        u = url.text ∧ CauseLine.Tells reason causes := by
  by_cases hurl : url.IsHttp
  · rw [enquire_eq_failed_iff hurl]
    constructor
    · rintro (⟨causes, hbrings, he⟩ | ⟨d, -, he⟩)
      · cases he
        exact ⟨hurl, causes, hbrings, rfl, CauseLine.tells_iff.2 rfl⟩
      · cases he
    · rintro ⟨-, causes, hbrings, rfl, htells⟩
      exact .inl ⟨causes, hbrings, by rw [CauseLine.tells_iff.1 htells]⟩
  · rw [enquire_of_foreign hurl]
    exact ⟨fun h => (nomatch h), fun h => absurd h.1 hurl⟩

/-- The line about an error and its causes is the join of the outermost text with some of those of
the causes, in their order: those that cannot be found in what is joined before them.  All texts can
be found in it, and it is the outermost text alone if all are parts of that.  Such a line is the
reason that is given when a request fails, or an enquiry, or when a body breaks off. -/
theorem causes_are_told_once (outermost : String) (causes : List String) :
    let line := CauseLine.ofTexts (outermost :: causes)
    (∃ account : CauseLine.Account, account.Fits outermost causes ∧
        account.told.Sublist causes ∧ line = account.joined outermost) ∧
      (∀ text ∈ outermost :: causes, CauseLine.Within text line) ∧
      ((∀ cause ∈ causes, CauseLine.Within cause outermost) → line = outermost) ∧
      (∀ (e : Enquirer) (url : Url) (u reason : String),
        (e.enquire url).1 = .failed (.enquiry u reason) ↔
          url.IsHttp ∧ ∃ chain, (e.server.head url).Brings e.limit (.error chain) ∧
            u = url.text ∧ CauseLine.Tells reason chain) ∧
      ∀ (c : Courier) (url : Url) (destination : Path) (s : Storage) (u reason : String),
        ((c.deliver url destination s).ending = .failed (.request u reason) ↔
          Courier.Reaches url destination s ∧
            ∃ chain, (c.server.get url).Brings c.limit (.error chain) ∧
              u = url.text ∧ CauseLine.Tells reason chain) ∧
        ((c.deliver url destination s).ending = .failed (.transfer u reason) ↔
          Courier.Reaches url destination s ∧ ∃ chain, c.server.BreaksWith url c.limit chain ∧
            u = url.text ∧ CauseLine.Tells reason chain) := by
  intro line
  obtain ⟨account, haccount⟩ := CauseLine.exists_account outermost causes
  have htold : account.told.Sublist causes := haccount.causes_eq ▸ account.told_sublist
  have hline : line = account.joined outermost := by
    rw [← haccount.line_eq List.prefix_rfl, haccount.causes_eq]
  exact ⟨⟨account, haccount, htold, hline⟩, fun text => CauseLine.within_ofTexts,
    CauseLine.ofTexts_of_all_within, fun _ _ _ _ => Enquirer.enquire_fails_by_enquiry_iff,
    fun _ _ _ _ _ _ =>
      ⟨Courier.deliver_fails_by_request_iff, Courier.deliver_fails_by_transfer_iff⟩⟩

end ArtifactCache
