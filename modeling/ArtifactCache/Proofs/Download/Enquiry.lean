import ArtifactCache.Proofs.Download.Revalidation
import ArtifactCache.Proofs.Http.Lookup

/-!
# What an enquiry finds out

An enquiry makes one request, and what comes of it is settled by how the waiting for the answer
ends.  Of an answer nothing but the first values of two headers counts; without an answer the server
could not be asked.
-/

namespace ArtifactCache.Enquirer

variable {e e' : Enquirer} {url : Url} {answer answer' : HeadAnswer} {digest length : Option String}

theorem ofAnswer_of_firstValue (hdigest : FirstValue answer.headers e.checksumHeader digest)
    (hlength : FirstValue answer.headers Announcement.lengthHeader length) :
    Announcement.ofAnswer e.checksumHeader answer = .ofValues digest length := by
  rw [Announcement.ofAnswer, HeadAnswer.firstValue_iff.1 hdigest,
    HeadAnswer.firstValue_iff.1 hlength]

theorem requests_enquire (hurl : url.IsHttp) : (e.enquire url).2 = { heads := 1, gets := 0 } := by
  rw [enquire_of_isHttp hurl]

theorem enquire_eq_done_iff (hurl : url.IsHttp) {a : Announcement} :
    (e.enquire url).1 = .done a ↔ ∃ answer digest length,
      (e.server.head url).Brings e.limit (.ok answer) ∧
        FirstValue answer.headers e.checksumHeader digest ∧
        FirstValue answer.headers Announcement.lengthHeader length ∧
        a = .ofValues digest length := by
  constructor
  · intro h
    rw [enquire_of_isHttp hurl] at h
    obtain ⟨answer, hbrings, rfl⟩ := brings_of_ask h
    exact ⟨answer, _, _, hbrings, HeadAnswer.firstValue_iff.2 rfl,
      HeadAnswer.firstValue_iff.2 rfl, rfl⟩
  · rintro ⟨answer, digest, length, hbrings, hdigest, hlength, rfl⟩
    rw [enquire_of_answer hurl hbrings, ofAnswer_of_firstValue hdigest hlength]

theorem enquire_eq_failed_iff (hurl : url.IsHttp) {error : DownloadError} :
    (e.enquire url).1 = .failed error ↔
      (∃ causes, (e.server.head url).Brings e.limit (.error causes) ∧
        error = .enquiry url.text (CauseLine.ofTexts causes)) ∨
      ∃ d, (e.server.head url).Expires e.limit d ∧ error = .timeout url.text .enquiry d := by
  constructor
  · intro h
    rcases (e.server.head url).brings_or_expires_or_hangs e.limit with ⟨item, hwait⟩ |
      ⟨d, hwait⟩ | hwait
    · cases item with
      | ok answer =>
          rw [enquire_of_answer hurl hwait] at h
          cases h
      | error causes =>
          rw [enquire_of_failure hurl hwait] at h
          cases h
          exact .inl ⟨causes, hwait, rfl⟩
    · rw [enquire_of_expiry hurl hwait] at h
      cases h
      exact .inr ⟨d, hwait, rfl⟩
    · rw [enquire_of_hanging hurl hwait] at h
      cases h
  · rintro (⟨causes, hwait, rfl⟩ | ⟨d, hwait, rfl⟩)
    · rw [enquire_of_failure hurl hwait]
    · rw [enquire_of_expiry hurl hwait]

theorem isUnreachable_of_failed (hurl : url.IsHttp) {error : DownloadError}
    (h : (e.enquire url).1 = .failed error) : error.isUnreachable = true := by
  rcases (enquire_eq_failed_iff hurl).1 h with ⟨causes, -, rfl⟩ | ⟨d, -, rfl⟩
  · rfl
  · rfl

/-- Behind an HTTP address the server is asked once, and no body is requested.  An answer that comes
in time is an announcement, whatever its status: that of the first values of two headers, so that
answers which agree on these announce the same.  Otherwise the server could not be asked, which is
the case exactly if the request fails or takes too long.  No other address is asked about, and that
does not count as an unreachable server. -/
theorem reads_two_headers (e : Enquirer) (url : Url) :
    (url.IsHttp →
      (e.enquire url).2 = { heads := 1, gets := 0 } ∧
        (∀ answer, (e.server.head url).Brings e.limit (.ok answer) → ∃ digest length,
          FirstValue answer.headers e.checksumHeader digest ∧
            FirstValue answer.headers Announcement.lengthHeader length ∧
            (e.enquire url).1 = .done (.ofValues digest length)) ∧
        (∀ a, (e.enquire url).1 = .done a ↔ ∃ answer digest length,
          (e.server.head url).Brings e.limit (.ok answer) ∧
            FirstValue answer.headers e.checksumHeader digest ∧
            FirstValue answer.headers Announcement.lengthHeader length ∧
            a = .ofValues digest length) ∧
        (∀ (e' : Enquirer) answer answer' digest length,
          (e.server.head url).Brings e.limit (.ok answer) →
          (e'.server.head url).Brings e'.limit (.ok answer') →
          FirstValue answer.headers e.checksumHeader digest →
          FirstValue answer'.headers e'.checksumHeader digest →
          FirstValue answer.headers Announcement.lengthHeader length →
          FirstValue answer'.headers Announcement.lengthHeader length →
          e.enquire url = e'.enquire url) ∧
        (∀ error, (e.enquire url).1 = .failed error ↔
          (∃ causes, (e.server.head url).Brings e.limit (.error causes) ∧
            error = .enquiry url.text (CauseLine.ofTexts causes)) ∨
          ∃ d, (e.server.head url).Expires e.limit d ∧ error = .timeout url.text .enquiry d) ∧
        ((∃ error, (e.enquire url).1 = .failed error ∧ error.isUnreachable = true) ↔
          (∃ causes, (e.server.head url).Brings e.limit (.error causes)) ∨
            ∃ d, (e.server.head url).Expires e.limit d) ∧
        ∀ error, (e.enquire url).1 = .failed error → error.isUnreachable = true) ∧
      (¬ url.IsHttp →
        e.enquire url =
            (.failed (.notHttp url.text url.schemeText), { heads := 0, gets := 0 }) ∧
          (DownloadError.notHttp url.text url.schemeText).isUnreachable = false) ∧
      ∀ status headers name value,
        FirstValue (HeadAnswer.ofHeaders status headers).headers name value ↔
          FirstValue headers name value := by
  refine ⟨fun hurl => ⟨requests_enquire hurl, ?_, fun _ => enquire_eq_done_iff hurl, ?_,
    fun _ => enquire_eq_failed_iff hurl, ?_, fun _ => isUnreachable_of_failed hurl⟩,
    fun hurl => ⟨enquire_of_foreign hurl, rfl⟩,
    fun status _ _ _ => HeadAnswer.firstValue_ofHeaders status⟩
  · intro answer hbrings
    refine ⟨_, _, HeadAnswer.firstValue_iff.2 rfl, HeadAnswer.firstValue_iff.2 rfl, ?_⟩
    rw [enquire_of_answer hurl hbrings]
    rfl
  · intro e' answer answer' digest length hbrings hbrings' hdigest hdigest' hlength hlength'
    rw [enquire_of_answer hurl hbrings, enquire_of_answer hurl hbrings',
      ofAnswer_of_firstValue hdigest hlength, ofAnswer_of_firstValue hdigest' hlength']
  · constructor
    · rintro ⟨error, herror, -⟩
      rcases (enquire_eq_failed_iff hurl).1 herror with ⟨causes, hwait, -⟩ | ⟨d, hwait, -⟩
      · exact .inl ⟨causes, hwait⟩
      · exact .inr ⟨d, hwait⟩
    · rintro (⟨causes, hwait⟩ | ⟨d, hwait⟩)
      · have herror := (enquire_eq_failed_iff hurl).2 (.inl ⟨causes, hwait, rfl⟩)
        exact ⟨_, herror, isUnreachable_of_failed hurl herror⟩
      · have herror := (enquire_eq_failed_iff hurl).2 (.inr ⟨d, hwait, rfl⟩)
        exact ⟨_, herror, isUnreachable_of_failed hurl herror⟩

end ArtifactCache.Enquirer
