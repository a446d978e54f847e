import ArtifactCache.Download.Retriever
import ArtifactCache.Proofs.Cache.Containment
import ArtifactCache.Proofs.Cache.Judgement
import ArtifactCache.Proofs.Download.Delivery

/-!
# Asking about a copy

Where the artifact of a request is kept, what copy is found there, and what the server's answer, or
the lack of one, makes of that copy.
-/

namespace ArtifactCache

/-- The text of the request is read as `url`, whose artifact is kept at `path`. -/
def Request.AsksFor (request : Request) (url : Url) (path : Path) : Prop :=
  Url.parse request.url = .ok url ∧ ∃ name, url.path.lastSegment? = some name ∧ IsFileName name ∧
    path = request.cacheDir.join ⟨name⟩

namespace Retriever

variable {request : Request} {url : Url} {path : Path}

theorem place_of_parsed (h : Url.parse request.url = .ok url) :
    place request = (artifactPath request.cacheDir url).map fun path => (url, path) := by
  have hread : readUrl request.url = .ok url := by
    rw [readUrl, h]
    rfl
  simp only [place, hread, bind, Except.bind]
  cases artifactPath request.cacheDir url <;> rfl

theorem place_of_malformed {e : Url.ParseError} (h : Url.parse request.url = .error e) :
    place request = .error (.invalidUrl request.url e.message) := by
  simp only [place, readUrl, h]
  rfl

theorem place_of_unnamed (h : Url.parse request.url = .ok url)
    (hname : ∀ name, url.path.lastSegment? = some name → ¬ IsFileName name) :
    place request = .error (.noFileName url.text) := by
  rw [place_of_parsed h, artifactPath, Url.fileName?_eq_none hname]
  rfl

theorem place_of_asksFor (h : request.AsksFor url path) : place request = .ok (url, path) := by
  obtain ⟨hurl, name, hlast, hfile, rfl⟩ := h
  rw [place_of_parsed hurl, artifactPath, Url.fileName?_eq_some_iff.2 ⟨hlast, hfile⟩]
  rfl

end Retriever

namespace Request

variable {request : Request} {url url' : Url} {path path' : Path}

theorem AsksFor.unique (h : request.AsksFor url path) (h' : request.AsksFor url' path') :
    url = url' ∧ path = path' := by
  have hplace := Retriever.place_of_asksFor h
  rw [Retriever.place_of_asksFor h'] at hplace
  cases hplace
  exact ⟨rfl, rfl⟩

theorem asksFor_cases (request : Request) :
    (∃ e, Url.parse request.url = .error e) ∨
      (∃ url, Url.parse request.url = .ok url ∧
        ∀ name, url.path.lastSegment? = some name → ¬ IsFileName name) ∨
      ∃ url path, request.AsksFor url path := by
  cases hurl : Url.parse request.url with
  | error e => exact .inl ⟨e, rfl⟩
  | ok url =>
      refine .inr ?_
      by_cases hname : ∃ name, url.path.lastSegment? = some name ∧ IsFileName name
      · obtain ⟨name, hlast, hfile⟩ := hname
        exact .inr ⟨url, _, hurl, name, hlast, hfile, rfl⟩
      · exact .inl ⟨url, rfl, fun name hlast hfile => hname ⟨name, hlast, hfile⟩⟩

/-- A copy of an artifact is removed with the entry that its path names. -/
theorem AsksFor.removeAny {fs : FileSystem} {content : List UInt8} (h : request.AsksFor url path)
    (hfile : fs.nodeAt path = .ok (.file content)) :
    ∃ l, fs.NamesEntry path l ∧ fs.removeAny path = (.ok (), fs.erase l) := by
  obtain ⟨hurl, name, hlast, hname, rfl⟩ := h
  have hsegments := Url.slashFree_of_parse hurl
  cases hpath : url.path with
  | text whole =>
      rw [hpath] at hlast
      cases hlast
  | segments parts =>
      rw [hpath] at hlast hsegments
      exact FileSystem.removeAny_join hname (hsegments name (List.mem_of_getLast? hlast)) hfile

end Request

/-! ## The copy -/

namespace FileSystem

variable {fs : FileSystem} {path : Path} {content : List UInt8} {cause : IoError}

theorem copyAt?_of_file (h : fs.nodeAt path = .ok (.file content)) :
    fs.copyAt? path = .ok (some (.of path content)) := by
  simp only [copyAt?, fileSize?, digestOf, readFile, h]
  rfl

theorem copyAt?_of_not_file {node : Node} (h : fs.nodeAt path = .ok node)
    (hnode : ∀ content, node ≠ .file content) :
    fs.copyAt? path = .error (.file (.notAFile path)) := by
  simp only [copyAt?, fileSize?, h]
  cases node with
  | file content => exact absurd rfl (hnode content)
  | directory => rfl
  | link target => rfl
  | device => rfl

theorem copyAt?_of_not_hashed {e : HashError} (h : fs.nodeAt path = .ok (.file content))
    (hhash : fs.digestOf path = .error e) : fs.copyAt? path = .error (.hash e) := by
  simp only [copyAt?, fileSize?, h, hhash]
  rfl

theorem copyAt?_of_absent (h : fs.nodeAt path = .error cause) (hfound : cause.isNotFound = true) :
    fs.copyAt? path = .ok none := by
  simp only [copyAt?, fileSize?, h, hfound]
  rfl

theorem copyAt?_of_unreadable (h : fs.nodeAt path = .error cause)
    (hfound : cause.isNotFound = false) :
    fs.copyAt? path = .error (.file (.stat path cause)) := by
  simp only [copyAt?, fileSize?, h, hfound]
  rfl

end FileSystem

/-! ## The answer -/

namespace Enquirer

variable {e : Enquirer} {url : Url} {answer : HeadAnswer}

theorem enquire_of_isHttp (hurl : url.IsHttp) : e.enquire url = (e.ask url, { heads := 1 }) := by
  simp only [enquire, requireHttp_eq_ok hurl]

theorem enquire_of_foreign (hurl : ¬ url.IsHttp) :
    e.enquire url = (.failed (.notHttp url.text url.schemeText), {}) := by
  simp only [enquire, requireHttp_eq_error hurl]

theorem enquire_of_answer (hurl : url.IsHttp)
    (h : (e.server.head url).Brings e.limit (.ok answer)) :
    e.enquire url = (.done (.ofAnswer e.checksumHeader answer), { heads := 1 }) := by
  obtain ⟨delay, hresolve⟩ := h.resolve_eq
  rw [enquire_of_isHttp hurl, ask, hresolve]

theorem enquire_of_failure {causes : Causes} (hurl : url.IsHttp)
    (h : (e.server.head url).Brings e.limit (.error causes)) :
    e.enquire url =
      (.failed (.enquiry url.text (CauseLine.ofTexts causes)), { heads := 1 }) := by
  obtain ⟨delay, hresolve⟩ := h.resolve_eq
  rw [enquire_of_isHttp hurl, ask, hresolve]

theorem enquire_of_expiry {d : Duration} (hurl : url.IsHttp)
    (h : (e.server.head url).Expires e.limit d) :
    e.enquire url = (.failed (.timeout url.text .enquiry d), { heads := 1 }) := by
  rw [enquire_of_isHttp hurl, ask, h.resolve_eq]

theorem enquire_of_hanging (hurl : url.IsHttp) (h : (e.server.head url).Hangs e.limit) :
    e.enquire url = (.stuck, { heads := 1 }) := by
  rw [enquire_of_isHttp hurl, ask, h.resolve_eq]

theorem brings_of_ask {a : Announcement} (h : e.ask url = .done a) :
    ∃ answer, (e.server.head url).Brings e.limit (.ok answer) ∧
      a = .ofAnswer e.checksumHeader answer := by
  unfold ask at h
  split at h
  · next now answer hresolve =>
      cases h
      exact ⟨answer, Wait.brings_of_resolve hresolve, rfl⟩
  · cases h
  · cases h
  · cases h

end Enquirer

namespace Retriever

variable {r : Retriever} {request : Request} {url : Url} {path : Path} {content : List UInt8}
  {storage : Storage}

/-- What comes of asking about a copy of some content: nothing speaks against it when there is no
answer, whatever status an answer has its digest decides, and without a digest the length does. -/
inductive Judges (r : Retriever) (url : Url) (content : List UInt8) : Verdict → Prop
  | failed {causes : Causes} :
      (r.server.head url).Brings r.policy.limits.enquiry (.error causes) →
      Judges r url content (.keep .unreachable)
  | late {limit : Duration} :
      (r.server.head url).Expires r.policy.limits.enquiry limit →
      Judges r url content (.keep .unreachable)
  | sameDigest {answer : HeadAnswer} :
      (r.server.head url).Brings r.policy.limits.enquiry (.ok answer) →
      answer.Advertises r.policy.checksumHeader (.ofContent content) →
      Judges r url content (.keep .sameDigest)
  | sameLength {answer : HeadAnswer} :
      (r.server.head url).Brings r.policy.limits.enquiry (.ok answer) →
      ¬ answer.Advertises r.policy.checksumHeader (.ofContent content) →
      answer.Measures content.length →
      (r.policy.strict = true → ∀ d, ¬ answer.Advertises r.policy.checksumHeader d) →
      Judges r url content (.keep .sameLength)
  | stale {answer : HeadAnswer} :
      (r.server.head url).Brings r.policy.limits.enquiry (.ok answer) →
      ¬ answer.Advertises r.policy.checksumHeader (.ofContent content) →
      (answer.Measures content.length →
        r.policy.strict = true ∧ ∃ d, answer.Advertises r.policy.checksumHeader d) →
      Judges r url content .purge

theorem judges_on {answer : HeadAnswer} (path : Path)
    (h : (r.server.head url).Brings r.policy.limits.enquiry (.ok answer)) :
    r.Judges url content (.on (.of path content)
      (some (.ofAnswer r.policy.checksumHeader answer)) r.policy.strict) := by
  by_cases hpub : answer.Advertises r.policy.checksumHeader (.ofContent content)
  · rw [Verdict.on_of_advertises hpub]
    exact .sameDigest h hpub
  · by_cases hany : r.policy.strict = true ∧ ∃ d, answer.Advertises r.policy.checksumHeader d
    · obtain ⟨hstrict, d, hd⟩ := hany
      rw [hstrict, Verdict.on_of_strict hpub hd]
      exact .stale h hpub fun _ => ⟨hstrict, d, hd⟩
    · have hlenient : r.policy.strict = true →
          ∀ d, ¬ answer.Advertises r.policy.checksumHeader d :=
        fun hstrict d hd => hany ⟨hstrict, d, hd⟩
      rw [Verdict.on_of_lenient hpub hlenient]
      by_cases hlength : answer.Measures content.length
      · rw [Verdict.byLength_of_measures hlength]
        exact .sameLength h hpub hlength hlenient
      · rw [Verdict.byLength_of_not_measures hlength]
        exact .stale h hpub fun hyes => absurd hyes hlength

theorem Judges.eq_on {v : Verdict} (h : r.Judges url content v) (path : Path) :
    (∃ answer, (r.server.head url).Brings r.policy.limits.enquiry (.ok answer) ∧
        v = .on (.of path content) (some (.ofAnswer r.policy.checksumHeader answer))
          r.policy.strict) ∨
      (((∃ causes, (r.server.head url).Brings r.policy.limits.enquiry (.error causes)) ∨
          ∃ limit, (r.server.head url).Expires r.policy.limits.enquiry limit) ∧
        v = .on (.of path content) none r.policy.strict) := by
  cases h with
  | failed hwait => exact .inr ⟨.inl ⟨_, hwait⟩, rfl⟩
  | late hwait => exact .inr ⟨.inr ⟨_, hwait⟩, rfl⟩
  | sameDigest hwait hpub => exact .inl ⟨_, hwait, (Verdict.on_of_advertises hpub).symm⟩
  | @sameLength answer hwait hpub hlength hlenient =>
      refine .inl ⟨answer, hwait, ?_⟩
      rw [Verdict.on_of_lenient hpub hlenient]
      exact (Verdict.byLength_of_measures hlength).symm
  | @stale answer hwait hpub hlength =>
      refine .inl ⟨answer, hwait, ?_⟩
      by_cases hany : r.policy.strict = true ∧ ∃ d, answer.Advertises r.policy.checksumHeader d
      · obtain ⟨hstrict, d, hd⟩ := hany
        rw [hstrict, Verdict.on_of_strict hpub hd]
      · rw [Verdict.on_of_lenient hpub fun hstrict d hd => hany ⟨hstrict, d, hd⟩]
        exact (Verdict.byLength_of_not_measures fun hyes => hany (hlength hyes)).symm

theorem judges_or_hangs (r : Retriever) (url : Url) (content : List UInt8) :
    (∃ v, r.Judges url content v) ∨ (r.server.head url).Hangs r.policy.limits.enquiry := by
  rcases (r.server.head url).brings_or_expires_or_hangs r.policy.limits.enquiry with
    ⟨item, hwait⟩ | ⟨limit, hwait⟩ | hwait
  · cases item with
    | error causes => exact .inl ⟨_, .failed hwait⟩
    | ok answer => exact .inl ⟨_, judges_on .here hwait⟩
  · exact .inl ⟨_, .late hwait⟩
  · exact .inr hwait

/-! ## The run -/

variable {copy : CachedCopy}

theorem revalidate_of_answer {answer : HeadAnswer} (hurl : url.IsHttp)
    (h : (r.server.head url).Brings r.policy.limits.enquiry (.ok answer)) :
    ∃ notices, r.revalidate request url copy storage =
      (r.execute request url copy.path storage (.on copy
        (some (.ofAnswer r.policy.checksumHeader answer)) r.policy.strict)).after ⟨1, 0⟩
        notices := by
  have henquire := Enquirer.enquire_of_answer (e := r.enquirer) hurl h
  simp only [revalidate, henquire]
  exact ⟨_, rfl⟩

theorem revalidate_of_silence (hurl : url.IsHttp)
    (h : (∃ causes, (r.server.head url).Brings r.policy.limits.enquiry (.error causes)) ∨
      ∃ limit, (r.server.head url).Expires r.policy.limits.enquiry limit) :
    ∃ notices, r.revalidate request url copy storage =
      (r.execute request url copy.path storage (.on copy none r.policy.strict)).after ⟨1, 0⟩
        notices := by
  rcases h with ⟨causes, hfailed⟩ | ⟨limit, hlate⟩
  · have henquire := Enquirer.enquire_of_failure (e := r.enquirer) hurl hfailed
    simp only [revalidate, henquire, DownloadError.isUnreachable, if_true]
    exact ⟨_, rfl⟩
  · have henquire := Enquirer.enquire_of_expiry (e := r.enquirer) hurl hlate
    simp only [revalidate, henquire, DownloadError.isUnreachable, beq_self_eq_true, if_true]
    exact ⟨_, rfl⟩

theorem revalidate_of_hangs (hurl : url.IsHttp)
    (h : (r.server.head url).Hangs r.policy.limits.enquiry) :
    r.revalidate request url copy storage =
      { ending := .stuck, storage, requests := ⟨1, 0⟩ } := by
  have henquire := Enquirer.enquire_of_hanging (e := r.enquirer) hurl h
  simp only [revalidate, henquire]

theorem revalidate_of_foreign (hurl : ¬ url.IsHttp) :
    r.revalidate request url copy storage =
      .fail (.notHttp url.text url.schemeText) storage := by
  simp only [revalidate, Enquirer.enquire_of_foreign hurl, DownloadError.isUnreachable]
  rfl

theorem revalidate_of_judges {v : Verdict} (request : Request) (path : Path) (storage : Storage)
    (hurl : url.IsHttp) (h : r.Judges url content v) :
    ∃ notices, r.revalidate request url (.of path content) storage =
      (r.execute request url path storage v).after ⟨1, 0⟩ notices := by
  rcases h.eq_on path with ⟨answer, hwait, rfl⟩ | ⟨hwait, rfl⟩
  · exact revalidate_of_answer hurl hwait
  · exact revalidate_of_silence hurl hwait

end Retriever

end ArtifactCache
