import ArtifactCache.Proofs.Cache.Containment
import ArtifactCache.Proofs.Download.Result

/-!
# Taking digests strictly

Taken strictly, a digest that the server advertises is that of whatever a retrieval gives, as long
as the server can be asked and is honest about its own bodies.  That is all the difference: a copy
that only its length speaks for, against a digest, is purged instead of kept.
-/

namespace ArtifactCache

namespace Retrieval

variable {x : Retrieval} {s : Storage} {d : Digest} {path : Path} {provenance : Provenance}

/-- What the server advertises, if it is asked, is the digest of the body that it delivers. -/
structure HonestAbout (x : Retrieval) (s : Storage) (d : Digest) : Prop where
  advertises {url : Url} {path : Path} {answer : HeadAnswer} :
    x.request.AsksFor url path → 0 < (x.run s).requests.heads →
      (x.retriever.server.head url).Brings x.retriever.policy.limits.enquiry (.ok answer) →
      answer.Advertises x.retriever.policy.checksumHeader d
  delivers {url : Url} {path : Path} {content : List UInt8} :
    x.request.AsksFor url path → x.Delivers url content → Digest.ofContent content = d

/-- A verdict that keeps a copy on an answer that advertises a digest, which is taken strictly, is
for the sake of that digest. -/
theorem ofContent_eq_of_judges {r : Retriever} {url : Url} {content : List UInt8} {ground : Ground}
    (hstrict : r.policy.strict = true)
    (hadvertises : ∀ answer, (r.server.head url).Brings r.policy.limits.enquiry (.ok answer) →
      answer.Advertises r.policy.checksumHeader d)
    (h : r.Judges url content (.keep ground)) :
    ground ≠ .sameLength ∧ (ground ≠ .unreachable → Digest.ofContent content = d) := by
  cases h with
  | failed => exact ⟨nofun, fun hne => absurd rfl hne⟩
  | late => exact ⟨nofun, fun hne => absurd rfl hne⟩
  | sameDigest hwait hown => exact ⟨nofun, fun _ => hown.unique (hadvertises _ hwait)⟩
  | sameLength hwait hown hlength hlenient =>
      exact absurd (hadvertises _ hwait) (hlenient hstrict d)

/-- With digests taken strictly, whatever an honest server lets a retrieval give is what it
advertises, unless the server could not be asked; a length alone is never enough. -/
theorem strict_result_is_advertised (hstrict : x.retriever.policy.strict = true)
    (hhonest : x.HonestAbout s d) (hdone : (x.run s).ending = .done (path, provenance)) :
    provenance ≠ .kept .sameLength ∧
      (provenance ≠ .kept .unreachable →
        ∃ content, (x.run s).files.nodeAt path = .ok (.file content) ∧
          Digest.ofContent content = d) := by
  have hresult := result_of_done hdone
  generalize hrequests : (x.run s).requests = requests at hresult
  generalize hstorage : (x.run s).storage = s' at hresult
  rw [Run.files, hstorage]
  cases hresult with
  | @kept url _ content ground hasks hurl hnode hv =>
      have hasked : 0 < (x.run s).requests.heads := by
        rw [hrequests]
        exact Nat.one_pos
      obtain ⟨hlength, hdigest⟩ := ofContent_eq_of_judges hstrict
        (fun answer hwait => hhonest.advertises hasks hasked hwait) hv
      refine ⟨fun heq => hlength ?_, fun hne => ⟨content, hnode, hdigest fun hground => ?_⟩⟩
      · cases heq
        rfl
      · exact hne (hground ▸ rfl)
  | @stored url _ _ content _ _ hasks hurl hnew hbody hnode =>
      refine ⟨?_, fun _ => ⟨content, hnode, hhonest.delivers hasks hbody⟩⟩
      rintro rfl
      rcases hnew with hnew | hnew <;> cases hnew

/-- A server with new content of the same length as the old, advertised in capitals. -/
def renewed : Retrieval where
  retriever.server :=
    { head := fun _ => .now (.ok (.ofHeaders 200
        [("X-Checksum-SHA256",
            String.ofList (" SHA256:".toList ++ (Digest.ofContent [8]).chars.map Char.toUpper)),
          ("Content-Length", "1")]))
      get := fun _ => .now (.ok
        { status := 200, reason := "OK", contentLength := some 1, body := [.now (.ok [8])] }) }
  retriever.policy.strict := true
  request := { cacheDir := .ofString "/cache", url := "http://host/file" }

def agedCopy : Storage where
  files.nodes :=
    [(["cache".toList], .directory), (["file".toList, "cache".toList], .file [7])]
  files.here := []
  process := 1

theorem advertises_renewed (url : Url) {answer : HeadAnswer}
    (h : (renewed.retriever.server.head url).Brings none (.ok answer)) :
    answer.Advertises Announcement.checksumHeader (.ofContent [8]) := by
  obtain ⟨delay, hanswer, -⟩ := h
  cases hanswer
  refine ⟨_, HeadAnswer.firstValue_iff.2 rfl, "SHA256:".toList, [],
    (Digest.ofContent [8]).chars.map Char.toUpper, ⟨[' '], [], ?_, by decide, by decide⟩,
    by decide, .inr rfl, ?_⟩
  · simp
  · decide +kernel

theorem delivers_renewed (url : Url) : renewed.Delivers url [8] :=
  ⟨0, _, [(0, [8])], 0, rfl, by decide, by decide, rfl, rfl, rfl, nofun⟩

theorem honestAbout_renewed : renewed.HonestAbout agedCopy (.ofContent [8]) where
  advertises _ _ hwait := advertises_renewed _ hwait
  delivers _ hbody := congrArg Digest.ofContent (hbody.unique (delivers_renewed _))

/-- An equal length does not save a copy that is out of date. -/
theorem renewed_not_kept :
    (renewed.run agedCopy).ending = .done (.ofString "/cache/file", .refetched) ∧
      ∃ content, (renewed.run agedCopy).files.nodeAt (.ofString "/cache/file") =
          .ok (.file content) ∧ Digest.ofContent content = .ofContent [8] := by
  have hdone : (renewed.run agedCopy).ending = .done (.ofString "/cache/file", .refetched) := by
    decide +kernel
  exact ⟨hdone, (strict_result_is_advertised rfl honestAbout_renewed hdone).2 nofun⟩

end Retrieval

/-! ## What strictness changes -/

namespace Verdict

variable {copy : CachedCopy}

/-- Strictness makes no difference, or it purges a copy that would be kept for its length although
another digest is announced. -/
theorem on_strict_cases (copy : CachedCopy) (announced : Option Announcement) :
    on copy announced true = on copy announced false ∨
      ∃ a d, announced = some a ∧ a.digest? = some d ∧ Digest.ofText? copy.hash ≠ some d ∧
        on copy announced false = .keep .sameLength ∧ on copy announced true = .purge := by
  cases announced with
  | none => exact .inl rfl
  | some a =>
      cases hdigest : a.digest? with
      | none => exact .inl (by simp only [on, byAnnouncement, hdigest])
      | some d =>
          by_cases hsame : Digest.ofText? copy.hash = some d
          · exact .inl (by simp only [on, byAnnouncement, hdigest, if_pos hsame])
          · have hstrict : on copy (some a) true = .purge := by
              simp only [on, byAnnouncement, hdigest, if_neg hsame, if_true]
            have hlax : on copy (some a) false = byLength copy a := by
              simp only [on, byAnnouncement, hdigest, if_neg hsame, Bool.false_eq_true, if_false]
            by_cases hlength : a.lengthBytes? = some copy.size
            · rw [byLength, if_pos hlength] at hlax
              exact .inr ⟨a, d, rfl, hdigest, hsame, hlax, hstrict⟩
            · rw [byLength, if_neg hlength] at hlax
              exact .inl (hstrict.trans hlax.symm)

end Verdict

theorem Announcement.ofValues_of_malformed {value : String}
    (h : ∀ d, ¬ Digest.Spells value.toList d) (length : Option String) :
    ofValues (some value) length = ofValues none length := by
  have hnone : Digest.ofText? value = none := by
    cases hread : Digest.ofText? value with
    | none => rfl
    | some d => exact absurd (Digest.ofText?_eq_some_iff.1 hread) (h d)
  simp only [ofValues, Option.bind_some, hnone, Option.bind_none]

/-- The only copy at a path is the regular file that it leads to. -/
theorem FileSystem.of_copyAt?_some {fs : FileSystem} {path : Path} {copy : CachedCopy}
    (h : fs.copyAt? path = .ok (some copy)) :
    ∃ content, fs.nodeAt path = .ok (.file content) ∧ copy = .of path content := by
  cases hnode : fs.nodeAt path with
  | error cause =>
      cases hfound : cause.isNotFound with
      | true =>
          rw [copyAt?_of_absent hnode hfound] at h
          cases h
      | false =>
          rw [copyAt?_of_unreadable hnode hfound] at h
          cases h
  | ok node =>
      by_cases hfile : ∃ content, node = .file content
      · obtain ⟨content, rfl⟩ := hfile
        rw [copyAt?_of_file hnode] at h
        cases h
        exact ⟨content, rfl, rfl⟩
      · rw [copyAt?_of_not_file hnode fun content hcontent => hfile ⟨content, hcontent⟩] at h
        cases h

theorem Enquirer.of_enquire_done {e : Enquirer} {url : Url} {a : Announcement}
    (h : (e.enquire url).1 = .done a) :
    url.IsHttp ∧ ∃ answer, (e.server.head url).Brings e.limit (.ok answer) ∧
      a = .ofAnswer e.checksumHeader answer := by
  by_cases hurl : url.IsHttp
  · rw [enquire_of_isHttp hurl] at h
    exact ⟨hurl, brings_of_ask h⟩
  · rw [enquire_of_foreign hurl] at h
    cases h

namespace Retriever

def withStrict (r : Retriever) (strict : Bool) : Retriever :=
  { r with policy := { r.policy with strict } }

variable {r : Retriever} {request : Request} {s : Storage} {url : Url} {path : Path}
  {content : List UInt8}

/-- The copy is kept for its length when digests are not taken strictly, and the server advertises a
digest that is not the copy's. -/
structure Contested (r : Retriever) (request : Request) (s : Storage) (url : Url) (path : Path) :
    Prop where
  asks : request.AsksFor url path
  keeps : ((r.withStrict false).retrieve request s).ending = .done (path, .kept .sameLength)
  against : ∃ content answer d, s.files.nodeAt path = .ok (.file content) ∧
    (r.server.head url).Brings r.policy.limits.enquiry (.ok answer) ∧
    answer.Advertises r.policy.checksumHeader d ∧ d ≠ Digest.ofContent content

theorem revalidate_withStrict (r : Retriever) (request : Request) (url : Url) (copy : CachedCopy)
    (s : Storage) :
    (r.withStrict true).revalidate request url copy s =
        (r.withStrict false).revalidate request url copy s ∨
      ∃ a d, (r.enquirer.enquire url).1 = .done a ∧ a.digest? = some d ∧
        Digest.ofText? copy.hash ≠ some d ∧
        Verdict.on copy (some a) false = .keep .sameLength := by
  have henquirer : ∀ strict, (r.withStrict strict).enquirer = r.enquirer := fun _ => rfl
  have hexecute : ∀ strict v, (r.withStrict strict).execute request url copy.path s v =
      r.execute request url copy.path s v := by
    intro strict v
    cases v <;> rfl
  simp only [revalidate, henquirer, hexecute]
  cases henquire : r.enquirer.enquire url with
  | mk answer requests =>
      cases answer with
      | failed e => exact .inl rfl
      | stuck => exact .inl rfl
      | done a =>
          rcases Verdict.on_strict_cases copy (some a) with
            hsame | ⟨a', d, ha, hdigest, hother, hlax, -⟩
          · exact .inl (by simp only [withStrict, hsame])
          · cases ha
            exact .inr ⟨a, d, rfl, hdigest, hother, hlax⟩

/-- A verdict that strictness would change makes the copy a contested one. -/
theorem contested_of_enquire {a : Announcement} {d : Digest} (hasks : request.AsksFor url path)
    (hfile : s.files.nodeAt path = .ok (.file content))
    (henquire : (r.enquirer.enquire url).1 = .done a) (hdigest : a.digest? = some d)
    (hother : Digest.ofText? (CachedCopy.of path content).hash ≠ some d)
    (hlax : Verdict.on (.of path content) (some a) false = .keep .sameLength) :
    r.Contested request s url path := by
  obtain ⟨hurl, answer, hwait, rfl⟩ := Enquirer.of_enquire_done henquire
  have hjudges : (r.withStrict false).Judges url content (.keep .sameLength) := by
    rw [← hlax]
    exact judges_on path hwait
  refine ⟨hasks, (retrieve_of_judges hasks hfile hurl hjudges).1, content, answer, d, hfile, hwait,
    Announcement.digest?_ofAnswer_eq_some_iff.1 hdigest, ?_⟩
  rintro rfl
  exact hother (Digest.ofText?_text _)

theorem retrieve_withStrict (h : ∀ url path, ¬ r.Contested request s url path) :
    (r.withStrict true).retrieve request s = (r.withStrict false).retrieve request s := by
  rcases request.asksFor_cases with ⟨e, hurl⟩ | ⟨url, hurl, hname⟩ | ⟨url, path, hasks⟩
  · simp only [retrieve, place_of_malformed hurl]
  · simp only [retrieve, place_of_unnamed hurl hname]
  rw [retrieve_of_asksFor hasks, retrieve_of_asksFor hasks, obtain, obtain]
  cases hcopy : s.files.copyAt? path with
  | error e => rfl
  | ok found =>
      cases found with
      | none => rfl
      | some copy =>
          obtain ⟨content, hfile, rfl⟩ := FileSystem.of_copyAt?_some hcopy
          rcases r.revalidate_withStrict request url (.of path content) s with
            hsame | ⟨a, d, henquire, hdigest, hother, hlax⟩
          · simp only [hsame]
          · have hcontested := contested_of_enquire hasks hfile henquire hdigest hother hlax
            exact absurd hcontested (h url path)

theorem retrieve_of_contested (h : r.Contested request s url path) :
    ∃ l, s.files.NamesEntry path l ∧
      let strict := (r.withStrict true).retrieve request s
      let fetch := (r.courier request).deliver url path { s with files := s.files.erase l }
      strict.ending = fetch.ending.map (fun path => (path, .refetched)) ∧
        strict.requests = ⟨1, fetch.requests.gets⟩ ∧ strict.storage = fetch.storage := by
  obtain ⟨hasks, hkeeps, content, answer, d, hfile, hwait, hadvertises, hother⟩ := h
  have hurl : url.IsHttp :=
    (Retrieval.result_of_done (x := ⟨r.withStrict false, request⟩) hkeeps).isHttp hasks
  have hpurge : (r.withStrict true).Judges url content .purge := by
    refine .stale hwait (fun hown => ?_) fun _ => ⟨rfl, d, hadvertises⟩
    exact hother (hadvertises.unique hown)
  obtain ⟨l, hl, -⟩ := hasks.removeAny hfile
  exact ⟨l, hl, (Procedure.refetched hasks hfile hurl hpurge hl).run_eq⟩

/-- Strictness makes a difference only to a contested copy, which is purged and fetched anew.  A
verdict is the same or turns from keeping for the length to purging, and a digest that is no
spelling counts as none. -/
theorem strictness_only_purges (r : Retriever) (request : Request) (s : Storage) :
    let strict := (r.withStrict true).retrieve request s
    let lax := (r.withStrict false).retrieve request s
    ((∀ url path, ¬ r.Contested request s url path) → strict = lax) ∧
      (∀ url path, r.Contested request s url path → ∃ l, s.files.NamesEntry path l ∧
        let fetch := (r.courier request).deliver url path { s with files := s.files.erase l }
        strict.ending = fetch.ending.map (fun path => (path, .refetched)) ∧
          strict.requests = ⟨1, fetch.requests.gets⟩ ∧ strict.storage = fetch.storage) ∧
      (∀ copy announced, Verdict.on copy announced true = Verdict.on copy announced false ∨
        Verdict.on copy announced false = .keep .sameLength ∧
          Verdict.on copy announced true = .purge) ∧
      ∀ copy value length strict, (∀ d, ¬ Digest.Spells value.toList d) →
        Verdict.on copy (some (.ofValues (some value) length)) strict =
          Verdict.on copy (some (.ofValues none length)) strict := by
  refine ⟨retrieve_withStrict, fun url path h => retrieve_of_contested h, ?_, ?_⟩
  · intro copy announced
    rcases Verdict.on_strict_cases copy announced with hsame | ⟨_, _, _, _, _, hlax, hstrict⟩
    · exact .inl hsame
    · exact .inr ⟨hlax, hstrict⟩
  · intro copy value length strict h
    rw [Announcement.ofValues_of_malformed h]

def renewedUrl : Url where
  scheme := "http".toList
  host := some (.domain "host".toList)
  path := .segments ["file".toList]

theorem contested_renewed :
    Retrieval.renewed.retriever.Contested Retrieval.renewed.request Retrieval.agedCopy renewedUrl
      (.ofString "/cache/file") where
  asks := ⟨rfl, "file".toList, rfl, by decide, rfl⟩
  keeps := by decide +kernel
  against :=
    ⟨[7], _, .ofContent [8], rfl, ⟨0, rfl, nofun⟩,
      Retrieval.advertises_renewed renewedUrl ⟨0, rfl, nofun⟩, by decide +kernel⟩

/-- The old copy is kept for its length, and only when digests are not taken strictly. -/
theorem renewed_contested :
    let path := Path.ofString "/cache/file"
    let run strict := (Retrieval.renewed.retriever.withStrict strict).retrieve
      Retrieval.renewed.request Retrieval.agedCopy
    (run false).ending = .done (path, .kept .sameLength) ∧
      ∀ ground, (run true).ending ≠ .done (path, .kept ground) := by
  intro path run
  refine ⟨contested_renewed.keeps, fun ground hkept => ?_⟩
  obtain ⟨l, -, hending, -, -⟩ := (strictness_only_purges Retrieval.renewed.retriever
    Retrieval.renewed.request Retrieval.agedCopy).2.1 _ _ contested_renewed
  obtain ⟨place, -, hplace⟩ := Ending.of_map_done (hending.symm.trans hkept)
  cases hplace

end Retriever

end ArtifactCache
