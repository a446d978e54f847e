import ArtifactCache.Proofs.Download.Events
import ArtifactCache.Proofs.Download.Procedure

/-!
# Addresses that are not of HTTP

Whatever is in the cache, and whoever listens, a URL of another scheme is refused before a server is
asked or a file is touched.  The refusal is no sign that a server could not be reached, so a copy
that happens to be there is not used either.
-/

namespace ArtifactCache

variable {url : Url}

theorem Courier.deliver_of_foreign (c : Courier) (hurl : ¬ url.IsHttp) (destination : Path)
    (s : Storage) :
    c.deliver url destination s = .fail (.notHttp url.text url.schemeText) s := by
  simp only [deliver, requireHttp_eq_error hurl]

theorem FileSystem.isUnreachable_of_copyAt? {fs : FileSystem} {path : Path} {e : DownloadError}
    (h : fs.copyAt? path = .error e) : e.isUnreachable = false := by
  unfold copyAt? at h
  cases hsize : fs.fileSize? path with
  | error error =>
      rw [hsize] at h
      cases h
      rfl
  | ok found =>
      cases found with
      | none =>
          rw [hsize] at h
          cases h
      | some size =>
          cases hhash : fs.digestOf path with
          | error error =>
              simp only [hsize, hhash] at h
              cases h
              rfl
          | ok digest =>
              simp only [hsize, hhash] at h
              cases h

/-- A run that is refused: it asks nobody, leaves the storage alone and tells no observer. -/
structure Run.Refused {α : Type} (r : Run α) (e : DownloadError) (s : Storage) : Prop where
  ending_eq : r.ending = .failed e
  requests_eq : r.requests = ⟨0, 0⟩
  storage_eq : r.storage = s
  events_eq : Notice.events r.notices = []

namespace Run

variable {α β : Type} {e : DownloadError} {s : Storage}

theorem refused_fail : (fail e s : Run α).Refused e s := ⟨rfl, rfl, rfl, rfl⟩

theorem Refused.map {r : Run α} (h : r.Refused e s) (f : α → β) : (r.map f).Refused e s := by
  refine ⟨?_, h.requests_eq, h.storage_eq, h.events_eq⟩
  rw [ending_map, h.ending_eq]
  rfl

/-- What is only logged before a refusal does not matter. -/
theorem Refused.after_log {r : Run α} (h : r.Refused e s) (record : Log.Record) :
    (r.after {} [.log record]).Refused e s := by
  refine ⟨h.ending_eq, ?_, h.storage_eq, h.events_eq⟩
  rw [requests_after, h.requests_eq]
  rfl

end Run

namespace Retriever

variable {r : Retriever} {request : Request} {s : Storage}

theorem refused_obtain (r : Retriever) (request : Request) (path : Path) (s : Storage)
    (hurl : ¬ url.IsHttp) :
    ∃ e, e.isUnreachable = false ∧ (r.obtain request url path s).Refused e s ∧
      ∀ found, s.files.copyAt? path = .ok found → e = .notHttp url.text url.schemeText := by
  unfold obtain
  cases hcopy : s.files.copyAt? path with
  | error e => exact ⟨e, FileSystem.isUnreachable_of_copyAt? hcopy, Run.refused_fail, nofun⟩
  | ok found =>
      refine ⟨.notHttp url.text url.schemeText, rfl, ?_, fun _ _ => rfl⟩
      cases found with
      | none =>
          simp only [Courier.deliver_of_foreign _ hurl]
          exact Run.refused_fail.map _
      | some copy =>
          simp only [revalidate_of_foreign hurl]
          exact Run.refused_fail.after_log _

theorem refused_retrieve (hparse : Url.parse request.url = .ok url) (hurl : ¬ url.IsHttp) :
    ∃ e, e.isUnreachable = false ∧ (r.retrieve request s).Refused e s ∧
      ∀ path, request.AsksFor url path →
        ∀ found, s.files.copyAt? path = .ok found → e = .notHttp url.text url.schemeText := by
  rcases request.asksFor_cases with ⟨error, hfails⟩ | ⟨other, hother, hname⟩ | ⟨other, path, hasks⟩
  · rw [hparse] at hfails
    cases hfails
  · obtain rfl := Except.ok.inj (hparse.symm.trans hother)
    refine ⟨.noFileName url.text, rfl, ?_, ?_⟩
    · rw [retrieve, place_of_unnamed hparse hname]
      exact Run.refused_fail
    · rintro path ⟨-, name, hlast, hfile, -⟩
      exact absurd hfile (hname name hlast)
  · obtain rfl := Except.ok.inj (hparse.symm.trans hasks.1)
    obtain ⟨e, hreach, hrefused, hnotHttp⟩ := refused_obtain r request path s hurl
    refine ⟨e, hreach, ?_, ?_⟩
    · rw [retrieve_of_asksFor hasks]
      exact hrefused
    · intro path' hasks' found hfound
      obtain ⟨-, rfl⟩ := hasks.unique hasks'
      exact hnotHttp found hfound

end Retriever

/-- A URL of another scheme than those of HTTP has no effect, whether it is fetched, asked about or
retrieved: no server is asked, the storage stays what it is and no observer hears of it.  Fetching
and asking are refused for the scheme, and so is retrieving unless the URL has no file name or what
is at its path cannot be read. -/
theorem foreign_url_has_no_effect {raw : String} (hparse : Url.parse raw = .ok url)
    (hurl : ¬ url.IsHttp) :
    (∀ (c : Courier) (destination : Path) (s : Storage),
      (c.deliver url destination s).Refused (.notHttp url.text url.schemeText) s) ∧
    (∀ e : Enquirer,
      e.enquire url = (.failed (.notHttp url.text url.schemeText), { heads := 0, gets := 0 })) ∧
    (∀ (r : Retriever) (request : Request) (s : Storage), request.url = raw →
      ∃ e, (r.retrieve request s).Refused e s ∧ e.isUnreachable = false ∧
        ∀ path, request.AsksFor url path → ∀ found, s.files.copyAt? path = .ok found →
          e = .notHttp url.text url.schemeText) := by
  refine ⟨?_, fun e => Enquirer.enquire_of_foreign hurl, ?_⟩
  · intro c destination s
    rw [c.deliver_of_foreign hurl]
    exact Run.refused_fail
  · rintro r request s rfl
    obtain ⟨e, hreach, hrefused, hnotHttp⟩ :=
      Retriever.refused_retrieve (r := r) (s := s) hparse hurl
    exact ⟨e, hrefused, hreach, hnotHttp⟩

def ftpUrl : Url :=
  { scheme := "ftp".toList, host := some (.domain "h".toList), path := .segments ["a".toList] }

/-- A tree with a copy that an address of HTTP would find. -/
def copyOfFtp : Storage where
  files.nodes := [(["cache".toList], .directory), (["a".toList, "cache".toList], .file [1])]
  files.here := []
  process := 1

def ftpRequest : Request := { cacheDir := .ofString "/cache", url := "ftp://h/a" }

def ftpRetriever : Retriever := { server := .failing ["down"] }

theorem ftp_copy_is_not_used :
    Url.parse "ftp://h/a" = .ok ftpUrl ∧ ¬ ftpUrl.IsHttp ∧
      (ftpRetriever.retrieve ftpRequest copyOfFtp).Refused (.notHttp "ftp://h/a" "ftp")
        copyOfFtp := by
  have hparse : Url.parse "ftp://h/a" = .ok ftpUrl := rfl
  have hurl : ¬ ftpUrl.IsHttp := by decide
  refine ⟨hparse, hurl, ?_⟩
  obtain ⟨-, -, hretrieve⟩ := foreign_url_has_no_effect hparse hurl
  obtain ⟨e, hrefused, -, hnotHttp⟩ := hretrieve ftpRetriever ftpRequest copyOfFtp rfl
  have hasks : ftpRequest.AsksFor ftpUrl (.ofString "/cache/a") :=
    ⟨hparse, "a".toList, rfl, by decide, rfl⟩
  have hcopy : copyOfFtp.files.copyAt? (.ofString "/cache/a") =
      .ok (some (.of (.ofString "/cache/a") [1])) := FileSystem.copyAt?_of_file rfl
  obtain rfl := hnotHttp _ hasks _ hcopy
  exact hrefused

end ArtifactCache
