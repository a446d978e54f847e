import ArtifactCache.Proofs.Download.Revalidation

/-!
# The procedure of a retrieval

One rule for each way in which a retrieval can go: what it finds, what the server makes of that, and
how it ends, with which requests, and what it leaves.  A run goes by a rule, and by nothing else.
-/

namespace ArtifactCache

/-- How a retrieval ends, the requests that it makes, and the storage that it leaves.  Only the
removal of a copy and the delivery of an artifact change the storage.

The rules `unhashable` and `irremovable` are for trees in which access to an entry can be denied.
There are none here: every file that is found can be read, and the entry that its path names can be
removed, so a run never goes by them. -/
inductive Procedure (r : Retriever) (request : Request) (s : Storage) :
    Ending (Path × Provenance) → Requests → Storage → Prop
  | malformed {e : Url.ParseError} :
      Url.parse request.url = .error e →
      Procedure r request s (.failed (.invalidUrl request.url e.message)) ⟨0, 0⟩ s
  | unnamed {url : Url} :
      Url.parse request.url = .ok url →
      (∀ name, url.path.lastSegment? = some name → ¬ IsFileName name) →
      Procedure r request s (.failed (.noFileName url.text)) ⟨0, 0⟩ s
  | unreadable {url : Url} {path : Path} {cause : IoError} :
      request.AsksFor url path →
      s.files.nodeAt path = .error cause → cause.isNotFound = false →
      Procedure r request s (.failed (.file (.stat path cause))) ⟨0, 0⟩ s
  | notAFile {url : Url} {path : Path} {node : Node} :
      request.AsksFor url path →
      s.files.nodeAt path = .ok node → (∀ content, node ≠ .file content) →
      Procedure r request s (.failed (.file (.notAFile path))) ⟨0, 0⟩ s
  | unhashable {url : Url} {path : Path} {content : List UInt8} {e : HashError} :
      request.AsksFor url path →
      s.files.nodeAt path = .ok (.file content) → s.files.digestOf path = .error e →
      Procedure r request s (.failed (.hash e)) ⟨0, 0⟩ s
  | absent {url : Url} {path : Path} {cause : IoError} :
      request.AsksFor url path →
      s.files.nodeAt path = .error cause → cause.isNotFound = true →
      Procedure r request s
        (((r.courier request).deliver url path s).ending.map fun path => (path, .fetched))
        ⟨0, ((r.courier request).deliver url path s).requests.gets⟩
        ((r.courier request).deliver url path s).storage
  | foreign {url : Url} {path : Path} {content : List UInt8} :
      request.AsksFor url path →
      s.files.nodeAt path = .ok (.file content) → ¬ url.IsHttp →
      Procedure r request s (.failed (.notHttp url.text url.schemeText)) ⟨0, 0⟩ s
  | hung {url : Url} {path : Path} {content : List UInt8} :
      request.AsksFor url path →
      s.files.nodeAt path = .ok (.file content) → url.IsHttp →
      (r.server.head url).Hangs r.policy.limits.enquiry →
      Procedure r request s .stuck ⟨1, 0⟩ s
  | kept {url : Url} {path : Path} {content : List UInt8} {ground : Ground} :
      request.AsksFor url path →
      s.files.nodeAt path = .ok (.file content) → url.IsHttp →
      r.Judges url content (.keep ground) →
      Procedure r request s (.done (path, .kept ground)) ⟨1, 0⟩ s
  | irremovable {url : Url} {path : Path} {content : List UInt8} {e : FileError}
      {files : FileSystem} :
      request.AsksFor url path →
      s.files.nodeAt path = .ok (.file content) → url.IsHttp →
      r.Judges url content .purge →
      s.files.removeAny path = (.error e, files) →
      Procedure r request s (.failed (.file e)) ⟨1, 0⟩ { s with files }
  | refetched {url : Url} {path : Path} {content : List UInt8} {l : Location} :
      request.AsksFor url path →
      s.files.nodeAt path = .ok (.file content) → url.IsHttp →
      r.Judges url content .purge →
      s.files.NamesEntry path l →
      Procedure r request s
        (((r.courier request).deliver url path { s with files := s.files.erase l }).ending.map
          fun path => (path, .refetched))
        ⟨1, ((r.courier request).deliver url path
          { s with files := s.files.erase l }).requests.gets⟩
        ((r.courier request).deliver url path { s with files := s.files.erase l }).storage

/-- No delivery asks about an artifact. -/
theorem Courier.heads_deliver (c : Courier) (url : Url) (destination : Path) (s : Storage) :
    (c.deliver url destination s).requests.heads = 0 := by
  unfold deliver
  split
  · rfl
  · split
    · rfl
    · simp only [settle, Run.after]
      split
      · split <;> rfl
      · rfl
      · rfl

namespace Retriever

variable {r : Retriever} {request : Request} {s : Storage} {url : Url} {path : Path}
  {content : List UInt8} {cause : IoError}

theorem retrieve_of_asksFor (h : request.AsksFor url path) :
    r.retrieve request s = r.obtain request url path s := by
  simp only [retrieve, place_of_asksFor h]

/-- Where nothing is, a retrieval is a delivery. -/
theorem retrieve_of_absent (h : request.AsksFor url path)
    (hnode : s.files.nodeAt path = .error cause) (hfound : cause.isNotFound = true) :
    r.retrieve request s =
      ((r.courier request).deliver url path s).map fun path => (path, .fetched) := by
  rw [retrieve_of_asksFor h, obtain, FileSystem.copyAt?_of_absent hnode hfound]

theorem retrieve_of_copyAt?_error {e : DownloadError} (h : request.AsksFor url path)
    (hcopy : s.files.copyAt? path = .error e) : r.retrieve request s = .fail e s := by
  rw [retrieve_of_asksFor h, obtain, hcopy]

theorem retrieve_of_file (h : request.AsksFor url path)
    (hfile : s.files.nodeAt path = .ok (.file content)) :
    ∃ notices, r.retrieve request s =
      (r.revalidate request url (.of path content) s).after {} notices := by
  rw [retrieve_of_asksFor h, obtain, FileSystem.copyAt?_of_file hfile]
  exact ⟨_, rfl⟩

theorem retrieve_of_foreign (h : request.AsksFor url path)
    (hfile : s.files.nodeAt path = .ok (.file content)) (hurl : ¬ url.IsHttp) :
    let run := r.retrieve request s
    run.ending = .failed (.notHttp url.text url.schemeText) ∧ run.requests = ⟨0, 0⟩ ∧
      run.storage = s := by
  obtain ⟨notices, hrun⟩ := retrieve_of_file (r := r) h hfile
  rw [hrun, revalidate_of_foreign hurl]
  exact ⟨rfl, rfl, rfl⟩

theorem retrieve_of_hangs (h : request.AsksFor url path)
    (hfile : s.files.nodeAt path = .ok (.file content)) (hurl : url.IsHttp)
    (hwait : (r.server.head url).Hangs r.policy.limits.enquiry) :
    let run := r.retrieve request s
    run.ending = .stuck ∧ run.requests = ⟨1, 0⟩ ∧ run.storage = s := by
  obtain ⟨notices, hrun⟩ := retrieve_of_file (r := r) h hfile
  rw [hrun, revalidate_of_hangs hurl hwait]
  exact ⟨rfl, rfl, rfl⟩

theorem retrieve_of_judges {v : Verdict} (h : request.AsksFor url path)
    (hfile : s.files.nodeAt path = .ok (.file content)) (hurl : url.IsHttp)
    (hv : r.Judges url content v) :
    let run := r.retrieve request s
    let rest := r.execute request url path s v
    run.ending = rest.ending ∧ run.requests = ⟨1 + rest.requests.heads, rest.requests.gets⟩ ∧
      run.storage = rest.storage := by
  obtain ⟨notices, hrun⟩ := retrieve_of_file (r := r) h hfile
  obtain ⟨more, hrest⟩ := revalidate_of_judges request path s hurl hv
  rw [hrun, hrest]
  simp

end Retriever

variable {r : Retriever} {request : Request} {s s' : Storage} {requests : Requests}
  {ending : Ending (Path × Provenance)}

theorem Procedure.run_eq (h : Procedure r request s ending requests s') :
    let run := r.retrieve request s
    run.ending = ending ∧ run.requests = requests ∧ run.storage = s' := by
  cases h with
  | malformed hurl =>
      simp only [Retriever.retrieve, Retriever.place_of_malformed hurl]
      exact ⟨rfl, rfl, rfl⟩
  | unnamed hurl hname =>
      simp only [Retriever.retrieve, Retriever.place_of_unnamed hurl hname]
      exact ⟨rfl, rfl, rfl⟩
  | unreadable hasks hnode hfound =>
      rw [Retriever.retrieve_of_copyAt?_error hasks
        (FileSystem.copyAt?_of_unreadable hnode hfound)]
      exact ⟨rfl, rfl, rfl⟩
  | notAFile hasks hnode hother =>
      rw [Retriever.retrieve_of_copyAt?_error hasks
        (FileSystem.copyAt?_of_not_file hnode hother)]
      exact ⟨rfl, rfl, rfl⟩
  | unhashable hasks hnode hhash =>
      rw [Retriever.retrieve_of_copyAt?_error hasks
        (FileSystem.copyAt?_of_not_hashed hnode hhash)]
      exact ⟨rfl, rfl, rfl⟩
  | absent hasks hnode hfound =>
      rw [Retriever.retrieve_of_absent hasks hnode hfound]
      refine ⟨rfl, ?_, rfl⟩
      rw [Run.requests_map, ← Courier.heads_deliver]
  | foreign hasks hnode hurl => exact Retriever.retrieve_of_foreign hasks hnode hurl
  | hung hasks hnode hurl hwait => exact Retriever.retrieve_of_hangs hasks hnode hurl hwait
  | kept hasks hnode hurl hv => exact Retriever.retrieve_of_judges hasks hnode hurl hv
  | irremovable hasks hnode hurl hv hremove =>
      have hrun := Retriever.retrieve_of_judges hasks hnode hurl hv
      simpa [Retriever.execute, Retriever.refetch, hremove, Run.fail] using hrun
  | @refetched url path content l hasks hnode hurl hv hl =>
      have hrun := Retriever.retrieve_of_judges hasks hnode hurl hv
      obtain ⟨k, hk, hremove⟩ := hasks.removeAny hnode
      obtain rfl := hk.unique hl
      simpa [Retriever.execute, Retriever.refetch, hremove, Courier.heads_deliver] using hrun

/-- There is a rule for whatever comes. -/
theorem exists_procedure (r : Retriever) (request : Request) (s : Storage) :
    ∃ ending requests s', Procedure r request s ending requests s' := by
  rcases request.asksFor_cases with ⟨e, hurl⟩ | ⟨url, hurl, hname⟩ | ⟨url, path, hasks⟩
  · exact ⟨_, _, _, .malformed hurl⟩
  · exact ⟨_, _, _, .unnamed hurl hname⟩
  cases hnode : s.files.nodeAt path with
  | error cause =>
      cases hfound : cause.isNotFound with
      | true => exact ⟨_, _, _, .absent hasks hnode hfound⟩
      | false => exact ⟨_, _, _, .unreadable hasks hnode hfound⟩
  | ok node =>
      by_cases hfile : ∃ content, node = .file content
      · obtain ⟨content, rfl⟩ := hfile
        by_cases hurl : url.IsHttp
        · rcases r.judges_or_hangs url content with ⟨v, hv⟩ | hwait
          · cases v with
            | keep ground => exact ⟨_, _, _, .kept hasks hnode hurl hv⟩
            | purge =>
                obtain ⟨l, hl, -⟩ := hasks.removeAny hnode
                exact ⟨_, _, _, .refetched hasks hnode hurl hv hl⟩
          · exact ⟨_, _, _, .hung hasks hnode hurl hwait⟩
        · exact ⟨_, _, _, .foreign hasks hnode hurl⟩
      · exact ⟨_, _, _, .notAFile hasks hnode fun content hcontent => hfile ⟨content, hcontent⟩⟩

theorem procedure_retrieve (r : Retriever) (request : Request) (s : Storage) :
    Procedure r request s (r.retrieve request s).ending (r.retrieve request s).requests
      (r.retrieve request s).storage := by
  obtain ⟨ending, requests, s', h⟩ := exists_procedure r request s
  obtain ⟨rfl, rfl, rfl⟩ := h.run_eq
  exact h

/-- A retrieval goes exactly as the rules say, and where nothing is found it is a delivery in all
that it does and tells. -/
theorem procedure_iff_retrieve (r : Retriever) (request : Request) (s : Storage) :
    (∀ ending requests s', Procedure r request s ending requests s' ↔
      (r.retrieve request s).ending = ending ∧ (r.retrieve request s).requests = requests ∧
        (r.retrieve request s).storage = s') ∧
      ∀ url path cause, request.AsksFor url path → s.files.nodeAt path = .error cause →
        cause.isNotFound = true →
        r.retrieve request s =
          ((r.courier request).deliver url path s).map fun path => (path, .fetched) := by
  refine ⟨?_, ?_⟩
  · intro ending requests s'
    refine ⟨fun h => h.run_eq, ?_⟩
    rintro ⟨rfl, rfl, rfl⟩
    exact procedure_retrieve r request s
  · intro url path cause hasks hnode hfound
    exact Retriever.retrieve_of_absent hasks hnode hfound

end ArtifactCache
