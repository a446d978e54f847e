import ArtifactCache.Proofs.Download.Effect

/-!
# What a retrieval gives

A retrieval that is done gives the path of the artifact: there is the copy that was kept, with
nothing changed, or else the whole of the body that was delivered.
-/

namespace ArtifactCache

theorem Pieces.body_inj {p q : Pieces} : body p = body q ↔ p = q := by
  refine List.map_inj_right ?_
  rintro ⟨time, bytes⟩ ⟨time', bytes'⟩ h
  cases h
  rfl

/-- There is only one body that a server delivers. -/
theorem Server.Delivers.unique {s : Server} {url : Url} {limit limit' : Option Duration}
    {content content' : List UInt8} (h : s.Delivers url limit content)
    (h' : s.Delivers url limit' content') : content = content' := by
  obtain ⟨delay, answer, pieces, last, hget, -, -, hbody, -, rfl, -⟩ := h
  obtain ⟨delay', answer', pieces', last', hget', -, -, hbody', -, rfl, -⟩ := h'
  rw [hget] at hget'
  cases hget'
  rw [hbody] at hbody'
  rw [Pieces.body_inj.1 hbody']

namespace Courier

variable {c : Courier} {url : Url} {destination path : Path} {s : Storage}

/-- A delivery that is done was one over HTTP, and has put the whole of the body in place. -/
theorem of_deliver_done (h : (c.deliver url destination s).ending = .done path) :
    url.IsHttp ∧ path = destination ∧ ∃ content l, c.server.Delivers url c.limit content ∧
      s.files.Replaceable destination l ∧
      (c.deliver url destination s).files = s.files.put l (.file content) := by
  have hurl : url.IsHttp := by
    refine Classical.not_not.1 fun hurl => ?_
    exact (deliver_of_obstacle fun hall => hurl hall.1).1 path h
  rcases c.deliver_cases url destination s with
    ⟨content, l, hbody, hl, hending, hfiles⟩ | ⟨hnone, -⟩
  · rw [hending] at h
    cases h
    exact ⟨hurl, rfl, content, l, hbody, hl, hfiles⟩
  · exact absurd h (hnone path)

end Courier

theorem Ending.of_map_done {α β : Type} {f : α → β} {e : Ending α} {value : β}
    (h : e.map f = .done value) : ∃ a, e = .done a ∧ f a = value := by
  cases e with
  | done a =>
      cases h
      exact ⟨a, rfl, rfl⟩
  | failed error => cases h
  | stuck => cases h

namespace Retrieval

/-- What a retrieval that is done has given, with the requests that it made and the storage that
it left. -/
inductive Result (x : Retrieval) (s : Storage) :
    Path × Provenance → Requests → Storage → Prop
  | kept {url : Url} {path : Path} {content : List UInt8} {ground : Ground} :
      x.request.AsksFor url path → url.IsHttp → s.files.nodeAt path = .ok (.file content) →
      x.retriever.Judges url content (.keep ground) →
      Result x s (path, .kept ground) ⟨1, 0⟩ s
  | stored {url : Url} {path : Path} {provenance : Provenance} {content : List UInt8}
      {requests : Requests} {s' : Storage} :
      x.request.AsksFor url path → url.IsHttp →
      provenance = .fetched ∨ provenance = .refetched → x.Delivers url content →
      s'.files.nodeAt path = .ok (.file content) →
      Result x s (path, provenance) requests s'

variable {x : Retrieval} {s : Storage} {url : Url} {path : Path} {content : List UInt8}
  {cause : IoError} {value : Path × Provenance}

theorem Result.isHttp {requests : Requests} {s' : Storage} (h : Result x s value requests s')
    (hasks : x.request.AsksFor url path) : url.IsHttp := by
  cases h with
  | kept hasks' hurl =>
      obtain ⟨rfl, -⟩ := hasks.unique hasks'
      exact hurl
  | stored hasks' hurl =>
      obtain ⟨rfl, -⟩ := hasks.unique hasks'
      exact hurl

theorem stored_of_absent (hasks : x.request.AsksFor url path)
    (hnode : s.files.nodeAt path = .error cause) (hfound : cause.isNotFound = true)
    (requests : Requests) :
    let run := (x.retriever.courier x.request).deliver url path s
    (run.ending.map fun path => (path, Provenance.fetched)) = .done value →
      Result x s value requests run.storage := by
  intro run hdone
  obtain ⟨place, hending, rfl⟩ := Ending.of_map_done hdone
  obtain ⟨hurl, rfl, content, l, hbody, hl, hfiles⟩ := Courier.of_deliver_done hending
  have hnames := FileSystem.namesEntry_erase_of_not_found hl.namesEntry hnode hfound
  have hstored : run.files.nodeAt place = .ok (.file content) := by
    obtain ⟨dir, name, rfl, -, hlong, -⟩ := hl
    rw [hfiles]
    exact FileSystem.nodeAt_put_of_namesEntry hlong hnames
  exact .stored hasks hurl (.inl rfl) hbody hstored

theorem stored_of_refetch {l : Location} (hasks : x.request.AsksFor url path)
    (hl : s.files.NamesEntry path l) (requests : Requests) :
    let run := (x.retriever.courier x.request).deliver url path
      { s with files := s.files.erase l }
    (run.ending.map fun path => (path, Provenance.refetched)) = .done value →
      Result x s value requests run.storage := by
  intro run hdone
  obtain ⟨place, hending, rfl⟩ := Ending.of_map_done hdone
  obtain ⟨hurl, rfl, content, k, hbody, hk, hfiles⟩ := Courier.of_deliver_done hending
  obtain rfl := hk.eq_of_erase hl
  have hstored : run.files.nodeAt place = .ok (.file content) := by
    rw [hfiles, FileSystem.put_erase]
    exact hk.nodeAt_put content
  exact .stored hasks hurl (.inr rfl) hbody hstored

theorem result_of_procedure {ending : Ending (Path × Provenance)} {requests : Requests}
    {s' : Storage} (h : Procedure x.retriever x.request s ending requests s')
    (hdone : ending = .done value) : Result x s value requests s' := by
  cases h with
  | malformed => cases hdone
  | unnamed => cases hdone
  | unreadable => cases hdone
  | notAFile => cases hdone
  | unhashable => cases hdone
  | foreign => cases hdone
  | hung => cases hdone
  | irremovable => cases hdone
  | kept hasks hnode hurl hv =>
      cases hdone
      exact .kept hasks hurl hnode hv
  | absent hasks hnode hfound => exact stored_of_absent hasks hnode hfound _ hdone
  | refetched hasks _ _ _ hl => exact stored_of_refetch hasks hl _ hdone

theorem result_of_done (h : (x.run s).ending = .done value) :
    Result x s value (x.run s).requests (x.run s).storage :=
  result_of_procedure (procedure_retrieve x.retriever x.request s) h

end Retrieval

end ArtifactCache
