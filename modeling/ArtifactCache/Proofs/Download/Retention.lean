import ArtifactCache.Proofs.Download.Integrity

/-!
# Keeping what is in the cache

A copy goes only by the verdict on an answer of the server.  As long as no server answers, whatever
becomes of the retrievals, every file that a path leads to stays what it is.
-/

namespace ArtifactCache.Retrieval

open FileSystem

variable {x : Retrieval} {fs fs' : FileSystem} {ending : Ending (Path × Provenance)}
  {s : Storage} {url : Url} {path : Path} {l : Location} {content : List UInt8} {cause : IoError}

/-- The server answers no question about the artifact in time. -/
def Unanswered (x : Retrieval) : Prop :=
  ∀ url path answer, x.request.AsksFor url path →
    ¬ (x.retriever.server.head url).Brings x.retriever.policy.limits.enquiry (.ok answer)

/-- What became of a copy that the server spoke against: the whole new content is where it was, or
the entry of the path is gone and nothing else. -/
def GivesWay (x : Retrieval) (url : Url) (path : Path) (fs : FileSystem)
    (ending : Ending (Path × Provenance)) (fs' : FileSystem) : Prop :=
  ∃ l, fs.NamesEntry path l ∧
    ((∃ content, x.Delivers url content ∧ ending = .done (path, .refetched) ∧
        fs' = fs.put l (.file content) ∧ fs'.nodeAt path = .ok (.file content)) ∨
      ((∀ value, ending ≠ .done value) ∧ fs' = fs.erase l))

theorem Effect.of_file (h : x.Effect fs ending fs') (hasks : x.request.AsksFor url path)
    (hfile : fs.nodeAt path = .ok (.file content)) :
    fs' = fs ∨ x.Condemns url path content ∧ x.GivesWay url path fs ending fs' := by
  cases h with
  | none => exact .inl rfl
  | stored hasks' _ hnode =>
      obtain ⟨-, rfl⟩ := hasks.unique hasks'
      rw [hfile] at hnode
      cases hnode
  | @replaced url' path' l old new hasks' hl hplace hnode hpurge hbody =>
      obtain ⟨rfl, rfl⟩ := hasks.unique hasks'
      rw [hfile] at hnode
      cases hnode
      exact .inr ⟨hpurge, l, hl, .inl ⟨new, hbody, rfl, rfl, hplace.nodeAt_put new⟩⟩
  | @removed _ url' path' l old hasks' hl hnode hpurge hending =>
      obtain ⟨rfl, rfl⟩ := hasks.unique hasks'
      rw [hfile] at hnode
      cases hnode
      exact .inr ⟨hpurge, l, hl, .inr ⟨hending, rfl⟩⟩

/-! ## While no server answers -/

/-- Without an answer something is stored where nothing was found, if there is any effect. -/
theorem Effect.of_unanswered (h : x.Effect fs ending fs') (hx : x.Unanswered) :
    fs' = fs ∨ ∃ path l cause content, fs.NamesEntry path l ∧ fs.nodeAt path = .error cause ∧
      cause.isNotFound = true ∧ fs' = fs.put l (.file content) := by
  cases h with
  | none => exact .inl rfl
  | stored _ hl hnode hfound _ => exact .inr ⟨_, _, _, _, hl.namesEntry, hnode, hfound, rfl⟩
  | replaced hasks _ _ _ hpurge =>
      obtain ⟨answer, hwait, -⟩ := hpurge
      exact absurd hwait (hx _ _ answer hasks)
  | removed hasks _ _ hpurge =>
      obtain ⟨answer, hwait, -⟩ := hpurge
      exact absurd hwait (hx _ _ answer hasks)

theorem not_file_of_not_found (h : fs.NamesEntry path l) (hnode : fs.nodeAt path = .error cause)
    (hfound : cause.isNotFound = true) : fs.get? l ≠ some (.file content) := by
  obtain ⟨dir, name, rfl, hslot⟩ := h
  rcases entry_of_not_found hslot hnode hfound with hnone | ⟨target, hlink, -⟩
  · simp [hnone]
  · simp [hlink]

/-- Every file of `fs` is in `fs'`, at its location and for the paths that lead to it. -/
def FilesKept (fs fs' : FileSystem) : Prop :=
  (∀ l content, fs.get? l = some (.file content) → fs'.get? l = some (.file content)) ∧
    ∀ path content, fs.nodeAt path = .ok (.file content) → fs'.nodeAt path = .ok (.file content)

theorem filesKept_put (h : fs.NamesEntry path l) (hnode : fs.nodeAt path = .error cause)
    (hfound : cause.isNotFound = true) (content : List UInt8) :
    FilesKept fs (fs.put l (.file content)) := by
  refine ⟨fun k old hk => ?_, fun q old hq => nodeAt_put_of_not_found h hnode hfound hq⟩
  have hne : k ≠ l := by
    rintro rfl
    exact not_file_of_not_found h hnode hfound hk
  rw [get?_put_of_ne fs hne, hk]

theorem filesKept_run (hx : x.Unanswered) (s : Storage) : FilesKept s.files (x.run s).files := by
  rcases (x.effect_run s).of_unanswered hx with
    hfiles | ⟨path, l, cause, content, hl, hnode, hfound, hfiles⟩
  · rw [hfiles]
    exact ⟨fun _ _ h => h, fun _ _ h => h⟩
  · rw [hfiles]
    exact filesKept_put hl hnode hfound content

theorem filesKept_runAll {steps : List Retrieval} (hsteps : ∀ x ∈ steps, x.Unanswered) :
    ∀ s : Storage, FilesKept s.files (runAll s steps).files := by
  induction steps with
  | nil => exact fun s => ⟨fun _ _ h => h, fun _ _ h => h⟩
  | cons x rest ih =>
      intro s
      rw [runAll_cons]
      have hstep := filesKept_run (hsteps x List.mem_cons_self) s
      have hrest := ih (fun y hy => hsteps y (List.mem_cons_of_mem x hy)) (x.run s).storage
      exact ⟨fun l content h => hrest.1 l content (hstep.1 l content h),
        fun path content h => hrest.2 path content (hstep.2 path content h)⟩

/-- A copy is lost only by the verdict on an answer that came in time: either a run leaves the whole
tree alone, or there was such a verdict, and then the run ends with the whole new content in place,
or it has no result and the tree lacks the entry of the path and nothing else.  So a session in
which no server answers keeps every file. -/
theorem copy_lost_only_by_verdict (s : Storage) (steps : List Retrieval) :
    (∀ (x : Retrieval) (url : Url) (path : Path) (content : List UInt8),
      x.request.AsksFor url path →
      s.files.nodeAt path = .ok (.file content) →
      (x.run s).files = s.files ∨
        x.Condemns url path content ∧
          x.GivesWay url path s.files (x.run s).ending (x.run s).files) ∧
      ((∀ x ∈ steps, x.Unanswered) → FilesKept s.files (runAll s steps).files) := by
  refine ⟨?_, fun hsteps => filesKept_runAll hsteps s⟩
  intro x url path content hasks hfile
  exact (x.effect_run s).of_file hasks hfile

/-- The server knows the artifact but neither its digest nor its length, and does not send it. -/
def refused : Retrieval where
  retriever.server :=
    { head := fun _ => .now (.ok { status := 200 }), get := fun _ => .now (.error ["refused"]) }
  request := { cacheDir := .ofString "/cache", url := "http://host/file" }

def oneCopy : Storage where
  files.nodes :=
    [(["cache".toList], .directory), (["file".toList, "cache".toList], .file [7])]
  files.here := []
  process := 1

/-- The copy of an artifact that is not sent again is lost, but not while the server is down. -/
theorem copy_lost_when_refused :
    (∃ url path, refused.Condemns url path [7] ∧
      refused.GivesWay url path oneCopy.files (refused.run oneCopy).ending
        (refused.run oneCopy).files) ∧
      FilesKept oneCopy.files
        (runAll oneCopy [{ refused with retriever.server := .failing ["down"] }]).files := by
  refine ⟨?_, (copy_lost_only_by_verdict oneCopy _).2 ?_⟩
  · have hasks : refused.request.AsksFor
        { scheme := "http".toList, host := some (.domain "host".toList),
          path := .segments ["file".toList] } (.ofString "/cache/file") :=
      ⟨rfl, "file".toList, rfl, by decide, rfl⟩
    have hfile : oneCopy.files.nodeAt (.ofString "/cache/file") = .ok (.file [7]) := rfl
    have hchanged : (refused.run oneCopy).files ≠ oneCopy.files := by decide +kernel
    rcases (copy_lost_only_by_verdict oneCopy []).1 refused _ _ [7] hasks hfile with hsame | hlost
    · exact absurd hsame hchanged
    · exact ⟨_, _, hlost⟩
  · intro x hx url path answer _
    obtain rfl := List.mem_singleton.1 hx
    rintro ⟨delay, hwait, -⟩
    cases hwait

end ArtifactCache.Retrieval
