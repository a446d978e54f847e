import ArtifactCache.Proofs.Download.Procedure
import ArtifactCache.Proofs.FileSystem.Staging

/-!
# What a retrieval does to the tree

A retrieval leaves the tree alone, or it stores an artifact where nothing was found, or it removes a
copy that the server speaks against, with or without a new one in its place.
-/

namespace ArtifactCache

theorem Ending.map_ne_done {α β : Type} {f : α → β} {e : Ending α}
    (h : ∀ value, e ≠ .done value) (value : β) : e.map f ≠ .done value := by
  cases e with
  | done a => exact absurd rfl (h a)
  | failed error => exact nofun
  | stuck => exact nofun

/-- A retrieval of a session: who makes it, and what is asked for. -/
structure Retrieval where
  retriever : Retriever
  request : Request

namespace Retrieval

def run (x : Retrieval) (s : Storage) : Run (Path × Provenance) :=
  x.retriever.retrieve x.request s

/-- The storage after some retrievals, one after the other. -/
def runAll (s : Storage) (steps : List Retrieval) : Storage :=
  steps.foldl (fun s x => (x.run s).storage) s

def Delivers (x : Retrieval) (url : Url) (content : List UInt8) : Prop :=
  x.retriever.server.Delivers url x.retriever.policy.limits.transfer content

/-- The server answers in time, and by its answer a copy of this content is stale. -/
def Condemns (x : Retrieval) (url : Url) (path : Path) (content : List UInt8) : Prop :=
  ∃ answer, (x.retriever.server.head url).Brings x.retriever.policy.limits.enquiry (.ok answer) ∧
    Verdict.on (.of path content)
      (some (.ofAnswer x.retriever.policy.checksumHeader answer)) x.retriever.policy.strict = .purge

/-- How a retrieval can end together with the tree that it leaves. -/
inductive Effect (x : Retrieval) (fs : FileSystem) :
    Ending (Path × Provenance) → FileSystem → Prop
  | none {ending : Ending (Path × Provenance)} : Effect x fs ending fs
  | stored {url : Url} {path : Path} {l : Location} {cause : IoError} {content : List UInt8} :
      x.request.AsksFor url path → fs.Replaceable path l →
      fs.nodeAt path = .error cause → cause.isNotFound = true → x.Delivers url content →
      Effect x fs (.done (path, .fetched)) (fs.put l (.file content))
  | replaced {url : Url} {path : Path} {l : Location} {old content : List UInt8} :
      x.request.AsksFor url path → fs.NamesEntry path l → (fs.erase l).Replaceable path l →
      fs.nodeAt path = .ok (.file old) → x.Condemns url path old → x.Delivers url content →
      Effect x fs (.done (path, .refetched)) (fs.put l (.file content))
  | removed {ending : Ending (Path × Provenance)} {url : Url} {path : Path} {l : Location}
      {old : List UInt8} :
      x.request.AsksFor url path → fs.NamesEntry path l →
      fs.nodeAt path = .ok (.file old) → x.Condemns url path old →
      (∀ value, ending ≠ .done value) →
      Effect x fs ending (fs.erase l)

variable {x : Retrieval} {s : Storage} {url : Url} {path : Path} {content : List UInt8}

theorem condemns_of_judges (h : x.retriever.Judges url content .purge) (path : Path) :
    x.Condemns url path content := by
  rcases h.eq_on path with ⟨answer, hwait, hv⟩ | ⟨-, hv⟩
  · exact ⟨answer, hwait, hv.symm⟩
  · cases hv

section Cases

variable {cause : IoError}

theorem effect_of_absent (hasks : x.request.AsksFor url path)
    (hnode : s.files.nodeAt path = .error cause) (hfound : cause.isNotFound = true) :
    let run := (x.retriever.courier x.request).deliver url path s
    Effect x s.files (run.ending.map fun path => (path, .fetched)) run.files := by
  intro run
  rcases (x.retriever.courier x.request).deliver_cases url path s with
    ⟨content, l, hbody, hl, hending, hfiles⟩ | ⟨-, hfiles⟩
  · rw [hending, hfiles]
    exact .stored hasks hl hnode hfound hbody
  · rw [hfiles]
    exact .none

theorem effect_of_refetch {l : Location} (hasks : x.request.AsksFor url path)
    (hnode : s.files.nodeAt path = .ok (.file content)) (hpurge : x.Condemns url path content)
    (hl : s.files.NamesEntry path l) :
    let run := (x.retriever.courier x.request).deliver url path
      { s with files := s.files.erase l }
    Effect x s.files (run.ending.map fun path => (path, .refetched)) run.files := by
  intro run
  rcases (x.retriever.courier x.request).deliver_cases url path
      { s with files := s.files.erase l } with
    ⟨new, k, hbody, hk, hending, hfiles⟩ | ⟨hnone, hfiles⟩
  · obtain rfl := hk.eq_of_erase hl
    rw [FileSystem.put_erase] at hfiles
    rw [hending, hfiles]
    exact .replaced hasks hl hk hnode hpurge hbody
  · rw [hfiles]
    exact .removed hasks hl hnode hpurge (Ending.map_ne_done hnone)

end Cases

theorem effect_of_procedure {ending : Ending (Path × Provenance)} {requests : Requests}
    {s' : Storage} (h : Procedure x.retriever x.request s ending requests s') :
    Effect x s.files ending s'.files := by
  cases h with
  | malformed => exact .none
  | unnamed => exact .none
  | unreadable => exact .none
  | notAFile => exact .none
  | unhashable => exact .none
  | foreign => exact .none
  | hung => exact .none
  | kept => exact .none
  | absent hasks hnode hfound => exact effect_of_absent hasks hnode hfound
  | irremovable _ hnode _ _ hremove =>
      rw [FileSystem.eq_of_removeAny_error hnode hremove]
      exact .none
  | refetched hasks hnode _ hv hl =>
      exact effect_of_refetch hasks hnode (condemns_of_judges hv _) hl

/-- Every run of a retrieval has one of these effects. -/
theorem effect_run (x : Retrieval) (s : Storage) :
    Effect x s.files (x.run s).ending (x.run s).files :=
  effect_of_procedure (procedure_retrieve x.retriever x.request s)

end Retrieval

end ArtifactCache
