import ArtifactCache.Proofs.Download.Deadline
import ArtifactCache.Proofs.Download.Procedure

/-!
# Servers that refuse

Against a server that answers nothing but failures nothing is ever delivered, so a retrieval leaves
the tree alone.  It is done exactly when there is a copy already: no failure speaks against a copy,
whatever the policy.
-/

namespace ArtifactCache

/-- Whatever the server is asked, there is a failure sooner or later. -/
structure Server.Refuses (server : Server) : Prop where
  head_eq : ∀ url, ∃ delay causes, server.head url = .after delay (.error causes)
  get_eq : ∀ url, ∃ delay causes, server.get url = .after delay (.error causes)

theorem Server.refuses_failing (causes : Causes) : (failing causes).Refuses :=
  ⟨fun _ => ⟨0, causes, rfl⟩, fun _ => ⟨0, causes, rfl⟩⟩

/-- There is a copy for a request: its URL is one of HTTP with a file name, and the path of the
artifact leads to a regular file. -/
def Request.HasCopy (request : Request) (fs : FileSystem) (path : Path) : Prop :=
  ∃ url content, request.AsksFor url path ∧ url.IsHttp ∧ fs.nodeAt path = .ok (.file content)

namespace Request

variable {request : Request} {fs : FileSystem} {url : Url} {path : Path}

theorem HasCopy.unique {path' : Path} (h : request.HasCopy fs path)
    (h' : request.HasCopy fs path') : path = path' := by
  obtain ⟨url, content, hasks, -⟩ := h
  obtain ⟨url', content', hasks', -⟩ := h'
  exact (hasks.unique hasks').2

/-- What is asked for decides whether there is a copy. -/
theorem AsksFor.hasCopy_iff (hasks : request.AsksFor url path) {path' : Path} :
    request.HasCopy fs path' ↔
      path' = path ∧ url.IsHttp ∧ ∃ content, fs.nodeAt path = .ok (.file content) := by
  constructor
  · rintro ⟨url', content, hasks', hurl, hfile⟩
    obtain ⟨rfl, rfl⟩ := hasks.unique hasks'
    exact ⟨rfl, hurl, content, hfile⟩
  · rintro ⟨rfl, hurl, content, hfile⟩
    exact ⟨url, content, hasks, hurl, hfile⟩

theorem AsksFor.not_hasCopy (hasks : request.AsksFor url path)
    (h : ∀ content, fs.nodeAt path ≠ .ok (.file content)) (path' : Path) :
    ¬ request.HasCopy fs path' := by
  intro hcopy
  obtain ⟨-, -, content, hfile⟩ := hasks.hasCopy_iff.1 hcopy
  exact h content hfile

end Request

namespace Courier

variable {c : Courier} {url : Url} {destination : Path} {s : Storage}

theorem failed_transfer (h : c.server.Refuses) (url : Url) (r : Replacement)
    (files : FileSystem) : ∃ e, (c.transfer url r files).ending = .failed e := by
  obtain ⟨delay, causes, hget⟩ := h.get_eq url
  unfold transfer
  split
  · next answer hanswered =>
      obtain ⟨_, hother, -⟩ := Wait.resolve_eq_answered_iff.1 hanswered
      rw [hget] at hother
      cases hother
  · exact ⟨_, rfl⟩
  · exact ⟨_, rfl⟩
  · next hstuck =>
      obtain ⟨hnever, -⟩ := Wait.resolve_eq_stuck_iff.1 hstuck
      rw [hget] at hnever
      cases hnever

/-- A delivery from a server that refuses fails and leaves nothing behind. -/
theorem failed_deliver (h : c.server.Refuses) (url : Url) (destination : Path) (s : Storage) :
    (∃ e, (c.deliver url destination s).ending = .failed e) ∧
      (c.deliver url destination s).files = s.files := by
  constructor
  · unfold deliver
    split
    · exact ⟨_, rfl⟩
    · split
      · exact ⟨_, rfl⟩
      · next r s' _ =>
          obtain ⟨e, he⟩ := failed_transfer h url r s'.files
          exact ⟨e, ending_settle_of_failed he⟩
  · refine (deliver_of_obstacle ?_).2
    rintro ⟨-, -, ⟨content, delay, answer, pieces, last, hanswer, -⟩, -⟩
    obtain ⟨_, causes, hget⟩ := h.get_eq url
    rw [hget] at hanswer
    cases hanswer

end Courier

variable {r : Retriever} {request : Request} {s s' : Storage} {requests : Requests}
  {ending : Ending (Path × Provenance)}

theorem Retriever.Judges.of_refuses {url : Url} {content : List UInt8} {v : Verdict}
    (h : r.Judges url content v) (hserver : r.server.Refuses) : v = .keep .unreachable := by
  obtain ⟨delay, causes, hhead⟩ := hserver.head_eq url
  have hnone : ∀ answer, ¬ (r.server.head url).Brings r.policy.limits.enquiry (.ok answer) := by
    rintro answer ⟨_, hanswer, -⟩
    rw [hhead] at hanswer
    cases hanswer
  cases h with
  | failed => rfl
  | late => rfl
  | sameDigest hwait => exact absurd hwait (hnone _)
  | sameLength hwait => exact absurd hwait (hnone _)
  | stale hwait => exact absurd hwait (hnone _)

/-- How a retrieval from a server that refuses can go. -/
theorem Procedure.of_refuses (h : Procedure r request s ending requests s')
    (hserver : r.server.Refuses) :
    s'.files = s.files ∧
      ((∃ path, request.HasCopy s.files path ∧ ending = .done (path, .kept .unreachable)) ∨
        ((∀ path, ¬ request.HasCopy s.files path) ∧ ∃ e, ending = .failed e)) := by
  cases h with
  | malformed hurl =>
      refine ⟨rfl, .inr ⟨?_, _, rfl⟩⟩
      rintro path ⟨url, content, hasks, -⟩
      rw [hasks.1] at hurl
      cases hurl
  | unnamed hurl hname =>
      refine ⟨rfl, .inr ⟨?_, _, rfl⟩⟩
      rintro path ⟨url, content, ⟨hurl', name, hlast, hfile, -⟩, -⟩
      obtain rfl := Except.ok.inj (hurl.symm.trans hurl')
      exact hname name hlast hfile
  | unreadable hasks hnode =>
      refine ⟨rfl, .inr ⟨hasks.not_hasCopy ?_, _, rfl⟩⟩
      rw [hnode]
      exact nofun
  | notAFile hasks hnode hother =>
      refine ⟨rfl, .inr ⟨hasks.not_hasCopy ?_, _, rfl⟩⟩
      intro content hfile
      exact hother content (Except.ok.inj (hnode.symm.trans hfile))
  | unhashable hasks hnode hhash =>
      rw [FileSystem.digestOf, FileSystem.readFile, hnode] at hhash
      cases hhash
  | absent hasks hnode =>
      obtain ⟨⟨e, hfailed⟩, hfiles⟩ :=
        Courier.failed_deliver (c := r.courier request) hserver _ _ s
      refine ⟨hfiles, .inr ⟨hasks.not_hasCopy ?_, e, by rw [hfailed]; rfl⟩⟩
      rw [hnode]
      exact nofun
  | foreign hasks hnode hurl =>
      refine ⟨rfl, .inr ⟨?_, _, rfl⟩⟩
      intro path hcopy
      exact hurl (hasks.hasCopy_iff.1 hcopy).2.1
  | @hung url _ _ _ _ _ hwait =>
      obtain ⟨delay, causes, hhead⟩ := hserver.head_eq url
      obtain ⟨hnever, -⟩ := hwait
      rw [hhead] at hnever
      cases hnever
  | kept hasks hnode hurl hv =>
      cases hv.of_refuses hserver
      exact ⟨rfl, .inl ⟨_, ⟨_, _, hasks, hurl, hnode⟩, rfl⟩⟩
  | irremovable _ _ _ hv => cases hv.of_refuses hserver
  | refetched _ _ _ hv => cases hv.of_refuses hserver

/-- Against a server that refuses, a retrieval leaves the tree alone and is done exactly when there
is a copy. -/
theorem Retriever.retrieve_of_refuses (hserver : r.server.Refuses) (request : Request)
    (s : Storage) :
    (r.retrieve request s).files = s.files ∧
      ((∃ path, request.HasCopy s.files path ∧
          (r.retrieve request s).ending = .done (path, .kept .unreachable)) ∨
        ((∀ path, ¬ request.HasCopy s.files path) ∧
          ∃ e, (r.retrieve request s).ending = .failed e)) :=
  (procedure_retrieve r request s).of_refuses hserver

end ArtifactCache
