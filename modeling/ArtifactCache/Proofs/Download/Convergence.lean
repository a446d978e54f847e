import ArtifactCache.Proofs.Download.Integrity
import ArtifactCache.Proofs.Download.Result

/-!
# Once stored, always kept

What a retrieval has stored is what later retrievals find and hash.  As long as the server describes
that very content, or says nothing, they keep the copy, ask for no body and change nothing.
-/

namespace ArtifactCache.Retrieval

variable {x : Retrieval} {s : Storage} {url : Url} {path : Path} {content : List UInt8}
  {ground : Ground} {provenance : Provenance}

/-- What the server says speaks for a copy of the content on this ground, or it says nothing in
time.  The length is one that a 64-bit word can count, as the size of every file is. -/
inductive Upholds (x : Retrieval) (url : Url) (content : List UInt8) : Ground → Prop
  | sameDigest {answer : HeadAnswer} :
      (x.retriever.server.head url).Brings x.retriever.policy.limits.enquiry (.ok answer) →
      answer.Advertises x.retriever.policy.checksumHeader (.ofContent content) →
      Upholds x url content .sameDigest
  | sameLength {answer : HeadAnswer} :
      (x.retriever.server.head url).Brings x.retriever.policy.limits.enquiry (.ok answer) →
      (∀ d, ¬ answer.Advertises x.retriever.policy.checksumHeader d) →
      answer.Counts content.length → content.length < Text.wordBound →
      Upholds x url content .sameLength
  | failed {causes : Causes} :
      (x.retriever.server.head url).Brings x.retriever.policy.limits.enquiry (.error causes) →
      Upholds x url content .unreachable
  | late {limit : Duration} :
      (x.retriever.server.head url).Expires x.retriever.policy.limits.enquiry limit →
      Upholds x url content .unreachable

theorem Upholds.judges (h : x.Upholds url content ground) :
    x.retriever.Judges url content (.keep ground) := by
  cases h with
  | sameDigest hwait hown =>
      exact .sameDigest hwait hown
  | sameLength hwait hnone hlength hword =>
      exact .sameLength hwait (hnone _) (hlength.measures hword) fun _ => hnone
  | failed hwait => exact .failed hwait
  | late hwait => exact .late hwait

theorem run_of_upholds (hasks : x.request.AsksFor url path) (hurl : url.IsHttp)
    (hnode : s.files.nodeAt path = .ok (.file content)) (h : x.Upholds url content ground) :
    (x.run s).ending = .done (path, .kept ground) ∧ (x.run s).requests = ⟨1, 0⟩ ∧
      (x.run s).storage = s :=
  (Procedure.kept hasks hnode hurl h.judges).run_eq

/-- Nothing changes over any number of retrievals for which the copy is upheld. -/
theorem runAll_of_upholds {later : List Retrieval} (hurl : url.IsHttp)
    (hnode : s.files.nodeAt path = .ok (.file content))
    (hlater : ∀ y ∈ later, y.request.AsksFor url path ∧ ∃ ground, y.Upholds url content ground) :
    runAll s later = s := by
  induction later with
  | nil => rfl
  | cons y rest ih =>
      obtain ⟨hasks, ground, h⟩ := hlater y List.mem_cons_self
      have hstep := (run_of_upholds hasks hurl hnode h).2.2
      rw [runAll_cons, hstep]
      exact ih fun z hz => hlater z (List.mem_cons_of_mem y hz)

/-- What a retrieval has stored is the whole of the body that it got, and is kept by every later
retrieval of the same request for which it is upheld, whatever such retrievals come in between. -/
theorem stored_copy_is_kept (hdone : (x.run s).ending = .done (path, provenance))
    (hnew : provenance = .fetched ∨ provenance = .refetched) :
    ∃ url content, x.request.AsksFor url path ∧ x.Delivers url content ∧
      (x.run s).files.nodeAt path = .ok (.file content) ∧
      ∀ (between : List Retrieval) (y : Retrieval) (ground : Ground),
        (∀ z ∈ between, z.request = x.request ∧ ∃ ground, z.Upholds url content ground) →
        y.request = x.request → y.Upholds url content ground →
        let later := y.run (runAll (x.run s).storage between)
        later.ending = .done (path, .kept ground) ∧ later.requests = ⟨1, 0⟩ ∧
          later.storage = (x.run s).storage := by
  have hresult := result_of_done hdone
  generalize hrequests : (x.run s).requests = requests at hresult
  generalize hstorage : (x.run s).storage = s' at hresult
  cases hresult with
  | kept => rcases hnew with hnew | hnew <;> cases hnew
  | @stored url _ _ content _ _ hasks hurl _ hbody hnode =>
      rw [Run.files, hstorage]
      refine ⟨url, content, hasks, hbody, hnode, ?_⟩
      intro between y ground hbetween hsame hy
      have hall : runAll s' between = s' := by
        refine runAll_of_upholds hurl hnode fun z hz => ?_
        obtain ⟨hrequest, hz⟩ := hbetween z hz
        exact ⟨hrequest ▸ hasks, hz⟩
      rw [hall]
      exact run_of_upholds (hsame ▸ hasks) hurl hnode hy

/-- A server that sends three bytes in two pieces, and advertises them by their digest alone. -/
def firstVisit : Retrieval where
  retriever.server :=
    { head := fun _ => .now (.ok (.ofHeaders 200
        [("X-Checksum-Sha256", (Digest.ofContent [1, 2, 3]).text)]))
      get := fun _ => .now (.ok
        { status := 200, reason := "OK", contentLength := none,
          body := [.now (.ok [1, 2]), .after 5 (.ok [3])], bodyEnd := .after 2 () }) }
  request := { cacheDir := .ofString "/cache", url := "http://host/file" }

def emptyCache : Storage where
  files.nodes := [(["cache".toList], .directory)]
  files.here := []
  process := 1

theorem delivers_firstVisit (url : Url) : firstVisit.Delivers url [1, 2, 3] :=
  ⟨0, _, [(0, [1, 2]), (5, [3])], 2, rfl, by decide, by decide, rfl, rfl, rfl, nofun⟩

theorem upholds_firstVisit (url : Url) : firstVisit.Upholds url [1, 2, 3] .sameDigest :=
  .sameDigest ⟨0, rfl, nofun⟩ ⟨_, HeadAnswer.firstValue_iff.2 rfl, Digest.spells_text _⟩

/-- What is stored at the first visit is kept at the next, also after one to a server that is
down. -/
theorem second_visit_keeps :
    let next : Retrieval := { firstVisit with retriever.server := .failing ["down"] }
    (firstVisit.run emptyCache).ending = .done (.ofString "/cache/file", .fetched) ∧
      (firstVisit.run (runAll (firstVisit.run emptyCache).storage [next])).ending =
        .done (.ofString "/cache/file", .kept .sameDigest) := by
  intro next
  have hdone : (firstVisit.run emptyCache).ending = .done (.ofString "/cache/file", .fetched) := by
    decide +kernel
  obtain ⟨url, content, -, hbody, -, hlater⟩ := stored_copy_is_kept hdone (.inl rfl)
  obtain rfl := hbody.unique (delivers_firstVisit url)
  have hnext : ∀ z ∈ [next], z.request = firstVisit.request ∧
      ∃ ground, z.Upholds url [1, 2, 3] ground := by
    intro z hz
    obtain rfl := List.mem_singleton.1 hz
    exact ⟨rfl, .unreachable, .failed ⟨0, rfl, nofun⟩⟩
  exact ⟨hdone, (hlater [next] firstVisit .sameDigest hnext rfl (upholds_firstVisit url)).1⟩

end ArtifactCache.Retrieval
