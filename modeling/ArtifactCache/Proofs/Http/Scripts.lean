import ArtifactCache.Http.Scripted
import ArtifactCache.Proofs.Http.Lookup

/-!
# Which instruction counts

A history of a scripted server is made of instructions and requests in any order.  One instruction
changes what the server says to one kind of request for one URL to what it says itself, or leaves it
alone, whether the URL had a route or not.  So the last one that says anything decides, and what
names another URL, or is a request, does not matter.
-/

namespace ArtifactCache

/-- A body that comes whole and at once, in pieces of at most four bytes, with its length
beforehand. -/
structure GetAnswer.Carries (answer : GetAnswer) (content : List UInt8) : Prop where
  status : answer.status = 200
  reason : answer.reason = "OK"
  contentLength : answer.contentLength = some content.length
  body : ∃ pieces : List (List UInt8),
    answer.body = pieces.map (fun piece => .after 0 (.ok piece)) ∧
    pieces.flatten = content ∧ ∀ piece ∈ pieces, piece.length ≤ 4
  bodyEnd : answer.bodyEnd = .after 0 ()

namespace Scripted

namespace Instruction

def url : Instruction → String
  | .serve url _ | .serveWithDigest url _ | .announce url _ | .refuseHead url
  | .status url _ | .breakOff url _ | .refuseGet url | .neverAnswer url => url

/-- The instruction is about requests for headers. -/
def setsHead : Instruction → Bool
  | .serve _ _ | .serveWithDigest _ _ | .announce _ _ | .refuseHead _ | .status _ _
  | .neverAnswer _ => true
  | .breakOff _ _ | .refuseGet _ => false

/-- The instruction is about requests for an artifact. -/
def setsGet : Instruction → Bool
  | .serve _ _ | .serveWithDigest _ _ | .status _ _ | .breakOff _ _ | .refuseGet _
  | .neverAnswer _ => true
  | .announce _ _ | .refuseHead _ => false

/-- How requests for headers are answered by an instruction. -/
inductive AnswersHead : Instruction → Wait (Except Causes HeadAnswer) → Prop
  | serve {url : String} {content : List UInt8} {answer : HeadAnswer} :
      answer.status = 200 →
      FirstValue answer.headers "Content-Length" (some (toString content.length)) →
      FirstValue answer.headers "X-Checksum-Sha256" none →
      AnswersHead (.serve url content) (.after 0 (.ok answer))
  | serveWithDigest {url : String} {content : List UInt8} {answer : HeadAnswer} :
      answer.status = 200 →
      FirstValue answer.headers "Content-Length" (some (toString content.length)) →
      FirstValue answer.headers "X-Checksum-Sha256" (some (Digest.ofContent content).text) →
      AnswersHead (.serveWithDigest url content) (.after 0 (.ok answer))
  | announce {url : String} {answer : HeadAnswer} :
      AnswersHead (.announce url answer) (.after 0 (.ok answer))
  | refuseHead {url : String} :
      AnswersHead (.refuseHead url) (.after 0 (.error ["connection refused"]))
  | status {url : String} {code : Nat} {answer : HeadAnswer} :
      answer.status = code → answer.headers = [] →
      AnswersHead (.status url code) (.after 0 (.ok answer))
  | neverAnswer {url : String} : AnswersHead (.neverAnswer url) .never

/-- How requests for an artifact are answered by an instruction. -/
inductive AnswersGet : Instruction → Wait (Except Causes GetAnswer) → Prop
  | serve {url : String} {content : List UInt8} {answer : GetAnswer} :
      answer.Carries content → AnswersGet (.serve url content) (.after 0 (.ok answer))
  | serveWithDigest {url : String} {content : List UInt8} {answer : GetAnswer} :
      answer.Carries content → AnswersGet (.serveWithDigest url content) (.after 0 (.ok answer))
  | status {url : String} {code : Nat} {answer : GetAnswer} :
      answer.status = code → answer.reason = "" → answer.contentLength = some 0 →
      answer.body = [] → answer.bodyEnd = .after 0 () →
      AnswersGet (.status url code) (.after 0 (.ok answer))
  | breakOff {url : String} {beginning : List UInt8} {answer : GetAnswer} :
      answer.status = 200 → answer.reason = "OK" → answer.contentLength = none →
      answer.body =
        [.after 0 (.ok beginning), .after 0 (.error ["connection reset by peer"])] →
      AnswersGet (.breakOff url beginning) (.after 0 (.ok answer))
  | refuseGet {url : String} :
      AnswersGet (.refuseGet url) (.after 0 (.error ["connection refused"]))
  | neverAnswer {url : String} : AnswersGet (.neverAnswer url) .never

end Instruction

theorem flatten_pieces (content : List UInt8) : (pieces content).flatten = content := by
  fun_induction pieces content with
  | case1 => rfl
  | case2 content _ ih => rw [List.flatten_cons, ih, List.take_append_drop]

theorem length_of_mem_pieces {content piece : List UInt8} (h : piece ∈ pieces content) :
    piece.length ≤ pieceSize := by
  fun_induction pieces content with
  | case1 => cases h
  | case2 content _ ih =>
      rcases List.mem_cons.1 h with rfl | hmem
      · exact List.length_take_le _ _
      · exact ih hmem

theorem carries_whole (content : List UInt8) : (whole content).Carries content :=
  ⟨rfl, rfl, rfl, ⟨pieces content, rfl, flatten_pieces content, fun _ => length_of_mem_pieces⟩,
    rfl⟩

theorem checksum_is_not_length : ¬ SameName "X-Checksum-Sha256" "Content-Length" := by
  rw [sameName_iff]
  decide

theorem headers_of_serve (content : List UInt8) :
    let answer := HeadAnswer.ofHeaders 200 [lengthOf content]
    FirstValue answer.headers "Content-Length" (some (toString content.length)) ∧
      FirstValue answer.headers "X-Checksum-Sha256" none := by
  intro answer
  rw [HeadAnswer.firstValue_ofHeaders, HeadAnswer.firstValue_ofHeaders]
  refine ⟨⟨[], _, [], rfl, sameName_iff.2 rfl, nofun⟩, ?_⟩
  intro header hmem hsame
  rw [List.mem_singleton.1 hmem, sameName_iff] at hsame
  exact checksum_is_not_length (sameName_iff.2 hsame.symm)

theorem headers_of_serveWithDigest (content : List UInt8) :
    let answer := HeadAnswer.ofHeaders 200 [digestOf content, lengthOf content]
    FirstValue answer.headers "Content-Length" (some (toString content.length)) ∧
      FirstValue answer.headers "X-Checksum-Sha256" (some (Digest.ofContent content).text) := by
  intro answer
  rw [HeadAnswer.firstValue_ofHeaders, HeadAnswer.firstValue_ofHeaders]
  refine ⟨⟨[digestOf content], _, [], rfl, sameName_iff.2 rfl, ?_⟩,
    ⟨[], _, [lengthOf content], rfl, sameName_iff.2 rfl, nofun⟩⟩
  intro header hmem
  rw [List.mem_singleton.1 hmem]
  exact checksum_is_not_length

/-! ## Histories -/

/-- What happens to a scripted server. -/
inductive Act where
  | instruct (i : Instruction)
  | head (url : Url)
  | get (url : Url)

namespace Client

def perform (c : Client) : Act → Client
  | .instruct i => c.follow i
  | .head url => (c.head url).2
  | .get url => (c.get url).2

/-- A new client after a history. -/
def after (acts : List Act) : Client := acts.foldl perform {}

/-- The route for a URL, which is one to nowhere if there is none. -/
def route (c : Client) (url : String) : Route :=
  (c.routes.lookup url).getD ⟨.fail noRoute, .fail noRoute⟩

end Client

namespace Instruction

/-- What an instruction says about requests for headers. -/
def headReply? : Instruction → Option HeadReply
  | .serve _ content => some (.respond (.ofHeaders 200 [lengthOf content]))
  | .serveWithDigest _ content =>
      some (.respond (.ofHeaders 200 [digestOf content, lengthOf content]))
  | .announce _ answer => some (.respond answer)
  | .refuseHead _ => some (.fail "connection refused")
  | .status _ code => some (.respond { status := code })
  | .neverAnswer _ => some .hang
  | .breakOff _ _ | .refuseGet _ => none

/-- What an instruction says about requests for an artifact. -/
def getReply? : Instruction → Option GetReply
  | .serve _ content | .serveWithDigest _ content => some (.content content)
  | .status _ code => some (.status code)
  | .breakOff _ beginning => some (.broken beginning)
  | .refuseGet _ => some (.fail "connection refused")
  | .neverAnswer _ => some .hang
  | .announce _ _ | .refuseHead _ => none

variable {i : Instruction}

theorem headReply?_of_setsHead (h : i.setsHead = true) :
    ∃ reply, i.headReply? = some reply ∧ i.AnswersHead reply.wait := by
  cases i with
  | serve url content =>
      obtain ⟨hlength, hdigest⟩ := headers_of_serve content
      exact ⟨_, rfl, .serve rfl hlength hdigest⟩
  | serveWithDigest url content =>
      obtain ⟨hlength, hdigest⟩ := headers_of_serveWithDigest content
      exact ⟨_, rfl, .serveWithDigest rfl hlength hdigest⟩
  | announce url answer => exact ⟨_, rfl, .announce⟩
  | refuseHead url => exact ⟨_, rfl, .refuseHead⟩
  | status url code => exact ⟨_, rfl, .status rfl rfl⟩
  | neverAnswer url => exact ⟨_, rfl, .neverAnswer⟩
  | breakOff => cases h
  | refuseGet => cases h

theorem headReply?_eq_none (h : i.setsHead = false) : i.headReply? = none := by
  cases i with
  | breakOff => rfl
  | refuseGet => rfl
  | serve | serveWithDigest | announce | refuseHead | status | neverAnswer => cases h

theorem getReply?_of_setsGet (h : i.setsGet = true) :
    ∃ reply, i.getReply? = some reply ∧ i.AnswersGet reply.wait := by
  cases i with
  | serve url content => exact ⟨_, rfl, .serve (carries_whole content)⟩
  | serveWithDigest url content => exact ⟨_, rfl, .serveWithDigest (carries_whole content)⟩
  | status url code => exact ⟨_, rfl, .status rfl rfl rfl rfl rfl⟩
  | breakOff url beginning => exact ⟨_, rfl, .breakOff rfl rfl rfl rfl⟩
  | refuseGet url => exact ⟨_, rfl, .refuseGet⟩
  | neverAnswer url => exact ⟨_, rfl, .neverAnswer⟩
  | announce => cases h
  | refuseHead => cases h

theorem getReply?_eq_none (h : i.setsGet = false) : i.getReply? = none := by
  cases i with
  | announce => rfl
  | refuseHead => rfl
  | serve | serveWithDigest | status | breakOff | refuseGet | neverAnswer => cases h

end Instruction

namespace Act

/-- What an act says about requests for the headers of a URL: an instruction that names exactly this
URL can say something, and nothing else does. -/
def headReply? (url : Url) : Act → Option HeadReply
  | .instruct i => if i.url = url.text then i.headReply? else none
  | .head _ | .get _ => none

/-- What an act says about requests for the artifact behind a URL. -/
def getReply? (url : Url) : Act → Option GetReply
  | .instruct i => if i.url = url.text then i.getReply? else none
  | .head _ | .get _ => none

variable {url : Url} {acts : List Act}

theorem headReply?_eq_none
    (h : ∀ i, .instruct i ∈ acts → i.url = url.text → i.setsHead = false) :
    ∀ act ∈ acts, headReply? url act = none := by
  intro act hmem
  cases act with
  | head | get => rfl
  | instruct i =>
      rw [headReply?]
      split
      · rename_i hurl
        exact Instruction.headReply?_eq_none (h i hmem hurl)
      · rfl

theorem getReply?_eq_none
    (h : ∀ i, .instruct i ∈ acts → i.url = url.text → i.setsGet = false) :
    ∀ act ∈ acts, getReply? url act = none := by
  intro act hmem
  cases act with
  | head | get => rfl
  | instruct i =>
      rw [getReply?]
      split
      · rename_i hurl
        exact Instruction.getReply?_eq_none (h i hmem hurl)
      · rfl

def isHead : Act → Bool
  | .head _ => true
  | .instruct _ | .get _ => false

def isGet : Act → Bool
  | .get _ => true
  | .instruct _ | .head _ => false

end Act

/-! ## One act -/

namespace Client

variable (c : Client)

theorem head_eq (url : Url) :
    c.head url = ((c.route url.text).head.wait,
      { c with requests := { c.requests with heads := c.requests.heads + 1 } }) := by
  rw [head, route]
  cases c.routes.lookup url.text with
  | none => rfl
  | some found => rfl

theorem get_eq (url : Url) :
    c.get url = ((c.route url.text).get.wait,
      { c with requests := { c.requests with gets := c.requests.gets + 1 } }) := by
  rw [get, route]
  cases c.routes.lookup url.text with
  | none => rfl
  | some found => rfl

theorem route_put (url key : String) (given : Route) :
    (c.put url given).route key = if url = key then given else c.route key := by
  rw [route, put, List.lookup_cons]
  by_cases h : url = key
  · simp [h]
  · rw [beq_false_of_ne (Ne.symm h), if_neg h, route]

/-- An instruction changes the replies that it says something about, for the URL that it names, and
keeps the other ones, also if there was no route. -/
theorem route_follow (i : Instruction) (key : String) :
    (c.follow i).route key =
      if i.url = key then
        ⟨i.headReply?.getD (c.route key).head, i.getReply?.getD (c.route key).get⟩
      else c.route key := by
  have hchange : ∀ url f, c.change url f = c.put url (f (c.route url)) := fun _ _ => rfl
  by_cases h : i.url = key
  · subst h
    rw [if_pos rfl]
    cases i with
    | serve | serveWithDigest =>
        rw [follow, route_put]
        exact if_pos rfl
    | announce | refuseHead | status | breakOff | refuseGet | neverAnswer =>
        rw [follow, hchange, route_put]
        exact if_pos rfl
  · rw [if_neg h]
    cases i with
    | serve | serveWithDigest =>
        rw [follow, route_put]
        exact if_neg h
    | announce | refuseHead | status | breakOff | refuseGet | neverAnswer =>
        rw [follow, hchange, route_put]
        exact if_neg h

theorem route_perform (act : Act) (url : Url) :
    (c.perform act).route url.text =
      ⟨(act.headReply? url).getD (c.route url.text).head,
        (act.getReply? url).getD (c.route url.text).get⟩ := by
  cases act with
  | instruct i =>
      rw [perform, route_follow, Act.headReply?, Act.getReply?]
      split <;> rfl
  | head other =>
      rw [perform, head_eq]
      rfl
  | get other =>
      rw [perform, get_eq]
      rfl

theorem requests_follow (i : Instruction) : (c.follow i).requests = c.requests := by
  cases i <;> rfl

/-! ## A whole history -/

/-- What every step replaces by what it has to say itself is in the end what was said last. -/
theorem foldl_eq_last {σ α β : Type} {step : σ → β → σ} {say? : β → Option α} (view : σ → α)
    (h : ∀ s b, view (step s b) = (say? b).getD (view s)) (steps : List β) (s : σ) :
    view (steps.foldl step s) = (steps.filterMap say?).getLast?.getD (view s) := by
  induction steps generalizing s with
  | nil => rfl
  | cons b steps ih =>
      rw [List.foldl_cons, ih, h]
      cases hb : say? b with
      | none => rw [List.filterMap_cons_none hb, Option.getD_none]
      | some said =>
          rw [List.filterMap_cons_some hb, List.getLast?_cons, Option.getD_some, Option.getD_some]

theorem head_route_after (acts : List Act) (url : Url) :
    ((after acts).route url.text).head =
      (acts.filterMap (Act.headReply? url)).getLast?.getD (.fail noRoute) := by
  have hstep : ∀ (c : Client) (act : Act), ((c.perform act).route url.text).head =
      (act.headReply? url).getD (c.route url.text).head := by
    intro c act
    rw [route_perform]
  exact foldl_eq_last (fun c : Client => (c.route url.text).head) hstep acts {}

theorem get_route_after (acts : List Act) (url : Url) :
    ((after acts).route url.text).get =
      (acts.filterMap (Act.getReply? url)).getLast?.getD (.fail noRoute) := by
  have hstep : ∀ (c : Client) (act : Act), ((c.perform act).route url.text).get =
      (act.getReply? url).getD (c.route url.text).get := by
    intro c act
    rw [route_perform]
  exact foldl_eq_last (fun c : Client => (c.route url.text).get) hstep acts {}

/-- Every request counts, whatever comes of it, and nothing else does. -/
theorem requests_foldl (acts : List Act) :
    (acts.foldl perform c).requests =
      ⟨c.requests.heads + acts.countP Act.isHead, c.requests.gets + acts.countP Act.isGet⟩ := by
  induction acts generalizing c with
  | nil => rfl
  | cons act acts ih =>
      rw [List.foldl_cons, ih, List.countP_cons, List.countP_cons]
      cases act with
      | instruct i =>
          rw [perform, requests_follow]
          rfl
      | head url =>
          rw [perform, head_eq, Requests.mk.injEq]
          exact ⟨Nat.add_right_comm _ _ _, rfl⟩
      | get url =>
          rw [perform, get_eq, Requests.mk.injEq]
          exact ⟨rfl, Nat.add_right_comm _ _ _⟩

end Client

theorem getLast?_of_last {α β : Type} {say? : β → Option α} {before later : List β} {b : β}
    {said : α} (hb : say? b = some said) (hlater : ∀ other ∈ later, say? other = none) :
    ((before ++ b :: later).filterMap say?).getLast? = some said := by
  have hnone : later.filterMap say? = [] := List.filterMap_eq_nil_iff.2 hlater
  rw [List.filterMap_append, List.filterMap_cons_some hb, hnone, List.getLast?_concat]

/-- What a server that has followed some instructions does is what a client does after them. -/
theorem server_eq (script : List Instruction) (url : Url) :
    (server script).head url = ((Client.after (script.map .instruct)).head url).1 ∧
      (server script).get url = ((Client.after (script.map .instruct)).get url).1 := by
  have hafter : Client.after (script.map .instruct) = script.foldl Client.follow {} := by
    rw [Client.after, List.foldl_map]
    rfl
  rw [hafter]
  exact ⟨rfl, rfl⟩

/-- After every history a request is answered as the last instruction says that names exactly its
URL and is about this kind of request, and if there is none, it fails because there is no route.
What that answer is depends on this instruction only: a content that is served comes back whole,
with its length and its digest where that is to be told, a body that breaks off comes as far as it
goes, and a request that is not to be answered hangs.  The requests of the history are counted,
whatever comes of them, and nothing else is.  A server that has followed a script answers as after
a history of its instructions. -/
theorem last_instruction_answers (acts : List Act) (url : Url) :
    let c := Client.after acts
    ((∀ i, .instruct i ∈ acts → i.url = url.text → i.setsHead = false) →
        (c.head url).1 = .after 0 (.error ["no route to host"])) ∧
      ((∀ i, .instruct i ∈ acts → i.url = url.text → i.setsGet = false) →
        (c.get url).1 = .after 0 (.error ["no route to host"])) ∧
      (∀ before i later, acts = before ++ .instruct i :: later → i.url = url.text →
        (i.setsHead = true →
          (∀ j, .instruct j ∈ later → j.url = url.text → j.setsHead = false) →
            i.AnswersHead (c.head url).1) ∧
        (i.setsGet = true →
          (∀ j, .instruct j ∈ later → j.url = url.text → j.setsGet = false) →
            i.AnswersGet (c.get url).1)) ∧
      c.requests = ⟨acts.countP Act.isHead, acts.countP Act.isGet⟩ ∧
      ∀ script, acts = script.map .instruct →
        (server script).head url = (c.head url).1 ∧ (server script).get url = (c.get url).1 := by
  intro c
  have hhead : (c.head url).1 =
      ((acts.filterMap (Act.headReply? url)).getLast?.getD (.fail Client.noRoute)).wait := by
    rw [Client.head_eq, ← Client.head_route_after]
  have hget : (c.get url).1 =
      ((acts.filterMap (Act.getReply? url)).getLast?.getD (.fail Client.noRoute)).wait := by
    rw [Client.get_eq, ← Client.get_route_after]
  refine ⟨?noHead, ?noGet, ?last, ?counted, ?followed⟩
  case noHead =>
    intro hnone
    rw [hhead, List.filterMap_eq_nil_iff.2 (Act.headReply?_eq_none hnone)]
    rfl
  case noGet =>
    intro hnone
    rw [hget, List.filterMap_eq_nil_iff.2 (Act.getReply?_eq_none hnone)]
    rfl
  case last =>
    rintro before i later rfl hurl
    constructor
    · intro hsets hlater
      obtain ⟨reply, hsays, hanswers⟩ := Instruction.headReply?_of_setsHead hsets
      have hact : Act.headReply? url (.instruct i) = some reply := (if_pos hurl).trans hsays
      rw [hhead, getLast?_of_last hact (Act.headReply?_eq_none hlater)]
      exact hanswers
    · intro hsets hlater
      obtain ⟨reply, hsays, hanswers⟩ := Instruction.getReply?_of_setsGet hsets
      have hact : Act.getReply? url (.instruct i) = some reply := (if_pos hurl).trans hsays
      rw [hget, getLast?_of_last hact (Act.getReply?_eq_none hlater)]
      exact hanswers
  case counted =>
    have hcount := Client.requests_foldl {} acts
    simpa [c, Client.after] using hcount
  case followed =>
    rintro script rfl
    exact server_eq script url

end Scripted

end ArtifactCache
