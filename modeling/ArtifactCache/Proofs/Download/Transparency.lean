import ArtifactCache.Download.Retriever

/-!
# Nobody has to listen

What a run tells about its progress has no effect on the run.  Without those notices it is, step for
step, the run of the same request that nobody observes, whatever comes of the body; and nothing
comes back from the log.
-/

namespace ArtifactCache

namespace Notice

/-- The notices that tell nothing about progress. -/
def logged (notices : List Notice) : List Notice :=
  notices.filter fun
    | .log _ => true
    | .progress _ _ => false

@[simp] theorem logged_nil : logged [] = [] := rfl

@[simp] theorem logged_append (l m : List Notice) : logged (l ++ m) = logged l ++ logged m :=
  List.filter_append _ _

@[simp] theorem logged_log (record : Log.Record) (l : List Notice) :
    logged (.log record :: l) = .log record :: logged l := rfl

@[simp] theorem logged_progress (instant : Duration) (event : Progress.Event) (l : List Notice) :
    logged (.progress instant event :: l) = logged l := rfl

theorem logged_map_progress (instant : Duration) (events : List Progress.Event) :
    logged (events.map (.progress instant)) = [] := by
  induction events with
  | nil => rfl
  | cons event rest ih => simpa using ih

theorem records_logged (notices : List Notice) : records (logged notices) = records notices := by
  induction notices with
  | nil => rfl
  | cons notice rest ih =>
      cases notice with
      | log record => exact congrArg (record :: ·) ih
      | progress instant event => exact ih

end Notice

/-- A transfer without what it tells about progress. -/
def Transfer.unobserved (t : Transfer) : Transfer := { t with notices := Notice.logged t.notices }

/-- A run without what it tells about progress. -/
def Run.unobserved {α : Type} (r : Run α) : Run α := { r with notices := Notice.logged r.notices }

theorem Transfer.unobserved_after (notices : List Notice) (t : Transfer) :
    (t.after notices).unobserved = t.unobserved.after (Notice.logged notices) := by
  simp [unobserved, after]

namespace Run

variable {α β : Type} (r : Run α)

theorem unobserved_after (requests : Requests) (notices : List Notice) :
    (r.after requests notices).unobserved =
      r.unobserved.after requests (Notice.logged notices) := by
  simp [unobserved, after]

theorem unobserved_map (f : α → β) : (r.map f).unobserved = r.unobserved.map f := rfl

variable {r} {r' : Run α}

theorem agree_of_unobserved_eq (h : r.unobserved = r'.unobserved) :
    r.ending = r'.ending ∧ r.requests = r'.requests ∧ r.storage = r'.storage ∧
      Notice.records r.notices = Notice.records r'.notices := by
  obtain ⟨ending, storage, requests, notices⟩ := r
  obtain ⟨ending', storage', requests', notices'⟩ := r'
  simp only [unobserved, mk.injEq] at h
  obtain ⟨hending, hstorage, hrequests, hlogged⟩ := h
  refine ⟨hending, hrequests, hstorage, ?_⟩
  rw [← Notice.records_logged notices, ← Notice.records_logged notices', hlogged]

end Run

namespace Arrival

variable (a : Arrival)

theorem logged_notice (now : Nat) (seen : Polled) (meter : Option Meter) :
    Notice.logged (a.notice now seen meter).1 = [] := by
  cases meter with
  | none => rfl
  | some m => exact Notice.logged_map_progress _ _

theorem logged_giveUp (now : Nat) (meter : Option Meter) :
    Notice.logged (a.giveUp now meter) = [] := by
  cases meter with
  | none => rfl
  | some m => exact Notice.logged_map_progress _ _

theorem unobserved_expire (limit : Duration) (meter : Option Meter) (files : FileSystem) :
    (a.expire limit meter files).unobserved = a.expire limit none files := by
  simp only [expire, Transfer.unobserved, logged_giveUp]
  rfl

theorem unobserved_hang (now : Nat) (meter : Option Meter) (files : FileSystem) :
    (a.hang now meter files).unobserved = a.hang now none files := by
  simp only [hang, Transfer.unobserved, logged_giveUp]
  rfl

/-- A body is received alike whether its pieces are counted for an observer or not. -/
theorem unobserved_receive (body : List (Wait Chunk)) :
    ∀ (now written : Nat) (meter : Option Meter) (files : FileSystem),
      (a.receive now written meter files body).unobserved =
        a.receive now written none files body := by
  induction body with
  | nil =>
      intro now written meter files
      unfold receive
      cases a.bodyEnd.resolve a.limit now with
      | answered instant _ =>
          simp only [Transfer.unobserved, logged_notice]
          rfl
      | expired limit => exact a.unobserved_expire limit meter files
      | stuck => exact a.unobserved_hang now meter files
  | cons chunk rest ih =>
      intro now written meter files
      unfold receive
      cases chunk.resolve a.limit now with
      | answered instant item =>
          cases item with
          | ok bytes =>
              simp only [Transfer.unobserved_after, logged_notice, ih]
              rfl
          | error causes =>
              simp only [Transfer.unobserved, logged_notice]
              rfl
      | expired limit => exact a.unobserved_expire limit meter files
      | stuck => exact a.unobserved_hang now meter files

end Arrival

namespace Courier

/-- The same courier with this observer, or with none. -/
def observedBy (c : Courier) (observer : Option Observer) : Courier := { c with observer }

variable (c : Courier) (url : Url)

theorem unobserved_accept (r : Replacement) (files : FileSystem) (now : Nat) (answer : GetAnswer) :
    (c.accept url r files now answer).unobserved =
      (c.observedBy none).accept url r files now answer := by
  cases hobserver : c.observer with
  | none =>
      simp only [accept, observedBy, hobserver, Arrival.unobserved_receive]
      rfl
  | some observer =>
      simp only [accept, observedBy, hobserver, Transfer.unobserved_after,
        Notice.logged_progress, Arrival.unobserved_receive]
      rfl

theorem unobserved_transfer (r : Replacement) (files : FileSystem) :
    (c.transfer url r files).unobserved = (c.observedBy none).transfer url r files := by
  have haccept := c.unobserved_accept url r files
  simp only [observedBy] at haccept
  simp only [transfer, observedBy]
  cases (c.server.get url).resolve c.limit 0 with
  | answered now item =>
      cases item with
      | error causes => rfl
      | ok answer =>
          by_cases hstatus : answer.isSuccess = true
          · simp only [if_pos hstatus, haccept]
          · simp only [if_neg hstatus]
            rfl
  | expired limit => rfl
  | stuck => rfl

theorem unobserved_settle (r : Replacement) (s : Storage) (t : Transfer) :
    (settle url r s t).unobserved = settle url r s t.unobserved := by
  unfold settle Transfer.unobserved
  cases t.ending with
  | done written =>
      cases r.commit t.files with
      | mk answer files =>
          cases answer with
          | ok path => simp [Run.unobserved]
          | error e => rfl
  | failed e => rfl
  | stuck => rfl

theorem unobserved_deliver (destination : Path) (s : Storage) :
    (c.deliver url destination s).unobserved =
      (c.observedBy none).deliver url destination s := by
  unfold deliver
  cases requireHttp url with
  | error e => rfl
  | ok _ =>
      cases Replacement.create s destination with
      | mk answer s' =>
          cases answer with
          | error e => rfl
          | ok r =>
              simp only [Run.unobserved_after, unobserved_settle, unobserved_transfer]
              rfl

end Courier

/-- The same request with progress shown or not. -/
def Request.showing (request : Request) (shows : Bool) : Request :=
  { request with showsProgress := shows }

namespace Retriever

variable (r : Retriever) (request : Request)

theorem courier_not_showing :
    r.courier (request.showing false) = (r.courier request).observedBy none := rfl

theorem unobserved_refetch (url : Url) (path : Path) (s : Storage) :
    (r.refetch request url path s).unobserved =
      r.refetch (request.showing false) url path s := by
  unfold refetch
  cases s.files.removeAny path with
  | mk answer files =>
      cases answer with
      | error e => rfl
      | ok _ =>
          simp only [Run.unobserved_map, Courier.unobserved_deliver, courier_not_showing]

theorem unobserved_execute (url : Url) (path : Path) (s : Storage) (v : Verdict) :
    (r.execute request url path s v).unobserved =
      r.execute (request.showing false) url path s v := by
  cases v with
  | keep ground => rfl
  | purge =>
      simp only [execute, Run.unobserved_after, unobserved_refetch]
      rfl

theorem unobserved_revalidate (url : Url) (copy : CachedCopy) (s : Storage) :
    (r.revalidate request url copy s).unobserved =
      r.revalidate (request.showing false) url copy s := by
  unfold revalidate
  cases r.enquirer.enquire url with
  | mk answer requests =>
      cases answer with
      | done a =>
          simp only [Run.unobserved_after, unobserved_execute]
          rfl
      | failed e =>
          by_cases hreach : e.isUnreachable = true
          · simp only [if_pos hreach, Run.unobserved_after, unobserved_execute]
            rfl
          · simp only [if_neg hreach]
            rfl
      | stuck => rfl

theorem unobserved_obtain (url : Url) (path : Path) (s : Storage) :
    (r.obtain request url path s).unobserved = r.obtain (request.showing false) url path s := by
  unfold obtain
  cases s.files.copyAt? path with
  | error e => rfl
  | ok found =>
      cases found with
      | none => simp only [Run.unobserved_map, Courier.unobserved_deliver, courier_not_showing]
      | some copy =>
          simp only [Run.unobserved_after, unobserved_revalidate]
          rfl

/-- Without what it tells about progress, a retrieval is that of a request that shows none. -/
theorem unobserved_retrieve (s : Storage) :
    (r.retrieve request s).unobserved = r.retrieve (request.showing false) s := by
  have hplace : place (request.showing false) = place request := rfl
  unfold retrieve
  rw [hplace]
  cases place request with
  | error e => rfl
  | ok found => exact r.unobserved_obtain request found.1 found.2 s

def observedBy (r : Retriever) (observer : Observer) : Retriever := { r with observer }

/-- Where no progress is shown, it does not matter who would hear about it. -/
theorem retrieve_observedBy (observer : Observer) (s : Storage) :
    (r.observedBy observer).retrieve (request.showing false) s =
      r.retrieve (request.showing false) s := rfl

/-- A retrieval whose log goes to a sink, which changes with each record: the run, and what the sink
holds in the end. -/
def retrieveInto {σ : Type} (sink : σ → Log.Record → σ) (held : σ) (r : Retriever)
    (request : Request) (s : Storage) : Run (Path × Provenance) × σ :=
  let run := r.retrieve request s
  (run, (Notice.fullLog (r.observerOf request) run.notices).foldl sink held)

/-- Progress reporting is transparent: whether it is shown, to whom, and where the log goes, changes
nothing about how a retrieval ends, what it asks the server for, what it leaves behind and what it
logs on its own account. -/
theorem progress_changes_nothing (request : Request) (s : Storage)
    (observer observer' : Observer) (shows shows' : Bool) {σ σ' : Type}
    (sink : σ → Log.Record → σ) (held : σ) (sink' : σ' → Log.Record → σ') (held' : σ') :
    let run := (retrieveInto sink held (r.observedBy observer) (request.showing shows) s).1
    let run' := (retrieveInto sink' held' (r.observedBy observer') (request.showing shows') s).1
    run.ending = run'.ending ∧ run.requests = run'.requests ∧ run.storage = run'.storage ∧
      Notice.records run.notices = Notice.records run'.notices := by
  intro run run'
  have hquiet (o : Observer) (b : Bool) :
      ((r.observedBy o).retrieve (request.showing b) s).unobserved =
        r.retrieve (request.showing false) s :=
    ((r.observedBy o).unobserved_retrieve (request.showing b) s).trans
      (r.retrieve_observedBy request o s)
  have hsilent : run.unobserved = run'.unobserved :=
    (hquiet observer shows).trans (hquiet observer' shows').symm
  exact Run.agree_of_unobserved_eq hsilent

end Retriever

end ArtifactCache
