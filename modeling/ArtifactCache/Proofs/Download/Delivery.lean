import ArtifactCache.Proofs.Download.Body
import ArtifactCache.Proofs.FileSystem.Staging

/-!
# Deliveries

A delivery ends well exactly when nothing is in its way: an HTTP address, room for the replacement,
a body that comes whole, and a destination that a file may take.  Then the file at the destination
is all that has changed; at any other end nothing has.
-/

namespace ArtifactCache

/-- A file can be made beside the destination: it has a name, and the path with the name of the next
replacement in its stead ends in a name that an entry can have and none has. -/
def Storage.Stages (s : Storage) (destination : Path) : Prop :=
  ∃ name dir next slash, destination.fileName? = some name ∧
    s.files.slot (Replacement.pathBeside destination
      (Replacement.fileName name s.process s.named)) = .ok (.entry dir next slash) ∧
    isTooLong next = false ∧ s.files.get? (next :: dir) = none

theorem Replacement.create_ok_iff {s : Storage} {destination : Path} :
    (∃ r s', Replacement.create s destination = (.ok r, s')) ↔ s.Stages destination := by
  unfold Replacement.create Storage.Stages
  cases hname : destination.fileName? with
  | none => simp
  | some name =>
      constructor
      · rintro ⟨r, s', h⟩
        simp only at h
        split at h
        · next files l hcreate =>
            obtain ⟨dir, next, slash, hslot, hlong, rfl, hnone, -⟩ :=
              FileSystem.create_eq_ok hcreate
            exact ⟨name, dir, next, slash, rfl, hslot, hlong, hnone⟩
        · cases h
      · rintro ⟨_, dir, next, slash, ⟨⟩, hslot, hlong, hnone⟩
        have hcreate := FileSystem.create_of_missing hslot hlong hnone (.file [])
        simp only [hcreate]
        exact ⟨_, _, rfl⟩

theorem requireHttp_eq_ok {url : Url} (h : url.IsHttp) : requireHttp url = .ok () := if_pos h

theorem requireHttp_eq_error {url : Url} (h : ¬ url.IsHttp) :
    requireHttp url = .error (.notHttp url.text url.schemeText) := if_neg h

namespace Run

variable {α β : Type} (r : Run α)

@[simp] theorem ending_after (requests : Requests) (notices : List Notice) :
    (r.after requests notices).ending = r.ending := rfl

@[simp] theorem files_after (requests : Requests) (notices : List Notice) :
    (r.after requests notices).files = r.files := rfl

@[simp] theorem storage_after (requests : Requests) (notices : List Notice) :
    (r.after requests notices).storage = r.storage := rfl

@[simp] theorem requests_after (requests : Requests) (notices : List Notice) :
    (r.after requests notices).requests =
      ⟨requests.heads + r.requests.heads, requests.gets + r.requests.gets⟩ := rfl

@[simp] theorem ending_map (f : α → β) : (r.map f).ending = r.ending.map f := rfl

@[simp] theorem files_map (f : α → β) : (r.map f).files = r.files := rfl

@[simp] theorem storage_map (f : α → β) : (r.map f).storage = r.storage := rfl

@[simp] theorem requests_map (f : α → β) : (r.map f).requests = r.requests := rfl

end Run

namespace Courier

variable {c : Courier} {url : Url} {r : Replacement} {fs : FileSystem} {content : List UInt8}

theorem accept_eq (c : Courier) (url : Url) (r : Replacement) (files : FileSystem) (now : Nat)
    (answer : GetAnswer) :
    ∃ meter notices, c.accept url r files now answer =
      ((c.arrival url r now answer).receive now 0 meter files answer.body).after notices := by
  unfold accept
  cases c.observer with
  | none => exact ⟨none, [], rfl⟩
  | some _ => exact ⟨_, _, rfl⟩

theorem transfer_of_answer {delay : Nat} {answer : GetAnswer} (r : Replacement) (fs : FileSystem)
    (hget : c.server.get url = .after delay (.ok answer)) (hdelay : InTime c.limit delay)
    (hstatus : answer.isSuccess = true) :
    c.transfer url r fs = c.accept url r fs delay answer := by
  have hresolve : (c.server.get url).resolve c.limit 0 = .answered delay (.ok answer) :=
    Wait.resolve_of_answer hget hdelay
  simp only [transfer, hresolve, if_pos hstatus]

theorem files_transfer (c : Courier) (url : Url) (r : Replacement) (fs : FileSystem) :
    ∃ content, (c.transfer url r (fs.put r.location (.file []))).files =
      fs.put r.location (.file content) := by
  unfold transfer
  split
  · next now answer _ =>
      split
      · obtain ⟨meter, notices, haccept⟩ :=
          c.accept_eq url r (fs.put r.location (.file [])) now answer
        obtain ⟨content, hfiles⟩ :=
          (c.arrival url r now answer).files_receive fs answer.body now 0 meter []
        exact ⟨content, by rw [haccept, Transfer.files_after]; exact hfiles⟩
      · exact ⟨[], rfl⟩
  · exact ⟨[], rfl⟩
  · exact ⟨[], rfl⟩
  · exact ⟨[], rfl⟩

theorem transfer_of_delivers (r : Replacement) (fs : FileSystem)
    (h : c.server.Delivers url c.limit content) :
    let t := c.transfer url r (fs.put r.location (.file []))
    t.ending = .done content.length ∧ t.files = fs.put r.location (.file content) := by
  obtain ⟨delay, answer, pieces, last, hget, hlow, hhigh, hbody, hend, rfl, htime⟩ := h
  have hdelay : InTime c.limit delay := by
    apply htime.mono
    omega
  have htransfer := transfer_of_answer r (fs.put r.location (.file [])) hget hdelay
    (GetAnswer.isSuccess_iff.2 ⟨hlow, hhigh⟩)
  obtain ⟨meter, notices, haccept⟩ :=
    c.accept_eq url r (fs.put r.location (.file [])) delay answer
  have hreceive := (c.arrival url r delay answer).receive_pieces fs hend pieces 0 meter [] htime
  simp only [Nat.zero_add, List.nil_append] at hreceive
  simp only [htransfer, haccept, hbody, Transfer.ending_after, Transfer.files_after]
  exact hreceive

theorem delivers_of_transfer {files : FileSystem} {n : Nat}
    (h : (c.transfer url r files).ending = .done n) :
    ∃ content, c.server.Delivers url c.limit content := by
  unfold transfer at h
  split at h
  · next now answer hanswer =>
      split at h
      · next hsuccess =>
          obtain ⟨delay, hget, hnow, -⟩ := Wait.resolve_eq_answered_iff.1 hanswer
          rw [Nat.zero_add] at hnow
          subst hnow
          obtain ⟨meter, notices, haccept⟩ := c.accept_eq url r files now answer
          rw [haccept, Transfer.ending_after] at h
          obtain ⟨pieces, last, hbody, hend, htime⟩ := Arrival.pieces_of_receive h
          obtain ⟨hlow, hhigh⟩ := GetAnswer.isSuccess_iff.1 hsuccess
          exact ⟨pieces.content, now, answer, pieces, last, hget, hlow, hhigh, hbody, hend, rfl,
            htime⟩
      · cases h
  · cases h
  · cases h
  · cases h

theorem settle_of_replaceable {t : Transfer} {n : Nat} {l : Location} (storage : Storage)
    (hr : r.WaitsBeside fs) (hfiles : t.files = fs.put r.location (.file content))
    (hdone : t.ending = .done n) (hl : fs.Replaceable r.destination l) :
    (settle url r storage t).ending = .done r.destination ∧
      (settle url r storage t).files = fs.put l (.file content) := by
  unfold settle
  rw [hdone, hfiles, Replacement.commit_put_of_replaceable hr hl]
  exact ⟨rfl, rfl⟩

/-- A transfer that is not done, or cannot take its place, leaves nothing behind. -/
theorem settle_of_not_done {t : Transfer} (storage : Storage) (hr : r.WaitsBeside fs)
    (hfiles : t.files = fs.put r.location (.file content))
    (h : ∀ n, t.ending = .done n → ∀ l, ¬ fs.Replaceable r.destination l) :
    (∀ path, (settle url r storage t).ending ≠ .done path) ∧
      (settle url r storage t).files = fs := by
  unfold settle
  cases hending : t.ending with
  | done n =>
      obtain ⟨e, hcommit⟩ := Replacement.commit_put_of_not_replaceable hr (h n hending) content
      simp only [hfiles, hcommit]
      exact ⟨nofun, rfl⟩
  | failed e => exact ⟨nofun, by rw [hfiles]; exact Replacement.discard_put hr content⟩
  | stuck => exact ⟨nofun, by rw [hfiles]; exact Replacement.discard_put hr content⟩

/-! ## From the request to the end -/

variable {destination : Path} {storage : Storage} {l : Location}

theorem deliver_of_delivers (hurl : url.IsHttp) (hstage : storage.Stages destination)
    (hbody : c.server.Delivers url c.limit content) (hl : storage.files.Replaceable destination l) :
    (c.deliver url destination storage).ending = .done destination ∧
      (c.deliver url destination storage).files = storage.files.put l (.file content) := by
  obtain ⟨r, s', hcreate⟩ := Replacement.create_ok_iff.2 hstage
  obtain ⟨hr, rfl, hfiles⟩ := Replacement.create_eq_ok hcreate
  obtain ⟨hending, htransfer⟩ := transfer_of_delivers r storage.files hbody
  simp only [deliver, requireHttp_eq_ok hurl, hcreate, Run.ending_after, Run.files_after, hfiles]
  exact settle_of_replaceable s' hr htransfer hending hl

theorem deliver_of_obstacle
    (h : ¬ (url.IsHttp ∧ storage.Stages destination ∧
      (∃ content, c.server.Delivers url c.limit content) ∧
      ∃ l, storage.files.Replaceable destination l)) :
    (∀ path, (c.deliver url destination storage).ending ≠ .done path) ∧
      (c.deliver url destination storage).files = storage.files := by
  unfold deliver
  by_cases hurl : url.IsHttp
  · rw [requireHttp_eq_ok hurl]
    cases hcreate : Replacement.create storage destination with
    | mk answer s' =>
        cases answer with
        | error e => exact ⟨nofun, Replacement.files_of_create_error hcreate⟩
        | ok r =>
            obtain ⟨hr, hdest, hfiles⟩ := Replacement.create_eq_ok hcreate
            obtain ⟨content, htransfer⟩ := c.files_transfer url r storage.files
            simp only [Run.ending_after, Run.files_after, hfiles]
            refine settle_of_not_done s' hr htransfer ?_
            intro n hdone l hl
            rw [hdest] at hl
            exact h ⟨hurl, Replacement.create_ok_iff.1 ⟨r, s', hcreate⟩,
              delivers_of_transfer hdone, l, hl⟩
  · rw [requireHttp_eq_error hurl]
    exact ⟨nofun, rfl⟩

/-- A delivery either is done, and the whole content is at the destination, or has no effect. -/
theorem deliver_cases (c : Courier) (url : Url) (destination : Path) (storage : Storage) :
    (∃ content l, c.server.Delivers url c.limit content ∧
        storage.files.Replaceable destination l ∧
        (c.deliver url destination storage).ending = .done destination ∧
        (c.deliver url destination storage).files = storage.files.put l (.file content)) ∨
      ((∀ path, (c.deliver url destination storage).ending ≠ .done path) ∧
        (c.deliver url destination storage).files = storage.files) := by
  by_cases h : url.IsHttp ∧ storage.Stages destination ∧
      (∃ content, c.server.Delivers url c.limit content) ∧
      ∃ l, storage.files.Replaceable destination l
  · obtain ⟨hurl, hstage, ⟨content, hbody⟩, l, hl⟩ := h
    exact .inl ⟨content, l, hbody, hl, deliver_of_delivers hurl hstage hbody hl⟩
  · exact .inr (deliver_of_obstacle h)

/-- Getting an artifact is all or nothing: it is done exactly when the address is one of HTTP, the
replacement can be made, the body comes whole and by the limit, and the destination can be taken;
then the file there holds the whole body and nothing else has changed.  At every other end the tree
is what it was. -/
theorem deliver_all_or_nothing (c : Courier) (url : Url) (destination : Path) (storage : Storage) :
    let run := c.deliver url destination storage
    ((∃ path, run.ending = .done path) ↔
      url.IsHttp ∧ storage.Stages destination ∧
        (∃ content, c.server.Delivers url c.limit content) ∧
        ∃ l, storage.files.Replaceable destination l) ∧
      (∀ path, run.ending = .done path → path = destination ∧
        ∃ content l, c.server.Delivers url c.limit content ∧
          storage.files.Replaceable destination l ∧ run.files.get? l = some (.file content) ∧
          FileSystem.SameBut l storage.files run.files) ∧
      ((∀ path, run.ending ≠ .done path) → run.files = storage.files) := by
  intro run
  refine ⟨⟨?_, ?_⟩, ?_, ?_⟩
  · rintro ⟨path, hdone⟩
    exact Classical.not_not.1 fun hno => (deliver_of_obstacle hno).1 path hdone
  · rintro ⟨hurl, hstage, ⟨content, hbody⟩, l, hl⟩
    exact ⟨destination, (deliver_of_delivers hurl hstage hbody hl).1⟩
  · intro path hdone
    rcases c.deliver_cases url destination storage with
      ⟨content, l, hbody, hl, hending, hfiles⟩ | ⟨hnone, -⟩
    · have hpath : path = destination := by
        rw [hending] at hdone
        cases hdone
        rfl
      refine ⟨hpath, content, l, hbody, hl, ?_, ?_⟩
      · rw [hfiles]
        exact FileSystem.get?_put_self _ hl.namesEntry.ne_nil _
      · rw [hfiles]
        exact FileSystem.sameBut_put _ _ _
    · exact absurd hdone (hnone path)
  · intro hnone
    rcases c.deliver_cases url destination storage with ⟨_, _, _, _, hending, _⟩ | ⟨-, hfiles⟩
    · exact absurd hending (hnone destination)
    · exact hfiles

end Courier

end ArtifactCache
