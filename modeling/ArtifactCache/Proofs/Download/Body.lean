import ArtifactCache.Download.Courier
import ArtifactCache.Proofs.Download.Waiting
import ArtifactCache.Proofs.FileSystem.Ways

/-!
# Bodies that come whole

A server delivers some content when it answers with success, nothing but data follows up to the end
of the body, and all of that is there by the limit.  Then and only then a transfer is done, and the
replacement that it writes to holds the content; at any other end it holds something.
-/

namespace ArtifactCache

abbrev Pieces := List (Nat × List UInt8)

namespace Pieces

def body (pieces : Pieces) : List (Wait Chunk) :=
  pieces.map fun piece => .after piece.1 (.ok piece.2)

def content (pieces : Pieces) : List UInt8 := (pieces.map (·.2)).flatten

def delay (pieces : Pieces) : Nat := pieces.foldr (fun piece time => piece.1 + time) 0

@[simp] theorem body_nil : body [] = [] := rfl

@[simp] theorem content_nil : content [] = [] := rfl

@[simp] theorem delay_nil : delay [] = 0 := rfl

@[simp] theorem body_cons (time : Nat) (bytes : List UInt8) (pieces : Pieces) :
    body ((time, bytes) :: pieces) = .after time (.ok bytes) :: body pieces := rfl

@[simp] theorem content_cons (time : Nat) (bytes : List UInt8) (pieces : Pieces) :
    content ((time, bytes) :: pieces) = bytes ++ content pieces := rfl

@[simp] theorem delay_cons (time : Nat) (bytes : List UInt8) (pieces : Pieces) :
    delay ((time, bytes) :: pieces) = time + delay pieces := rfl

end Pieces

/-- The server answers with success and a body that is all of `content`, and the body has ended by
the limit. -/
def Server.Delivers (s : Server) (url : Url) (limit : Option Duration) (content : List UInt8) :
    Prop :=
  ∃ delay answer pieces last, s.get url = .after delay (.ok answer) ∧
    200 ≤ answer.status ∧ answer.status ≤ 299 ∧ answer.body = Pieces.body pieces ∧
    answer.bodyEnd = .after last () ∧ content = Pieces.content pieces ∧
    InTime limit (delay + Pieces.delay pieces + last)

theorem GetAnswer.isSuccess_iff {answer : GetAnswer} :
    answer.isSuccess = true ↔ 200 ≤ answer.status ∧ answer.status ≤ 299 := by
  simp only [isSuccess, Bool.and_eq_true, decide_eq_true_eq]
  omega

namespace Transfer

variable (notices : List Notice) (t : Transfer)

@[simp] theorem ending_after : (t.after notices).ending = t.ending := rfl

@[simp] theorem files_after : (t.after notices).files = t.files := rfl

end Transfer

namespace Arrival

variable {a : Arrival} {fs : FileSystem}

/-- Whatever comes of a body, nothing but the replacement is written. -/
theorem files_receive (a : Arrival) (fs : FileSystem) (body : List (Wait Chunk)) :
    ∀ (now written : Nat) (meter : Option Meter) (old : List UInt8),
      ∃ content,
        (a.receive now written meter (fs.put a.replacement.location (.file old)) body).files =
          fs.put a.replacement.location (.file content) := by
  induction body with
  | nil =>
      intro now written meter old
      refine ⟨old, ?_⟩
      unfold receive
      split
      · rfl
      · rfl
      · rfl
  | cons chunk rest ih =>
      intro now written meter old
      unfold receive
      split
      · next instant bytes _ =>
          simp only [Transfer.files_after, Replacement.write, FileSystem.append_put]
          exact ih _ _ _ _
      · exact ⟨old, rfl⟩
      · exact ⟨old, rfl⟩
      · exact ⟨old, rfl⟩

theorem receive_pieces {last : Nat} (fs : FileSystem) (hend : a.bodyEnd = .after last ())
    (pieces : Pieces) :
    ∀ {now : Nat} (written : Nat) (meter : Option Meter) (old : List UInt8),
      InTime a.limit (now + Pieces.delay pieces + last) →
        let t := a.receive now written meter (fs.put a.replacement.location (.file old))
          (Pieces.body pieces)
        t.ending = .done (written + (Pieces.content pieces).length) ∧
          t.files = fs.put a.replacement.location (.file (old ++ Pieces.content pieces)) := by
  induction pieces with
  | nil =>
      intro now written meter old htime
      have hresolve : a.bodyEnd.resolve a.limit now = .answered (now + last) () :=
        Wait.resolve_eq_answered_iff.2 ⟨last, hend, rfl, htime⟩
      simp [receive, hresolve]
  | cons piece rest ih =>
      obtain ⟨time, bytes⟩ := piece
      intro now written meter old htime
      rw [Pieces.delay_cons, ← Nat.add_assoc] at htime
      have hpiece : InTime a.limit (now + time) := by
        apply htime.mono
        omega
      have hchunk : (Wait.after time (Except.ok bytes : Chunk)).resolve a.limit now =
          .answered (now + time) (.ok bytes) :=
        Wait.resolve_eq_answered_iff.2 ⟨time, rfl, rfl, hpiece⟩
      obtain ⟨hending, hfiles⟩ := ih (written + bytes.length)
        (a.notice (now + time) (.data bytes) meter).2 (old ++ bytes) htime
      simp only [Pieces.body_cons, receive, hchunk, Transfer.ending_after, Transfer.files_after,
        Replacement.write, FileSystem.append_put, Pieces.content_cons, List.length_append]
      refine ⟨?_, ?_⟩
      · rw [hending, Nat.add_assoc]
      · rw [hfiles, List.append_assoc]

theorem pieces_of_receive {body : List (Wait Chunk)} {n : Nat} :
    ∀ {now written : Nat} {meter : Option Meter} {files : FileSystem},
      (a.receive now written meter files body).ending = .done n →
        ∃ pieces last, body = Pieces.body pieces ∧ a.bodyEnd = .after last () ∧
          InTime a.limit (now + Pieces.delay pieces + last) := by
  induction body with
  | nil =>
      intro now written meter files hdone
      unfold receive at hdone
      split at hdone
      · next instant hend =>
          obtain ⟨last, hlast, rfl, htime⟩ := Wait.resolve_eq_answered_iff.1 hend
          exact ⟨[], last, rfl, hlast, htime⟩
      · cases hdone
      · cases hdone
  | cons chunk rest ih =>
      intro now written meter files hdone
      unfold receive at hdone
      split at hdone
      · next instant bytes hchunk =>
          obtain ⟨time, rfl, rfl, -⟩ := Wait.resolve_eq_answered_iff.1 hchunk
          obtain ⟨pieces, last, rfl, hlast, htime⟩ := ih hdone
          refine ⟨(time, bytes) :: pieces, last, rfl, hlast, ?_⟩
          rwa [Pieces.delay_cons, ← Nat.add_assoc]
      · cases hdone
      · cases hdone
      · cases hdone

end Arrival

end ArtifactCache
