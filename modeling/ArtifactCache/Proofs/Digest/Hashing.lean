import ArtifactCache.FileSystem.Operations
import ArtifactCache.Proofs.Digest.Reading

/-!
# Hashing what arrives in pieces

A source is hashed piece by piece, until it ends or an error comes.  The hash is that of all bytes
before the end, however they are cut and whatever the buffers that they are read into; it is also
that of the whole at once, and that of a file with these bytes.
-/

namespace ArtifactCache

namespace Source

/-- The source ends, at an empty piece or with its last one, and until then it hands out `bytes`. -/
inductive Delivers : Source → List UInt8 → Prop
  | exhausted : Delivers [] []
  | empty (rest : Source) : Delivers (.piece [] :: rest) []
  | piece {bytes more : List UInt8} {rest : Source} :
      bytes ≠ [] → Delivers rest more → Delivers (.piece bytes :: rest) (bytes ++ more)

/-- An error comes before the source ends. -/
inductive Fails : Source → IoError → Prop
  | now (cause : IoError) (rest : Source) : Fails (.failure cause :: rest) cause
  | later {bytes : List UInt8} {rest : Source} {cause : IoError} :
      bytes ≠ [] → Fails rest cause → Fails (.piece bytes :: rest) cause

variable {s rest : Source} {bytes front : List UInt8} {cause : IoError}
  {answer : Except IoError (List UInt8)}

theorem delivers_or_fails (s : Source) :
    (∃ bytes, s.Delivers bytes) ∨ ∃ cause, s.Fails cause := by
  induction s with
  | nil => exact .inl ⟨[], .exhausted⟩
  | cons item rest ih =>
      cases item with
      | failure cause => exact .inr ⟨cause, .now cause rest⟩
      | piece bytes =>
          by_cases hbytes : bytes = []
          · subst hbytes
            exact .inl ⟨[], .empty rest⟩
          · rcases ih with ⟨more, hmore⟩ | ⟨cause, hcause⟩
            · exact .inl ⟨bytes ++ more, .piece hbytes hmore⟩
            · exact .inr ⟨cause, .later hbytes hcause⟩

/-! ## One read -/

/-- A read takes from the front of what is delivered, and only the last one takes nothing. -/
theorem Delivers.of_reads (h : s.Delivers bytes) (hread : s.Reads answer rest) :
    (answer = .ok [] ∧ bytes = []) ∨
      ∃ front back, front ≠ [] ∧ answer = .ok front ∧ bytes = front ++ back ∧
        rest.Delivers back := by
  cases hread with
  | exhausted =>
      cases h
      exact .inl ⟨rfl, rfl⟩
  | empty =>
      cases h with
      | empty => exact .inl ⟨rfl, rfl⟩
      | piece hbytes => exact absurd rfl hbytes
  | failure => cases h
  | whole rest hfront =>
      cases h with
      | empty => exact absurd rfl hfront
      | piece _ hmore => exact .inr ⟨_, _, hfront, rfl, rfl, hmore⟩
  | @part front back rest hfront hback =>
      -- The first piece is an append here, which `cases` takes only as a variable with an equation.
      have hsplit : ∀ {all : List UInt8}, all = front ++ back →
          Delivers (.piece all :: rest) bytes →
          ∃ more, bytes = front ++ (back ++ more) ∧ rest.Delivers more := by
        intro all hall h
        cases h with
        | empty => exact absurd (List.append_eq_nil_iff.1 hall.symm).1 hfront
        | piece _ hmore => exact ⟨_, by rw [hall, List.append_assoc], hmore⟩
      obtain ⟨more, hbytes, hmore⟩ := hsplit rfl h
      exact .inr ⟨front, back ++ more, hfront, rfl, hbytes, .piece hback hmore⟩

theorem Fails.of_reads (h : s.Fails cause) (hread : s.Reads answer rest) :
    answer = .error cause ∨ ∃ front, front ≠ [] ∧ answer = .ok front ∧ rest.Fails cause := by
  cases hread with
  | exhausted => cases h
  | empty =>
      cases h with
      | later hbytes => exact absurd rfl hbytes
  | failure =>
      cases h
      exact .inl rfl
  | whole rest hfront =>
      cases h with
      | later _ hrest => exact .inr ⟨_, hfront, rfl, hrest⟩
  | part rest hfront hback =>
      cases h with
      | later _ hrest => exact .inr ⟨_, hfront, rfl, .later hback hrest⟩

end Source

/-! ## All reads -/

namespace DigestingReader

variable {r : DigestingReader} {message bytes : List UInt8} {cause : IoError}

theorem digestRest_of_delivers (rooms : Rooms) (hr : r.Hashed message)
    (h : r.source.Delivers bytes) :
    r.digestRest rooms = .ok (Sha256.digest (message ++ bytes)) := by
  fun_induction digestRest rooms r generalizing message bytes with
  | case1 rooms r cause rest hread =>
      rcases h.of_reads (reads_of_read rooms.first_pos hread) with ⟨hanswer, -⟩ |
        ⟨_, _, -, hanswer, -⟩
      · cases hanswer
      · cases hanswer
  | case2 rooms r rest hread =>
      have hrest := (passes_of_read hread).hashed message hr
      rcases h.of_reads (reads_of_read rooms.first_pos hread) with ⟨-, rfl⟩ |
        ⟨_, _, hfront, hanswer, -⟩
      · rw [hrest.digest_eq]
        rfl
      · cases hanswer
        exact absurd rfl hfront
  | case3 rooms r piece rest hread hpiece ih =>
      have hrest := (passes_of_read hread).hashed message hr
      rcases h.of_reads (reads_of_read rooms.first_pos hread) with ⟨hanswer, -⟩ |
        ⟨front, back, -, hanswer, rfl, hback⟩
      · cases hanswer
        exact absurd rfl hpiece
      · cases hanswer
        rw [ih hrest hback, List.append_assoc]
        rfl

theorem digestRest_of_fails (rooms : Rooms) (h : r.source.Fails cause) :
    r.digestRest rooms = .error cause := by
  fun_induction digestRest rooms r with
  | case1 rooms r found rest hread =>
      rcases h.of_reads (reads_of_read rooms.first_pos hread) with hanswer | ⟨_, -, hanswer, -⟩
      · cases hanswer
        rfl
      · cases hanswer
  | case2 rooms r rest hread =>
      rcases h.of_reads (reads_of_read rooms.first_pos hread) with hanswer |
        ⟨_, hfront, hanswer, -⟩
      · cases hanswer
      · cases hanswer
        exact absurd rfl hfront
  | case3 rooms r piece rest hread hpiece ih =>
      rcases h.of_reads (reads_of_read rooms.first_pos hread) with hanswer |
        ⟨_, -, -, hrest⟩
      · cases hanswer
      · exact ih hrest

theorem digestRest_congr (s : Source) (rooms rooms' : Rooms) :
    (ofSource s).digestRest rooms = (ofSource s).digestRest rooms' := by
  rcases s.delivers_or_fails with ⟨bytes, h⟩ | ⟨cause, h⟩
  · rw [digestRest_of_delivers rooms (hashed_ofSource s) h,
      digestRest_of_delivers rooms' (hashed_ofSource s) h]
  · rw [digestRest_of_fails rooms h, digestRest_of_fails rooms' h]

end DigestingReader

namespace Source

variable {s : Source} {bytes : List UInt8} {cause : IoError}

theorem hash_of_delivers (h : s.Delivers bytes) : s.hash = .ok (Digest.ofContent bytes).bytes := by
  rw [hash, DigestingReader.digestRest_of_delivers .large (DigestingReader.hashed_ofSource s) h]
  rfl

theorem hashText_of_delivers (h : s.Delivers bytes) :
    s.hashText = .ok (Digest.ofContent bytes).text := by
  rw [hashText, hash_of_delivers h]
  rfl

theorem hashText_of_fails (h : s.Fails cause) : s.hashText = .error (.source cause) := by
  rw [hashText, hash, DigestingReader.digestRest_of_fails .large h]
  rfl

end Source

/-! ## Files -/

namespace FileSystem

/-- The digest of the file at a path, whose content is handed out piece by piece, in whatever way;
an error is told with the path. -/
def digestThrough (fs : FileSystem) (p : Path) (source : List UInt8 → Source) :
    Except HashError (List UInt8) :=
  match fs.readFile p with
  | .ok content =>
      ((DigestingReader.ofSource (source content)).digestRest .large).mapError (.read p.text)
  | .error cause => .error (.read p.text cause)

theorem digestThrough_eq (fs : FileSystem) (p : Path) {source : List UInt8 → Source}
    (h : ∀ content, (source content).Delivers content) :
    fs.digestThrough p source = (fs.digestOf p).map Digest.bytes := by
  unfold digestThrough digestOf
  cases fs.readFile p with
  | error cause => rfl
  | ok content =>
      have hrest := DigestingReader.digestRest_of_delivers .large
        (DigestingReader.hashed_ofSource (source content)) (h content)
      simp only [hrest]
      rfl

end FileSystem

namespace Source

/-- A source is hashed to the digest of the bytes before its end, and fails with the first error if
one comes earlier, even an interruption.  It makes no difference how the bytes are cut, and into
what buffers they are read: the digest is that of the whole at once, that of a hasher which is fed
any other pieces of it, and that of a file with this content, however the file is handed out. -/
theorem hash_ignores_cuts (s : Source) :
    (∀ bytes, s.Delivers bytes → s.hashText = .ok (Digest.ofContent bytes).text) ∧
      (∀ e, s.hashText = .error e ↔ ∃ cause, s.Fails cause ∧ e = .source cause) ∧
      ((∃ bytes, s.Delivers bytes) ∨ ∃ cause, s.Fails cause) ∧
      (∀ (t : Source) bytes, s.Delivers bytes → t.Delivers bytes → s.hashText = t.hashText) ∧
      (∀ rooms, ((DigestingReader.ofSource s).digestRest rooms).mapError .source = s.hash) ∧
      (∀ pieces : List (List UInt8), s.Delivers pieces.flatten →
        s.hash = .ok (pieces.foldl Sha256.Hasher.update .empty).finish) ∧
      (∀ (fs : FileSystem) p bytes, fs.readFile p = .ok bytes → s.Delivers bytes →
        s.hashText = (fs.digestOf p).map Digest.text) ∧
      ∀ (fs : FileSystem) p (source : List UInt8 → Source),
        (∀ content, (source content).Delivers content) →
          fs.digestThrough p source = (fs.digestOf p).map Digest.bytes := by
  refine ⟨fun _ => hashText_of_delivers, ?_, s.delivers_or_fails, ?_, ?_, ?_, ?_,
    fun fs p _ h => fs.digestThrough_eq p h⟩
  · intro e
    constructor
    · intro he
      rcases s.delivers_or_fails with ⟨bytes, h⟩ | ⟨cause, h⟩
      · rw [hashText_of_delivers h] at he
        cases he
      · rw [hashText_of_fails h] at he
        cases he
        exact ⟨cause, h, rfl⟩
    · rintro ⟨cause, h, rfl⟩
      exact hashText_of_fails h
  · intro t bytes hs ht
    rw [hashText_of_delivers hs, hashText_of_delivers ht]
  · intro rooms
    rw [hash, DigestingReader.digestRest_congr s rooms .large]
  · intro pieces h
    rw [hash_of_delivers h, Sha256.Hasher.finish_foldl_update]
    rfl
  · intro fs p bytes hfile h
    have hdigest : fs.digestOf p = .ok (.ofContent bytes) := by
      simp only [FileSystem.digestOf, hfile]
    rw [hashText_of_delivers h, hdigest]
    rfl

end Source

end ArtifactCache
