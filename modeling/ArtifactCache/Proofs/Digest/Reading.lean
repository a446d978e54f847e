import ArtifactCache.Digest.Source

/-!
# Reading through a hashing reader

Whatever a hashing reader is asked for, in whatever order, it gives what its source would give
without it.  Its digest is that of all the bytes that it gave until the digest was first asked for.
-/

namespace ArtifactCache

namespace Source

/-- What a read into a buffer with room for a byte can find in a source. -/
inductive Reads : Source → Except IoError (List UInt8) → Source → Prop
  | exhausted : Reads [] (.ok []) []
  | empty (rest : Source) : Reads (.piece [] :: rest) (.ok []) rest
  | failure (cause : IoError) (rest : Source) :
      Reads (.failure cause :: rest) (.error cause) rest
  | whole {bytes : List UInt8} (rest : Source) :
      bytes ≠ [] → Reads (.piece bytes :: rest) (.ok bytes) rest
  | part {front back : List UInt8} (rest : Source) :
      front ≠ [] → back ≠ [] →
      Reads (.piece (front ++ back) :: rest) (.ok front) (.piece back :: rest)

variable {s rest : Source} {room : Nat} {bytes : List UInt8} {cause : IoError}

theorem reads_read (hroom : 0 < room) (s : Source) : Reads s (s.read room).1 (s.read room).2 := by
  have hne : room ≠ 0 := by omega
  cases s with
  | nil => exact .exhausted
  | cons item rest =>
      cases item with
      | failure cause =>
          simp only [read, if_neg hne]
          exact .failure cause rest
      | piece bytes =>
          simp only [read, if_neg hne]
          cases bytes with
          | nil =>
              rw [List.take_nil, List.drop_nil]
              exact .empty rest
          | cons b bytes =>
              have hfront : (b :: bytes).take room ≠ [] := by
                rw [Ne, List.take_eq_nil_iff]
                simp [hne]
              have hsplit := List.take_append_drop room (b :: bytes)
              by_cases hback : (b :: bytes).drop room = []
              · have hall : (b :: bytes).take room = b :: bytes := by
                  rw [hback, List.append_nil] at hsplit
                  exact hsplit
                rw [hback, hall]
                exact .whole rest (List.cons_ne_nil b bytes)
              · rw [if_neg (by simpa using hback)]
                have hpart := Reads.part rest hfront hback
                rwa [hsplit] at hpart

/-! ## Reading to the end -/

theorem readToEnd_of_error (h : s.Reads (.error cause) rest) :
    s.readToEnd = if cause.isInterrupted then rest.readToEnd else ([], some cause, rest) := by
  cases h with
  | failure => rw [readToEnd]

theorem readToEnd_of_nothing (h : s.Reads (.ok []) rest) : s.readToEnd = ([], none, rest) := by
  cases h with
  | exhausted => rfl
  | empty => rfl
  | whole _ hbytes => exact absurd rfl hbytes
  | part _ hfront => exact absurd rfl hfront

theorem readToEnd_of_bytes (h : s.Reads (.ok bytes) rest) (hbytes : bytes ≠ []) :
    s.readToEnd = (bytes ++ rest.readToEnd.1, rest.readToEnd.2) := by
  cases h with
  | exhausted => exact absurd rfl hbytes
  | empty => exact absurd rfl hbytes
  | whole => rw [readToEnd, if_neg (by simpa using hbytes)]
  | part rest hfront hback =>
      rw [readToEnd, readToEnd, if_neg (by simp [hbytes]), if_neg (by simpa using hback)]
      simp only [List.append_assoc]

end Source

/-! ## What is hashed -/

namespace DigestingReader

variable {r rest last : DigestingReader} {message bytes more digest : List UInt8} {room : Nat}
  {rooms : Rooms} {answer : Except IoError (List UInt8)}

/-- The bytes of `message` are hashed, and the digest was not asked for. -/
structure Hashed (r : DigestingReader) (message : List UInt8) : Prop where
  digest?_eq : r.digest? = none
  hasher_eq : r.hasher = .ofMessage message

def Fixed (r : DigestingReader) (digest : List UInt8) : Prop := r.digest? = some digest

/-- From one state of a reader to the other some bytes went by. -/
structure Passes (r : DigestingReader) (bytes : List UInt8) (rest : DigestingReader) : Prop where
  hashed : ∀ message, r.Hashed message → rest.Hashed (message ++ bytes)
  fixed : ∀ digest, r.Fixed digest → rest.Fixed digest

theorem hashed_ofSource (s : Source) : (ofSource s).Hashed [] where
  digest?_eq := rfl
  hasher_eq := Sha256.Hasher.ofMessage_nil.symm

theorem Passes.trans (h : r.Passes bytes rest) (h' : rest.Passes more last) :
    r.Passes (bytes ++ more) last where
  hashed message hr := by
    rw [← List.append_assoc]
    exact h'.hashed _ (h.hashed message hr)
  fixed digest hr := h'.fixed digest (h.fixed digest hr)

theorem passes_withSource (r : DigestingReader) (s : Source) :
    r.Passes [] { r with source := s } where
  hashed message hr := by
    rw [List.append_nil]
    exact ⟨hr.digest?_eq, hr.hasher_eq⟩
  fixed digest hr := hr

theorem passes_note (r : DigestingReader) (bytes : List UInt8) : r.Passes bytes (r.note bytes) where
  hashed message hr := by
    have hnote : r.note bytes = { r with hasher := r.hasher.update bytes } := by
      simp only [note, hr.digest?_eq]
    rw [hnote]
    refine ⟨hr.digest?_eq, ?_⟩
    rw [hr.hasher_eq, Sha256.Hasher.update_ofMessage]
  fixed digest hr := by
    have hnote : r.note bytes = r := by
      rw [Fixed] at hr
      simp only [note, hr]
    rwa [hnote]

def bytesOf (answer : Except IoError (List UInt8)) : List UInt8 := answer.toOption.getD []

theorem passes_read (r : DigestingReader) (room : Nat) :
    r.Passes (bytesOf (r.source.read room).1) (r.read room).2 := by
  cases h : r.source.read room with
  | mk answer left =>
      have hleft := passes_withSource r left
      cases answer with
      | error cause =>
          simp only [read, h]
          exact hleft
      | ok bytes =>
          simp only [read, h]
          exact hleft.trans (passes_note _ bytes)

theorem passes_of_read (h : r.read room = (answer, rest)) : r.Passes (bytesOf answer) rest := by
  have hpasses := passes_read r room
  rwa [← read_fst, h] at hpasses

theorem reads_of_read (hroom : 0 < room) (h : r.read room = (answer, rest)) :
    r.source.Reads answer rest.source := by
  have hreads := Source.reads_read hroom r.source
  rwa [← read_fst, ← source_read, h] at hreads

/-- Reading to the end comes to the same with buffers of any rooms. -/
theorem readToEndWith_spec (r : DigestingReader) (rooms : Rooms) :
    (r.readToEndWith rooms).1 = (r.source.readToEnd.1, r.source.readToEnd.2.1) ∧
      (r.readToEndWith rooms).2.source = r.source.readToEnd.2.2 ∧
      r.Passes r.source.readToEnd.1 (r.readToEndWith rooms).2 := by
  -- One case for each way a turn of the loop ends: the source gives the same on this read as bare,
  -- and just what it gives is hashed.
  fun_induction readToEndWith rooms r with
  | case1 rooms r cause rest h hinterrupted ih =>
      have hsource := Source.readToEnd_of_error (reads_of_read rooms.first_pos h)
      rw [if_pos hinterrupted] at hsource
      rw [hsource]
      exact ⟨ih.1, ih.2.1, (passes_of_read h).trans ih.2.2⟩
  | case2 rooms r cause rest h hfinal =>
      have hsource := Source.readToEnd_of_error (reads_of_read rooms.first_pos h)
      rw [if_neg hfinal] at hsource
      rw [hsource]
      exact ⟨rfl, rfl, passes_of_read h⟩
  | case3 rooms r rest h =>
      rw [Source.readToEnd_of_nothing (reads_of_read rooms.first_pos h)]
      exact ⟨rfl, rfl, passes_of_read h⟩
  | case4 rooms r bytes rest h hbytes more cause last hlast ih =>
      rw [hlast] at ih
      rw [Source.readToEnd_of_bytes (reads_of_read rooms.first_pos h) hbytes]
      refine ⟨?_, ih.2.1, (passes_of_read h).trans ih.2.2⟩
      obtain ⟨hmore, hcause⟩ := Prod.mk.inj ih.1
      rw [hmore, hcause]

/-! ## The digest -/

theorem Hashed.digest_eq (h : r.Hashed message) : r.digest.1 = Sha256.digest message := by
  simp only [DigestingReader.digest, h.digest?_eq, h.hasher_eq, Sha256.Hasher.finish_ofMessage]

theorem Hashed.fixed (h : r.Hashed message) : r.digest.2.Fixed (Sha256.digest message) := by
  rw [← h.digest_eq]
  simp only [DigestingReader.digest, h.digest?_eq, Fixed]

theorem Fixed.digest_eq (h : r.Fixed digest) : r.digest = (digest, r) := by
  rw [Fixed] at h
  simp only [DigestingReader.digest, h]

end DigestingReader

/-! ## Sessions -/

/-- What a reader may be asked for. -/
inductive Demand where
  | read (room : Nat)
  | readToEnd (rooms : Rooms)
  | digest
  | hexDigest

namespace Demand

def asksDigest : Demand → Bool
  | .digest | .hexDigest => true
  | .read _ | .readToEnd _ => false

end Demand

namespace Source

/-- The bytes that a bare source hands out on a demand, and what is left of it then.  Asking for a
digest takes nothing from it. -/
def serve (s : Source) : Demand → List UInt8 × Source
  | .read room => (DigestingReader.bytesOf (s.read room).1, (s.read room).2)
  | .readToEnd _ => (s.readToEnd.1, s.readToEnd.2.2)
  | .digest | .hexDigest => ([], s)

def after (s : Source) (demands : List Demand) : Source :=
  demands.foldl (fun s demand => (s.serve demand).2) s

def handedOut : Source → List Demand → List UInt8
  | _, [] => []
  | s, demand :: demands => (s.serve demand).1 ++ handedOut (s.serve demand).2 demands

end Source

namespace DigestingReader

variable {r : DigestingReader} {message digest : List UInt8} {demand : Demand}

def serve (r : DigestingReader) : Demand → DigestingReader
  | .read room => (r.read room).2
  | .readToEnd rooms => (r.readToEndWith rooms).2
  | .digest => r.digest.2
  | .hexDigest => r.hexDigest.2

def after (r : DigestingReader) (demands : List Demand) : DigestingReader :=
  demands.foldl serve r

theorem after_cons (r : DigestingReader) (demand : Demand) (demands : List Demand) :
    r.after (demand :: demands) = (r.serve demand).after demands := rfl

theorem serve_of_asksDigest (h : demand.asksDigest = true) : r.serve demand = r.digest.2 := by
  cases demand with
  | digest | hexDigest => rfl
  | read | readToEnd => cases h

theorem source_digest (r : DigestingReader) : r.digest.2.source = r.source := by
  unfold DigestingReader.digest
  split <;> rfl

theorem source_serve (r : DigestingReader) (demand : Demand) :
    (r.serve demand).source = (r.source.serve demand).2 := by
  cases demand with
  | read room => exact source_read r room
  | readToEnd rooms => exact (readToEndWith_spec r rooms).2.1
  | digest | hexDigest => exact source_digest r

theorem passes_serve (r : DigestingReader) (h : demand.asksDigest = false) :
    r.Passes (r.source.serve demand).1 (r.serve demand) := by
  cases demand with
  | read room => exact passes_read r room
  | readToEnd rooms => exact (readToEndWith_spec r rooms).2.2
  | digest | hexDigest => cases h

theorem source_after (demands : List Demand) (r : DigestingReader) :
    (r.after demands).source = r.source.after demands := by
  induction demands generalizing r with
  | nil => rfl
  | cons demand demands ih =>
      rw [after_cons, ih, source_serve]
      rfl

theorem Fixed.serve (h : r.Fixed digest) (demand : Demand) : (r.serve demand).Fixed digest := by
  cases hasks : demand.asksDigest with
  | false => exact (passes_serve r hasks).fixed digest h
  | true =>
      rw [serve_of_asksDigest hasks, h.digest_eq]
      exact h

theorem Fixed.after (h : r.Fixed digest) (demands : List Demand) :
    (r.after demands).Fixed digest := by
  induction demands generalizing r with
  | nil => exact h
  | cons demand demands ih =>
      rw [after_cons]
      exact ih (h.serve demand)

/-- The first demand for the digest ends what it covers. -/
theorem Hashed.digest_after (h : r.Hashed message) (demands : List Demand) :
    (r.after demands).digest.1 =
      Sha256.digest
        (message ++ r.source.handedOut (demands.takeWhile fun demand => !demand.asksDigest)) := by
  induction demands generalizing r message with
  | nil =>
      rw [List.takeWhile_nil, Source.handedOut, List.append_nil]
      exact h.digest_eq
  | cons demand demands ih =>
      rw [after_cons]
      cases hasks : demand.asksDigest with
      | true =>
          -- No later demand adds to a digest that is fixed.
          have hfixed : (r.serve demand).Fixed (Sha256.digest message) := by
            rw [serve_of_asksDigest hasks]
            exact h.fixed
          rw [List.takeWhile_cons_of_neg (by simp [hasks]), Source.handedOut, List.append_nil,
            (hfixed.after demands).digest_eq]
      | false =>
          have hnext := (passes_serve r hasks).hashed message h
          rw [List.takeWhile_cons_of_pos (by simp [hasks]), Source.handedOut, ih hnext,
            source_serve, List.append_assoc]

theorem takeWhile_append_asksDigest (demands later : List Demand) (h : demand.asksDigest = true) :
    (demands ++ demand :: later).takeWhile (fun demand => !demand.asksDigest) =
      demands.takeWhile fun demand => !demand.asksDigest := by
  induction demands with
  | nil => rw [List.nil_append, List.takeWhile_cons_of_neg (by simp [h]), List.takeWhile_nil]
  | cons first demands ih =>
      cases hfirst : first.asksDigest with
      | true => simp [hfirst]
      | false => simp [hfirst, ih]

/-- After any demands, a reader answers each read as its bare source would after the same ones, and
the digest is that of the bytes which were handed out before it was first asked for, so that it is
the same ever after.  Reading to the end gives the same whatever the rooms of the buffers. -/
theorem forwards_and_digests (s : Source) (demands : List Demand) :
    (∀ room, (((ofSource s).after demands).read room).1 = ((s.after demands).read room).1) ∧
      (∀ rooms, (((ofSource s).after demands).readToEndWith rooms).1 =
        ((s.after demands).readToEnd.1, (s.after demands).readToEnd.2.1)) ∧
      ((ofSource s).after demands).digest.1 =
        Sha256.digest (s.handedOut (demands.takeWhile fun demand => !demand.asksDigest)) ∧
      ((ofSource s).after demands).hexDigest.1 = (Digest.ofContent
        (s.handedOut (demands.takeWhile fun demand => !demand.asksDigest))).text ∧
      ∀ demand later, demand.asksDigest = true →
        ((ofSource s).after (demands ++ demand :: later)).digest.1 =
          ((ofSource s).after demands).digest.1 := by
  have hsource : ((ofSource s).after demands).source = s.after demands := source_after demands _
  have hdigest := fun demands => (hashed_ofSource s).digest_after demands
  refine ⟨fun room => ?_, fun rooms => ?_, hdigest demands, ?_, ?_⟩
  · rw [read_fst, hsource]
  · rw [(readToEndWith_spec _ rooms).1, hsource]
  · rw [hexDigest, hdigest demands]
    rfl
  · intro demand later hasks
    rw [hdigest, hdigest, takeWhile_append_asksDigest demands later hasks]

end DigestingReader

end ArtifactCache
