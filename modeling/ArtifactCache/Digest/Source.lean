import ArtifactCache.Error

/-!
# Reading and hashing a source of bytes

A source hands out its pieces in order, at most one piece a read and no more bytes than the reader
has room for; a read of no bytes ends it.  A hashing reader passes on what its source gives and
hashes every byte of it until the digest is asked for.
-/

namespace ArtifactCache

/-- What a source has in store: bytes, or an error that is returned once. -/
inductive Source.Item where
  | piece (bytes : List UInt8)
  | failure (cause : IoError)
  deriving DecidableEq, Repr

abbrev Source := List Source.Item

namespace Source

/-- One read into a buffer with room for `room` bytes. -/
def read (room : Nat) : Source → Except IoError (List UInt8) × Source
  | [] => (.ok [], [])
  | item :: rest =>
      if room = 0 then (.ok [], item :: rest)
      else
        match item with
        | .failure cause => (.error cause, rest)
        | .piece bytes =>
            (.ok (bytes.take room),
              if (bytes.drop room).isEmpty then rest else .piece (bytes.drop room) :: rest)

/-- Everything up to the first read of no bytes or the first error, an interruption apart. -/
def readToEnd : Source → List UInt8 × Option IoError × Source
  | [] => ([], none, [])
  | .failure cause :: rest =>
      if cause.isInterrupted then readToEnd rest else ([], some cause, rest)
  | .piece bytes :: rest =>
      if bytes.isEmpty then ([], none, rest)
      else
        let (more, cause, left) := readToEnd rest
        (bytes ++ more, cause, left)

/-- An upper bound on the number of reads that a source can answer with bytes or an error. -/
def weight : Source → Nat
  | [] => 0
  | .failure _ :: rest => weight rest + 1
  | .piece bytes :: rest => weight rest + bytes.length + 1

/-- A read that does not end the source takes something from it. -/
theorem weight_read_lt {room : Nat} {s : Source} (h : (s.read room).1 ≠ .ok []) :
    weight (s.read room).2 < weight s := by
  cases s with
  | nil => exact absurd rfl h
  | cons item rest =>
      by_cases hroom : room = 0
      · simp [read, hroom] at h
      · cases item with
        | failure cause =>
            simp only [read, if_neg hroom, weight]
            omega
        | piece bytes =>
            simp only [read, if_neg hroom] at h ⊢
            have hbytes : 0 < bytes.length := by
              apply List.length_pos_iff.2
              rintro rfl
              simp at h
            split
            · simp only [weight]
              omega
            · simp only [weight, List.length_drop]
              omega

end Source

/-- The rooms of the buffers that are read into, one after the other. -/
structure Rooms where
  room : Nat → Nat
  room_pos : ∀ n, 0 < room n

namespace Rooms

def first (rooms : Rooms) : Nat := rooms.room 0

theorem first_pos (rooms : Rooms) : 0 < rooms.first := rooms.room_pos 0

def tail (rooms : Rooms) : Rooms where
  room n := rooms.room (n + 1)
  room_pos n := rooms.room_pos (n + 1)

/-- Every buffer has room for 64 KiB. -/
def large : Rooms where
  room _ := 64 * 1024
  room_pos _ := by decide

end Rooms

structure DigestingReader where
  source : Source
  hasher : Sha256.Hasher := .empty
  /-- The digest, once it was asked for; later bytes do not change it. -/
  digest? : Option (List UInt8) := none

namespace DigestingReader

def ofSource (source : Source) : DigestingReader := { source }

/-- Hash some bytes that were handed out, unless the digest is fixed already. -/
def note (r : DigestingReader) (bytes : List UInt8) : DigestingReader :=
  match r.digest? with
  | some _ => r
  | none => { r with hasher := r.hasher.update bytes }

def read (r : DigestingReader) (room : Nat) : Except IoError (List UInt8) × DigestingReader :=
  let (answer, source) := r.source.read room
  match answer with
  | .ok bytes => (.ok bytes, { r with source }.note bytes)
  | .error cause => (.error cause, { r with source })

@[simp] theorem source_note (r : DigestingReader) (bytes : List UInt8) :
    (r.note bytes).source = r.source := by
  unfold note
  split <;> rfl

@[simp] theorem read_fst (r : DigestingReader) (room : Nat) :
    (r.read room).1 = (r.source.read room).1 := by
  cases h : r.source.read room with
  | mk answer rest => cases answer <;> simp only [read, h]

@[simp] theorem source_read (r : DigestingReader) (room : Nat) :
    (r.read room).2.source = (r.source.read room).2 := by
  cases h : r.source.read room with
  | mk answer rest => cases answer <;> simp only [read, h, source_note]

theorem weight_lt_of_read {r rest : DigestingReader} {room : Nat}
    {answer : Except IoError (List UInt8)} (h : r.read room = (answer, rest))
    (hanswer : answer ≠ .ok []) : rest.source.weight < r.source.weight := by
  have hfst : (r.source.read room).1 = answer := by rw [← read_fst, h]
  have hsource : (r.source.read room).2 = rest.source := by rw [← source_read, h]
  rw [← hsource]
  exact Source.weight_read_lt (hfst.symm ▸ hanswer)

/-- Read into one buffer after the other until a read of no bytes or an error, an interruption
apart: the bytes read, and the error that stopped it, if any. -/
def readToEndWith (rooms : Rooms) (r : DigestingReader) :
    (List UInt8 × Option IoError) × DigestingReader :=
  match _h : r.read rooms.first with
  | (.error cause, rest) =>
      if cause.isInterrupted then readToEndWith rooms.tail rest else (([], some cause), rest)
  | (.ok bytes, rest) =>
      if _ : bytes = [] then (([], none), rest)
      else
        let ((more, cause), last) := readToEndWith rooms.tail rest
        ((bytes ++ more, cause), last)
  termination_by r.source.weight
  decreasing_by all_goals exact weight_lt_of_read _h (by simp_all)

def readToEnd (r : DigestingReader) : (List UInt8 × Option IoError) × DigestingReader :=
  r.readToEndWith .large

/-- The digest of all bytes handed out before it was first asked for. -/
def digest (r : DigestingReader) : List UInt8 × DigestingReader :=
  match r.digest? with
  | some bytes => (bytes, r)
  | none => (r.hasher.finish, { r with digest? := some r.hasher.finish })

def hexDigest (r : DigestingReader) : String × DigestingReader :=
  (String.ofList (Text.Hex.encode r.digest.1), r.digest.2)

/-- Read into one buffer after the other until a read of no bytes, and take the digest then; the
first error ends it. -/
def digestRest (rooms : Rooms) (r : DigestingReader) : Except IoError (List UInt8) :=
  match _h : r.read rooms.first with
  | (.error cause, _) => .error cause
  | (.ok bytes, rest) =>
      if _ : bytes = [] then .ok rest.digest.1 else digestRest rooms.tail rest
  termination_by r.source.weight
  decreasing_by exact weight_lt_of_read _h (by simp_all)

end DigestingReader

namespace Source

/-- The digest of all that a source delivers before it ends; no error is retried. -/
def hash (s : Source) : Except HashError (List UInt8) :=
  ((DigestingReader.ofSource s).digestRest .large).mapError .source

def hashText (s : Source) : Except HashError String :=
  s.hash.map fun digest => String.ofList (Text.Hex.encode digest)

end Source

end ArtifactCache
