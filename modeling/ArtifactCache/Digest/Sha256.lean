/-!
# SHA-256

The hash function of FIPS 180-4 on lists of bytes, in two forms: of a whole message, and of a
message that arrives in pieces.  The main statement is that the pieces do not matter: a hasher
that was fed any pieces, in order, gives the digest of their concatenation.
-/

namespace ArtifactCache.Sha256

structure State where
  a : UInt32
  b : UInt32
  c : UInt32
  d : UInt32
  e : UInt32
  f : UInt32
  g : UInt32
  h : UInt32
  deriving DecidableEq, Repr

namespace State

/-- The first 32 bits of the fractional parts of the square roots of the first eight primes. -/
def initial : State :=
  ⟨0x6a09e667, 0xbb67ae85, 0x3c6ef372, 0xa54ff53a, 0x510e527f, 0x9b05688c, 0x1f83d9ab, 0x5be0cd19⟩

def add (s t : State) : State :=
  ⟨s.a + t.a, s.b + t.b, s.c + t.c, s.d + t.d, s.e + t.e, s.f + t.f, s.g + t.g, s.h + t.h⟩

def words (s : State) : List UInt32 := [s.a, s.b, s.c, s.d, s.e, s.f, s.g, s.h]

end State

/-- The first 32 bits of the fractional parts of the cube roots of the first 64 primes. -/
def roundConstants : List UInt32 :=
  [0x428a2f98, 0x71374491, 0xb5c0fbcf, 0xe9b5dba5, 0x3956c25b, 0x59f111f1, 0x923f82a4, 0xab1c5ed5,
   0xd807aa98, 0x12835b01, 0x243185be, 0x550c7dc3, 0x72be5d74, 0x80deb1fe, 0x9bdc06a7, 0xc19bf174,
   0xe49b69c1, 0xefbe4786, 0x0fc19dc6, 0x240ca1cc, 0x2de92c6f, 0x4a7484aa, 0x5cb0a9dc, 0x76f988da,
   0x983e5152, 0xa831c66d, 0xb00327c8, 0xbf597fc7, 0xc6e00bf3, 0xd5a79147, 0x06ca6351, 0x14292967,
   0x27b70a85, 0x2e1b2138, 0x4d2c6dfc, 0x53380d13, 0x650a7354, 0x766a0abb, 0x81c2c92e, 0x92722c85,
   0xa2bfe8a1, 0xa81a664b, 0xc24b8b70, 0xc76c51a3, 0xd192e819, 0xd6990624, 0xf40e3585, 0x106aa070,
   0x19a4c116, 0x1e376c08, 0x2748774c, 0x34b0bcb5, 0x391c0cb3, 0x4ed8aa4a, 0x5b9cca4f, 0x682e6ff3,
   0x748f82ee, 0x78a5636f, 0x84c87814, 0x8cc70208, 0x90befffa, 0xa4506ceb, 0xbef9a3f7, 0xc67178f2]

def rotateRight (x : UInt32) (n : UInt32) : UInt32 := (x >>> n) ||| (x <<< (32 - n))

def bigSigma0 (x : UInt32) : UInt32 := rotateRight x 2 ^^^ rotateRight x 13 ^^^ rotateRight x 22

def bigSigma1 (x : UInt32) : UInt32 := rotateRight x 6 ^^^ rotateRight x 11 ^^^ rotateRight x 25

def smallSigma0 (x : UInt32) : UInt32 := rotateRight x 7 ^^^ rotateRight x 18 ^^^ (x >>> 3)

def smallSigma1 (x : UInt32) : UInt32 := rotateRight x 17 ^^^ rotateRight x 19 ^^^ (x >>> 10)

def choose (x y z : UInt32) : UInt32 := (x &&& y) ^^^ (~~~x &&& z)

def majority (x y z : UInt32) : UInt32 := (x &&& y) ^^^ (x &&& z) ^^^ (y &&& z)

/-- One round, with its constant `k` and its word `w` of the message schedule. -/
def round (s : State) (k w : UInt32) : State :=
  let t1 := s.h + bigSigma1 s.e + choose s.e s.f s.g + k + w
  let t2 := bigSigma0 s.a + majority s.a s.b s.c
  ⟨t1 + t2, s.a, s.b, s.c, s.d + t1, s.e, s.f, s.g⟩

/-- The word that follows a window of sixteen consecutive words of the message schedule. -/
def nextWord (window : List UInt32) : UInt32 :=
  smallSigma1 (window.getD 14 0) + window.getD 9 0 + smallSigma0 (window.getD 1 0) +
    window.getD 0 0

/-- One round for each constant; the window of the schedule moves on by one word each time. -/
def rounds : List UInt32 → List UInt32 → State → State
  | [], _, s => s
  | k :: ks, window, s =>
      rounds ks (window.tail ++ [nextWord window]) (round s k (window.headD 0))

def wordOfBytes (a b c d : UInt8) : UInt32 :=
  (a.toUInt32 <<< 24) ||| (b.toUInt32 <<< 16) ||| (c.toUInt32 <<< 8) ||| d.toUInt32

/-- Big-endian words; fewer than four bytes at the end do not count. -/
def wordsOfBytes : List UInt8 → List UInt32
  | a :: b :: c :: d :: rest => wordOfBytes a b c d :: wordsOfBytes rest
  | _ => []

def bytesOfWord (w : UInt32) : List UInt8 :=
  [(w >>> 24).toUInt8, (w >>> 16).toUInt8, (w >>> 8).toUInt8, w.toUInt8]

def compress (s : State) (block : List UInt8) : State :=
  s.add (rounds roundConstants (wordsOfBytes block) s)

/-- Compress all whole blocks; the second part is what is left over. -/
def absorb (s : State) (bytes : List UInt8) : State × List UInt8 :=
  if _ : (bytes.take 64).length < 64 then (s, bytes)
  else absorb (compress s (bytes.take 64)) (bytes.drop 64)
  termination_by bytes.length
  decreasing_by
    rename_i h
    simp only [List.length_take, List.length_drop] at h ⊢
    omega

/-- The eight big-endian bytes of a 64-bit number. -/
def lengthBytes (n : Nat) : List UInt8 :=
  [56, 48, 40, 32, 24, 16, 8, 0].map fun shift => UInt8.ofNat (n >>> shift)

/-- What is put after a message of `n` bytes: one bit, zeros, and the number of bits. -/
def padding (n : Nat) : List UInt8 :=
  0x80 :: (List.replicate ((119 - n % 64) % 64) 0 ++ lengthBytes (8 * n))

/-- The 32 bytes of the digest in a final state. -/
def output (s : State) : List UInt8 := s.words.flatMap bytesOfWord

def digest (message : List UInt8) : List UInt8 :=
  output (absorb State.initial (message ++ padding message.length)).1

/-- What a hasher keeps between the pieces: the state after all whole blocks, the bytes since,
and the number of bytes so far. -/
structure Hasher where
  state : State := State.initial
  pending : List UInt8 := []
  count : Nat := 0
  deriving DecidableEq, Repr

namespace Hasher

def empty : Hasher := {}

def update (h : Hasher) (piece : List UInt8) : Hasher :=
  let (state, pending) := absorb h.state (h.pending ++ piece)
  { state, pending, count := h.count + piece.length }

def finish (h : Hasher) : List UInt8 :=
  output (absorb h.state (h.pending ++ padding h.count)).1

end Hasher

theorem length_output (s : State) : (output s).length = 32 := rfl

theorem length_digest (message : List UInt8) : (digest message).length = 32 := length_output _

theorem absorb_short {s : State} {bytes : List UInt8} (h : bytes.length < 64) :
    absorb s bytes = (s, bytes) := by
  rw [absorb, dif_pos (by simp only [List.length_take]; omega)]

theorem absorb_block {s : State} {bytes : List UInt8} (h : 64 ≤ bytes.length) :
    absorb s bytes = absorb (compress s (bytes.take 64)) (bytes.drop 64) := by
  rw [absorb, dif_neg (by simp only [List.length_take]; omega)]

/-- Absorbing may be interrupted anywhere and taken up again. -/
theorem absorb_append (s : State) (xs ys : List UInt8) :
    absorb s (xs ++ ys) = absorb (absorb s xs).1 ((absorb s xs).2 ++ ys) := by
  by_cases h : xs.length < 64
  · rw [absorb_short h]
  · have hx : 64 ≤ xs.length := by omega
    have hxy : 64 ≤ (xs ++ ys).length := by rw [List.length_append]; omega
    rw [absorb_block hxy, absorb_block hx, List.take_append_of_le_length hx,
      List.drop_append_of_le_length hx]
    exact absorb_append _ _ ys
  termination_by xs.length
  decreasing_by rw [List.length_drop]; omega

namespace Hasher

/-- The hasher that has absorbed a message. -/
def ofMessage (message : List UInt8) : Hasher :=
  { state := (absorb State.initial message).1
    pending := (absorb State.initial message).2
    count := message.length }

theorem ofMessage_nil : ofMessage [] = empty := by
  simp [ofMessage, empty, absorb_short]

theorem update_ofMessage (message piece : List UInt8) :
    (ofMessage message).update piece = ofMessage (message ++ piece) := by
  simp [update, ofMessage, absorb_append State.initial message piece]

theorem finish_ofMessage (message : List UInt8) : (ofMessage message).finish = digest message := by
  simp [finish, ofMessage, digest, absorb_append State.initial message]

theorem foldl_update (pieces : List (List UInt8)) (message : List UInt8) :
    pieces.foldl update (ofMessage message) = ofMessage (message ++ pieces.flatten) := by
  induction pieces generalizing message with
  | nil => simp
  | cons piece pieces ih => simp [update_ofMessage, ih]

/-- A hasher does not see where one piece ends and the next begins. -/
theorem finish_foldl_update (pieces : List (List UInt8)) :
    (pieces.foldl update empty).finish = digest pieces.flatten := by
  rw [← ofMessage_nil, foldl_update, List.nil_append, finish_ofMessage]

/-- The digest of `abc` as the standard has it, here of two pieces. -/
example : (((empty.update [0x61]).update [0x62, 0x63]).finish) =
    [0xba, 0x78, 0x16, 0xbf, 0x8f, 0x01, 0xcf, 0xea, 0x41, 0x41, 0x40, 0xde, 0x5d, 0xae, 0x22, 0x23,
     0xb0, 0x03, 0x61, 0xa3, 0x96, 0x17, 0x7a, 0x9c, 0xb4, 0x10, 0xff, 0x61, 0xf2, 0x00, 0x15,
     0xad] := by
  decide +kernel

end Hasher

end ArtifactCache.Sha256
