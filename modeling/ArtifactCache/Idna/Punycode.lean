/-!
# Punycode

The encoding of RFC 3492, which writes any text with letters, digits and hyphens: first the basic
characters as they are, then for all others, in ascending order, how far a counter over code points
and places has to move, as a number with digits of varying base.
-/

namespace ArtifactCache.Idna.Punycode

/-- The threshold of the digit at distance `k`, between 1 and 26, for a bias. -/
def threshold (k bias : Nat) : Nat := if k ≤ bias then 1 else min (k - bias) 26

/-- How often a delta is divided by 35 until it is at most 455, and what is left. -/
def shrink (delta : Nat) (k : Nat) : Nat × Nat :=
  if 455 < delta then shrink (delta / 35) (k + 36) else (delta, k)
  termination_by delta

/-- The bias after a delta, when the text has `points` characters so far. -/
def adapt (delta points : Nat) (first : Bool) : Nat :=
  let halved := if first then delta / 700 else delta / 2
  let (rest, k) := shrink (halved + halved / points) 0
  k + 36 * rest / (rest + 38)

def digit (n : Nat) : Char := if n < 26 then Char.ofNat (97 + n) else Char.ofNat (22 + n)

def digitValue? (c : Char) : Option Nat :=
  if '0' ≤ c ∧ c ≤ '9' then some (c.toNat - 22)
  else if 'a' ≤ c ∧ c ≤ 'z' then some (c.toNat - 97)
  else if 'A' ≤ c ∧ c ≤ 'Z' then some (c.toNat - 65)
  else none

/-- The digits of a number, least first, from distance `k` on. -/
def numberDigits (bias q k : Nat) : List Char :=
  let t := threshold k bias
  if q < t then [digit q]
  else digit (t + (q - t) % (36 - t)) :: numberDigits bias ((q - t) / (36 - t)) (k + 36)
  termination_by q
  decreasing_by
    rename_i h
    have ht : 1 ≤ threshold k bias := by
      unfold threshold
      split <;> omega
    change ¬q < threshold k bias at h
    exact Nat.lt_of_le_of_lt (Nat.div_le_self _ _) (by omega)

structure Encoder where
  bias : Nat := 72
  delta : Nat := 0
  handled : Nat
  first : Bool := true
  /-- The digits written so far, last first. -/
  digits : List Char := []

/-- Walk once over the text: smaller characters move the counter on, and each equal to `n` writes
the counter and sets it to zero. -/
def Encoder.pass (n : Nat) (e : Encoder) : List Char → Encoder
  | [] => e
  | c :: rest =>
      if c.toNat < n then pass n { e with delta := e.delta + 1 } rest
      else if c.toNat = n then
        pass n
          { bias := adapt e.delta (e.handled + 1) e.first
            delta := 0
            handled := e.handled + 1
            first := false
            digits := (numberDigits e.bias e.delta 36).reverse ++ e.digits } rest
      else pass n e rest

/-- Write the characters of code point `n` and above, `values` being these code points in ascending
order without repetition. -/
def Encoder.run (text : List Char) (e : Encoder) (n : Nat) : List Nat → Encoder
  | [] => e
  | value :: values =>
      let moved := { e with delta := e.delta + (value - n) * (e.handled + 1) }
      let passed := Encoder.pass value moved text
      run text { passed with delta := passed.delta + 1 } (value + 1) values

/-- Put a number into an ascending list without repetition. -/
def insertValue (n : Nat) : List Nat → List Nat
  | [] => [n]
  | m :: rest =>
      if n < m then n :: m :: rest else if n = m then m :: rest else m :: insertValue n rest

def encode (text : List Char) : List Char :=
  let basic := text.filter (·.toNat < 128)
  let values := (text.filter (128 ≤ ·.toNat)).foldl (fun vs c => insertValue c.toNat vs) []
  let written := Encoder.run text { handled := basic.length } 128 values
  (if basic.isEmpty then [] else basic ++ ['-']) ++ written.digits.reverse

/-- Read one number from distance `k` on, adding to `sum` with weight `weight`. -/
def readNumber (bias sum weight k : Nat) : List Char → Option (Nat × List Char)
  | [] => none
  | c :: rest => do
      let d ← digitValue? c
      let t := threshold k bias
      let sum := sum + d * weight
      if d < t then some (sum, rest) else readNumber bias sum (weight * (36 - t)) (k + 36) rest

theorem readNumber_length {bias sum weight k : Nat} {s : List Char} {n : Nat} {rest : List Char}
    (h : readNumber bias sum weight k s = some (n, rest)) : rest.length < s.length := by
  induction s generalizing sum weight k with
  | nil => simp [readNumber] at h
  | cons c s ih =>
      simp only [readNumber, Option.bind_eq_bind, Option.bind_eq_some_iff] at h
      obtain ⟨d, -, h⟩ := h
      split at h
      · simp only [Option.some.injEq, Prod.mk.injEq] at h
        simp [← h.2]
      · have := ih h
        simp only [List.length_cons]
        omega

/-- The character with a code point that is one. -/
def charOf? (n : Nat) : Option Char := if h : n.isValidChar then some (Char.ofNatAux n h) else none

/-- Read the insertions behind the basic characters; `n` and `i` are the counter. -/
def insertAll (out : List Char) (n i bias : Nat) (first : Bool) (s : List Char) :
    Option (List Char) :=
  if s.isEmpty then some out
  else
    match _h : readNumber bias i 1 36 s with
    | none => none
    | some (j, rest) =>
        let points := out.length + 1
        let n := n + j / points
        let place := j % points
        match charOf? n with
        | none => none
        | some c =>
            insertAll (out.take place ++ c :: out.drop place) n (place + 1)
              (adapt (j - i) points first) false rest
  termination_by s.length
  decreasing_by exact readNumber_length _h

/-- The text before the last hyphen and the text after it. -/
def splitBasic (s : List Char) : List Char × List Char :=
  match s.reverse.span (· ≠ '-') with
  | (tail, _ :: init) => (init.reverse, tail.reverse)
  | (tail, []) => ([], tail.reverse)

def decode? (s : List Char) : Option (List Char) :=
  let (basic, rest) := splitBasic s
  if basic.all (·.toNat < 128) then insertAll basic 128 0 72 true rest else none

end ArtifactCache.Idna.Punycode
