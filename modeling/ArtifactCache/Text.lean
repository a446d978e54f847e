/-!
# Reading texts

The parts that other texts are made of: blanks at the ends, bytes in hexadecimal, decimal numerals,
and texts that stand inside of others.
-/

namespace ArtifactCache.Text

/-!
## Blank margins

The characters with the Unicode property `White_Space`, and the text that is left when those at
both ends are removed.  A trimmed text has no blank at either end, and trimming it again changes
nothing.
-/

/-- The characters of the Unicode property `White_Space`. -/
def isBlank (c : Char) : Bool :=
  let n := c.toNat
  (9 ≤ n && n ≤ 13) || n == 0x20 || n == 0x85 || n == 0xA0 || n == 0x1680 ||
    (0x2000 ≤ n && n ≤ 0x200A) || n == 0x2028 || n == 0x2029 || n == 0x202F || n == 0x205F ||
    n == 0x3000

def trimStart (s : List Char) : List Char := s.dropWhile isBlank

def trimEnd (s : List Char) : List Char := (s.reverse.dropWhile isBlank).reverse

def trim (s : List Char) : List Char := trimEnd (trimStart s)

/-- A text whose first and last characters, if any, are not blank. -/
def Trimmed (s : List Char) : Prop :=
  (∀ c, s.head? = some c → isBlank c = false) ∧ (∀ c, s.getLast? = some c → isBlank c = false)

theorem head?_dropWhile_not {α : Type} (p : α → Bool) (s : List α) {c : α}
    (h : (s.dropWhile p).head? = some c) : p c = false := by
  induction s with
  | nil => simp at h
  | cons a s ih =>
      by_cases ha : p a = true
      · exact ih (by simpa [List.dropWhile, ha] using h)
      · simp only [List.dropWhile, ha] at h
        simp only [List.head?_cons, Option.some.injEq] at h
        simpa [h] using ha

theorem getLast?_trimEnd {s : List Char} {c : Char} (h : (trimEnd s).getLast? = some c) :
    isBlank c = false := by
  unfold trimEnd at h
  rw [List.getLast?_reverse] at h
  exact head?_dropWhile_not _ _ h

theorem trimEnd_prefix (s : List Char) : trimEnd s <+: s := by
  have h : s.reverse.dropWhile isBlank <:+ s.reverse := List.dropWhile_suffix _
  simpa [trimEnd] using List.reverse_prefix.2 h

theorem trim_trimmed (s : List Char) : Trimmed (trim s) := by
  refine ⟨fun c hc => ?_, fun c hc => getLast?_trimEnd hc⟩
  obtain ⟨t, ht⟩ := trimEnd_prefix (trimStart s)
  refine head?_dropWhile_not isBlank s (c := c) ?_
  change (trimStart s).head? = some c
  rw [← ht]
  unfold trim at hc
  cases hs : trimEnd (trimStart s) with
  | nil => simp [hs] at hc
  | cons a r => simpa [hs] using hc

theorem dropWhile_eq_self_of_head? {α : Type} {p : α → Bool} {s : List α}
    (h : ∀ c, s.head? = some c → p c = false) : s.dropWhile p = s := by
  cases s with
  | nil => rfl
  | cons a s => simp [List.dropWhile, h a rfl]

theorem trim_eq_self {s : List Char} (h : Trimmed s) : trim s = s := by
  unfold trim trimStart trimEnd
  rw [dropWhile_eq_self_of_head? h.1,
    dropWhile_eq_self_of_head? (by simpa [List.head?_reverse] using h.2), List.reverse_reverse]

@[simp] theorem trim_trim (s : List Char) : trim (trim s) = trim s := trim_eq_self (trim_trimmed s)

/-!
## Bytes in hexadecimal

Two lower-case digits a byte, and the reading of such a text in either case.  Reading what was
written gives the bytes back, and writing what was read gives the text in lower case.
-/

namespace Hex

def digit (n : Nat) : Char := if n < 10 then Char.ofNat (48 + n) else Char.ofNat (87 + n)

/-- The value of a hexadecimal digit of either case. -/
def value? (c : Char) : Option Nat :=
  if '0' ≤ c ∧ c ≤ '9' then some (c.toNat - 48)
  else if 'a' ≤ c ∧ c ≤ 'f' then some (c.toNat - 87)
  else if 'A' ≤ c ∧ c ≤ 'F' then some (c.toNat - 55)
  else none

def isDigit (c : Char) : Bool := (value? c).isSome

def encodeByte (b : UInt8) : List Char := [digit (b.toNat / 16), digit (b.toNat % 16)]

def encode (bytes : List UInt8) : List Char := bytes.flatMap encodeByte

/-- Refuses an odd number of digits and any other character. -/
def decode? : List Char → Option (List UInt8)
  | [] => some []
  | [_] => none
  | hi :: lo :: rest => do
      let h ← value? hi
      let l ← value? lo
      let tail ← decode? rest
      some (UInt8.ofNat (16 * h + l) :: tail)

theorem length_encode (bytes : List UInt8) : (encode bytes).length = 2 * bytes.length := by
  induction bytes with
  | nil => rfl
  | cons b bytes ih =>
      simp only [encode, List.flatMap_cons, List.length_append, List.length_cons] at ih ⊢
      simp only [encodeByte, List.length_cons, List.length_nil]
      omega

theorem value?_digit : ∀ n : Fin 16, value? (digit n) = some n.val := by decide

theorem decode?_encode (bytes : List UInt8) : decode? (encode bytes) = some bytes := by
  induction bytes with
  | nil => rfl
  | cons b bytes ih =>
      have hb : b.toNat < 256 := b.toNat_lt
      have hi := value?_digit ⟨b.toNat / 16, by omega⟩
      have lo := value?_digit ⟨b.toNat % 16, by omega⟩
      simp only [encode] at ih
      simp only [encode, List.flatMap_cons, encodeByte, List.cons_append, List.nil_append, decode?,
        hi, lo, ih, Option.bind_eq_bind, Option.bind_some, Option.some.injEq, List.cons.injEq,
        and_true]
      apply UInt8.toNat_inj.1
      rw [UInt8.toNat_ofNat']
      omega

end Hex

/-!
## Decimal numerals

Reading a decimal numeral below a bound, and writing a natural number in decimal.  The grammar is
an optional plus sign and at least one ASCII digit; leading zeros are allowed and there is no
limit on their number, since the value is computed exactly before it is compared with the bound.
-/

/-- The number of values of a 64-bit word. -/
def wordBound : Nat := UInt64.size

def isDigit (c : Char) : Bool := '0' ≤ c && c ≤ '9'

def digitValue (c : Char) : Nat := c.toNat - '0'.toNat

def digitsValue (s : List Char) : Nat := s.foldl (fun n c => 10 * n + digitValue c) 0

def readDigits? (s : List Char) : Option Nat :=
  if !s.isEmpty && s.all isDigit then some (digitsValue s) else none

/-- One plus sign, if there is one, does not count. -/
def dropPlus : List Char → List Char
  | '+' :: s => s
  | s => s

/-- The value of a numeral with an optional plus sign, when it is below `bound`. -/
def readBelow? (bound : Nat) (s : List Char) : Option Nat :=
  (readDigits? (dropPlus s)).filter (· < bound)

theorem readBelow?_eq_some_iff {bound n : Nat} {s : List Char} :
    readBelow? bound s = some n ↔ readDigits? (dropPlus s) = some n ∧ n < bound := by
  simp [readBelow?, Option.filter_eq_some_iff]

def readWord? (s : List Char) : Option Nat := readBelow? wordBound s

/-! ## Texts inside of texts -/

def contains (text part : List Char) : Bool :=
  part.isPrefixOf text ||
    match text with
    | [] => false
    | _ :: rest => contains rest part

theorem contains_iff {text part : List Char} : contains text part = true ↔ part <:+: text := by
  induction text with
  | nil => simp [contains, List.infix_nil]
  | cons c text ih =>
      rw [contains, Bool.or_eq_true, List.isPrefixOf_iff_prefix, ih, List.infix_cons_iff]

end ArtifactCache.Text
