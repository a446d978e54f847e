import ArtifactCache.Text

/-!
# Blanks and numerals

Values that stand between blanks, and the grammar of the numerals among them.
-/

namespace ArtifactCache.Text

/-!
## Values between blanks

A value may stand between blanks, and trimming gives it back.  In particular the decimal text of a
64-bit word is read as that word, whatever blanks are around it.
-/

section Padding

def Blank (s : List Char) : Prop := ∀ c ∈ s, isBlank c = true

instance (s : List Char) : Decidable (Blank s) :=
  decidable_of_iff (s.all isBlank = true) List.all_eq_true

/-- Nothing but blanks stands around `inner`. -/
def Padded (s inner : List Char) : Prop :=
  ∃ front back, s = front ++ inner ++ back ∧ Blank front ∧ Blank back

variable {s t inner : List Char}

theorem blank_nil : Blank [] := nofun

theorem Blank.append (hs : Blank s) (ht : Blank t) : Blank (s ++ t) := by
  intro c hc
  rcases List.mem_append.1 hc with h | h
  · exact hs c h
  · exact ht c h

theorem Blank.trimStart_append (hs : Blank s) (t : List Char) :
    trimStart (s ++ t) = trimStart t := by
  induction s with
  | nil => rfl
  | cons c s ih =>
      have hc : isBlank c = true := hs c List.mem_cons_self
      have hrest : Blank s := fun d hd => hs d (List.mem_cons_of_mem c hd)
      have hstep : trimStart (c :: s ++ t) = trimStart (s ++ t) := by
        simp only [trimStart, List.cons_append, List.dropWhile_cons, hc, if_true]
      rw [hstep, ih hrest]

theorem Blank.trimEnd_append (ht : Blank t) (s : List Char) : trimEnd (s ++ t) = trimEnd s := by
  have hback : Blank t.reverse := fun c hc => ht c (List.mem_reverse.1 hc)
  have hdrop := hback.trimStart_append s.reverse
  simp only [trimStart] at hdrop
  rw [trimEnd, trimEnd, List.reverse_append, hdrop]

theorem trimStart_blank (s : List Char) : ∃ front, s = front ++ trimStart s ∧ Blank front := by
  refine ⟨s.takeWhile isBlank, List.takeWhile_append_dropWhile.symm, ?_⟩
  intro c hc
  exact (List.all_eq_true.1 (List.all_takeWhile (p := isBlank) (l := s))) c hc

theorem trimEnd_blank (s : List Char) : ∃ back, s = trimEnd s ++ back ∧ Blank back := by
  obtain ⟨front, hfront, hblank⟩ := trimStart_blank s.reverse
  refine ⟨front.reverse, ?_, fun c hc => hblank c (List.mem_reverse.1 hc)⟩
  have hrev := congrArg List.reverse hfront
  rwa [List.reverse_reverse, List.reverse_append] at hrev

theorem padded_trim (s : List Char) : Padded s (trim s) := by
  obtain ⟨front, hfront, hblank⟩ := trimStart_blank s
  obtain ⟨back, hback, hblank'⟩ := trimEnd_blank (trimStart s)
  refine ⟨front, back, ?_, hblank, hblank'⟩
  rw [trim, List.append_assoc, ← hback, ← hfront]

theorem Padded.trim_eq (h : Padded s inner) (hinner : Trimmed inner) : trim s = inner := by
  obtain ⟨front, back, rfl, hfront, hback⟩ := h
  have hstart : trimStart (front ++ inner ++ back) = trimStart (inner ++ back) := by
    rw [List.append_assoc, hfront.trimStart_append]
  cases inner with
  | nil =>
      have hnone : trimStart back = [] := by
        have := hback.trimStart_append []
        rwa [List.append_nil] at this
      rw [trim, hstart, List.nil_append, hnone]
      rfl
  | cons c rest =>
      have hc : isBlank c = false := hinner.1 c rfl
      have hkeep : trimStart (c :: rest ++ back) = c :: rest ++ back := by
        simp [trimStart, hc]
      have hall : trim (c :: rest) = c :: rest := trim_eq_self hinner
      have hfirst : trimStart (c :: rest) = c :: rest := by
        simp [trimStart, hc]
      rw [trim, hfirst] at hall
      rw [trim, hstart, hkeep, hback.trimEnd_append, hall]

theorem Trimmed.of_forall (h : ∀ c ∈ s, isBlank c = false) : Trimmed s :=
  ⟨fun c hc => h c (List.mem_of_mem_head? hc), fun c hc => h c (List.mem_of_getLast? hc)⟩

/-! ### Decimal texts -/

theorem isBlank_eq_false_of_isDigit {c : Char} (h : isDigit c = true) : isBlank c = false := by
  obtain ⟨hlow, hhigh⟩ : 48 ≤ c.toNat ∧ c.toNat ≤ 57 := by
    simpa [isDigit, Char.le_def, UInt32.le_iff_toNat_le] using h
  simp only [isBlank, Bool.or_eq_false_iff, Bool.and_eq_false_iff, decide_eq_false_iff_not,
    beq_eq_false_iff_ne]
  omega

theorem digitsValue_toDigits (n : Nat) : digitsValue (Nat.toDigits 10 n) = n := by
  have hfold : digitsValue (Nat.toDigits 10 n) = Nat.ofDigitChars 10 (Nat.toDigits 10 n) 0 := by
    rw [Nat.ofDigitChars_eq_foldl]
    rfl
  rw [hfold, Nat.ofDigitChars_ten_toDigits]

theorem isDigit_of_mem_toDigits {n : Nat} {c : Char} (h : c ∈ Nat.toDigits 10 n) :
    isDigit c = true :=
  Nat.isDigit_of_mem_toDigits (by decide) (by decide) h

theorem readDigits?_toDigits (n : Nat) : readDigits? (Nat.toDigits 10 n) = some n := by
  have hsome : (Nat.toDigits 10 n).isEmpty = false := by
    simp [Nat.toDigits_ne_nil]
  have hall : (Nat.toDigits 10 n).all isDigit = true :=
    List.all_eq_true.2 fun c hc => isDigit_of_mem_toDigits hc
  rw [readDigits?, hsome, hall, digitsValue_toDigits]
  rfl

theorem dropPlus_toDigits (n : Nat) : dropPlus (Nat.toDigits 10 n) = Nat.toDigits 10 n := by
  cases hdigits : Nat.toDigits 10 n with
  | nil => rfl
  | cons c rest =>
      have hc : isDigit c = true := isDigit_of_mem_toDigits (hdigits ▸ List.mem_cons_self)
      unfold dropPlus
      split
      · next heq =>
          cases heq
          cases hc
      · rfl

theorem readWord?_of_padded {n : Nat} (h : Padded s (Nat.toDigits 10 n)) (hn : n < wordBound) :
    readWord? (trim s) = some n := by
  have htrimmed : Trimmed (Nat.toDigits 10 n) :=
    .of_forall fun c hc => isBlank_eq_false_of_isDigit (isDigit_of_mem_toDigits hc)
  rw [h.trim_eq htrimmed, readWord?, readBelow?_eq_some_iff, dropPlus_toDigits]
  exact ⟨readDigits?_toDigits n, hn⟩

end Padding

/-!
## The grammar of numerals

A numeral has at least one ASCII digit, and may have a plus sign in front.  It is read as the number
that its digits stand for, one place after the other, if that number is a word of 64 bits.
-/

section Numerals

/-- The digits of ASCII, each at the place that is its value. -/
def decimals : List Char := "0123456789".toList

/-- A text of digits, and the number that it stands for. -/
inductive Decimal : List Char → Nat → Prop
  | digit {c : Char} {n : Nat} : decimals[n]? = some c → Decimal [c] n
  | concat {s : List Char} {m : Nat} {c : Char} {n : Nat} :
      Decimal s m → decimals[n]? = some c → Decimal (s ++ [c]) (10 * m + n)

/-- The digits of a number, with or without a plus sign. -/
def IsNumeral (s : List Char) (n : Nat) : Prop :=
  Decimal s n ∨ ∃ digits, s = '+' :: digits ∧ Decimal digits n

variable {s : List Char} {c : Char} {n : Nat}

theorem decimals_of_digit : ∀ n : Fin 10,
    decimals[n.val]? = some (Char.ofNat (48 + n)) ∧ isDigit (Char.ofNat (48 + n)) = true ∧
      digitValue (Char.ofNat (48 + n)) = n := by decide

theorem decimals_eq_some_iff :
    decimals[n]? = some c ↔ isDigit c = true ∧ digitValue c = n := by
  constructor
  · intro h
    have hlt : n < 10 := (List.getElem?_eq_some_iff.1 h).1
    obtain ⟨hplace, hdigit⟩ := decimals_of_digit ⟨n, hlt⟩
    obtain rfl : Char.ofNat (48 + n) = c := Option.some.inj (hplace.symm.trans h)
    exact hdigit
  · rintro ⟨hdigit, rfl⟩
    have hrange : 48 ≤ c.toNat ∧ c.toNat ≤ 57 := by
      simpa [isDigit, Char.le_def, UInt32.le_iff_toNat_le] using hdigit
    have hlt : c.toNat - 48 < 10 := by omega
    have hchar : Char.ofNat (48 + (c.toNat - 48)) = c := by
      rw [Nat.add_sub_cancel' hrange.1, Char.ofNat_toNat]
    have hplace := (decimals_of_digit ⟨c.toNat - 48, hlt⟩).1
    rw [hchar] at hplace
    exact hplace

theorem digitsValue_concat (s : List Char) (c : Char) :
    digitsValue (s ++ [c]) = 10 * digitsValue s + digitValue c := by
  rw [digitsValue, List.foldl_append]
  rfl

theorem readDigits?_eq_some_iff :
    readDigits? s = some n ↔ s ≠ [] ∧ (∀ c ∈ s, isDigit c = true) ∧ digitsValue s = n := by
  simp [readDigits?, and_assoc]

theorem decimal_of_digits (hs : s ≠ []) (hall : ∀ c ∈ s, isDigit c = true) :
    Decimal s (digitsValue s) := by
  induction hlength : s.length generalizing s with
  | zero => exact absurd (List.length_eq_zero_iff.1 hlength) hs
  | succ length ih =>
      -- The last digit counts least, so it is taken off first.
      obtain ⟨front, c, rfl⟩ : ∃ front c, s = front ++ [c] :=
        ⟨_, _, (List.dropLast_concat_getLast hs).symm⟩
      have hc : decimals[digitValue c]? = some c :=
        decimals_eq_some_iff.2 ⟨hall c (by simp), rfl⟩
      rw [digitsValue_concat]
      by_cases hfront : front = []
      · subst hfront
        have hvalue : 10 * digitsValue [] + digitValue c = digitValue c := by
          simp [digitsValue]
        rw [hvalue]
        exact .digit hc
      · apply Decimal.concat _ hc
        apply ih hfront
        · exact fun d hd => hall d (List.mem_append_left [c] hd)
        · simpa using hlength

theorem decimal_iff : Decimal s n ↔ readDigits? s = some n := by
  rw [readDigits?_eq_some_iff]
  constructor
  · intro h
    induction h with
    | digit hc =>
        obtain ⟨hdigit, rfl⟩ := decimals_eq_some_iff.1 hc
        exact ⟨List.cons_ne_nil _ _, by simpa using hdigit, by simp [digitsValue]⟩
    | concat _ hc ih =>
        obtain ⟨hdigit, rfl⟩ := decimals_eq_some_iff.1 hc
        obtain ⟨-, hall, rfl⟩ := ih
        refine ⟨by simp, ?_, digitsValue_concat _ _⟩
        intro d hd
        rcases List.mem_append.1 hd with hd | hd
        · exact hall d hd
        · rwa [List.mem_singleton.1 hd]
  · rintro ⟨hs, hall, rfl⟩
    exact decimal_of_digits hs hall

theorem not_decimal_plus (digits : List Char) : ¬ Decimal ('+' :: digits) n := by
  intro h
  have hall := (readDigits?_eq_some_iff.1 (decimal_iff.1 h)).2.1
  exact absurd (hall '+' List.mem_cons_self) (by decide)

theorem isNumeral_iff : IsNumeral s n ↔ readDigits? (dropPlus s) = some n := by
  rw [← decimal_iff]
  unfold dropPlus
  split
  · next digits =>
      constructor
      · rintro (h | ⟨_, heq, h⟩)
        · exact absurd h (not_decimal_plus digits)
        · cases heq
          exact h
      · exact fun h => .inr ⟨digits, rfl, h⟩
  · next hplus =>
      constructor
      · rintro (h | ⟨digits, rfl, -⟩)
        · exact h
        · exact absurd rfl (hplus digits)
      · exact .inl

theorem IsNumeral.unique {m : Nat} (h : IsNumeral s n) (h' : IsNumeral s m) : n = m :=
  Option.some.inj ((isNumeral_iff.1 h).symm.trans (isNumeral_iff.1 h'))

theorem readWord?_eq_some_iff : readWord? s = some n ↔ IsNumeral s n ∧ n < UInt64.size := by
  rw [readWord?, readBelow?_eq_some_iff, isNumeral_iff]
  rfl

end Numerals

end ArtifactCache.Text
