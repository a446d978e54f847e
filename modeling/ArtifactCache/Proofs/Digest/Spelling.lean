import ArtifactCache.Digest.Basic
import ArtifactCache.Proofs.Text.Bytes
import ArtifactCache.Proofs.Text.Numerals

/-!
# The spellings of a digest

A digest is spelled by its hexadecimal digits in either case, with or without the scheme in either
case before them, and blanks around both.  These are exactly the texts that are read as the digest.
-/

namespace ArtifactCache

/-!
## The canonical spelling of a digest

The canonical text of a digest has no blanks and no scheme to be taken off, and is read back as the
digest.
-/

namespace Text.Hex

theorem exists_digit_of_mem_encode {bytes : List UInt8} {c : Char} (h : c ∈ encode bytes) :
    ∃ n : Fin 16, c = digit n := by
  obtain ⟨b, -, hc⟩ := List.mem_flatMap.1 h
  have hb : b.toNat < 256 := b.toNat_lt
  simp only [encodeByte, List.mem_cons, List.not_mem_nil, or_false] at hc
  rcases hc with rfl | rfl
  · exact ⟨⟨b.toNat / 16, by omega⟩, rfl⟩
  · exact ⟨⟨b.toNat % 16, by omega⟩, rfl⟩

theorem isBlank_digit : ∀ n : Fin 16, isBlank (digit n) = false := by decide

theorem toLower_digit_ne : ∀ n : Fin 16, (digit n).toLower ≠ 's' := by decide

theorem trim_encode (bytes : List UInt8) : trim (encode bytes) = encode bytes := by
  have hblank : ∀ c ∈ encode bytes, isBlank c = false := by
    intro c hc
    obtain ⟨n, rfl⟩ := exists_digit_of_mem_encode hc
    exact isBlank_digit n
  apply trim_eq_self
  refine ⟨fun c hc => hblank c ?_, fun c hc => hblank c ?_⟩
  · exact List.mem_of_mem_head? hc
  · exact List.mem_of_getLast? hc

end Text.Hex

namespace Digest

theorem dropScheme_chars (d : Digest) : dropScheme d.chars = d.chars := by
  refine if_neg fun hscheme => ?_
  cases hchars : d.chars with
  | nil =>
      rw [hchars] at hscheme
      cases hscheme
  | cons c rest =>
      have hc : c ∈ Text.Hex.encode d.bytes := by
        change c ∈ d.chars
        simp [hchars]
      obtain ⟨n, rfl⟩ := Text.Hex.exists_digit_of_mem_encode hc
      rw [hchars] at hscheme
      exact Text.Hex.toLower_digit_ne n (List.cons.inj hscheme).1

@[simp] theorem bareDigits_chars (d : Digest) : bareDigits d.chars = d.chars := by
  have htrim : Text.trim d.chars = d.chars := Text.Hex.trim_encode d.bytes
  rw [bareDigits, htrim, dropScheme_chars, htrim]

@[simp] theorem ofText?_text (d : Digest) : ofText? d.text = some d := by
  rw [ofText?, text, String.toList_ofList, ofChars?, bareDigits_chars, chars,
    Text.Hex.decode?_encode]
  exact ofBytes?_bytes d

end Digest

/-! ## The spellings of a digest -/

namespace Text.Hex

variable {s : List Char} {bytes : List UInt8} {c : Char} {n : Nat}

theorem toLower_of_not_ascii (h : 128 ≤ c.toNat) : c.toLower = c := by
  refine dif_neg fun hc => ?_
  have hhigh : c.toNat ≤ 90 := hc.2
  omega

theorem value?_of_not_ascii (h : 128 ≤ c.toNat) : value? c = none := by
  have habove : ∀ d : Char, d.toNat < 128 → ¬ c ≤ d := by
    intro d hd hcd
    have hle : c.toNat ≤ d.toNat := hcd
    omega
  rw [value?, if_neg fun hc => habove '9' (by decide) hc.2,
    if_neg fun hc => habove 'f' (by decide) hc.2, if_neg fun hc => habove 'F' (by decide) hc.2]

theorem value?_toLower_ascii : ∀ n : Fin 128,
    value? (Char.ofNat n).toLower = value? (Char.ofNat n) := by decide

theorem toLower_ascii : ∀ n : Fin 128, (value? (Char.ofNat n)).all fun k =>
    k < 16 ∧ (Char.ofNat n).toLower = digit k := by decide

theorem value?_toLower (c : Char) : value? c.toLower = value? c := by
  obtain ⟨n, rfl⟩ | hc := ascii_cases c
  · exact value?_toLower_ascii n
  · rw [toLower_of_not_ascii hc]

theorem toLower_eq_digit (h : value? c = some n) : n < 16 ∧ c.toLower = digit n := by
  obtain ⟨k, rfl⟩ | hc := ascii_cases c
  · simpa [h] using toLower_ascii k
  · rw [value?_of_not_ascii hc] at h
    cases h

theorem decode?_map_toLower (s : List Char) : decode? (s.map Char.toLower) = decode? s := by
  fun_induction decode? s with
  | case1 => rfl
  | case2 c => rfl
  | case3 hi lo rest ih => simp only [List.map_cons, decode?, value?_toLower, ih]

theorem map_toLower_of_decode? (h : decode? s = some bytes) :
    s.map Char.toLower = encode bytes := by
  fun_induction decode? s generalizing bytes with
  | case1 =>
      cases h
      rfl
  | case2 c => cases h
  | case3 hi lo rest ih =>
      simp only [Option.bind_eq_bind, Option.bind_eq_some_iff, Option.some.injEq] at h
      obtain ⟨high, hhigh, low, hlow, tail, htail, rfl⟩ := h
      obtain ⟨hhigh16, hhi⟩ := toLower_eq_digit hhigh
      obtain ⟨hlow16, hlo⟩ := toLower_eq_digit hlow
      have hbyte : (UInt8.ofNat (16 * high + low)).toNat = 16 * high + low := by
        rw [UInt8.toNat_ofNat']
        omega
      have hdiv : (16 * high + low) / 16 = high := by omega
      have hmod : (16 * high + low) % 16 = low := by omega
      rw [List.map_cons, List.map_cons, hhi, hlo, ih htail]
      simp only [encode, List.flatMap_cons, encodeByte, hbyte, hdiv, hmod, List.cons_append,
        List.nil_append]

/-- A text is read as some bytes if it is their text but for the case of the letters. -/
theorem decode?_eq_some_iff : decode? s = some bytes ↔ s.map Char.toLower = encode bytes := by
  refine ⟨map_toLower_of_decode?, fun h => ?_⟩
  rw [← decode?_map_toLower, h, decode?_encode]

end Text.Hex

namespace Digest

/-- The digits of the digest, with the scheme before them or without, between blanks. -/
def Spells (s : List Char) (d : Digest) : Prop :=
  ∃ label gap digits, Text.Padded s (label ++ (gap ++ digits)) ∧ Text.Blank gap ∧
    (label = [] ∨ label.map Char.toLower = scheme) ∧ digits.map Char.toLower = d.chars

variable {s label gap digits : List Char} {d e : Digest}

theorem toLower_of_isBlank {c : Char} (h : Text.isBlank c = true) : c.toLower = c := by
  refine dif_neg fun hc => ?_
  obtain ⟨hlow, hhigh⟩ : 65 ≤ c.toNat ∧ c.toNat ≤ 90 := hc
  simp only [Text.isBlank, Bool.or_eq_true, Bool.and_eq_true, decide_eq_true_eq, beq_iff_eq] at h
  omega

theorem exists_digit_of_mem {c : Char} (h : digits.map Char.toLower = d.chars) (hc : c ∈ digits) :
    ∃ n : Fin 16, c.toLower = Text.Hex.digit n := by
  have hmem : c.toLower ∈ d.chars := h ▸ List.mem_map_of_mem hc
  exact Text.Hex.exists_digit_of_mem_encode hmem

theorem isBlank_of_mem {c : Char} (h : digits.map Char.toLower = d.chars) (hc : c ∈ digits) :
    Text.isBlank c = false := by
  obtain ⟨n, hn⟩ := exists_digit_of_mem h hc
  cases hblank : Text.isBlank c with
  | false => rfl
  | true =>
      rw [toLower_of_isBlank hblank] at hn
      rw [hn, Text.Hex.isBlank_digit] at hblank
      cases hblank

theorem trimmed_digits (h : digits.map Char.toLower = d.chars) : Text.Trimmed digits :=
  .of_forall fun _ hc => isBlank_of_mem h hc

theorem ne_nil_of_map_toLower (h : digits.map Char.toLower = d.chars) : digits ≠ [] := by
  rintro rfl
  have hlength := Text.Hex.length_encode d.bytes
  rw [d.length_bytes, ← chars, ← h] at hlength
  cases hlength

theorem take_ne_scheme (h : digits.map Char.toLower = d.chars) :
    (digits.take scheme.length).map Char.toLower ≠ scheme := by
  intro hscheme
  have hs : 's' ∈ (digits.take scheme.length).map Char.toLower := by
    rw [hscheme]
    decide
  obtain ⟨c, hc, hlower⟩ := List.mem_map.1 hs
  obtain ⟨n, hn⟩ := exists_digit_of_mem h (List.mem_of_mem_take hc)
  have hnot : ∀ n : Fin 16, Text.Hex.digit n ≠ 's' := by decide
  exact hnot n (hn.symm.trans hlower)

/-! ### Reading a spelling -/

theorem dropScheme_label (hlabel : label.map Char.toLower = scheme) (rest : List Char) :
    dropScheme (label ++ rest) = rest := by
  have hlength : label.length = scheme.length := by rw [← hlabel, List.length_map]
  have htake : (label ++ rest).take scheme.length = label := List.take_left' hlength
  have hdrop : (label ++ rest).drop scheme.length = rest := List.drop_left' hlength
  rw [dropScheme, htake, if_pos hlabel, hdrop]

theorem trimmed_label (hlabel : label.map Char.toLower = scheme)
    (h : digits.map Char.toLower = d.chars) : Text.Trimmed (label ++ (gap ++ digits)) := by
  have hdigits := trimmed_digits h
  cases label with
  | nil => cases hlabel
  | cons c rest =>
      have hc : c.toLower = 's' := (List.cons.inj hlabel).1
      refine ⟨fun a ha => ?_, fun a ha => hdigits.2 a ?_⟩
      · cases ha
        cases hblank : Text.isBlank c with
        | false => rfl
        | true =>
            rw [toLower_of_isBlank hblank] at hc
            subst hc
            cases hblank
      · obtain ⟨last, hlast⟩ := Option.isSome_iff_exists.1
          (List.getLast?_isSome.2 (ne_nil_of_map_toLower h))
        rw [← List.append_assoc, List.getLast?_append, hlast] at ha
        rwa [hlast]

theorem bareDigits_of_spelling (hs : Text.Padded s (label ++ (gap ++ digits)))
    (hgap : Text.Blank gap) (hlabel : label = [] ∨ label.map Char.toLower = scheme)
    (h : digits.map Char.toLower = d.chars) : bareDigits s = digits := by
  have hdigits := trimmed_digits h
  rcases hlabel with rfl | hlabel
  · obtain ⟨front, back, rfl, hfront, hback⟩ := hs
    have hpadded : Text.Padded (front ++ ([] ++ (gap ++ digits)) ++ back) digits :=
      ⟨front ++ gap, back, by simp, hfront.append hgap, hback⟩
    rw [bareDigits, hpadded.trim_eq hdigits, dropScheme, if_neg (take_ne_scheme h),
      Text.trim_eq_self hdigits]
  · have hpadded : Text.Padded (gap ++ digits) digits := ⟨gap, [], by simp, hgap, Text.blank_nil⟩
    rw [bareDigits, hs.trim_eq (trimmed_label hlabel h), dropScheme_label hlabel,
      hpadded.trim_eq hdigits]

theorem ofChars?_eq_some_iff : ofChars? s = some d ↔ (bareDigits s).map Char.toLower = d.chars := by
  constructor
  · intro h
    obtain ⟨bytes, hdecode, hbytes⟩ := Option.bind_eq_some_iff.1 h
    rw [Text.Hex.map_toLower_of_decode? hdecode, chars]
    unfold ofBytes? at hbytes
    split at hbytes
    · cases hbytes
      rfl
    · cases hbytes
  · intro h
    rw [ofChars?, Text.Hex.decode?_eq_some_iff.2 h]
    exact ofBytes?_bytes d

theorem Spells.ofChars?_eq (hs : Spells s d) : ofChars? s = some d := by
  obtain ⟨label, gap, digits, hpadded, hgap, hlabel, h⟩ := hs
  rwa [ofChars?_eq_some_iff, bareDigits_of_spelling hpadded hgap hlabel h]

theorem dropScheme_eq (s : List Char) :
    ∃ label, s = label ++ dropScheme s ∧ (label = [] ∨ label.map Char.toLower = scheme) := by
  unfold dropScheme
  split
  · next h => exact ⟨s.take scheme.length, (List.take_append_drop _ s).symm, .inr h⟩
  · exact ⟨[], rfl, .inl rfl⟩

theorem spells_of_bareDigits (h : (bareDigits s).map Char.toLower = d.chars) : Spells s d := by
  obtain ⟨front, back, hs, hfront, hback⟩ := Text.padded_trim s
  obtain ⟨label, htrim, hlabel⟩ := dropScheme_eq (Text.trim s)
  obtain ⟨gap, more, hrest, hgap, hmore⟩ := Text.padded_trim (dropScheme (Text.trim s))
  refine ⟨label, gap, bareDigits s, ⟨front, more ++ back, ?_, hfront, hmore.append hback⟩, hgap,
    hlabel, h⟩
  calc
    s = front ++ (label ++ dropScheme (Text.trim s)) ++ back := by rw [← htrim, ← hs]
    _ = front ++ (label ++ (gap ++ bareDigits s ++ more)) ++ back := by rw [bareDigits, ← hrest]
    _ = front ++ (label ++ (gap ++ bareDigits s)) ++ (more ++ back) := by simp

/-- The spellings of a digest are the texts that are read as it. -/
theorem ofText?_eq_some_iff {text : String} : ofText? text = some d ↔ Spells text.toList d :=
  ⟨fun h => spells_of_bareDigits (ofChars?_eq_some_iff.1 h), Spells.ofChars?_eq⟩

theorem spells_text (d : Digest) : Spells d.text.toList d := ofText?_eq_some_iff.1 (ofText?_text d)

theorem Spells.unique (hd : Spells s d) (he : Spells s e) : d = e := by
  have h := hd.ofChars?_eq
  rw [he.ofChars?_eq] at h
  cases h
  rfl

end Digest

end ArtifactCache
