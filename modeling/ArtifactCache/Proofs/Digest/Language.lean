import ArtifactCache.Error
import ArtifactCache.Proofs.Digest.Spelling
import ArtifactCache.Proofs.Text.Bytes

/-!
# The language of digests

A text is accepted as a digest if 64 hexadecimal digits are left when the blanks around it, one
scheme before it and the blanks after that are removed; the digits in lower case are then its
canonical form.  Every other text is refused as it was given.
-/

namespace ArtifactCache

namespace Text

/-- `inner` is the text without the blanks at both ends. -/
def Strips (s inner : List Char) : Prop := Padded s inner ∧ Trimmed inner

theorem strips_iff {s inner : List Char} : Strips s inner ↔ trim s = inner := by
  constructor
  · exact fun h => h.1.trim_eq h.2
  · rintro rfl
    exact ⟨padded_trim s, trim_trimmed s⟩

namespace Hex

/-- The hexadecimal digits of ASCII, with letters of both cases. -/
def alphabet : List Char := "0123456789abcdefABCDEF".toList

variable {s : List Char} {c : Char} {n : Nat}

theorem ascii_of_mem_alphabet (h : c ∈ alphabet) : c.toNat < 128 := by
  have hall : (alphabet.all fun d => d.toNat < 128) = true := by decide
  simpa using List.all_eq_true.1 hall c h

theorem contains_alphabet_ascii : ∀ n : Fin 128,
    alphabet.contains (Char.ofNat n) = (value? (Char.ofNat n)).isSome := by decide +kernel

theorem mem_alphabet_iff : c ∈ alphabet ↔ (value? c).isSome = true := by
  obtain ⟨n, rfl⟩ | hc := ascii_cases c
  · rw [← contains_alphabet_ascii n, List.contains_iff_mem]
  · rw [value?_of_not_ascii hc]
    exact ⟨fun h => absurd (ascii_of_mem_alphabet h) (Nat.not_lt.2 hc), nofun⟩

/-- Texts of hexadecimal digits are read two digits a byte. -/
theorem exists_decode? (h : ∀ c ∈ s, c ∈ alphabet) (hlength : s.length = 2 * n) :
    ∃ bytes, decode? s = some bytes ∧ bytes.length = n := by
  induction n generalizing s with
  | zero =>
      rw [List.length_eq_zero_iff.1 hlength]
      exact ⟨[], rfl, rfl⟩
  | succ n ih =>
      match s, hlength with
      | hi :: lo :: rest, hlength =>
          obtain ⟨tail, htail, hcount⟩ := ih (s := rest)
            (fun c hc => h c (by simp [hc])) (by simp only [List.length_cons] at hlength; omega)
          obtain ⟨high, hhigh⟩ := Option.isSome_iff_exists.1 (mem_alphabet_iff.1 (h hi (by simp)))
          obtain ⟨low, hlow⟩ := Option.isSome_iff_exists.1 (mem_alphabet_iff.1 (h lo (by simp)))
          refine ⟨UInt8.ofNat (16 * high + low) :: tail, ?_, by rw [List.length_cons, hcount]⟩
          simp only [decode?, hhigh, hlow, htail, Option.bind_eq_bind, Option.bind_some]

end Hex

end Text

namespace Digest

variable {s core tail digits : List Char} {d : Digest}

/-- The scheme that a text begins with is removed once, in whatever case it is; a text without it
stays as it is. -/
def DropsScheme (core tail : List Char) : Prop :=
  (∃ label, core = label ++ tail ∧ label.map Char.toLower = scheme) ∨
    tail = core ∧ ∀ label rest, core = label ++ rest → label.map Char.toLower ≠ scheme

/-- What is left of a text when the blanks around it are removed, then one scheme, and then the
blanks around the rest. -/
def Bares (s digits : List Char) : Prop :=
  ∃ core tail, Text.Strips s core ∧ DropsScheme core tail ∧ Text.Strips tail digits

/-- A text of the language of digests, and its digits. -/
structure Presents (s digits : List Char) : Prop where
  bares : Bares s digits
  length_eq : digits.length = 64
  mem_alphabet : ∀ c ∈ digits, c ∈ Text.Hex.alphabet

theorem dropsScheme_iff : DropsScheme core tail ↔ dropScheme core = tail := by
  constructor
  · rintro (⟨label, rfl, hlabel⟩ | ⟨rfl, hnone⟩)
    · exact dropScheme_label hlabel tail
    · rw [dropScheme, if_neg (hnone _ _ (List.take_append_drop _ _).symm)]
  · rintro rfl
    by_cases hlabel : (core.take scheme.length).map Char.toLower = scheme
    · refine .inl ⟨core.take scheme.length, ?_, hlabel⟩
      rw [dropScheme, if_pos hlabel, List.take_append_drop]
    · refine .inr ⟨by rw [dropScheme, if_neg hlabel], ?_⟩
      rintro label rest rfl hscheme
      have hlength : label.length = scheme.length := by rw [← hscheme, List.length_map]
      rw [List.take_left' hlength] at hlabel
      exact hlabel hscheme

theorem bares_iff : Bares s digits ↔ bareDigits s = digits := by
  constructor
  · rintro ⟨core, tail, hcore, htail, hdigits⟩
    rw [bareDigits, Text.strips_iff.1 hcore, dropsScheme_iff.1 htail, Text.strips_iff.1 hdigits]
  · rintro rfl
    exact ⟨_, _, Text.strips_iff.2 rfl, dropsScheme_iff.2 rfl, Text.strips_iff.2 rfl⟩

theorem Bares.unique {digits' : List Char} (h : Bares s digits) (h' : Bares s digits') :
    digits = digits' :=
  (bares_iff.1 h).symm.trans (bares_iff.1 h')

/-! ## What is accepted -/

theorem mem_alphabet_of_map_toLower (h : digits.map Char.toLower = d.chars) {c : Char}
    (hc : c ∈ digits) : c ∈ Text.Hex.alphabet := by
  obtain ⟨n, hn⟩ := exists_digit_of_mem h hc
  rw [Text.Hex.mem_alphabet_iff, ← Text.Hex.value?_toLower, hn, Text.Hex.value?_digit]
  rfl

theorem length_of_map_toLower (h : digits.map Char.toLower = d.chars) : digits.length = 64 := by
  rw [← List.length_map Char.toLower, h, chars, Text.Hex.length_encode, d.length_bytes]

theorem presents_of_spells (h : Spells s d) : ∃ digits, Presents s digits := by
  have hdigits := ofChars?_eq_some_iff.1 h.ofChars?_eq
  exact ⟨_, bares_iff.2 rfl, length_of_map_toLower hdigits,
    fun c hc => mem_alphabet_of_map_toLower hdigits hc⟩

theorem Presents.exists_ofText? {raw : String} (h : Presents raw.toList digits) :
    ∃ d, ofText? raw = some d := by
  obtain ⟨bytes, hdecode, hcount⟩ := Text.Hex.exists_decode? (n := 32) h.mem_alphabet h.length_eq
  refine ⟨⟨bytes, hcount⟩, ofChars?_eq_some_iff.2 ?_⟩
  rw [bares_iff.1 h.bares]
  exact Text.Hex.map_toLower_of_decode? hdecode

theorem Presents.text_eq {raw : String} (h : Presents raw.toList digits)
    (hd : ofText? raw = some d) : d.text = String.ofList (digits.map Char.toLower) := by
  rw [text, ← ofChars?_eq_some_iff.1 hd, bares_iff.1 h.bares]

/-! ## What is refused -/

theorem parse_eq_error {raw : String} (h : ∀ d, ¬ Spells raw.toList d) :
    parse raw = .error (.invalidDigest raw) := by
  unfold parse
  split
  · next d hd => exact absurd (ofText?_eq_some_iff.1 hd) (h d)
  · rfl

theorem toLower_ne_colon_ascii : ∀ n : Fin 128,
    Char.ofNat n ≠ ':' → (Char.ofNat n).toLower ≠ ':' := by decide

theorem eq_colon_of_toLower {c : Char} (h : c.toLower = ':') : c = ':' := by
  obtain ⟨n, rfl⟩ | hc := Text.ascii_cases c
  · exact Decidable.byContradiction fun hne => toLower_ne_colon_ascii n hne h
  · rwa [Text.Hex.toLower_of_not_ascii hc] at h

theorem colon_mem_of_map_toLower {label : List Char} (h : label.map Char.toLower = scheme) :
    ':' ∈ label := by
  have hscheme : ':' ∈ label.map Char.toLower := by
    rw [h]
    decide
  obtain ⟨c, hc, hlower⟩ := List.mem_map.1 hscheme
  exact eq_colon_of_toLower hlower ▸ hc

theorem colon_not_mem_of_blank {gap : List Char} (h : Text.Blank gap) : ':' ∉ gap :=
  fun hmem => absurd (h ':' hmem) (by decide)

theorem colon_not_mem_of_digits (h : digits.map Char.toLower = d.chars) : ':' ∉ digits := by
  intro hmem
  obtain ⟨n, hn⟩ := exists_digit_of_mem h hmem
  have hdigit : ∀ n : Fin 16, ':'.toLower ≠ Text.Hex.digit n := by decide
  exact hdigit n hn

/-- Neither blanks nor digits have a colon, and the scheme has one. -/
theorem Spells.count_colon (h : Spells s d) : s.count ':' ≤ 1 := by
  obtain ⟨label, gap, digits, ⟨front, back, rfl, hfront, hback⟩, hgap, hlabel, hdigits⟩ := h
  have hcount : label.count ':' ≤ 1 := by
    rcases hlabel with rfl | hlabel
    · exact Nat.zero_le 1
    · calc
        label.count ':' ≤ (label.map Char.toLower).count ':'.toLower := List.count_le_count_map
        _ = 1 := by rw [hlabel]; decide
  simp only [List.count_append, List.count_eq_zero_of_not_mem (colon_not_mem_of_blank hfront),
    List.count_eq_zero_of_not_mem (colon_not_mem_of_blank hback),
    List.count_eq_zero_of_not_mem (colon_not_mem_of_blank hgap),
    List.count_eq_zero_of_not_mem (colon_not_mem_of_digits hdigits)]
  omega

/-! ## The scheme in bytes -/

theorem ascii_of_map_toLower {label : List Char} (h : label.map Char.toLower = scheme) {c : Char}
    (hc : c ∈ label) : c.toNat < 128 := by
  have hall : (scheme.all fun d => d.toNat < 128) = true := by decide
  have hlower : c.toLower.toNat < 128 := by
    simpa using List.all_eq_true.1 hall c.toLower (h ▸ List.mem_map_of_mem hc)
  refine Nat.lt_of_not_le fun hhigh => ?_
  rw [Text.Hex.toLower_of_not_ascii hhigh] at hlower
  omega

theorem byteCount_of_map_toLower {label : List Char} (h : label.map Char.toLower = scheme) :
    byteCount label = byteCount scheme := by
  have hlength : label.length = scheme.length := by rw [← h, List.length_map]
  rw [byteCount_of_ascii fun c hc => ascii_of_map_toLower h hc, hlength]
  rfl

/-- The scheme is sought in as many bytes as it has.  Where these are whole characters, the text is
cut behind them; where they are not, there is no scheme. -/
theorem dropScheme_at_byte (s : List Char) :
    (∀ head rest, Text.CutAt (byteCount scheme) s head rest →
        dropScheme s = if head.map Char.toLower = scheme then rest else s) ∧
      ((∀ head rest, ¬ Text.CutAt (byteCount scheme) s head rest) → dropScheme s = s) := by
  have hcut : (s.take scheme.length).map Char.toLower = scheme →
      Text.CutAt (byteCount scheme) s (s.take scheme.length) (s.drop scheme.length) :=
    fun hscheme => ⟨(List.take_append_drop _ _).symm, byteCount_of_map_toLower hscheme⟩
  constructor
  · intro head rest h
    by_cases hhead : head.map Char.toLower = scheme
    · rw [if_pos hhead, h.1, dropScheme_label hhead]
    · rw [if_neg hhead, dropScheme, if_neg]
      intro hscheme
      rw [(h.unique (hcut hscheme)).1] at hhead
      exact hhead hscheme
  · intro hnone
    rw [dropScheme, if_neg fun hscheme => hnone _ _ (hcut hscheme)]

/-- As many bytes as the scheme has are whole characters in every accepted text. -/
theorem Presents.exists_cutAt (h : Presents s digits) (hcore : Text.Strips s core) :
    ∃ head rest, Text.CutAt (byteCount scheme) core head rest := by
  obtain ⟨core', tail, hcore', htail, hdigits⟩ := h.bares
  obtain rfl : core' = core := (Text.strips_iff.1 hcore').symm.trans (Text.strips_iff.1 hcore)
  rcases htail with ⟨label, rfl, hlabel⟩ | ⟨rfl, -⟩
  · exact ⟨label, tail, rfl, byteCount_of_map_toLower hlabel⟩
  · -- Without a scheme the text is nothing but digits, which take up a byte each.
    obtain rfl : tail = digits := by rw [← Text.strips_iff.1 hdigits, Text.trim_eq_self hcore.2]
    refine ⟨tail.take scheme.length, tail.drop scheme.length,
      (List.take_append_drop _ _).symm, ?_⟩
    rw [byteCount_of_ascii fun c hc =>
      Text.Hex.ascii_of_mem_alphabet (h.mem_alphabet c (List.mem_of_mem_take hc)),
      List.length_take, h.length_eq]
    rfl

theorem Spells.ascii_of_not_blank (h : Spells s d) {c : Char} (hc : c ∈ s)
    (hblank : Text.isBlank c = false) : c.toNat < 128 := by
  obtain ⟨label, gap, digits, ⟨front, back, rfl, hfront, hback⟩, hgap, hlabel, hdigits⟩ := h
  have hnot : ∀ {t : List Char}, Text.Blank t → c ∉ t := by
    intro t ht hmem
    rw [ht c hmem] at hblank
    cases hblank
  simp only [List.mem_append, hnot hfront, hnot hback, hnot hgap, false_or, or_false] at hc
  rcases hc with hc | hc
  · rcases hlabel with rfl | hlabel
    · cases hc
    · exact ascii_of_map_toLower hlabel hc
  · exact Text.Hex.ascii_of_mem_alphabet (mem_alphabet_of_map_toLower hdigits hc)

/-! ## The language -/

/-- The texts that are accepted as a digest are those of the language, and what is read is their
digits in lower case; all others are refused as they were given.  Refused are, among others, digits
of another number, the scheme given twice, and characters of several bytes in the way of the scheme
or anywhere but in the margins.  What is read is read again from its own text, and the digest of any
content is read from each of its spellings. -/
theorem parse_accepts_exactly (raw : String) :
    ((∃ d, parse raw = .ok d) ↔ ∃ digits, Presents raw.toList digits) ∧
      (∀ d digits, parse raw = .ok d → Presents raw.toList digits →
        d.text = String.ofList (digits.map Char.toLower)) ∧
      ((∀ digits, ¬ Presents raw.toList digits) → parse raw = .error (.invalidDigest raw)) ∧
      (∀ digits, Bares raw.toList digits → digits.length ≠ 64 →
        parse raw = .error (.invalidDigest raw)) ∧
      (∀ front label between label' back,
        raw.toList = front ++ label ++ between ++ label' ++ back →
        label.map Char.toLower = scheme → label'.map Char.toLower = scheme →
        parse raw = .error (.invalidDigest raw)) ∧
      (∀ core, Text.Strips raw.toList core →
        (∀ head rest, ¬ Text.CutAt (byteCount scheme) core head rest) →
        parse raw = .error (.invalidDigest raw)) ∧
      (∀ c ∈ raw.toList, 128 ≤ c.toNat → Text.isBlank c = false →
        parse raw = .error (.invalidDigest raw)) ∧
      (∀ d, parse raw = .ok d → parse d.text = .ok d) ∧
      ∀ content, Spells raw.toList (ofContent content) → parse raw = .ok (ofContent content) := by
  have hrefused : (∀ digits, ¬ Presents raw.toList digits) →
      parse raw = .error (.invalidDigest raw) := by
    intro hnone
    refine parse_eq_error fun d hd => ?_
    obtain ⟨digits, h⟩ := presents_of_spells hd
    exact hnone digits h
  refine ⟨⟨?_, ?_⟩, ?_, hrefused, ?_, ?_, ?_, ?_, ?_, ?_⟩
  · rintro ⟨d, hd⟩
    exact presents_of_spells (ofText?_eq_some_iff.1 (parse_eq_ok_iff.1 hd))
  · rintro ⟨digits, h⟩
    obtain ⟨d, hd⟩ := h.exists_ofText?
    exact ⟨d, parse_eq_ok_iff.2 hd⟩
  · intro d digits hd h
    exact h.text_eq (parse_eq_ok_iff.1 hd)
  · intro digits hbares hlength
    refine hrefused fun digits' h => hlength ?_
    rw [hbares.unique h.bares, h.length_eq]
  · intro front label between label' back hraw hlabel hlabel'
    refine parse_eq_error fun d hd => ?_
    -- The scheme given twice brings two colons.
    have hcount := hd.count_colon
    have hfirst := List.count_pos_iff.2 (colon_mem_of_map_toLower hlabel)
    have hsecond := List.count_pos_iff.2 (colon_mem_of_map_toLower hlabel')
    simp only [hraw, List.count_append] at hcount
    omega
  · intro core hcore hnone
    refine hrefused fun digits h => ?_
    obtain ⟨head, rest, hcut⟩ := h.exists_cutAt hcore
    exact hnone head rest hcut
  · intro c hc hhigh hblank
    refine parse_eq_error fun d hd => ?_
    exact Nat.not_lt.2 hhigh (hd.ascii_of_not_blank hc hblank)
  · intro d _
    exact parse_eq_ok_iff.2 (ofText?_text d)
  · intro content hspells
    exact parse_eq_ok_iff.2 (ofText?_eq_some_iff.2 hspells)

/-- A scheme and digits of both cases, with blanks around the digits too. -/
example : (ofText?
    " Sha256:\tBA7816bf8f01cfea414140de5dae2223B00361A396177A9CB410ff61f20015ad\n").map text =
      some "ba7816bf8f01cfea414140de5dae2223b00361a396177a9cb410ff61f20015ad" := by
  decide +kernel

end Digest

/-!
## Texts of the same digest

Two texts match if both are accepted and their digits stand for the same bytes.  It makes no
difference how either is spelled, and a text that is not accepted matches nothing.
-/

namespace Digest

variable {s t : String} {digits : List Char} {d e : Digest}

theorem text_injective (h : d.text = e.text) : d = e := by
  have hd := ofText?_text d
  rw [h, ofText?_text] at hd
  exact (Option.some.inj hd).symm

theorem textsMatch_iff_text_eq :
    textsMatch s t = true ↔ ∃ d e, parse s = .ok d ∧ parse t = .ok e ∧ d.text = e.text := by
  simp only [textsMatch_iff, parse_eq_ok_iff]
  constructor
  · rintro ⟨d, hs, ht⟩
    exact ⟨d, d, hs, ht, rfl⟩
  · rintro ⟨d, e, hs, ht, htext⟩
    obtain rfl := text_injective htext
    exact ⟨d, hs, ht⟩

theorem decode?_of_bares (hd : ofText? s = some d) (h : Bares s.toList digits) :
    Text.Hex.decode? digits = some d.bytes := by
  rw [Text.Hex.decode?_eq_some_iff, ← bares_iff.1 h]
  exact ofChars?_eq_some_iff.1 hd

theorem textsMatch_iff_decode :
    textsMatch s t = true ↔ (∃ d, parse s = .ok d) ∧ (∃ e, parse t = .ok e) ∧
      ∃ digits digits' bytes, Bares s.toList digits ∧ Bares t.toList digits' ∧
        Text.Hex.decode? digits = some bytes ∧ Text.Hex.decode? digits' = some bytes ∧
        bytes.length = 32 := by
  simp only [textsMatch_iff, parse_eq_ok_iff]
  constructor
  · rintro ⟨d, hs, ht⟩
    exact ⟨⟨d, hs⟩, ⟨d, ht⟩, _, _, d.bytes, bares_iff.2 rfl, bares_iff.2 rfl,
      decode?_of_bares hs (bares_iff.2 rfl), decode?_of_bares ht (bares_iff.2 rfl),
      d.length_bytes⟩
  · rintro ⟨⟨d, hs⟩, ⟨e, ht⟩, digits, digits', bytes, hdigits, hdigits', hbytes, hbytes', -⟩
    rw [decode?_of_bares hs hdigits] at hbytes
    rw [decode?_of_bares ht hdigits'] at hbytes'
    obtain ⟨dbytes, hd⟩ := d
    obtain ⟨ebytes, he⟩ := e
    cases hbytes
    cases hbytes'
    exact ⟨_, hs, ht⟩

theorem textsMatch_comm (s t : String) : textsMatch s t = textsMatch t s := by
  rw [Bool.eq_iff_iff, textsMatch_iff, textsMatch_iff]
  exact exists_congr fun _ => And.comm

theorem textsMatch_congr (hs : Spells s.toList d) (hs' : Spells t.toList d) (u : String) :
    textsMatch s u = textsMatch t u := by
  rw [textsMatch, textsMatch, ofText?_eq_some_iff.2 hs, ofText?_eq_some_iff.2 hs']

/-- Two texts match exactly if both are accepted and their digits stand for the same 32 bytes, which
is told by their canonical texts.  So this is an equivalence of the accepted texts, it does not
depend on how a digest is spelled, and no other text matches any. -/
theorem textsMatch_iff_same_bytes :
    (∀ s t, textsMatch s t = true ↔ (∃ d, parse s = .ok d) ∧ (∃ e, parse t = .ok e) ∧
        ∃ digits digits' bytes, Bares s.toList digits ∧ Bares t.toList digits' ∧
          Text.Hex.decode? digits = some bytes ∧ Text.Hex.decode? digits' = some bytes ∧
          bytes.length = 32) ∧
      (∀ s t, textsMatch s t = true ↔
        ∃ d e, parse s = .ok d ∧ parse t = .ok e ∧ d.text = e.text) ∧
      (∀ s t, textsMatch s t = textsMatch t s) ∧
      (∀ s t u, textsMatch s t = true → textsMatch t u = true → textsMatch s u = true) ∧
      (∀ s, textsMatch s s = true ↔ ∃ d, parse s = .ok d) ∧
      (∀ d s s' t, Spells s.toList d → Spells s'.toList d →
        textsMatch s t = textsMatch s' t ∧ textsMatch t s = textsMatch t s') ∧
      ∀ s t, (∀ d, parse s ≠ .ok d) → textsMatch s t = false ∧ textsMatch t s = false := by
  refine ⟨fun _ _ => textsMatch_iff_decode, fun _ _ => textsMatch_iff_text_eq, textsMatch_comm,
    ?_, ?_, ?_, ?_⟩
  · intro s t u hst htu
    obtain ⟨d, hs, ht⟩ := textsMatch_iff.1 hst
    obtain ⟨e, ht', hu⟩ := textsMatch_iff.1 htu
    obtain rfl : d = e := Option.some.inj (ht.symm.trans ht')
    exact textsMatch_iff.2 ⟨d, hs, hu⟩
  · intro s
    simp only [textsMatch_iff, parse_eq_ok_iff, and_self]
  · intro d s s' t hs hs'
    rw [textsMatch_comm t s, textsMatch_comm t s', textsMatch_congr hs hs' t]
    exact ⟨rfl, rfl⟩
  · intro s t hnone
    have hfalse : textsMatch s t = false := by
      rw [← Bool.not_eq_true, textsMatch_iff]
      rintro ⟨d, hs, -⟩
      exact hnone d (parse_eq_ok_iff.2 hs)
    exact ⟨hfalse, (textsMatch_comm t s).trans hfalse⟩

end Digest

end ArtifactCache
