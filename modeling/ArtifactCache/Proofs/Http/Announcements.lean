import ArtifactCache.Http.Server
import ArtifactCache.Proofs.Digest.Language
import ArtifactCache.Proofs.Text.Numerals

/-!
# What the values of two headers announce

An announcement keeps the values of the two headers in a canonical form: the digest as its 64
digits in lower case, the length without the blanks around it.  Announcing the canonical values
again makes no difference.  The length counts as a number exactly if it is the numeral of a word of
64 bits.
-/

namespace ArtifactCache

namespace Text

/-- The hexadecimal digits with letters of lower case. -/
def Hex.lowerAlphabet : List Char := "0123456789abcdef".toList

theorem Hex.digit_mem_lowerAlphabet : ∀ n : Fin 16, digit n ∈ lowerAlphabet := by decide

/-- What is left of a text without its blanks is a value, unless it is nothing. -/
theorem filter_trim_eq_some_iff (s inner : List Char) :
    (some (trim s)).filter (!·.isEmpty) = some inner ↔ Strips s inner ∧ inner ≠ [] := by
  rw [strips_iff, Option.filter_eq_some_iff, Option.some.injEq]
  constructor
  · rintro ⟨rfl, hne⟩
    exact ⟨rfl, by simpa using hne⟩
  · rintro ⟨rfl, hne⟩
    exact ⟨rfl, by simpa using hne⟩

end Text

namespace Digest

theorem length_text (d : Digest) : d.text.toList.length = 64 := by
  rw [text, String.toList_ofList, chars, Text.Hex.length_encode, d.length_bytes]

theorem mem_lowerAlphabet_of_mem_text {d : Digest} {c : Char} (h : c ∈ d.text.toList) :
    c ∈ Text.Hex.lowerAlphabet := by
  rw [text, String.toList_ofList] at h
  obtain ⟨n, rfl⟩ := Text.Hex.exists_digit_of_mem_encode h
  exact Text.Hex.digit_mem_lowerAlphabet n

end Digest

namespace Announcement

variable {hash length : Option String} {text : String} {inner : List Char} {d : Digest} {n : Nat}

theorem digest?_ofValues_eq_some_iff :
    (ofValues hash length).digest? = some d ↔
      ∃ raw, hash = some raw ∧ Digest.Spells raw.toList d := by
  simp only [ofValues, Option.bind_eq_some_iff, Digest.ofText?_eq_some_iff]

theorem length?_ofValues_eq_some_iff :
    (ofValues hash length).length? = some inner ↔
      ∃ raw, length = some raw ∧ Text.Strips raw.toList inner ∧ inner ≠ [] := by
  cases length with
  | none => simp [ofValues]
  | some raw =>
      have hfilter := Text.filter_trim_eq_some_iff raw.toList inner
      simpa only [ofValues, Option.map_some, Option.some.injEq, exists_eq_left'] using hfilter

theorem hashText?_eq_some_iff :
    (ofValues hash length).hashText? = some text ↔
      ∃ raw d, hash = some raw ∧ Digest.Spells raw.toList d ∧ d.text = text := by
  simp only [hashText?, Option.map_eq_some_iff, digest?_ofValues_eq_some_iff]
  constructor
  · rintro ⟨d, ⟨raw, hraw, hspells⟩, rfl⟩
    exact ⟨raw, d, hraw, hspells, rfl⟩
  · rintro ⟨raw, d, hraw, hspells, rfl⟩
    exact ⟨d, ⟨raw, hraw, hspells⟩, rfl⟩

theorem lengthText?_eq_some_iff :
    (ofValues hash length).lengthText? = some text ↔
      ∃ raw, length = some raw ∧ Text.Strips raw.toList text.toList ∧ text ≠ "" := by
  simp only [lengthText?, Option.map_eq_some_iff, length?_ofValues_eq_some_iff]
  constructor
  · rintro ⟨inner, ⟨raw, hraw, hstrips, hne⟩, rfl⟩
    refine ⟨raw, hraw, by rwa [String.toList_ofList], ?_⟩
    intro hempty
    rw [← String.toList_inj, String.toList_ofList] at hempty
    exact hne hempty
  · rintro ⟨raw, hraw, hstrips, hne⟩
    refine ⟨text.toList, ⟨raw, hraw, hstrips, ?_⟩, String.ofList_toList⟩
    intro hempty
    exact hne (String.toList_inj.1 hempty)

theorem lengthBytes?_eq_some_iff :
    (ofValues hash length).lengthBytes? = some n ↔
      ∃ raw inner, length = some raw ∧ Text.Strips raw.toList inner ∧ Text.IsNumeral inner n ∧
        n < UInt64.size := by
  simp only [lengthBytes?, Option.bind_eq_some_iff, length?_ofValues_eq_some_iff,
    Text.readWord?_eq_some_iff]
  constructor
  · rintro ⟨inner, ⟨raw, hraw, hstrips, -⟩, hnumeral, hn⟩
    exact ⟨raw, inner, hraw, hstrips, hnumeral, hn⟩
  · rintro ⟨raw, inner, hraw, hstrips, hnumeral, hn⟩
    have hne : inner ≠ [] := by
      rintro rfl
      have hread := Text.isNumeral_iff.1 hnumeral
      cases hread
    exact ⟨inner, ⟨raw, hraw, hstrips, hne⟩, hnumeral, hn⟩

theorem ofValues_canonical (hash length : Option String) :
    ofValues (ofValues hash length).hashText? (ofValues hash length).lengthText? =
      ofValues hash length := by
  have hdigest : (ofValues hash length).hashText?.bind Digest.ofText? =
      (ofValues hash length).digest? := by
    cases h : (ofValues hash length).digest? with
    | none => simp [hashText?, h]
    | some d => simp [hashText?, h]
  have hlength : ((ofValues hash length).lengthText?.map fun s => Text.trim s.toList).filter
      (!·.isEmpty) = (ofValues hash length).length? := by
    cases h : (ofValues hash length).length? with
    | none => simp [lengthText?, h]
    | some inner =>
        obtain ⟨_, -, hstrips, hne⟩ := length?_ofValues_eq_some_iff.1 h
        have hinner : Text.Strips inner inner :=
          ⟨⟨[], [], by simp, Text.blank_nil, Text.blank_nil⟩, hstrips.2⟩
        simpa [lengthText?, h] using (Text.filter_trim_eq_some_iff inner inner).2 ⟨hinner, hne⟩
  rw [ofValues, hdigest, hlength]

/-- The announcement of two values, each of which may be missing.  The digest is told by 64 digits
in lower case, which the first value spells; the length is the second without the blanks around,
which is not empty; and both are announced again by their own texts.  The length is a number if and
only if it is a numeral of less than 2⁶⁴: a greater one counts as missing, however many digits it
has, and the decimal text of a smaller number is read back, also between blanks. -/
theorem values_are_canonical (hash length : Option String) :
    (∀ text, (ofValues hash length).hashText? = some text ↔
        ∃ raw d, hash = some raw ∧ Digest.Spells raw.toList d ∧ d.text = text) ∧
      (∀ text, (ofValues hash length).hashText? = some text →
        text.toList.length = 64 ∧ ∀ c ∈ text.toList, c ∈ Text.Hex.lowerAlphabet) ∧
      (∀ text, (ofValues hash length).lengthText? = some text ↔
        ∃ raw, length = some raw ∧ Text.Strips raw.toList text.toList ∧ text ≠ "") ∧
      (∀ text, (ofValues hash length).lengthText? = some text →
        text ≠ "" ∧ Text.Trimmed text.toList) ∧
      ofValues (ofValues hash length).hashText? (ofValues hash length).lengthText? =
        ofValues hash length ∧
      (∀ n, (ofValues hash length).lengthBytes? = some n ↔
        ∃ raw inner, length = some raw ∧ Text.Strips raw.toList inner ∧ Text.IsNumeral inner n ∧
          n < UInt64.size) ∧
      (∀ raw inner n, length = some raw → Text.Strips raw.toList inner →
        Text.IsNumeral inner n → UInt64.size ≤ n → (ofValues hash length).lengthBytes? = none) ∧
      ∀ raw n, length = some raw → Text.Padded raw.toList (toString n).toList →
        n < UInt64.size → (ofValues hash length).lengthBytes? = some n := by
  refine ⟨fun _ => hashText?_eq_some_iff, ?_, fun _ => lengthText?_eq_some_iff, ?_,
    ofValues_canonical hash length, fun _ => lengthBytes?_eq_some_iff, ?_, ?_⟩
  · intro text htext
    obtain ⟨_, d, -, -, rfl⟩ := hashText?_eq_some_iff.1 htext
    exact ⟨d.length_text, fun c => Digest.mem_lowerAlphabet_of_mem_text⟩
  · intro text htext
    obtain ⟨_, -, hstrips, hne⟩ := lengthText?_eq_some_iff.1 htext
    exact ⟨hne, hstrips.2⟩
  · intro raw inner n hraw hstrips hnumeral hn
    -- A number that was read would be that of the same numeral, but it is a word.
    rw [Option.eq_none_iff_forall_ne_some]
    intro m hm
    obtain ⟨raw', inner', hraw', hstrips', hnumeral', hlt⟩ := lengthBytes?_eq_some_iff.1 hm
    obtain rfl : raw = raw' := Option.some.inj (hraw.symm.trans hraw')
    obtain rfl : inner = inner' :=
      (Text.strips_iff.1 hstrips).symm.trans (Text.strips_iff.1 hstrips')
    obtain rfl : n = m := hnumeral.unique hnumeral'
    omega
  · intro raw n hraw hpadded hn
    have hread : Text.readWord? (Text.trim raw.toList) = some n := by
      rw [Nat.toString_eq_ofList_toDigits, String.toList_ofList] at hpadded
      exact Text.readWord?_of_padded hpadded hn
    obtain ⟨hnumeral, -⟩ := Text.readWord?_eq_some_iff.1 hread
    exact lengthBytes?_eq_some_iff.2
      ⟨raw, Text.trim raw.toList, hraw, Text.strips_iff.2 rfl, hnumeral, hn⟩

end Announcement

end ArtifactCache
