import ArtifactCache.Cache
import ArtifactCache.Proofs.Http.Announcements
import ArtifactCache.Proofs.Http.Lookup

/-!
# What the headers say about a copy

The verdict told by the texts that stand in two headers: a spelling of the digest of the copy, else
the numeral of its length, unless some digest is spelled and digests are taken strictly.
-/

namespace ArtifactCache

namespace HeadAnswer

variable {a : HeadAnswer} {header : String} {d e : Digest} {n : Nat}

/-- The first header of that name has a value that spells the digest. -/
def Advertises (a : HeadAnswer) (header : String) (d : Digest) : Prop :=
  ∃ value, FirstValue a.headers header (some value) ∧ Digest.Spells value.toList d

/-- The value of the first header with a length, blanks apart, is the numeral of a 64-bit word. -/
def Measures (a : HeadAnswer) (n : Nat) : Prop :=
  ∃ value inner, FirstValue a.headers "Content-Length" (some value) ∧
    Text.Strips value.toList inner ∧ Text.IsNumeral inner n ∧ n < UInt64.size

/-- The first header with a length has the decimal text of `n` for its value, blanks apart. -/
def Counts (a : HeadAnswer) (n : Nat) : Prop :=
  ∃ value, FirstValue a.headers "Content-Length" (some value) ∧
    Text.Padded value.toList (toString n).toList

theorem Advertises.unique (hd : a.Advertises header d) (he : a.Advertises header e) : d = e := by
  obtain ⟨value, hvalue, hspells⟩ := hd
  obtain ⟨value', hvalue', hspells'⟩ := he
  rw [firstValue_iff] at hvalue hvalue'
  rw [hvalue] at hvalue'
  cases hvalue'
  exact hspells.unique hspells'

theorem Counts.measures (h : a.Counts n) (hn : n < Text.wordBound) : a.Measures n := by
  obtain ⟨value, hvalue, hpadded⟩ := h
  rw [Nat.toString_eq_ofList_toDigits, String.toList_ofList] at hpadded
  have hread := Text.readWord?_of_padded hpadded hn
  exact ⟨value, _, hvalue, Text.strips_iff.2 rfl, Text.readWord?_eq_some_iff.1 hread⟩

end HeadAnswer

namespace Announcement

variable {header : String} {a : HeadAnswer} {d : Digest} {n : Nat}

theorem digest?_ofAnswer_eq_some_iff : (ofAnswer header a).digest? = some d ↔
    a.Advertises header d := by
  simp only [ofAnswer, digest?_ofValues_eq_some_iff, HeadAnswer.Advertises,
    HeadAnswer.firstValue_iff]

theorem lengthBytes?_ofAnswer_eq_some_iff : (ofAnswer header a).lengthBytes? = some n ↔
    a.Measures n := by
  simp only [ofAnswer, lengthBytes?_eq_some_iff, HeadAnswer.Measures, HeadAnswer.firstValue_iff,
    lengthHeader]

end Announcement

def CachedCopy.of (path : Path) (content : List UInt8) : CachedCopy where
  path
  size := content.length
  hash := (Digest.ofContent content).text

namespace Verdict

open Announcement

variable {path : Path} {content : List UInt8} {header : String} {a : HeadAnswer} {strict : Bool}

theorem byLength_of_measures {copy : CachedCopy} (h : a.Measures copy.size) :
    byLength copy (.ofAnswer header a) = .keep .sameLength :=
  if_pos (lengthBytes?_ofAnswer_eq_some_iff.2 h)

theorem byLength_of_not_measures {copy : CachedCopy} (h : ¬ a.Measures copy.size) :
    byLength copy (.ofAnswer header a) = .purge :=
  if_neg fun hlength => h (lengthBytes?_ofAnswer_eq_some_iff.1 hlength)

theorem on_of_advertises (h : a.Advertises header (.ofContent content)) :
    on (.of path content) (some (.ofAnswer header a)) strict = .keep .sameDigest := by
  simp only [on, byAnnouncement, digest?_ofAnswer_eq_some_iff.2 h, CachedCopy.of,
    Digest.ofText?_text, if_true]

theorem ofText?_hash_ne {d : Digest} (h : ¬ a.Advertises header (.ofContent content))
    (hd : a.Advertises header d) : Digest.ofText? (CachedCopy.of path content).hash ≠ some d := by
  rw [CachedCopy.of, Digest.ofText?_text, Ne, Option.some.injEq]
  rintro rfl
  exact h hd

/-- A wrong digest that is taken strictly. -/
theorem on_of_strict {d : Digest} (h : ¬ a.Advertises header (.ofContent content))
    (hd : a.Advertises header d) :
    on (.of path content) (some (.ofAnswer header a)) true = .purge := by
  simp only [on, byAnnouncement, digest?_ofAnswer_eq_some_iff.2 hd,
    if_neg (ofText?_hash_ne h hd), if_true]

/-- Without the right digest it is up to the lengths, unless there is a wrong one to be taken
strictly. -/
theorem on_of_lenient (h : ¬ a.Advertises header (.ofContent content))
    (hstrict : strict = true → ∀ d, ¬ a.Advertises header d) :
    on (.of path content) (some (.ofAnswer header a)) strict =
      byLength (.of path content) (.ofAnswer header a) := by
  cases hd : (ofAnswer header a).digest? with
  | none => simp only [on, byAnnouncement, hd]
  | some d =>
      have hpub := digest?_ofAnswer_eq_some_iff.1 hd
      cases strict with
      | true => exact absurd hpub (hstrict rfl d)
      | false =>
          simp only [on, byAnnouncement, hd, if_neg (ofText?_hash_ne h hpub),
            Bool.false_eq_true, if_false]

end Verdict

end ArtifactCache
