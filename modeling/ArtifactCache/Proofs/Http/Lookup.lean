import ArtifactCache.Http.Server
import ArtifactCache.Proofs.Digest.Spelling
import Mathlib.Data.List.Forall2

/-!
# Headers by name

Two names are the same if they differ only in the case of ASCII letters.  Of the headers with a name
it is the first that counts, wherever it stands and however the name is written.
-/

namespace ArtifactCache

namespace Text

/-- One character is an ASCII capital, and the other is its small letter. -/
def IsCapitalOf (c d : Char) : Prop := 65 ≤ c.toNat ∧ c.toNat ≤ 90 ∧ d.toNat = c.toNat + 32

def SameLetter (c d : Char) : Prop := c = d ∨ IsCapitalOf c d ∨ IsCapitalOf d c

theorem toNat_toLower_ascii : ∀ n : Fin 128, (Char.ofNat n).toLower.toNat =
    if 65 ≤ (Char.ofNat n).toNat ∧ (Char.ofNat n).toNat ≤ 90 then (Char.ofNat n).toNat + 32
    else (Char.ofNat n).toNat := by decide

theorem toNat_toLower (c : Char) : c.toLower.toNat =
    if 65 ≤ c.toNat ∧ c.toNat ≤ 90 then c.toNat + 32 else c.toNat := by
  obtain ⟨n, rfl⟩ | hc := ascii_cases c
  · exact toNat_toLower_ascii n
  · rw [Hex.toLower_of_not_ascii hc, if_neg (by omega)]

theorem sameLetter_iff {c d : Char} : SameLetter c d ↔ c.toLower = d.toLower := by
  rw [← Char.toNat_inj, toNat_toLower, toNat_toLower, SameLetter, ← Char.toNat_inj, IsCapitalOf,
    IsCapitalOf]
  split <;> split <;> omega

theorem toLower_toLower (c : Char) : c.toLower.toLower = c.toLower := by
  have hsmall : ¬ (65 ≤ c.toLower.toNat ∧ c.toLower.toNat ≤ 90) := by
    rw [toNat_toLower]
    split <;> omega
  rw [← Char.toNat_inj, toNat_toLower c.toLower, if_neg hsmall]

end Text

/-- The names are equal up to the case of ASCII letters. -/
def SameName (key name : String) : Prop := List.Forall₂ Text.SameLetter key.toList name.toList

theorem sameName_iff {key name : String} : SameName key name ↔ headerKey key = headerKey name := by
  have hletters : (Text.SameLetter : Char → Char → Prop) = fun c d => c.toLower = d.toLower := by
    funext c d
    exact propext Text.sameLetter_iff
  rw [SameName, hletters, headerKey, headerKey, String.ofList_inj, ← List.forall₂_eq_eq_eq,
    List.forall₂_map_left_iff, List.forall₂_map_right_iff]

theorem headerKey_headerKey (name : String) : headerKey (headerKey name) = headerKey name := by
  have hlower : Char.toLower ∘ Char.toLower = Char.toLower := funext Text.toLower_toLower
  rw [headerKey, headerKey, String.toList_ofList, List.map_map, hlower]

/-- The value of the first header of that name, if there is one. -/
def FirstValue (headers : List (String × String)) (name : String) : Option String → Prop
  | some value => ∃ earlier key later, headers = earlier ++ (key, value) :: later ∧
      SameName key name ∧ ∀ header ∈ earlier, ¬ SameName header.1 name
  | none => ∀ header ∈ headers, ¬ SameName header.1 name

namespace HeadAnswer

variable {a : HeadAnswer} {headers : List (String × String)} {name : String}
  {value : Option String}

theorem firstValue_iff_find? :
    FirstValue headers name value ↔
      (headers.find? fun header => headerKey header.1 == headerKey name).map (·.2) = value := by
  cases value with
  | none =>
      rw [Option.map_eq_none_iff, List.find?_eq_none]
      simp only [FirstValue, sameName_iff, beq_iff_eq]
  | some value =>
      simp only [FirstValue, sameName_iff, Option.map_eq_some_iff, List.find?_eq_some_iff_append,
        beq_iff_eq, Bool.not_eq_true', beq_eq_false_iff_ne, ne_eq, Prod.exists]
      constructor
      · rintro ⟨earlier, key, later, hheaders, hkey, hearlier⟩
        exact ⟨key, value, ⟨hkey, earlier, later, hheaders, hearlier⟩, rfl⟩
      · rintro ⟨key, _, ⟨hkey, earlier, later, hheaders, hearlier⟩, rfl⟩
        exact ⟨earlier, key, later, hheaders, hkey, hearlier⟩

theorem firstValue_iff : FirstValue a.headers name value ↔ a.header? name = value :=
  firstValue_iff_find?

theorem headers_ofHeaders (status : Nat) (headers : List (String × String)) :
    (ofHeaders status headers).headers =
      headers.map fun header => (headerKey header.1, header.2) := by
  -- Headers are added at the end, so the induction is for an answer that has some already.
  have hfold : ∀ (headers : List (String × String)) (a : HeadAnswer),
      (headers.foldl (fun a header => a.addHeader header.1 header.2) a).headers =
        a.headers ++ headers.map fun header => (headerKey header.1, header.2) := by
    intro headers
    induction headers with
    | nil => simp
    | cons header headers ih =>
        intro a
        rw [List.foldl_cons, ih, addHeader, List.map_cons, List.append_assoc]
        rfl
  rw [ofHeaders, hfold, List.nil_append]

/-- The form in which names are stored makes no difference. -/
theorem firstValue_ofHeaders (status : Nat) :
    FirstValue (ofHeaders status headers).headers name value ↔ FirstValue headers name value := by
  rw [firstValue_iff_find?, firstValue_iff_find?, headers_ofHeaders, List.find?_map,
    Option.map_map]
  simp only [Function.comp_def, headerKey_headerKey]

end HeadAnswer

end ArtifactCache
