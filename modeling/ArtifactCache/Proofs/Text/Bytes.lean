import ArtifactCache.Path

/-!
# Bytes and parts of a text

How many bytes a text has, where it can be cut, and what it is cut into at its slashes.
-/

namespace ArtifactCache

/-!
## The bytes of a text

A text takes up one byte for each ASCII character and more for any other.  It can be cut at a byte
only between two characters, and then in one way.
-/

theorem foldl_utf8Size (chars : List Char) (n : Nat) :
    chars.foldl (fun n c => n + c.utf8Size) n = n + byteCount chars := by
  induction chars generalizing n with
  | nil => rfl
  | cons c rest ih =>
      have hcount : byteCount (c :: rest) = 0 + c.utf8Size + byteCount rest := ih _
      rw [List.foldl_cons, ih, hcount]
      omega

theorem byteCount_append (front back : List Char) :
    byteCount (front ++ back) = byteCount front + byteCount back := by
  rw [byteCount, List.foldl_append, foldl_utf8Size]
  rfl

theorem byteCount_cons (c : Char) (rest : List Char) :
    byteCount (c :: rest) = c.utf8Size + byteCount rest := by
  rw [byteCount, List.foldl_cons, foldl_utf8Size, Nat.zero_add]

theorem eq_nil_of_byteCount {chars : List Char} (h : byteCount chars = 0) : chars = [] := by
  cases chars with
  | nil => rfl
  | cons c rest =>
      have hpos := c.utf8Size_pos
      rw [byteCount_cons] at h
      omega

theorem byteCount_of_ascii {chars : List Char} (h : ∀ c ∈ chars, c.toNat < 128) :
    byteCount chars = chars.length := by
  induction chars with
  | nil => rfl
  | cons c rest ih =>
      have hc : c.utf8Size = 1 :=
        Char.utf8Size_eq_one_iff.2 (UInt32.le_iff_toNat_le.2
          (Nat.le_of_lt_succ (h c List.mem_cons_self)))
      rw [byteCount_cons, hc, ih fun d hd => h d (List.mem_cons_of_mem c hd), List.length_cons,
        Nat.add_comm]

namespace Text

theorem ascii_cases (c : Char) : (∃ n : Fin 128, c = Char.ofNat n) ∨ 128 ≤ c.toNat := by
  by_cases hc : c.toNat < 128
  · exact .inl ⟨⟨c.toNat, hc⟩, (Char.ofNat_toNat c).symm⟩
  · exact .inr (Nat.le_of_not_lt hc)

/-- The text is cut at a byte, between two of its characters or at an end. -/
def CutAt (n : Nat) (s head rest : List Char) : Prop := s = head ++ rest ∧ byteCount head = n

theorem CutAt.unique {n : Nat} {s head rest head' rest' : List Char} (h : CutAt n s head rest)
    (h' : CutAt n s head' rest') : head = head' ∧ rest = rest' := by
  obtain ⟨rfl, hcount⟩ := h
  obtain ⟨hsplit, hcount'⟩ := h'
  rcases List.append_eq_append_iff.1 hsplit with ⟨more, rfl, rfl⟩ | ⟨more, rfl, rfl⟩
  · have hmore : more = [] := eq_nil_of_byteCount (by rw [byteCount_append] at hcount'; omega)
    simp [hmore]
  · have hmore : more = [] := eq_nil_of_byteCount (by rw [byteCount_append] at hcount; omega)
    simp [hmore]

end Text

/-!
## Texts cut at slashes

The parts of a text that is cut have no separator in them, and parts that have none are got back
from the text in which each stands behind a slash.
-/

namespace Text

variable {part : List Char} {parts : List (List Char)}

theorem separator_not_mem_of_mem_splitOnP {p : Char → Bool} {c : Char} (hc : p c = true) :
    ∀ {s part : List Char}, part ∈ s.splitOnP p → c ∉ part := by
  intro s
  induction s with
  | nil =>
      intro part hpart
      rw [List.splitOnP_nil, List.mem_singleton] at hpart
      simp [hpart]
  | cons a s ih =>
      intro part hpart
      rw [List.splitOnP_cons_eq_if_modifyHead] at hpart
      split at hpart
      · rcases List.mem_cons.1 hpart with rfl | hpart
        · exact List.not_mem_nil
        · exact ih hpart
      · next ha =>
          obtain ⟨first, rest, hsplit⟩ := List.exists_cons_of_ne_nil (List.splitOnP_ne_nil p s)
          rw [hsplit] at ih
          rw [hsplit, List.modifyHead_cons] at hpart
          rcases List.mem_cons.1 hpart with rfl | hpart
          · rw [List.mem_cons, not_or]
            refine ⟨?_, ih List.mem_cons_self⟩
            rintro rfl
            exact ha hc
          · exact ih (List.mem_cons_of_mem first hpart)

theorem splitOnP_of_slash_not_mem (hpart : '/' ∉ part) : part.splitOnP (· == '/') = [part] := by
  refine List.splitOnP_eq_singleton fun c hc => ?_
  rw [beq_eq_false_iff_ne]
  rintro rfl
  exact hpart hc

/-- A text in front of the first slash is a part of its own. -/
theorem splitOnP_append_flatMap_slash (hpart : '/' ∉ part) (hparts : ∀ q ∈ parts, '/' ∉ q) :
    (part ++ parts.flatMap ('/' :: ·)).splitOnP (· == '/') = part :: parts := by
  induction parts generalizing part with
  | nil => rw [List.flatMap_nil, List.append_nil, splitOnP_of_slash_not_mem hpart]
  | cons q parts ih =>
      have hrest :=
        ih (hparts q List.mem_cons_self) fun r hr => hparts r (List.mem_cons_of_mem q hr)
      rw [List.flatMap_cons, List.cons_append, List.splitOnP_append_cons _ _ rfl, hrest,
        splitOnP_of_slash_not_mem hpart, List.singleton_append]

end Text

end ArtifactCache
