import ArtifactCache.Proofs.FileSystem.Slots
import ArtifactCache.Proofs.Text.Bytes

/-!
# A name in a directory

A path joined with a name has one part more, the name.  So in every tree it stands for the entry of
that name in the directory that the path leads to, or for nothing if the path leads to none.
-/

namespace ArtifactCache

namespace Path

variable {name : List Char} (dir : Path)

theorem parts_of_slash_not_mem (hne : name ≠ []) (hname : '/' ∉ name) :
    (⟨name⟩ : Path).parts = [name] := by
  simp [parts, List.splitOn, Text.splitOnP_of_slash_not_mem hname, hne]

theorem parts_append_slash (front : List Char) (hne : name ≠ []) (hname : '/' ∉ name) :
    (⟨front ++ '/' :: name⟩ : Path).parts = (⟨front⟩ : Path).parts ++ [name] := by
  simp [parts, List.splitOn, List.splitOnP_append_cons, Text.splitOnP_of_slash_not_mem hname, hne]

theorem chars_join (hname : '/' ∉ name) :
    (dir.join ⟨name⟩).chars =
      dir.chars ++ if dir.isEmpty || dir.endsInSlash then name else '/' :: name := by
  have hrelative : (⟨name⟩ : Path).isAbsolute = false := by
    rw [isAbsolute, beq_eq_false_iff_ne]
    intro hhead
    obtain ⟨rest, rfl⟩ := List.head?_eq_some_iff.1 hhead
    exact hname List.mem_cons_self
  rw [join, if_neg (by simp [hrelative])]
  split
  · next h => rw [if_pos (by exact h)]
  · next h => rw [if_neg (by exact h)]

theorem parts_join (hne : name ≠ []) (hname : '/' ∉ name) :
    (dir.join ⟨name⟩).parts = dir.parts ++ [name] := by
  have hjoin : dir.join ⟨name⟩ = ⟨_⟩ := congrArg Path.mk (dir.chars_join hname)
  obtain ⟨chars⟩ := dir
  rw [hjoin]
  split
  · next h =>
      rcases Bool.or_eq_true_iff.1 h with hempty | hslash
      · obtain rfl := List.isEmpty_iff.1 hempty
        exact parts_of_slash_not_mem hne hname
      · obtain ⟨front, rfl⟩ := List.getLast?_eq_some_iff.1 (beq_iff_eq.1 hslash)
        have hfront : (⟨front ++ ['/']⟩ : Path).parts = (⟨front⟩ : Path).parts := by
          simp [parts, List.splitOn, List.splitOnP_append_cons]
        rw [hfront, List.append_assoc]
        exact parts_append_slash front hne hname
  · exact parts_append_slash chars hne hname

theorem endsInSlash_join (hne : name ≠ []) (hname : '/' ∉ name) :
    (dir.join ⟨name⟩).endsInSlash = false := by
  have hlast : name.getLast? ≠ some '/' := fun h => hname (List.mem_of_getLast? h)
  have hsome : name.getLast? = some (name.getLast hne) := List.getLast?_eq_some_getLast hne
  rw [endsInSlash, dir.chars_join hname, beq_eq_false_iff_ne, List.getLast?_append]
  split
  · rwa [hsome, Option.some_or, ← hsome]
  · rwa [List.getLast?_cons, hsome, Option.getD_some, Option.some_or, ← hsome]

theorem isAbsolute_join (hname : '/' ∉ name) :
    (dir.join ⟨name⟩).isAbsolute = dir.isAbsolute := by
  rw [isAbsolute, dir.chars_join hname]
  obtain ⟨chars⟩ := dir
  cases chars with
  | cons c rest => rfl
  | nil =>
      have hhead : name.head? ≠ some '/' := fun h => hname (List.mem_of_head? h)
      exact beq_eq_false_iff_ne.2 hhead

theorem length_start_le (p : Path) : p.start.length ≤ 1 := by
  unfold start
  split <;> simp

theorem start_of_name (hname : '/' ∉ name) (hdot : name ≠ ['.']) :
    (⟨name⟩ : Path).start = [] := by
  unfold start
  split
  · next heq =>
      obtain rfl : name = _ := heq
      exact absurd List.mem_cons_self hname
  · next heq => exact absurd heq hdot
  · next heq =>
      obtain rfl : name = _ := heq
      exact absurd (List.mem_cons_of_mem _ List.mem_cons_self) hname
  · rfl

theorem splitOn_append_slash (front : List Char) (hname : '/' ∉ name) :
    (front ++ '/' :: name).splitOn '/' = front.splitOn '/' ++ [name] := by
  simp [List.splitOn, List.splitOnP_append_cons, Text.splitOnP_of_slash_not_mem hname]

/-- A name behind nothing or behind a slash is the last part of a path. -/
theorem fileName?_of_behind {lead : List Char} (hlead : lead = [] ∨ ∃ front, lead = front ++ ['/'])
    (hne : name ≠ []) (hname : '/' ∉ name) (hdot : name ≠ ['.']) (hdots : name ≠ ['.', '.']) :
    (⟨lead ++ name⟩ : Path).fileName? = some name := by
  have hsplit : ∃ parts,
      ((lead ++ name).drop (⟨lead ++ name⟩ : Path).start.length).splitOn '/' = parts ++ [name] := by
    have hwhole : name.splitOn '/' = [] ++ [name] := Text.splitOnP_of_slash_not_mem hname
    rcases hlead with rfl | ⟨front, rfl⟩
    · rw [List.nil_append, start_of_name hname hdot]
      exact ⟨[], hwhole⟩
    · -- The start is at most one character long, so it is in front of the name.
      have hstart := length_start_le ⟨front ++ ['/'] ++ name⟩
      rw [List.append_assoc] at hstart ⊢
      rcases Nat.le_one_iff_eq_zero_or_eq_one.1 hstart with hzero | hone
      · rw [hzero]
        exact ⟨_, splitOn_append_slash front hname⟩
      · rw [hone]
        cases front with
        | nil => exact ⟨[], hwhole⟩
        | cons c front => exact ⟨_, splitOn_append_slash front hname⟩
  obtain ⟨parts, hparts⟩ := hsplit
  have hidle : isIdle name = false := by simp [isIdle, hne, hdot]
  have hlast : (⟨lead ++ name⟩ : Path).partsFromEnd = name :: parts.reverse := by
    rw [partsFromEnd, hparts, List.reverse_append, List.reverse_singleton, List.singleton_append,
      List.dropWhile_cons_of_neg (by simp [hidle])]
  rw [fileName?, hlast]
  exact if_neg hdots

/-- A name that is joined to a path is the last one of its names. -/
theorem fileName?_join (hne : name ≠ []) (hname : '/' ∉ name) (hdot : name ≠ ['.'])
    (hdots : name ≠ ['.', '.']) : (dir.join ⟨name⟩).fileName? = some name := by
  have hjoin : dir.join ⟨name⟩ = ⟨_⟩ := congrArg Path.mk (dir.chars_join hname)
  rw [hjoin]
  split
  · next h =>
      refine fileName?_of_behind ?_ hne hname hdot hdots
      rcases Bool.or_eq_true_iff.1 h with hempty | hslash
      · exact .inl (List.isEmpty_iff.1 hempty)
      · exact .inr (List.getLast?_eq_some_iff.1 (beq_iff_eq.1 hslash))
  · rw [← List.singleton_append, ← List.append_assoc]
    exact fileName?_of_behind (.inr ⟨_, rfl⟩) hne hname hdot hdots

end Path

namespace FileSystem

variable {fs : FileSystem} {dir : Path} {l : Location} {name : Name}

/-- A text that is one part of a path, and the name of an entry. -/
structure IsEntryName (name : Name) : Prop where
  ne_nil : name ≠ []
  slash : '/' ∉ name
  enters : Step.ofPart name = .enter name

/-- The path leads to the directory at `l`; the empty path stands for the one at hand. -/
structure IsDirectoryOf (fs : FileSystem) (p : Path) (l : Location) : Prop where
  isDirectory : fs.get? l = some .directory
  leads : if p.isEmpty then l = fs.here else fs.locate p = .ok l

theorem checkPath_eq_ok_iff {p : Path} :
    checkPath p = .ok () ↔ '\x00' ∉ p.chars ∧ p.isEmpty = false ∧ p.size < pathLimit := by
  unfold checkPath
  split
  · next hnul => simp [List.contains_iff_mem.1 hnul]
  · next hnul =>
      have hnul' : '\x00' ∉ p.chars := fun hmem => hnul (List.contains_iff_mem.2 hmem)
      split
      · next hempty => simp [hempty]
      · next hempty =>
          split
          · next hsize => simp [hsize]
          · next hsize => simpa [hnul', hempty] using hsize

theorem checkPath_of_join (hname : '/' ∉ name) (hdir : dir.isEmpty = false)
    (h : checkPath (dir.join ⟨name⟩) = .ok ()) : checkPath dir = .ok () := by
  obtain ⟨hnul, -, hsize⟩ := checkPath_eq_ok_iff.1 h
  rw [dir.chars_join hname] at hnul
  rw [Path.size, dir.chars_join hname, byteCount_append] at hsize
  refine checkPath_eq_ok_iff.2 ⟨fun hmem => hnul (List.mem_append_left _ hmem), hdir, ?_⟩
  rw [Path.size]
  omega

theorem follow_append_stay {n : Nat} {k : Location} {steps : List Step}
    (h : fs.follow n k steps = .ok l) (hl : fs.get? l = some .directory) :
    fs.follow n k (steps ++ [.stay]) = .ok l := by
  obtain ⟨m, -, hmore⟩ := follow_append_of_ok h
  have hstay : fs.StepsTo l .stay l := ⟨hl, rfl⟩
  rw [hmore, follow_congr (walk_of_stepsTo hstay []), follow_nil]

theorem isDirectoryOf_of_directoryAt (hname : '/' ∉ name)
    (hcheck : checkPath (dir.join ⟨name⟩) = .ok ())
    (h : fs.directoryAt (origin fs.here (dir.join ⟨name⟩)) (dir.parts.map Step.ofPart) = .ok l) :
    fs.IsDirectoryOf dir l := by
  obtain ⟨hfollow, hl⟩ := directoryAt_eq_ok_iff.1 h
  have horigin : origin fs.here (dir.join ⟨name⟩) = origin fs.here dir := by
    rw [origin, origin, dir.isAbsolute_join hname]
  rw [horigin] at hfollow
  refine ⟨hl, ?_⟩
  cases hdir : dir.isEmpty with
  | true =>
      have hchars : dir = ⟨[]⟩ := congrArg Path.mk (List.isEmpty_iff.1 hdir)
      subst hchars
      exact Except.ok.inj (hfollow.symm.trans (follow_nil fs linkLimit fs.here))
  | false =>
      refine locate_eq_ok_iff.2 ⟨checkPath_of_join hname hdir hcheck, ?_⟩
      rw [Path.steps]
      split
      · exact follow_append_stay hfollow hl
      · rwa [List.append_nil]

/-- A name joined to a path is the name of an entry in the directory that the path leads to. -/
theorem slot_join {found : Slot} (hname : IsEntryName name)
    (h : fs.slot (dir.join ⟨name⟩) = .ok found) :
    ∃ l, found = .entry l name false ∧ fs.IsDirectoryOf dir l := by
  have hparts := dir.parts_join hname.ne_nil hname.slash
  have hlast : (dir.join ⟨name⟩).parts.getLast? = some name := by
    rw [hparts, List.getLast?_concat]
  have hcheck : checkPath (dir.join ⟨name⟩) = .ok () := by
    cases hc : checkPath (dir.join ⟨name⟩) with
    | ok _ => rfl
    | error cause =>
        rw [slot, hc] at h
        cases h
  cases hdir : fs.directoryAt (origin fs.here (dir.join ⟨name⟩)) (dir.parts.map Step.ofPart) with
  | error cause =>
      rw [slot, hcheck, hlast, hparts, List.dropLast_concat, hdir] at h
      cases h
  | ok l =>
      have hfront : (dir.join ⟨name⟩).parts.dropLast = dir.parts := by
        rw [hparts, List.dropLast_concat]
      rw [← hfront] at hdir
      rw [slot_eq_of_directoryAt hcheck hlast hdir hname.enters,
        dir.endsInSlash_join hname.ne_nil hname.slash] at h
      rw [hfront] at hdir
      exact ⟨l, (Except.ok.inj h).symm, isDirectoryOf_of_directoryAt hname.slash hcheck hdir⟩

end FileSystem

end ArtifactCache
