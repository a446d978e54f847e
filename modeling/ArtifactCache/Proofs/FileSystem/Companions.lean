import ArtifactCache.Proofs.FileSystem.Ancestors
import ArtifactCache.Proofs.FileSystem.Joining
import ArtifactCache.Proofs.FileSystem.Staging

/-!
# A replacement among others

A replacement keeps its file while others come and go: the file is in the directory of the
destination, at the end of the path of the replacement, and holds what was written to it.  Given up
or let into its place, the replacement takes away that file and nothing else.
-/

namespace ArtifactCache

open FileSystem

theorem Path.slash_not_mem_of_fileName? {p : Path} {name : List Char}
    (h : p.fileName? = some name) : '/' ∉ name := by
  unfold Path.fileName? at h
  split at h
  · next part rest hparts =>
      split at h
      · cases h
      · cases h
        have hmem : name ∈ p.partsFromEnd := by
          rw [hparts]
          exact List.mem_cons_self
        have hsplit := (List.dropWhile_sublist _).subset hmem
        exact Text.separator_not_mem_of_mem_splitOnP (p := (· == '/')) rfl
          (List.mem_reverse.1 hsplit)
  · cases h

namespace FileSystem

variable {fs : FileSystem} {p : Path} {dir k l : Location} {name : Name} {n m : Nat}
  {steps : List Step}

theorem follow_of_append_stays (h : fs.follow n l (steps ++ List.replicate m .stay) = .ok k) :
    fs.follow n l steps = .ok k := by
  induction m with
  | zero => rwa [List.replicate_zero, List.append_nil] at h
  | succ m ih =>
      rw [List.replicate_succ', ← List.append_assoc] at h
      exact ih (follow_of_append_stay _ h).1

/-- The directory of a path is where the last part of the path is looked for. -/
theorem IsDirectoryOf.eq_of_slot (h : fs.IsDirectoryOf (Replacement.directory p) l)
    (hslot : fs.slot p = .ok (.entry dir name false)) : l = dir := by
  obtain ⟨-, -, last, hlast, hstep, hdir⟩ := slot_eq_entry_iff.1 hslot
  have hidle : Path.isIdle last = false := by
    have hmem := List.mem_of_getLast? hlast
    rw [Path.isIdle, Bool.or_eq_false_iff]
    refine ⟨by simpa using (List.mem_filter.1 hmem).2, beq_eq_false_iff_ne.2 ?_⟩
    rintro rfl
    cases hstep
  obtain ⟨parent, n, hparent, habsolute, hparts⟩ := Path.parts_of_parent hlast hidle
  obtain ⟨hfollow, -⟩ := directoryAt_eq_ok_iff.1 hdir
  have hstays : (List.replicate n ['.']).map Step.ofPart = List.replicate n .stay :=
    List.map_replicate
  rw [hparts, List.map_append, hstays, origin, ← habsolute] at hfollow
  have hto := follow_of_append_stays hfollow
  obtain ⟨-, hleads⟩ := h
  rw [Replacement.directory, hparent] at hleads
  cases hempty : parent.isEmpty with
  | true =>
      obtain rfl : parent = ⟨[]⟩ := congrArg Path.mk (List.isEmpty_iff.1 hempty)
      have hdir : fs.follow linkLimit fs.here [] = .ok dir := hto
      have hhere : fs.locate .here = .ok l := hleads
      obtain ⟨-, hsteps⟩ := locate_eq_ok_iff.1 hhere
      have hl : fs.follow linkLimit fs.here [] = .ok l := (follow_of_append_stay [] hsteps).1
      rw [hl, Except.ok.injEq] at hdir
      exact hdir
  | false =>
      simp only [Option.filter_some, hempty, Bool.not_false, if_true, Option.getD_some,
        Bool.false_eq_true, if_false] at hleads
      obtain ⟨-, hsteps⟩ := locate_eq_ok_iff.1 hleads
      have hl : fs.follow linkLimit (origin fs.here parent) (parent.parts.map Step.ofPart) =
          .ok l := by
        rw [Path.steps] at hsteps
        split at hsteps
        · exact (follow_of_append_stay _ hsteps).1
        · rwa [List.append_nil] at hsteps
      rw [origin, hto, Except.ok.injEq] at hl
      exact hl.symm

end FileSystem

namespace Replacement

variable {r : Replacement} {fs fs' : FileSystem} {s s' : Storage} {destination : Path}
  {content content' : List UInt8}

theorem slash_not_mem_toDigits (n : Nat) : '/' ∉ Nat.toDigits 10 n := fun hmem =>
  absurd (Nat.isDigit_of_mem_toDigits (by decide) (by decide) hmem) (by decide)

theorem isEntryName_fileName {name : Name} (h : '/' ∉ name) (process count : Nat) :
    IsEntryName (fileName name process count) := by
  have hlast : (fileName name process count).getLast? = some 't' := by
    rw [fileName, List.getLast?_append]
    rfl
  have hdot : fileName name process count ≠ ['.'] := by
    intro heq
    rw [heq] at hlast
    cases hlast
  have hdots : fileName name process count ≠ ['.', '.'] := by
    intro heq
    rw [heq] at hlast
    cases hlast
  refine ⟨List.cons_ne_nil _ _, ?_, by rw [Step.ofPart, if_neg hdot, if_neg hdots]⟩
  simp [fileName, h, slash_not_mem_toDigits]

/-- The file of a replacement is at the end of its path, in the directory of the destination, and
holds `content`. -/
structure Keeps (r : Replacement) (fs : FileSystem) (content : List UInt8) : Prop where
  beside : ∃ name, IsEntryName name ∧ isTooLong name = false ∧
    r.path = pathBeside r.destination name
  leads : fs.NamesEntry r.path r.location
  holds : fs.get? r.location = some (.file content)

theorem Keeps.ne_nil (h : r.Keeps fs content) : r.location ≠ [] := h.leads.ne_nil

theorem Keeps.entry (h : r.Keeps fs content) :
    ∃ dir name, r.location = name :: dir ∧ r.path = pathBeside r.destination name ∧
      isTooLong name = false ∧ fs.slot r.path = .ok (.entry dir name false) ∧
        fs.IsDirectoryOf (directory r.destination) dir := by
  obtain ⟨name, hname, hlong, hpath⟩ := h.beside
  obtain ⟨dir, last, hlocation, hslot⟩ := h.leads
  have hjoined := hslot
  rw [hpath, pathBeside] at hjoined
  obtain ⟨l, hfound, hdir⟩ := slot_join hname hjoined
  cases hfound
  exact ⟨dir, name, hlocation, hpath, hlong, hslot, hdir⟩

/-- The directory of the destination is the one that the destination itself names an entry of: the
file stands beside what it is to replace. -/
theorem Keeps.sibling {l : Location} (h : r.Keeps fs content)
    (hl : fs.NamesEntry r.destination l) : r.location.tail = l.tail := by
  obtain ⟨dir, name, hlocation, -, -, -, hdir⟩ := h.entry
  obtain ⟨dir', name', rfl, hslot⟩ := hl
  rw [hlocation]
  exact hdir.eq_of_slot hslot

/-- What keeps the ways of a tree keeps a replacement, if its file is left there. -/
theorem Keeps.carry (h : r.Keeps fs content) (hways : WaysKept fs fs')
    (hholds : fs'.get? r.location = some (.file content')) : r.Keeps fs' content' :=
  ⟨h.beside, hways.namesEntry h.leads, hholds⟩

section Others

variable {l : Location} {bytes : List UInt8}

theorem Keeps.ne_of_get?_eq_none (h : r.Keeps fs content) (hl : fs.get? l = none) :
    r.location ≠ l := by
  intro heq
  have hholds := h.holds
  rw [heq, hl] at hholds
  cases hholds

/-- A file that is put where nothing was is in nobody's way. -/
theorem Keeps.put (h : r.Keeps fs content) (hl : fs.get? l = none) (bytes : List UInt8) :
    r.Keeps (fs.put l (.file bytes)) content := by
  have hways : WaysKept fs (fs.put l (.file bytes)) := waysKept_put (by simp [hl]) bytes
  refine h.carry hways ?_
  rw [get?_put_of_ne fs (h.ne_of_get?_eq_none hl), h.holds]

theorem Keeps.erase (h : r.Keeps fs content) (hl : fs.get? l = some (.file bytes))
    (hne : r.location ≠ l) : r.Keeps (fs.erase l) content := by
  refine h.carry (waysKept_erase_file hl) ?_
  rw [get?_erase_of_ne fs hne, h.holds]

end Others

theorem Keeps.path_ne {r' : Replacement} (h : r.Keeps fs content) (h' : r'.Keeps fs content')
    (hne : r.location ≠ r'.location) : r.path ≠ r'.path := by
  intro hpath
  have hleads := h.leads
  rw [hpath] at hleads
  exact hne (hleads.unique h'.leads)

theorem path_of_create (h : create s destination = (.ok r, s')) :
    ∃ name, destination.fileName? = some name ∧
      r.path = pathBeside destination (fileName name s.process s.named) := by
  unfold create at h
  split at h
  · cases h
  · next name hname =>
      simp only at h
      split at h
      · cases h
        exact ⟨name, hname, rfl⟩
      · cases h

/-- A new replacement is kept, empty, where nothing was. -/
theorem keeps_of_create (h : create s destination = (.ok r, s')) :
    s.files.get? r.location = none ∧ s'.files = s.files.put r.location (.file []) ∧
      r.Keeps s'.files [] := by
  obtain ⟨hwaits, rfl, hfiles⟩ := create_eq_ok h
  obtain ⟨name, hname, hpath⟩ := path_of_create h
  have hnone := hwaits.get?_eq_none
  have hentry := isEntryName_fileName (Path.slash_not_mem_of_fileName? hname) s.process s.named
  obtain ⟨dir, last, hlocation, hlong, hslot, hholds⟩ := hwaits.entry_put []
  rw [← hfiles] at hslot hholds
  have hjoined := hslot
  rw [hpath, pathBeside] at hjoined
  obtain ⟨l, hfound, -⟩ := slot_join hentry hjoined
  cases hfound
  refine ⟨hnone, hfiles, ⟨_, hentry, hlong, hpath⟩, ⟨dir, _, hlocation, hslot⟩, ?_⟩
  rw [hlocation, hholds]

theorem Keeps.discard_eq (h : r.Keeps fs content) : r.discard fs = fs.erase r.location := by
  obtain ⟨dir, name, hlocation, -, hlong, hslot, -⟩ := h.entry
  have hholds := h.holds
  rw [hlocation] at hholds
  rw [discard, removeFile_of_entry hslot hlong hholds nofun, hlocation]

/-- A commit moves the file to where the destination says, or takes it away. -/
theorem Keeps.commit_cases (h : r.Keeps fs content) :
    (∃ l, fs.Replaceable r.destination l ∧
      r.commit fs = (.ok r.destination, (fs.erase r.location).put l (.file content))) ∨
    ∃ e, r.commit fs = (.error e, fs.erase r.location) := by
  obtain ⟨dir, name, hlocation, -, hlong, hslot, -⟩ := h.entry
  have hholds := h.holds
  rw [hlocation] at hholds
  unfold commit
  cases hrename : fs.rename r.path r.destination with
  | ok files =>
      obtain ⟨l, hl⟩ := replaceable_of_rename hslot hlong hholds hrename
      have hmoved := rename_of_replaceable hslot hlong hholds nofun hl
      rw [hrename, Except.ok.injEq] at hmoved
      exact .inl ⟨l, hl, by simp only [hmoved, hlocation]⟩
  | error cause =>
      refine .inr ⟨.rename r.path r.destination cause, ?_⟩
      simp only [h.discard_eq]

end Replacement

end ArtifactCache
