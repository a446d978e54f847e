import ArtifactCache.FileSystem.Operations
import ArtifactCache.FileSystem.Session
import ArtifactCache.Proofs.FileSystem.Slots

/-!
# Replacing all or nothing

A replacement waits at a location where nothing was.  Given up, it is gone without a trace; let into
its place, it is all that has changed in the tree, and where it cannot go nothing has changed.
-/

namespace ArtifactCache

namespace FileSystem

variable {fs fs' : FileSystem} {p source target : Path} {dir l : Location} {name : Name}
  {slash : Bool} {node : Node}

/-- A file may take the place of what the path names at `l`. -/
def Replaceable (fs : FileSystem) (p : Path) (l : Location) : Prop :=
  ∃ dir name, l = name :: dir ∧ fs.slot p = .ok (.entry dir name false) ∧
    isTooLong name = false ∧ fs.get? l ≠ some .directory

theorem Replaceable.namesEntry (h : fs.Replaceable p l) : fs.NamesEntry p l := by
  obtain ⟨dir, name, hl, hslot, -⟩ := h
  exact ⟨dir, name, hl, hslot⟩

theorem entry?_of_short (hlong : isTooLong name = false) :
    fs.entry? dir name = .ok (fs.get? (name :: dir)) := by
  simp [hlong, entry?]

theorem create_eq_ok (h : fs.create p node = .ok (fs', l)) :
    ∃ dir name slash, fs.slot p = .ok (.entry dir name slash) ∧ isTooLong name = false ∧
      l = name :: dir ∧ fs.get? l = none ∧ fs' = fs.put l node := by
  unfold create at h
  cases hslot : fs.slot p with
  | error cause =>
      rw [hslot] at h
      cases h
  | ok s =>
      rw [hslot] at h
      cases s with
      | stay => cases h
      | up => cases h
      | root => cases h
      | entry dir name slash =>
          by_cases hlong : isTooLong name = true
          · simp [hlong, entry?, bind, Except.bind] at h
          · have hshort : isTooLong name = false := by simpa using hlong
            simp only [bind, Except.bind, entry?_of_short hshort] at h
            cases hget : fs.get? (name :: dir) with
            | some other =>
                rw [hget] at h
                cases h
            | none =>
                rw [hget] at h
                cases h
                exact ⟨dir, name, slash, rfl, hshort, rfl, hget, rfl⟩

theorem create_of_missing (hslot : fs.slot p = .ok (.entry dir name slash))
    (hlong : isTooLong name = false) (hnone : fs.get? (name :: dir) = none) (node : Node) :
    fs.create p node = .ok (fs.put (name :: dir) node, name :: dir) := by
  simp only [create, hslot, bind, Except.bind, entry?_of_short hlong, hnone]

theorem removeFile_of_entry (hslot : fs.slot p = .ok (.entry dir name false))
    (hlong : isTooLong name = false) (hget : fs.get? (name :: dir) = some node)
    (hnode : node ≠ .directory) : fs.removeFile p = .ok (fs.erase (name :: dir)) := by
  unfold removeFile
  simp only [hslot, bind, Except.bind, entry?_of_short hlong, hget]
  cases node with
  | directory => exact absurd rfl hnode
  | file content => rfl
  | link target => rfl
  | device => rfl

theorem rename_of_replaceable (hslot : fs.slot source = .ok (.entry dir name false))
    (hlong : isTooLong name = false) (hget : fs.get? (name :: dir) = some node)
    (hnode : node ≠ .directory) (h : fs.Replaceable target l) :
    fs.rename source target = .ok ((fs.erase (name :: dir)).put l node) := by
  obtain ⟨dir', name', rfl, hslot', hlong', hdir⟩ := h
  unfold rename
  simp only [hslot, hslot', bind, Except.bind, entry?_of_short hlong, entry?_of_short hlong', hget,
    Bool.or_self, Bool.false_eq_true, if_false]
  simp [hnode, hdir]

theorem replaceable_of_rename (hslot : fs.slot source = .ok (.entry dir name false))
    (hlong : isTooLong name = false) (hget : fs.get? (name :: dir) = some node)
    (h : fs.rename source target = .ok fs') : ∃ l, fs.Replaceable target l := by
  unfold rename at h
  simp only [hslot, bind, Except.bind] at h
  cases hslot' : fs.slot target with
  | error cause =>
      rw [hslot'] at h
      cases h
  | ok s =>
      rw [hslot'] at h
      cases s with
      | stay => cases h
      | up => cases h
      | root => cases h
      | entry dir' name' slash =>
          refine ⟨name' :: dir', dir', name', rfl, ?_⟩
          by_cases hlong' : isTooLong name' = true
          · have hlong'' : fs.entry? dir' name' = .error .nameTooLong := by simp [hlong', entry?]
            simp only [entry?_of_short hlong, hlong''] at h
            cases h
          · have hshort : isTooLong name' = false := by simpa using hlong'
            simp only [entry?_of_short hlong, entry?_of_short hshort, hget] at h
            cases slash with
            | true => simp at h
            | false =>
                refine ⟨hslot', hshort, ?_⟩
                intro hdir
                simp [hdir] at h

/-- A file where nothing was does not change what a file may replace. -/
theorem replaceable_put_iff {k : Location} (hk : fs.get? k = none) (hne : k ≠ [])
    (content : List UInt8) :
    (fs.put k (.file content)).Replaceable p l ↔ fs.Replaceable p l := by
  have hdir : (fs.put k (.file content)).get? l ≠ some .directory ↔
      fs.get? l ≠ some .directory := by
    rw [get?_put fs hne]
    split
    · next h => simp [h, hk]
    · rfl
  constructor
  · rintro ⟨dir, name, hl, hslot, hlong, hget⟩
    exact ⟨dir, name, hl, (waysKept_of_put fs hne content).slot_eq_entry hslot, hlong, hdir.1 hget⟩
  · rintro ⟨dir, name, hl, hslot, hlong, hget⟩
    have hways : WaysKept fs (fs.put k (.file content)) := waysKept_put (by simp [hk]) content
    exact ⟨dir, name, hl, hways.slot_eq_entry hslot, hlong, hdir.2 hget⟩

end FileSystem

namespace Replacement

open FileSystem

variable {r : Replacement} {fs : FileSystem} {s s' : Storage} {destination : Path} {l : Location}

/-- The location of a replacement is free in the tree that it waits beside. -/
def WaitsBeside (r : Replacement) (fs : FileSystem) : Prop :=
  ∃ dir name, r.location = name :: dir ∧ fs.slot r.path = .ok (.entry dir name false) ∧
    isTooLong name = false ∧ fs.get? r.location = none

theorem endsInSlash_pathBeside (destination : Path) (name : Name) (process count : Nat) :
    (pathBeside destination (fileName name process count)).endsInSlash = false := by
  have hlast : (fileName name process count).getLast? = some 't' := by
    rw [fileName, List.getLast?_append]
    rfl
  simp only [pathBeside, Path.join, Path.endsInSlash]
  split
  · simp [hlast]
  · split <;> simp [List.getLast?_append, List.getLast?_cons, hlast]

theorem create_eq_ok (h : create s destination = (.ok r, s')) :
    r.WaitsBeside s.files ∧ r.destination = destination ∧
      s'.files = s.files.put r.location (.file []) := by
  unfold create at h
  cases hname : destination.fileName? with
  | none =>
      rw [hname] at h
      cases h
  | some name =>
      simp only [hname] at h
      split at h
      · next files location hcreate =>
          cases h
          obtain ⟨dir, last, slash, hslot, hlong, hl, hget, hfiles⟩ :=
            FileSystem.create_eq_ok hcreate
          have hslash := (slot_eq_entry_iff.1 hslot).2.1
          rw [endsInSlash_pathBeside] at hslash
          subst hslash
          exact ⟨⟨dir, last, hl, hslot, hlong, hget⟩, rfl, hfiles⟩
      · cases h

theorem files_of_create_error {e : FileError} (h : create s destination = (.error e, s')) :
    s'.files = s.files := by
  unfold create at h
  cases hname : destination.fileName? with
  | none =>
      rw [hname] at h
      cases h
      rfl
  | some name =>
      simp only [hname] at h
      split at h
      · cases h
      · cases h
        rfl

theorem WaitsBeside.ne_nil (h : r.WaitsBeside fs) : r.location ≠ [] := by
  obtain ⟨dir, name, hl, -⟩ := h
  rw [hl]
  exact List.cons_ne_nil _ _

theorem WaitsBeside.get?_eq_none (h : r.WaitsBeside fs) : fs.get? r.location = none := by
  obtain ⟨dir, name, -, -, -, hget⟩ := h
  exact hget

/-- The path of a replacement names the file that is written, whatever it holds by now. -/
theorem WaitsBeside.entry_put (h : r.WaitsBeside fs) (content : List UInt8) :
    ∃ dir name, r.location = name :: dir ∧ isTooLong name = false ∧
      (fs.put r.location (.file content)).slot r.path = .ok (.entry dir name false) ∧
      (fs.put r.location (.file content)).get? (name :: dir) = some (.file content) := by
  have hne := h.ne_nil
  obtain ⟨dir, name, hl, hslot, hlong, hget⟩ := h
  have hways : WaysKept fs (fs.put r.location (.file content)) :=
    waysKept_put (by simp [hget]) content
  refine ⟨dir, name, hl, hlong, hways.slot_eq_entry hslot, ?_⟩
  rw [← hl, get?_put_self fs hne]

/-- Given up, a replacement is gone without a trace. -/
theorem discard_put (h : r.WaitsBeside fs) (content : List UInt8) :
    r.discard (fs.put r.location (.file content)) = fs := by
  obtain ⟨dir, name, hl, hlong, hslot, hfile⟩ := h.entry_put content
  unfold discard
  rw [removeFile_of_entry hslot hlong hfile nofun, ← hl]
  exact erase_put fs h.ne_nil h.get?_eq_none _

theorem commit_put_of_replaceable (h : r.WaitsBeside fs) (hl : fs.Replaceable r.destination l)
    (content : List UInt8) :
    r.commit (fs.put r.location (.file content)) =
      (.ok r.destination, fs.put l (.file content)) := by
  obtain ⟨dir, name, hloc, hlong, hslot, hfile⟩ := h.entry_put content
  have hl' := (replaceable_put_iff h.get?_eq_none h.ne_nil content).2 hl
  unfold commit
  rw [rename_of_replaceable hslot hlong hfile nofun hl', ← hloc,
    erase_put fs h.ne_nil h.get?_eq_none]

theorem commit_put_of_not_replaceable (h : r.WaitsBeside fs)
    (hl : ∀ l, ¬ fs.Replaceable r.destination l) (content : List UInt8) :
    ∃ e, r.commit (fs.put r.location (.file content)) = (.error e, fs) := by
  obtain ⟨dir, name, hloc, hlong, hslot, hfile⟩ := h.entry_put content
  unfold commit
  cases hrename : (fs.put r.location (.file content)).rename r.path r.destination with
  | ok files =>
      obtain ⟨l, hl'⟩ := replaceable_of_rename hslot hlong hfile hrename
      exact absurd ((replaceable_put_iff h.get?_eq_none h.ne_nil content).1 hl') (hl l)
  | error cause =>
      refine ⟨.rename r.path r.destination cause, ?_⟩
      simp only [discard_put h content]

end Replacement

/-!
## Removing a copy

Where a path leads to a regular file, removing what is at the path takes away one entry, the file or
a link to it, or fails and takes nothing away.
-/

namespace FileSystem

variable {fs fs' : FileSystem} {p : Path} {dir l : Location} {name : Name} {content : List UInt8}

theorem removeAny_of_entry {node : Node} (hslot : fs.slot p = .ok (.entry dir name false))
    (hlong : isTooLong name = false) (hget : fs.get? (name :: dir) = some node)
    (hnode : node ≠ .directory) : fs.removeAny p = (.ok (), fs.erase (name :: dir)) := by
  have hlocate : fs.locateEntry p = .ok (name :: dir) := by
    simp only [locateEntry, hslot, bind, Except.bind, entry?_of_short hlong, hget]
  have hremove : fs.removeAll p = (.ok (), fs.erase (name :: dir)) := by
    simp only [removeAll, hlocate, hget, removeFile_of_entry hslot hlong hget hnode]
    cases node with
    | directory => exact absurd rfl hnode
    | file content => rfl
    | link target => rfl
    | device => rfl
  simp only [removeAny, hlocate, hremove]

theorem removeAny_of_not_entry {s : Slot} (hslot : fs.slot p = .ok s)
    (hs : ∀ dir name slash, s ≠ .entry dir name slash) (h : fs.nodeAt p = .ok (.file content)) :
    fs.removeAny p = (.error (.remove p .isDirectory), fs) := by
  obtain ⟨l, hl, hfile⟩ := nodeAt_eq_ok_iff.1 h
  have hlocate : fs.locateEntry p = .ok l := by
    unfold locateEntry
    cases s with
    | entry dir name slash => exact absurd rfl (hs dir name slash)
    | stay => simp only [hslot, bind, Except.bind, hl]
    | up => simp only [hslot, bind, Except.bind, hl]
    | root => simp only [hslot, bind, Except.bind, hl]
  have hremove : fs.removeFile p = .error .isDirectory := by
    unfold removeFile
    cases s with
    | entry dir name slash => exact absurd rfl (hs dir name slash)
    | stay => simp only [hslot, bind, Except.bind]
    | up => simp only [hslot, bind, Except.bind]
    | root => simp only [hslot, bind, Except.bind]
  have hall : fs.removeAll p = (.error .isDirectory, fs) := by
    simp only [removeAll, hlocate, hfile, hremove]
  simp only [removeAny, hlocate, hall]
  rfl

/-- A copy is removed as one entry, or not at all. -/
theorem removeAny_of_file (h : fs.nodeAt p = .ok (.file content)) :
    (∃ l, fs.NamesEntry p l ∧ fs.removeAny p = (.ok (), fs.erase l)) ∨
      ∃ e, fs.removeAny p = (.error e, fs) := by
  rcases entry_of_file h with ⟨dir, name, hslot, hlong, hnode⟩ | ⟨s, hslot, hs⟩
  · refine .inl ⟨name :: dir, ⟨dir, name, rfl, hslot⟩, ?_⟩
    rcases hnode with hfile | ⟨target, hlink⟩
    · exact removeAny_of_entry hslot hlong hfile nofun
    · exact removeAny_of_entry hslot hlong hlink nofun
  · exact .inr ⟨_, removeAny_of_not_entry hslot hs h⟩

theorem eq_of_removeAny_error {e : FileError} (h : fs.nodeAt p = .ok (.file content))
    (hremove : fs.removeAny p = (.error e, fs')) : fs' = fs := by
  rcases removeAny_of_file h with ⟨l, -, hok⟩ | ⟨e', herror⟩
  · rw [hremove] at hok
    cases hok
  · rw [hremove] at herror
    cases herror
    rfl

/-- What takes the place of a removed entry is where the entry was. -/
theorem Replaceable.eq_of_erase {k : Location} (hk : (fs.erase l).Replaceable p k)
    (hl : fs.NamesEntry p l) : k = l :=
  ((waysKept_erase fs hl.ne_nil).namesEntry hk.namesEntry).unique hl

theorem Replaceable.nodeAt_put (h : (fs.erase l).Replaceable p l) (content : List UInt8) :
    (fs.put l (.file content)).nodeAt p = .ok (.file content) := by
  obtain ⟨dir, name, rfl, hslot, hlong, -⟩ := h
  exact nodeAt_put_of_namesEntry hlong ⟨dir, name, rfl, hslot⟩

end FileSystem

end ArtifactCache
