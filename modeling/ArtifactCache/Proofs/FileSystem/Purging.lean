import ArtifactCache.Proofs.FileSystem.Clearing
import ArtifactCache.Proofs.FileSystem.Staging

/-!
# Removing whatever is at a path

What a path names goes, a directory with everything below it; a link goes, and what it leads to
stays.  Nothing else is changed, and where nothing was nothing is done.  A path that cannot be
looked up is an error that changes nothing.
-/

namespace ArtifactCache.FileSystem

variable {fs fs' : FileSystem} {p : Path} {name : Name} {dir l k : Location} {cause : IoError}

theorem StopsAt.eq_noEntry {step : Step} (h : fs.StopsAt l step cause)
    (hfound : cause.isNotFound = true) : cause = .noEntry := by
  cases h with
  | nowhere => rfl
  | noDirectory => cases hfound
  | tooLong => cases hfound
  | missing => rfl

theorem noEntry_of_follow {n : Nat} {steps : List Step} (h : fs.follow n l steps = .error cause)
    (hfound : cause.isNotFound = true) : cause = .noEntry := by
  have hcause : cause ≠ .tooManyLinks := by
    rintro rfl
    cases hfound
  obtain ⟨m, -, k, step, rest, -, hstop⟩ := (follow_eq_error_iff hcause).1 h
  exact hstop.eq_noEntry hfound

/-- Looking up an entry says "not found" only where an entry is missing. -/
theorem lacks_of_not_found (hp : p.EndsIn name) (h : fs.locateEntry p = .error cause)
    (hfound : cause.isNotFound = true) : fs.Lacks p name := by
  have hcause : cause = .noEntry := by
    rcases fs.locateEntry_cases hp with
      ⟨other, hcheck, hfails⟩ | ⟨hcheck, other, hdir, hfails⟩ | ⟨hcheck, dir, hdir, hslot⟩
    · obtain rfl := Except.error.inj (h.symm.trans hfails)
      rw [checkPath_error hp.isEmpty_eq_false hcheck] at hfound
      cases hfound
    · obtain rfl := Except.error.inj (h.symm.trans hfails)
      rcases directoryAt_eq_error_iff.1 hdir with hfollow | ⟨k, -, hstop⟩
      · exact noEntry_of_follow hfollow hfound
      · exact hstop.eq_noEntry hfound
    · rw [locateEntry_of_entry hslot] at h
      split at h
      · cases h
        cases hfound
      · split at h
        · cases h
          rfl
        · cases h
  subst hcause
  exact lacks_of_locateEntry hp h

theorem entry_of_locateEntry (hp : p.EndsIn name) (h : fs.locateEntry p = .ok l) :
    ∃ dir node, l = name :: dir ∧ fs.slot p = .ok (.entry dir name false) ∧
      isTooLong name = false ∧ fs.get? l = some node := by
  rcases fs.locateEntry_cases hp with
    ⟨cause, -, hfails⟩ | ⟨-, cause, -, hfails⟩ | ⟨-, dir, -, hslot⟩
  · rw [h] at hfails
    cases hfails
  · rw [h] at hfails
    cases hfails
  · rw [locateEntry_of_entry hslot] at h
    split at h
    · cases h
    · next hlong =>
        split at h
        · cases h
        · next hname =>
            cases h
            obtain ⟨node, hnode⟩ := Option.ne_none_iff_exists'.1 hname
            exact ⟨dir, node, rfl, hslot, by simpa using hlong, hnode⟩

/-! ## The ways a removal can go -/

/-- What comes of removing whatever is at a path that ends in a name. -/
inductive Purged (fs : FileSystem) (p : Path) (name : Name) :
    Except FileError Unit → FileSystem → Prop
  | absent : fs.Lacks p name → Purged fs p name (.ok ()) fs
  | unknown {cause : IoError} :
      fs.locateEntry p = .error cause → cause.isNotFound = false →
      Purged fs p name (.error (.stat p cause)) fs
  | entry {dir : Location} {node : Node} :
      fs.slot p = .ok (.entry dir name false) → isTooLong name = false →
      fs.get? (name :: dir) = some node → node ≠ .directory →
      Purged fs p name (.ok ()) (fs.erase (name :: dir))
  | tree {dir : Location} :
      fs.slot p = .ok (.entry dir name false) → isTooLong name = false →
      fs.get? (name :: dir) = some .directory →
      Purged fs p name (.ok ()) (fs.eraseTree (name :: dir))
  -- The way to the directory is through something in it, and is lost before the directory goes.
  | emptied {dir k : Location} :
      fs.slot p = .ok (.entry dir name false) → isTooLong name = false →
      fs.get? (name :: dir) = some .directory →
      isBelow (name :: dir) k = true → fs.LeadsThrough p k →
      (fs.clear (name :: dir)).slot p = .error .noEntry →
      Purged fs p name (.ok ()) (fs.clear (name :: dir))

theorem hasNothingBelow_clear (fs : FileSystem) (l : Location) :
    (fs.clear l).hasNothingBelow l = true := by
  simp [hasNothingBelow, clear, drop]

theorem removeEmpty_clear (hslot : (fs.clear (name :: dir)).slot p = .ok (.entry dir name false))
    (hshort : isTooLong name = false) (hget : fs.get? (name :: dir) = some .directory) :
    (fs.clear (name :: dir)).removeEmpty p = .ok (fs.eraseTree (name :: dir)) := by
  have hget' : (fs.clear (name :: dir)).get? (name :: dir) = some .directory := by
    rw [get?_clear, not_isBelow_self]
    exact hget
  simp only [removeEmpty, hslot, bind, Except.bind, entry?_of_short hshort, hget',
    hasNothingBelow_clear]
  rfl

theorem removeAny_of_removeAll {removed : FileSystem} (h : fs.locateEntry p = .ok l)
    (hremove : fs.removeAll p = (.ok (), removed)) : fs.removeAny p = (.ok (), removed) := by
  simp only [removeAny, h, hremove]

theorem removeAny_of_unknown (h : fs.locateEntry p = .error cause)
    (hfound : cause.isNotFound = false) :
    fs.removeAny p = (.error (.stat p cause), fs) := by
  simp only [removeAny, h, hfound]
  rfl

theorem purged_of_directory (hp : p.EndsIn name) (hslot : fs.slot p = .ok (.entry dir name false))
    (hshort : isTooLong name = false) (hget : fs.get? (name :: dir) = some .directory) :
    ∃ removed, fs.removeAny p = (.ok (), removed) ∧ fs.Purged p name (.ok ()) removed := by
  have hlocate : fs.locateEntry p = .ok (name :: dir) := by
    rw [locateEntry_of_entry hslot, hshort, hget]
    rfl
  rcases (thinned_drop fs (isBelow (name :: dir))).slot hp hslot with hslot' | hmissing
  · refine ⟨_, removeAny_of_removeAll hlocate ?_, .tree hslot hshort hget⟩
    simp only [removeAll, hlocate, hget, removeEmpty_clear hslot' hshort hget]
  · have hthrough : ∃ k, isBelow (name :: dir) k = true ∧ fs.LeadsThrough p k := by
      refine Classical.not_not.1 fun hnone => ?_
      have hslot' := slot_clear hp hslot fun k hk hway => hnone ⟨k, hk, hway⟩
      rw [clear, hmissing] at hslot'
      cases hslot'
    obtain ⟨k, hk, hway⟩ := hthrough
    refine ⟨_, removeAny_of_removeAll hlocate ?_, .emptied hslot hshort hget hk hway hmissing⟩
    have hempty : (fs.clear (name :: dir)).removeEmpty p = .error .noEntry := by
      rw [clear, removeEmpty, hmissing]
      rfl
    simp only [removeAll, hlocate, hget, hempty]
    rfl

/-- A removal goes in one of these ways. -/
theorem purged_removeAny (fs : FileSystem) (hp : p.EndsIn name) :
    fs.Purged p name (fs.removeAny p).1 (fs.removeAny p).2 := by
  cases hlocate : fs.locateEntry p with
  | error cause =>
      cases hfound : cause.isNotFound with
      | true =>
          have habsent := lacks_of_not_found hp hlocate hfound
          simp only [removeAny, hlocate, hfound]
          exact .absent habsent
      | false =>
          rw [removeAny_of_unknown hlocate hfound]
          exact .unknown hlocate hfound
  | ok l =>
      obtain ⟨dir, node, rfl, hslot, hshort, hget⟩ := entry_of_locateEntry hp hlocate
      by_cases hnode : node = .directory
      · subst hnode
        obtain ⟨removed, hremove, hpurged⟩ := purged_of_directory hp hslot hshort hget
        rw [hremove]
        exact hpurged
      · rw [removeAny_of_entry hslot hshort hget hnode]
        exact .entry hslot hshort hget hnode

theorem purged_of_removeAny {answer : Except FileError Unit} (hp : p.EndsIn name)
    (h : fs.removeAny p = (answer, fs')) : fs.Purged p name answer fs' := by
  have hpurged := fs.purged_removeAny hp
  rwa [h] at hpurged

/-! ## What a removal leaves -/

theorem Lacks.get?_eq_none (h : fs.Lacks p name) (hp : p.EndsIn name) (hl : fs.NamesEntry p l) :
    fs.get? l = none := by
  obtain ⟨hcheck, dir, rfl, hdir⟩ := (namesEntry_iff hp).1 hl
  have hlocate := h.locateEntry_eq hp
  rw [locateEntry_of_entry (slot_of_directoryAt hp hcheck hdir)] at hlocate
  split at hlocate
  · cases hlocate
  · split at hlocate
    · next hnone => exact hnone
    · cases hlocate

namespace Purged

theorem lacks (h : fs.Purged p name (.ok ()) fs') (hp : p.EndsIn name) : fs'.Lacks p name := by
  cases h with
  | absent habsent => exact habsent
  | entry hslot hshort hget hnode =>
      exact (thinned_drop fs _).lacks hp hslot hshort (get?_erase_self fs (List.cons_ne_nil _ _))
  | tree hslot hshort hget =>
      exact (thinned_eraseTree fs _).lacks hp hslot hshort
        (get?_erase_self _ (List.cons_ne_nil _ _))
  | emptied _ _ _ _ _ hmissing =>
      exact lacks_of_locateEntry hp (locateEntry_of_slot_error hmissing)

theorem here_eq (h : fs.Purged p name (.ok ()) fs') : fs'.here = fs.here := by
  cases h <;> rfl

theorem get?_eq (h : fs.Purged p name (.ok ()) fs')
    (hk : ∀ l, fs.NamesEntry p l → ¬ l <:+ k) : fs'.get? k = fs.get? k := by
  cases h with
  | absent => rfl
  | @entry dir _ hslot =>
      have hoff := hk _ ⟨dir, name, rfl, hslot⟩
      exact get?_erase_of_ne fs fun heq => hoff (heq ▸ List.suffix_refl k)
  | @tree dir hslot =>
      have hoff := hk _ ⟨dir, name, rfl, hslot⟩
      rw [get?_eraseTree fs (List.cons_ne_nil _ _), if_neg hoff]
  | @emptied dir _ hslot =>
      have hoff := hk _ ⟨dir, name, rfl, hslot⟩
      rw [get?_clear, if_neg fun hbelow => hoff (isSuffix_iff_isBelow.2 (.inr hbelow))]

theorem eq_of_lacks {answer : Except FileError Unit} (h : fs.Purged p name answer fs')
    (hp : p.EndsIn name) (habsent : fs.Lacks p name) : answer = .ok () ∧ fs' = fs := by
  have hlocate := habsent.locateEntry_eq hp
  have hclash {dir : Location} {node : Node} (hslot : fs.slot p = .ok (.entry dir name false))
      (hshort : isTooLong name = false) (hget : fs.get? (name :: dir) = some node) : False := by
    rw [locateEntry_of_entry hslot, hshort, hget] at hlocate
    cases hlocate
  cases h with
  | absent => exact ⟨rfl, rfl⟩
  | unknown hother hfound =>
      rw [hother, Except.error.injEq] at hlocate
      subst hlocate
      cases hfound
  | entry hslot hshort hget => exact (hclash hslot hshort hget).elim
  | tree hslot hshort hget => exact (hclash hslot hshort hget).elim
  | emptied hslot hshort hget => exact (hclash hslot hshort hget).elim

theorem eq_of_slot (hslot : fs.slot p = .ok (.entry dir name false)) (hl : fs.NamesEntry p l) :
    name :: dir = l := NamesEntry.unique ⟨dir, name, rfl, hslot⟩ hl

/-- The entry is gone, unless the way to it was through something below it. -/
theorem get?_named (h : fs.Purged p name (.ok ()) fs') (hp : p.EndsIn name)
    (hl : fs.NamesEntry p l) :
    fs'.get? l = none ∨ ∃ k, isBelow l k = true ∧ fs.LeadsThrough p k := by
  have hne := hl.ne_nil
  cases h with
  | absent habsent => exact .inl (habsent.get?_eq_none hp hl)
  | entry hslot =>
      obtain rfl := eq_of_slot hslot hl
      exact .inl (get?_erase_self fs hne)
  | tree hslot =>
      obtain rfl := eq_of_slot hslot hl
      exact .inl (get?_erase_self _ hne)
  | emptied hslot _ _ hk hway =>
      obtain rfl := eq_of_slot hslot hl
      exact .inr ⟨_, hk, hway⟩

/-- What was in a directory is gone. -/
theorem get?_inside (h : fs.Purged p name (.ok ()) fs') (hp : p.EndsIn name)
    (hl : fs.NamesEntry p l) (hget : fs.get? l = some .directory) (hk : isBelow l k = true) :
    fs'.get? k = none := by
  have hne := hl.ne_nil
  cases h with
  | absent habsent =>
      rw [habsent.get?_eq_none hp hl] at hget
      cases hget
  | entry hslot _ hother hnode =>
      obtain rfl := eq_of_slot hslot hl
      rw [hget, Option.some.injEq] at hother
      exact absurd hother.symm hnode
  | tree hslot =>
      obtain rfl := eq_of_slot hslot hl
      rw [get?_eraseTree fs hne, if_pos (isSuffix_iff_isBelow.2 (.inr hk))]
  | emptied hslot =>
      obtain rfl := eq_of_slot hslot hl
      rw [get?_clear, if_pos hk]

end Purged

/-- A way that begins outside of a link does not come to the link or below it. -/
theorem Passes.keepsOff {n : Nat} {i : Location} {steps rest : List Step} {target : Path}
    (h : fs.Passes n i steps k rest) (hl : l ≠ []) (hlink : fs.get? l = some (.link target))
    (hi : ¬ l <:+ i) : ¬ l <:+ k := by
  induction h with
  | here => exact hi
  | @step n i j _ step _ _ hstep _ ih =>
      apply ih
      obtain ⟨-, hstep⟩ := hstep
      cases step with
      | stay => exact hstep ▸ hi
      | up => exact fun hj => hi ((hstep ▸ hj).trans (List.tail_suffix i))
      | enter next =>
          obtain ⟨rfl, -, node, hnode, hother⟩ := hstep
          intro hj
          rcases List.suffix_cons_iff.1 hj with heq | hinside
          · rw [heq, hnode, Option.some.injEq] at hlink
            exact hother target hlink
          · exact hi hinside
  | @link n i _ step other _ _ hmeets _ ih =>
      apply ih
      rw [origin]
      split
      · exact fun hroot => hl (List.suffix_nil.1 hroot)
      · exact hi

theorem not_suffix_tail (l : Location) (hl : l ≠ []) : ¬ l <:+ l.tail := by
  intro h
  have hlength := h.length_le
  have hpos := List.length_pos_iff.2 hl
  rw [List.length_tail] at hlength
  omega

/-- What a removed link leads to is not what the path names, nor below that. -/
theorem not_suffix_of_link {n : Nat} {target : Path} (hl : l ≠ [])
    (hlink : fs.get? l = some (.link target))
    (h : fs.follow n (origin l.tail target) target.steps = .ok k) : ¬ l <:+ k := by
  obtain ⟨m, -, hpasses⟩ := follow_eq_ok_iff.1 h
  apply hpasses.keepsOff hl hlink
  rw [origin]
  split
  · exact fun hroot => hl (List.suffix_nil.1 hroot)
  · exact not_suffix_tail l hl

theorem fileSize?_of_lacks (hp : p.EndsIn name) (h : fs.Lacks p name) :
    fs.fileSize? p = .ok none := by
  simp only [fileSize?, h.nodeAt_eq hp]
  rfl

theorem removeAny_of_lacks (hp : p.EndsIn name) (h : fs.Lacks p name) :
    fs.removeAny p = (.ok (), fs) := by
  obtain ⟨hanswer, htree⟩ := (fs.purged_removeAny hp).eq_of_lacks hp h
  exact Prod.ext hanswer htree

theorem removeAny_of_blocked (hp : p.EndsIn name) (h : fs.Blocked p) :
    ∃ cause, fs.removeAny p = (.error (.stat p cause), fs) := by
  obtain ⟨cause, hlocate, hfound⟩ := h.locateEntry_eq hp
  exact ⟨cause, removeAny_of_unknown hlocate hfound⟩

theorem removeAny_of_not_lacks (hp : p.EndsIn name) (h : fs.locateEntry p = .error cause)
    (hsome : ¬ fs.Lacks p name) : fs.removeAny p = (.error (.stat p cause), fs) := by
  apply removeAny_of_unknown h
  rw [Bool.eq_false_iff]
  exact fun hfound => hsome (lacks_of_not_found hp h hfound)

theorem exists_removeAny {node : Node} (hp : p.EndsIn name) (hl : fs.NamesEntry p l)
    (hshort : isTooLong name = false) (hget : fs.get? l = some node) :
    ∃ fs', fs.removeAny p = (.ok (), fs') := by
  obtain ⟨hcheck, dir, rfl, hdir⟩ := (namesEntry_iff hp).1 hl
  have hslot := slot_of_directoryAt hp hcheck hdir
  by_cases hnode : node = .directory
  · subst hnode
    obtain ⟨removed, hremove, -⟩ := purged_of_directory hp hslot hshort hget
    exact ⟨removed, hremove⟩
  · exact ⟨_, removeAny_of_entry hslot hshort hget hnode⟩

/-- A removal takes away what the path names and nothing else.  After one that is done nothing is at
the path, not even a link: what was named is gone with all that was in it, unless the way to it led
through something in it, which is gone; what links led to is as it was, and so is everything that is
not named or below that.  Where nothing is there is nothing to do; where the way is blocked, or the
path cannot be looked up for another reason, there is an error; and what is there can be removed. -/
theorem removes_what_is_named (fs : FileSystem) {p : Path} {name : Name} (hp : p.EndsIn name) :
    (∀ fs', fs.removeAny p = (.ok (), fs') →
      fs'.Lacks p name ∧
        (∀ l, fs.NamesEntry p l →
          (fs'.get? l = none ∨ ∃ k, isBelow l k = true ∧ fs.LeadsThrough p k) ∧
            (fs.get? l = some .directory → ∀ k, isBelow l k = true → fs'.get? k = none)) ∧
        fs'.here = fs.here ∧
        (∀ k, (∀ l, fs.NamesEntry p l → ¬ l <:+ k) → fs'.get? k = fs.get? k) ∧
        (∀ l j k target n, fs.NamesEntry p l → l <:+ j → fs.get? j = some (.link target) →
          fs.follow n (origin j.tail target) target.steps = .ok k → j = l ∨ ¬ l <:+ k →
          fs'.get? k = fs.get? k) ∧
        fs'.fileSize? p = .ok none ∧
        fs'.removeAny p = (.ok (), fs')) ∧
      (fs.Lacks p name → fs.removeAny p = (.ok (), fs)) ∧
      (fs.Blocked p → ∃ cause, fs.removeAny p = (.error (.stat p cause), fs)) ∧
      (∀ cause, fs.locateEntry p = .error cause → ¬ fs.Lacks p name →
        fs.removeAny p = (.error (.stat p cause), fs)) ∧
      ∀ l node, fs.NamesEntry p l → isTooLong name = false → fs.get? l = some node →
        ∃ fs', fs.removeAny p = (.ok (), fs') := by
  refine ⟨?done, removeAny_of_lacks hp, removeAny_of_blocked hp,
    fun cause hlocate hsome => removeAny_of_not_lacks hp hlocate hsome,
    fun l node hl hshort hget => exists_removeAny hp hl hshort hget⟩
  case done =>
    intro fs' hremove
    have hpurged := purged_of_removeAny hp hremove
    have habsent := hpurged.lacks hp
    refine ⟨habsent, ?named, hpurged.here_eq, fun k hk => hpurged.get?_eq hk, ?links,
      fileSize?_of_lacks hp habsent, removeAny_of_lacks hp habsent⟩
    case named =>
      intro l hl
      exact ⟨hpurged.get?_named hp hl, fun hget k hk => hpurged.get?_inside hp hl hget hk⟩
    case links =>
      intro l j k target n hl hj hlink hfollow hk
      have hoff : ¬ l <:+ k := by
        rcases hk with rfl | hk
        · exact not_suffix_of_link hl.ne_nil hlink hfollow
        · exact hk
      apply hpurged.get?_eq
      intro l' hl'
      obtain rfl := hl.unique hl'
      exact hoff

/-- A directory with a file in it, and a link to a file outside. -/
def linkedOut : FileSystem where
  nodes :=
    [(["old".toList], .directory), (["file".toList, "old".toList], .file [1]),
      (["link".toList, "old".toList], .link (.ofString "../kept")), (["kept".toList], .file [2])]
  here := []

theorem linked_file_outlives_directory :
    (Path.ofString "old").EndsIn "old".toList ∧
      ∃ fs', linkedOut.removeAny (.ofString "old") = (.ok (), fs') ∧
        fs'.get? ["file".toList, "old".toList] = none ∧
        fs'.get? ["kept".toList] = some (.file [2]) ∧
        fs'.fileSize? (.ofString "old") = .ok none := by
  have hp : (Path.ofString "old").EndsIn "old".toList := ⟨rfl, rfl, rfl⟩
  have hl : linkedOut.NamesEntry (.ofString "old") ["old".toList] := ⟨[], _, rfl, rfl⟩
  obtain ⟨hdone, -, -, -, hsome⟩ := removes_what_is_named linkedOut hp
  obtain ⟨fs', hremove⟩ := hsome _ .directory hl rfl rfl
  obtain ⟨-, hnamed, -, -, hlinks, hsize, -⟩ := hdone fs' hremove
  have hkept := hlinks ["old".toList] ["link".toList, "old".toList] ["kept".toList]
    (.ofString "../kept") 0 hl (by decide) rfl rfl (.inr (by decide))
  exact ⟨hp, fs', hremove, (hnamed _ hl).2 rfl _ (by decide), hkept, hsize⟩

def bareTree : FileSystem where
  nodes := []
  here := []

/-- A path whose first name is longer than a name can be. -/
def overlongWay : Path := ⟨List.replicate 256 'a' ++ ['/', 'x']⟩

set_option maxRecDepth 2000 in
/-- Where nothing is at all, a path that cannot be looked up is still an error. -/
theorem overlong_way_is_no_absence :
    overlongWay.EndsIn ['x'] ∧ (∀ l, bareTree.get? l ≠ none → l = []) ∧
      bareTree.removeAny overlongWay = (.error (.stat overlongWay .nameTooLong), bareTree) := by
  refine ⟨⟨by decide +kernel, rfl, by decide +kernel⟩, ?_, rfl⟩
  intro l hl
  by_cases hroot : l = []
  · exact hroot
  · simp [FileSystem.get?, bareTree, hroot] at hl

end ArtifactCache.FileSystem
