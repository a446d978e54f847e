import ArtifactCache.FileSystem.Operations
import ArtifactCache.Proofs.FileSystem.Passages
import ArtifactCache.Proofs.FileSystem.Staging

/-!
# Where nothing is

A path that ends in a name leads by way of the parts before it to a directory, and names an entry
there.  Nothing is at such a path when the way, or the directory at its end, lacks the next name;
and the way is blocked when it passes something that is no directory.
-/

namespace ArtifactCache

namespace Path

/-- The last part of the path is a name, and no slash is behind it. -/
structure EndsIn (p : Path) (name : Name) : Prop where
  last : p.parts.getLast? = some name
  enters : Step.ofPart name = .enter name
  noSlash : p.endsInSlash = false

/-- The steps to the directory of the last part. -/
def approach (p : Path) : List Step := p.parts.dropLast.map Step.ofPart

theorem EndsIn.isEmpty_eq_false {p : Path} {name : Name} (h : p.EndsIn name) :
    p.isEmpty = false := by
  have hlast := h.last
  obtain ⟨chars⟩ := p
  cases chars with
  | cons c rest => rfl
  | nil => cases hlast

end Path

namespace FileSystem

/-- The way to the directory of the last part comes to `k` and has the steps `rest` before it. -/
def OnWay (fs : FileSystem) (p : Path) (k : Location) (rest : List Step) : Prop :=
  ∃ n ≤ linkLimit, fs.Passes n (origin fs.here p) p.approach k rest

/-- The path can be looked up, and its way to `name` comes to where the next name is missing. -/
def Lacks (fs : FileSystem) (p : Path) (name : Name) : Prop :=
  checkPath p = .ok () ∧ ∃ k rest step more, fs.OnWay p k rest ∧
    rest ++ [.enter name] = step :: more ∧ fs.StopsAt k step .noEntry

/-- The way to the last part of the path passes something that is no directory. -/
def Blocked (fs : FileSystem) (p : Path) : Prop :=
  ∃ k rest node, fs.OnWay p k rest ∧ fs.get? k = some node ∧ node ≠ .directory

variable {fs : FileSystem} {p : Path} {name : Name} {dir l k : Location} {cause : IoError}
  {steps rest : List Step}

theorem checkPath_error (hne : p.isEmpty = false) (h : checkPath p = .error cause) :
    cause.isNotFound = false := by
  unfold checkPath at h
  split at h
  · cases h
    rfl
  · split at h
    · next hempty =>
        rw [hne] at hempty
        cases hempty
    · split at h
      · cases h
        rfl
      · cases h

theorem directoryAt_eq_error_iff :
    fs.directoryAt dir steps = .error cause ↔
      fs.follow linkLimit dir steps = .error cause ∨
        ∃ k, fs.follow linkLimit dir steps = .ok k ∧ fs.StopsAt k .stay cause := by
  unfold directoryAt
  cases hf : fs.follow linkLimit dir steps with
  | error other => simp [bind, Except.bind]
  | ok k =>
      simp only [bind, Except.bind, reduceCtorEq, Except.ok.injEq, exists_eq_left', false_or]
      constructor
      · intro h
        cases hk : fs.get? k with
        | none =>
            rw [hk, Except.error.injEq] at h
            exact h ▸ .nowhere hk
        | some node =>
            by_cases hnode : node = .directory
            · rw [hk, hnode] at h
              cases h
            · simp only [hk] at h
              exact Except.error.inj h ▸ .noDirectory hk hnode
      · intro h
        cases h with
        | nowhere hk => simp only [hk]
        | noDirectory hk hnode => simp only [hk]

namespace OnWay

theorem follow_of_end (h : fs.OnWay p k []) :
    fs.follow linkLimit (origin fs.here p) p.approach = .ok k :=
  follow_eq_ok_iff.2 h

theorem follow_of_stop {step : Step} (h : fs.OnWay p k (step :: rest))
    (hstop : fs.StopsAt k step cause) :
    fs.follow linkLimit (origin fs.here p) p.approach = .error cause := by
  obtain ⟨n, hn, hpasses⟩ := h
  exact follow_of_stopsAt hpasses hstop hn

/-- Where something is in the way, the directory of the last part is not found. -/
theorem directoryAt_of_stop (h : fs.OnWay p k rest) (hstop : ∀ step, fs.StopsAt k step cause) :
    fs.directoryAt (origin fs.here p) p.approach = .error cause := by
  apply directoryAt_eq_error_iff.2
  cases rest with
  | nil => exact .inr ⟨k, h.follow_of_end, hstop .stay⟩
  | cons step more => exact .inl (h.follow_of_stop (hstop step))

end OnWay

section Slots

theorem slot_of_directoryAt (hp : p.EndsIn name) (hcheck : checkPath p = .ok ())
    (hdir : fs.directoryAt (origin fs.here p) p.approach = .ok dir) :
    fs.slot p = .ok (.entry dir name false) :=
  slot_eq_entry_iff.2 ⟨hcheck, hp.noSlash, name, hp.last, hp.enters, hdir⟩

theorem slot_of_directoryAt_error (hp : p.EndsIn name) (hcheck : checkPath p = .ok ())
    (hdir : fs.directoryAt (origin fs.here p) p.approach = .error cause) :
    fs.slot p = .error cause := by
  have hdir' : fs.directoryAt (origin fs.here p) (p.parts.dropLast.map Step.ofPart) =
      .error cause := hdir
  simp only [slot, hcheck, hp.last, bind, Except.bind, hdir']

theorem slot_of_checkPath_error (h : checkPath p = .error cause) : fs.slot p = .error cause := by
  simp only [slot, h, bind, Except.bind]

theorem namesEntry_iff (hp : p.EndsIn name) :
    fs.NamesEntry p l ↔ checkPath p = .ok () ∧
      ∃ dir, l = name :: dir ∧ fs.directoryAt (origin fs.here p) p.approach = .ok dir := by
  constructor
  · rintro ⟨dir, other, rfl, hslot⟩
    obtain ⟨hcheck, -, last, hlast, hstep, hdir⟩ := slot_eq_entry_iff.1 hslot
    rw [hp.last, Option.some.injEq] at hlast
    subst hlast
    rw [hp.enters, Step.enter.injEq] at hstep
    subst hstep
    exact ⟨hcheck, dir, rfl, hdir⟩
  · rintro ⟨hcheck, dir, rfl, hdir⟩
    exact ⟨dir, name, rfl, slot_of_directoryAt hp hcheck hdir⟩

theorem locateEntry_of_slot_error (h : fs.slot p = .error cause) :
    fs.locateEntry p = .error cause := by
  simp only [locateEntry, h, bind, Except.bind]

theorem locateEntry_of_entry (h : fs.slot p = .ok (.entry dir name false)) :
    fs.locateEntry p =
      if isTooLong name then .error .nameTooLong
      else if fs.get? (name :: dir) = none then .error .noEntry
      else .ok (name :: dir) := by
  simp only [locateEntry, h, bind, Except.bind, entry?]
  cases isTooLong name with
  | true => rfl
  | false => cases fs.get? (name :: dir) <;> rfl

/-- Looking up an entry fails for the path itself, or for the directory, or comes to the entry. -/
theorem locateEntry_cases (fs : FileSystem) (hp : p.EndsIn name) :
    (∃ cause, checkPath p = .error cause ∧ fs.locateEntry p = .error cause) ∨
      (checkPath p = .ok () ∧ ∃ cause,
        fs.directoryAt (origin fs.here p) p.approach = .error cause ∧
          fs.locateEntry p = .error cause) ∨
      (checkPath p = .ok () ∧ ∃ dir, fs.directoryAt (origin fs.here p) p.approach = .ok dir ∧
        fs.slot p = .ok (.entry dir name false)) := by
  cases hcheck : checkPath p with
  | error cause =>
      have hslot : fs.slot p = .error cause := slot_of_checkPath_error hcheck
      exact .inl ⟨cause, rfl, locateEntry_of_slot_error hslot⟩
  | ok _ =>
      cases hdir : fs.directoryAt (origin fs.here p) p.approach with
      | error cause =>
          have hslot := slot_of_directoryAt_error hp hcheck hdir
          exact .inr (.inl ⟨rfl, cause, rfl, locateEntry_of_slot_error hslot⟩)
      | ok dir => exact .inr (.inr ⟨rfl, dir, rfl, slot_of_directoryAt hp hcheck hdir⟩)

end Slots

/-! ## Lacking an entry -/

theorem Lacks.locateEntry_eq (hp : p.EndsIn name) (h : fs.Lacks p name) :
    fs.locateEntry p = .error .noEntry := by
  obtain ⟨hcheck, k, rest, step, more, hway, hsplit, hstop⟩ := h
  cases rest with
  | cons next rest =>
      obtain rfl : next = step := (List.cons.inj hsplit).1
      have hdir := directoryAt_eq_error_iff.2 (.inl (hway.follow_of_stop hstop))
      exact locateEntry_of_slot_error (slot_of_directoryAt_error hp hcheck hdir)
  | nil =>
      obtain rfl : .enter name = step := (List.cons.inj hsplit).1
      have hfollow := hway.follow_of_end
      cases hstop with
      | nowhere hk =>
          have hdir := directoryAt_eq_error_iff.2 (.inr ⟨k, hfollow, .nowhere hk⟩)
          exact locateEntry_of_slot_error (slot_of_directoryAt_error hp hcheck hdir)
      | missing hk hshort hname =>
          have hdir := directoryAt_eq_ok_iff.2 ⟨hfollow, hk⟩
          rw [locateEntry_of_entry (slot_of_directoryAt hp hcheck hdir), hshort, hname]
          rfl

theorem lacks_of_locateEntry (hp : p.EndsIn name) (h : fs.locateEntry p = .error .noEntry) :
    fs.Lacks p name := by
  rcases fs.locateEntry_cases hp with
    ⟨cause, hcheck, hfails⟩ | ⟨hcheck, cause, hdir, hfails⟩ | ⟨hcheck, dir, hdir, hslot⟩
  · obtain rfl := Except.error.inj (h.symm.trans hfails)
    cases checkPath_error hp.isEmpty_eq_false hcheck
  · obtain rfl := Except.error.inj (h.symm.trans hfails)
    refine ⟨hcheck, ?_⟩
    rcases directoryAt_eq_error_iff.1 hdir with hfollow | ⟨k, hfollow, hstop⟩
    · have hone : IoError.noEntry ≠ .tooManyLinks := by decide
      obtain ⟨n, hn, k, step, rest, hk, hstop⟩ := (follow_eq_error_iff hone).1 hfollow
      exact ⟨k, step :: rest, step, rest ++ [.enter name], ⟨n, hn, hk⟩, rfl, hstop⟩
    · have hway : fs.OnWay p k [] := follow_eq_ok_iff.1 hfollow
      cases hstop with
      | nowhere hk => exact ⟨k, [], .enter name, [], hway, rfl, .nowhere hk⟩
  · obtain ⟨hfollow, hget⟩ := directoryAt_eq_ok_iff.1 hdir
    have hway : fs.OnWay p dir [] := follow_eq_ok_iff.1 hfollow
    rw [locateEntry_of_entry hslot] at h
    cases hlong : isTooLong name with
    | true =>
        rw [hlong] at h
        cases h
    | false =>
        cases hname : fs.get? (name :: dir) with
        | some node => simp [hlong, hname] at h
        | none =>
            exact ⟨hcheck, dir, [], .enter name, [], hway, rfl, .missing hget hlong hname⟩

theorem lacks_iff (hp : p.EndsIn name) :
    fs.Lacks p name ↔ fs.locateEntry p = .error .noEntry :=
  ⟨fun h => h.locateEntry_eq hp, lacks_of_locateEntry hp⟩

/-- Where there is no entry nothing is found either. -/
theorem Lacks.nodeAt_eq (hp : p.EndsIn name) (h : fs.Lacks p name) :
    fs.nodeAt p = .error .noEntry := by
  obtain ⟨hcheck, k, rest, step, more, ⟨n, hn, hway⟩, hsplit, hstop⟩ := h
  have hsteps : p.steps = p.approach ++ [.enter name] := by
    rw [steps_eq_of_getLast? hp.last, hp.enters, hp.noSlash]
    rfl
  have hfollow : fs.follow linkLimit (origin fs.here p) p.steps = .error .noEntry := by
    rw [hsteps]
    exact follow_of_stopsAt (hsplit ▸ hway.append [.enter name]) hstop hn
  have hlocate : fs.locate p = .error .noEntry := by
    simp only [locate, hcheck, bind, Except.bind, hfollow]
  simp only [nodeAt, hlocate, bind, Except.bind]

/-- What blocks the way makes the path one that cannot be looked up. -/
theorem Blocked.locateEntry_eq (hp : p.EndsIn name) (h : fs.Blocked p) :
    ∃ cause, fs.locateEntry p = .error cause ∧ cause.isNotFound = false := by
  obtain ⟨k, rest, node, hway, hk, hnode⟩ := h
  cases hcheck : checkPath p with
  | error cause =>
      exact ⟨cause, locateEntry_of_slot_error (slot_of_checkPath_error hcheck),
        checkPath_error hp.isEmpty_eq_false hcheck⟩
  | ok _ =>
      have hdir := hway.directoryAt_of_stop fun step => .noDirectory hk hnode
      exact ⟨_, locateEntry_of_slot_error (slot_of_directoryAt_error hp hcheck hdir), rfl⟩

end FileSystem

end ArtifactCache
