import ArtifactCache.Proofs.FileSystem.Absence
import ArtifactCache.Proofs.FileSystem.Ancestors
import ArtifactCache.Proofs.FileSystem.Joining

/-!
# Making directories

A directory can be made at a path that ends in a name, in a directory that has nothing of that name.
Making one with those above it succeeds exactly where this can be done for one path after the other,
from the outermost on, as far as the paths do not lead to directories already.  Only directories are
made by it, and only where nothing was.
-/

namespace ArtifactCache.FileSystem

variable {fs fs' : FileSystem} {p q : Path} {dir l : Location} {name : Name} {slash : Bool}
  {paths : List Path} {cause : IoError}

/-! ## Ways to directories -/

theorem checkPath_of_cut {rest : List Char} (h : p.chars = q.chars ++ '/' :: rest)
    (hq : q.isEmpty = false) (hp : checkPath p = .ok ()) : checkPath q = .ok () := by
  obtain ⟨hnul, -, hsize⟩ := checkPath_eq_ok_iff.1 hp
  rw [h] at hnul
  rw [Path.size, h, byteCount_append] at hsize
  refine checkPath_eq_ok_iff.2 ⟨fun hmem => hnul (List.mem_append_left _ hmem), hq, ?_⟩
  rw [Path.size]
  omega

/-- A way that goes on behind the parts of a path, or ends there at a directory, shows that the path
leads to a directory. -/
theorem nodeAt_of_follow_append {more : List Step} (hcheck : checkPath q = .ok ())
    (hfollow : fs.follow linkLimit (origin fs.here q) (q.parts.map Step.ofPart ++ more) = .ok l)
    (hl : fs.get? l = some .directory) : fs.nodeAt q = .ok .directory := by
  cases hcut : fs.follow linkLimit (origin fs.here q) (q.parts.map Step.ofPart) with
  | error cause =>
      rw [follow_append_of_error _ hcut] at hfollow
      cases hfollow
  | ok k =>
      obtain ⟨n, -, hmore⟩ := follow_append_of_ok hcut
      rw [hmore] at hfollow
      have hk : fs.get? k = some .directory := by
        cases more with
        | nil =>
            rw [follow_nil] at hfollow
            cases hfollow
            exact hl
        | cons step more => exact isDirectory_of_follow_cons hfollow
      refine nodeAt_eq_ok_iff.2 ⟨k, locate_eq_ok_iff.2 ⟨hcheck, ?_⟩, hk⟩
      rw [Path.steps]
      split
      · exact follow_append_stay hcut hk
      · rwa [List.append_nil]

theorem checkPath_of_slot {s : Slot} (h : fs.slot p = .ok s) : checkPath p = .ok () := by
  cases hcheck : checkPath p with
  | ok _ => rfl
  | error cause =>
      rw [slot_of_checkPath_error hcheck] at h
      cases h

/-- Where the last part of a path is reached, what is above it leads to a directory. -/
theorem nodeAt_of_isAbove {s : Slot} (h : q.IsAbove p) (hq : q.isEmpty = false)
    (hslot : fs.slot p = .ok s) : fs.nodeAt q = .ok .directory := by
  rcases h with rfl | ⟨rest, hcut, hrest⟩
  · rfl
  have hcheck := checkPath_of_slot hslot
  have hparts := Path.parts_of_cut hcut
  have hlast : p.parts.getLast? = some ((⟨rest⟩ : Path).parts.getLast hrest) := by
    rw [hparts, List.getLast?_append_of_ne_nil _ hrest, List.getLast?_eq_some_getLast hrest]
  cases hdir : fs.directoryAt (origin fs.here p) (p.parts.dropLast.map Step.ofPart) with
  | error cause =>
      simp only [slot, hcheck, hlast, bind, Except.bind, hdir] at hslot
      cases hslot
  | ok k =>
      obtain ⟨hfollow, hk⟩ := directoryAt_eq_ok_iff.1 hdir
      have horigin : origin fs.here p = origin fs.here q := by
        rw [origin, origin, Path.isAbsolute_of_cut hcut hq]
      rw [horigin, hparts, List.dropLast_append_of_ne_nil hrest, List.map_append] at hfollow
      exact nodeAt_of_follow_append (checkPath_of_cut hcut hq hcheck) hfollow hk

theorem slot_of_nodeAt {node : Node} (h : fs.nodeAt p = .ok node) : ∃ s, fs.slot p = .ok s := by
  obtain ⟨l, hlocate, -⟩ := nodeAt_eq_ok_iff.1 h
  obtain ⟨hcheck, hfollow⟩ := locate_eq_ok_iff.1 hlocate
  cases hlast : p.parts.getLast? with
  | none =>
      refine ⟨.root, ?_⟩
      rw [slot, hcheck, hlast]
      rfl
  | some last =>
      rw [steps_eq_of_getLast? hlast] at hfollow
      cases hdir : fs.follow linkLimit (origin fs.here p) (p.parts.dropLast.map Step.ofPart) with
      | error cause =>
          rw [follow_append_of_error _ hdir] at hfollow
          cases hfollow
      | ok k =>
          obtain ⟨n, -, hmore⟩ := follow_append_of_ok hdir
          rw [hmore] at hfollow
          have hk := isDirectory_of_follow_cons hfollow
          exact ⟨_, slot_eq_of_directoryAt hcheck hlast (directoryAt_eq_ok_iff.2 ⟨hdir, hk⟩) rfl⟩

/-- A path that ends in the name of a directory leads there, with or without a slash. -/
theorem locate_of_directory (hslot : fs.slot p = .ok (.entry dir name slash))
    (hlong : isTooLong name = false) (hl : fs.get? (name :: dir) = some .directory) :
    fs.locate p = .ok (name :: dir) := by
  obtain ⟨hcheck, -, last, hlast, hstep, hdir⟩ := slot_eq_entry_iff.1 hslot
  obtain ⟨hfollow, hget⟩ := directoryAt_eq_ok_iff.1 hdir
  obtain ⟨n, -, hmore⟩ := follow_append_of_ok hfollow
  have henter : fs.StepsTo dir (.enter name) (name :: dir) := ⟨hget, rfl, hlong, _, hl, nofun⟩
  have hname : fs.follow n dir [.enter name] = .ok (name :: dir) := by
    rw [follow_congr (walk_of_stepsTo henter []), follow_nil]
  refine locate_eq_ok_iff.2 ⟨hcheck, ?_⟩
  rw [steps_eq_of_getLast? hlast, hmore, hstep]
  split
  · exact follow_append_stay hname hl
  · exact hname

/-! ## Trees with more directories -/

/-- `new` is `old` with directories where nothing was, each of which one of the paths names. -/
structure MadeAlong (paths : List Path) (old new : FileSystem) : Prop where
  here_eq : new.here = old.here
  get?_cases : ∀ l, new.get? l = old.get? l ∨
    (old.get? l = none ∧ new.get? l = some .directory ∧ ∃ p ∈ paths, new.locate p = .ok l)

namespace MadeAlong

variable {old mid new : FileSystem} {node : Node}

theorem refl (paths : List Path) (fs : FileSystem) : MadeAlong paths fs fs :=
  ⟨rfl, fun _ => .inl rfl⟩

theorem keptAt (h : MadeAlong paths old new) (l : Location) : KeptAt l old new := by
  intro node hnode
  rcases h.get?_cases l with hsame | ⟨hnone, -⟩
  · rw [hsame, hnode]
  · rw [hnone] at hnode
    cases hnode

theorem waysKept (h : MadeAlong paths old new) : WaysKept old new :=
  ⟨h.here_eq, fun l node _ => h.keptAt l node⟩

theorem locate_eq_ok (h : MadeAlong paths old new) (hp : old.locate p = .ok l) :
    new.locate p = .ok l := by
  obtain ⟨hcheck, hfollow⟩ := locate_eq_ok_iff.1 hp
  refine locate_eq_ok_iff.2 ⟨hcheck, ?_⟩
  rw [h.here_eq]
  exact h.waysKept.follow_eq_ok (h.keptAt l) hfollow

theorem nodeAt_eq_ok (h : MadeAlong paths old new) (hp : old.nodeAt p = .ok node) :
    new.nodeAt p = .ok node := h.waysKept.nodeAt_eq_ok (fun l _ => h.keptAt l) hp

theorem mono {more : List Path} (h : MadeAlong paths old new) (hsub : ∀ p ∈ paths, p ∈ more) :
    MadeAlong more old new := by
  refine ⟨h.here_eq, fun l => ?_⟩
  rcases h.get?_cases l with hsame | ⟨hnone, hmade, p, hp, hlocate⟩
  · exact .inl hsame
  · exact .inr ⟨hnone, hmade, p, hsub p hp, hlocate⟩

theorem trans (h : MadeAlong paths old mid) (h' : MadeAlong paths mid new) :
    MadeAlong paths old new := by
  refine ⟨h'.here_eq.trans h.here_eq, fun l => ?_⟩
  rcases h.get?_cases l with hsame | ⟨hnone, hmade, p, hp, hlocate⟩
  · rw [← hsame]
    exact h'.get?_cases l
  · exact .inr ⟨hnone, h'.keptAt l _ hmade, p, hp, h'.locate_eq_ok hlocate⟩

end MadeAlong

/-! ## What can be made -/

/-- `new` is `old` with a directory at the path, which leads to one already or else ends in a name
that an entry can have and none has. -/
inductive AddsDirectory (old : FileSystem) (p : Path) : FileSystem → Prop
  | there : old.nodeAt p = .ok .directory → AddsDirectory old p old
  | missing {dir : Location} {name : Name} {slash : Bool} :
      old.slot p = .ok (.entry dir name slash) → isTooLong name = false →
      old.get? (name :: dir) = none → AddsDirectory old p (old.put (name :: dir) .directory)

/-- `new` is `old` with directories at the paths, those at the end of the list before the others. -/
inductive AddsAll (old : FileSystem) : List Path → FileSystem → Prop
  | nil : AddsAll old [] old
  | cons {p : Path} {above : List Path} {mid new : FileSystem} :
      AddsAll old above mid → AddsDirectory mid p new → AddsAll old (p :: above) new

/-- `new` is `old` with a directory at the path, and with those above it where they are missing. -/
def AddsDirectories (old : FileSystem) (p : Path) (new : FileSystem) : Prop :=
  AddsAll old p.withAncestors new

theorem isDirectory_iff : fs.isDirectory p = true ↔ fs.nodeAt p = .ok .directory := by
  unfold isDirectory
  cases fs.nodeAt p with
  | error cause => simp
  | ok node => cases node <;> simp

namespace AddsDirectory

theorem slot_eq_ok (h : fs.AddsDirectory p fs') : ∃ s, fs.slot p = .ok s := by
  cases h with
  | there hdir => exact slot_of_nodeAt hdir
  | missing hslot hlong hnone => exact ⟨_, hslot⟩

theorem made_of_missing (hslot : fs.slot p = .ok (.entry dir name slash))
    (hlong : isTooLong name = false) (hnone : fs.get? (name :: dir) = none) :
    (fs.put (name :: dir) .directory).locate p = .ok (name :: dir) ∧
      (fs.put (name :: dir) .directory).get? (name :: dir) = some .directory ∧
      MadeAlong [p] fs (fs.put (name :: dir) .directory) := by
  have hways : WaysKept fs (fs.put (name :: dir) .directory) := by
    refine ⟨rfl, fun k node _ hk => ?_⟩
    rw [get?_put_of_ne fs (fun heq => by simp [heq, hnone] at hk), hk]
  have hself := get?_put_self fs (List.cons_ne_nil name dir) .directory
  have hlocate := locate_of_directory (hways.slot_eq_entry hslot) hlong hself
  refine ⟨hlocate, hself, rfl, fun k => ?_⟩
  by_cases hk : k = name :: dir
  · subst hk
    exact .inr ⟨hnone, hself, p, List.mem_singleton_self p, hlocate⟩
  · exact .inl (get?_put_of_ne fs hk _)

/-- The path leads to the directory that is added, and nothing else is. -/
theorem made (h : fs.AddsDirectory p fs') :
    fs'.nodeAt p = .ok .directory ∧ MadeAlong [p] fs fs' := by
  cases h with
  | there hdir => exact ⟨hdir, .refl _ _⟩
  | missing hslot hlong hnone =>
      obtain ⟨hlocate, hself, halong⟩ := made_of_missing hslot hlong hnone
      exact ⟨nodeAt_eq_ok_iff.2 ⟨_, hlocate, hself⟩, halong⟩

theorem eq_of_directory (h : fs.AddsDirectory p fs') (hdir : fs.nodeAt p = .ok .directory) :
    fs' = fs := by
  cases h with
  | there => rfl
  | missing hslot hlong hnone =>
      -- The path would still lead to the directory that it led to, and not to the one put there.
      obtain ⟨k, hlocate, hk⟩ := nodeAt_eq_ok_iff.1 hdir
      obtain ⟨hmade, -, halong⟩ := made_of_missing hslot hlong hnone
      rw [halong.locate_eq_ok hlocate, Except.ok.injEq] at hmade
      rw [hmade, hnone] at hk
      cases hk

end AddsDirectory

/-- One directory is made exactly where it can be added. -/
theorem ensureDirectory_eq_ok_iff : fs.ensureDirectory p = .ok fs' ↔ fs.AddsDirectory p fs' := by
  constructor
  · intro h
    unfold ensureDirectory at h
    cases hcreate : fs.create p .directory with
    | ok made =>
        obtain ⟨files, l⟩ := made
        obtain ⟨dir, name, slash, hslot, hlong, rfl, hnone, rfl⟩ := create_eq_ok hcreate
        simp only [hcreate] at h
        cases h
        exact .missing hslot hlong hnone
    | error cause =>
        simp only [hcreate] at h
        split at h
        · next hdir =>
            cases h
            exact .there (isDirectory_iff.1 hdir)
        · cases h
  · intro h
    unfold ensureDirectory
    cases hcreate : fs.create p .directory with
    | ok made =>
        obtain ⟨files, l⟩ := made
        obtain ⟨dir, name, slash, hslot, hlong, rfl, hnone, rfl⟩ := create_eq_ok hcreate
        cases h with
        | there hdir =>
            have hsame := (AddsDirectory.missing hslot hlong hnone).eq_of_directory hdir
            simp only [hsame]
        | missing hslot' hlong' hnone' =>
            rw [hslot'] at hslot
            cases hslot
            rfl
    | error cause =>
        cases h with
        | there hdir => exact if_pos (isDirectory_iff.2 hdir)
        | missing hslot hlong hnone =>
            rw [create_of_missing hslot hlong hnone .directory] at hcreate
            cases hcreate

theorem ensureDirectory_of_slot_error (h : fs.slot p = .error cause) :
    fs.ensureDirectory p = .error cause := by
  have hdir : ¬ fs.isDirectory p = true := by
    intro hdir
    obtain ⟨s, hs⟩ := slot_of_nodeAt (isDirectory_iff.1 hdir)
    rw [h] at hs
    cases hs
  simp only [ensureDirectory, create, h, bind, Except.bind]
  exact if_neg hdir

namespace AddsAll

theorem made (h : fs.AddsAll paths fs') :
    MadeAlong paths fs fs' ∧ ∀ p ∈ paths, fs'.nodeAt p = .ok .directory := by
  induction h with
  | nil => exact ⟨.refl _ _, nofun⟩
  | cons _ hadds ih =>
      obtain ⟨habove, hdirs⟩ := ih
      obtain ⟨hdir, halong⟩ := hadds.made
      refine ⟨(habove.mono fun q => List.mem_cons_of_mem _).trans (halong.mono ?_), ?_⟩
      · intro q hq
        exact List.mem_singleton.1 hq ▸ List.mem_cons_self
      · rintro q (_ | ⟨_, hq⟩)
        · exact hdir
        · exact halong.nodeAt_eq_ok (hdirs q hq)

theorem of_directories (h : ∀ p ∈ paths, fs.nodeAt p = .ok .directory) : fs.AddsAll paths fs := by
  induction paths with
  | nil => exact .nil
  | cons p paths ih =>
      exact .cons (ih fun q hq => h q (List.mem_cons_of_mem p hq)) (.there (h p List.mem_cons_self))

theorem eq_of_directories (hadds : fs.AddsAll paths fs')
    (h : ∀ p ∈ paths, fs.nodeAt p = .ok .directory) : fs' = fs := by
  induction hadds with
  | nil => rfl
  | cons _ hadds ih =>
      obtain rfl := ih fun q hq => h q (List.mem_cons_of_mem _ hq)
      exact hadds.eq_of_directory (h _ List.mem_cons_self)

end AddsAll

/-! ## Making them in one go -/

section Errors

variable {mid : FileSystem} {k : Location} {steps : List Step} {n : Nat}

/-- With more directories a way fails as before, unless what it lacked was there to be made. -/
theorem walk_of_madeAlong (h : MadeAlong paths fs mid) (hwalk : fs.walk l steps = .failed cause) :
    cause = .noEntry ∨ mid.walk l steps = .failed cause := by
  induction steps generalizing l with
  | nil => cases hwalk
  | cons step rest ih =>
      rcases fs.stopsAt_cases l step with ⟨j, hj⟩ | ⟨target, hlink⟩ | ⟨other, hstop⟩
      · rw [walk_of_stepsTo hj] at hwalk
        rw [walk_of_stepsTo (h.waysKept.stepsTo (h.keptAt j) hj)]
        exact ih hwalk
      · rw [walk_of_meetsLink hlink] at hwalk
        cases hwalk
      · rw [hstop.walk_eq, Walk.failed.injEq] at hwalk
        subst hwalk
        cases hstop with
        | nowhere | missing => exact .inl rfl
        | noDirectory hl hnode =>
            exact .inr (StopsAt.noDirectory (h.keptAt l _ hl) hnode |>.walk_eq rest)
        | tooLong hl hlong => exact .inr (StopsAt.tooLong (h.keptAt l _ hl) hlong |>.walk_eq rest)

theorem follow_of_madeAlong (h : MadeAlong paths fs mid)
    (hfollow : fs.follow n l steps = .error cause) :
    cause = .noEntry ∨ mid.follow n l steps = .error cause := by
  induction n generalizing l steps with
  | zero =>
      cases hwalk : fs.walk l steps with
      | arrived k =>
          rw [follow_of_arrived hwalk] at hfollow
          cases hfollow
      | failed other =>
          rw [follow_of_failed hwalk, Except.error.injEq] at hfollow
          subst hfollow
          exact (walk_of_madeAlong h hwalk).imp_right fun hmid => follow_of_failed hmid 0
      | link dir target rest =>
          rw [follow_zero_of_link hwalk] at hfollow
          rw [follow_zero_of_link (h.waysKept.walk_eq_link hwalk)]
          exact .inr hfollow
  | succ n ih =>
      cases hwalk : fs.walk l steps with
      | arrived k =>
          rw [follow_of_arrived hwalk] at hfollow
          cases hfollow
      | failed other =>
          rw [follow_of_failed hwalk, Except.error.injEq] at hfollow
          subst hfollow
          exact (walk_of_madeAlong h hwalk).imp_right fun hmid => follow_of_failed hmid (n + 1)
      | link dir target rest =>
          rw [follow_succ_of_link hwalk] at hfollow
          rw [follow_succ_of_link (h.waysKept.walk_eq_link hwalk)]
          exact ih hfollow

theorem directoryAt_of_madeAlong (h : MadeAlong paths fs mid)
    (hdir : fs.directoryAt l steps = .error cause) :
    cause = .noEntry ∨ mid.directoryAt l steps = .error cause := by
  rcases directoryAt_eq_error_iff.1 hdir with hfollow | ⟨k, hfollow, hstop⟩
  · exact (follow_of_madeAlong h hfollow).imp_right fun hmid =>
      directoryAt_eq_error_iff.2 (.inl hmid)
  · cases hstop with
    | nowhere => exact .inl rfl
    | noDirectory hk hnode =>
        have hmid := h.waysKept.follow_eq_ok (h.keptAt k) hfollow
        exact .inr (directoryAt_eq_error_iff.2
          (.inr ⟨k, hmid, .noDirectory (h.keptAt k _ hk) hnode⟩))

theorem slot_of_madeAlong (h : MadeAlong paths fs mid) (hslot : fs.slot p = .error cause) :
    cause = .noEntry ∨ mid.slot p = .error cause := by
  cases hcheck : checkPath p with
  | error other =>
      rw [slot_of_checkPath_error hcheck] at hslot ⊢
      exact .inr hslot
  | ok _ =>
      cases hlast : p.parts.getLast? with
      | none =>
          simp only [slot, hcheck, hlast, bind, Except.bind] at hslot
          cases hslot
      | some last =>
          cases hdir : fs.directoryAt (origin fs.here p) (p.parts.dropLast.map Step.ofPart) with
          | ok k =>
              rw [slot_eq_of_directoryAt hcheck hlast hdir rfl] at hslot
              cases hslot
          | error other =>
              simp only [slot, hcheck, hlast, bind, Except.bind, hdir] at hslot
              cases hslot
              refine (directoryAt_of_madeAlong h hdir).imp_right fun hmid => ?_
              rw [← h.here_eq] at hmid
              simp only [slot, hcheck, hlast, bind, Except.bind, hmid]

end Errors

theorem createBelow_nil_eq_ok_iff :
    fs.createBelow p [] = (.ok (), fs') ↔ fs.ensureDirectory p = .ok fs' := by
  rw [createBelow]
  split
  · next files hmade => simp [hmade]
  · next cause hfails => simp [hfails]

/-- A directory is made at once, or after the one above it where something is missing. -/
theorem createBelow_cons_eq_ok_iff {parent : Path} {above : List Path} :
    fs.createBelow p (parent :: above) = (.ok (), fs') ↔
      fs.ensureDirectory p = .ok fs' ∨
        ∃ cause mid, fs.ensureDirectory p = .error cause ∧ cause.isNotFound = true ∧
          fs.createBelow parent above = (.ok (), mid) ∧ mid.ensureDirectory p = .ok fs' := by
  rw [createBelow]
  constructor
  · intro h
    split at h
    · next files hmade =>
        cases h
        exact .inl hmade
    · next cause hfails =>
        split at h
        · cases h
        · next hmissing =>
            split at h
            · cases h
            · next mid hdone =>
                split at h
                · next files hmade =>
                    cases h
                    exact .inr ⟨cause, mid, hfails, by simpa using hmissing, hdone, hmade⟩
                · cases h
  · rintro (hmade | ⟨cause, mid, hfails, hmissing, hdone, hmade⟩)
    · rw [hmade]
    · simp only [hfails, hmissing, hdone, hmade, Bool.not_true, Bool.false_eq_true, if_false]

/-- A directory is made with those above it exactly where these can be added one after the other:
the first attempts fail only because something is missing. -/
theorem createBelow_eq_ok_iff {above : List Path}
    (habove : (p :: above).Pairwise fun p q => q.IsAbove p)
    (hne : ∀ q ∈ above, q.isEmpty = false) :
    fs.createBelow p above = (.ok (), fs') ↔ fs.AddsAll (p :: above) fs' := by
  induction above generalizing p fs' with
  | nil =>
      rw [createBelow_nil_eq_ok_iff, ensureDirectory_eq_ok_iff]
      constructor
      · exact .cons .nil
      · rintro (_ | ⟨⟨⟩, hadds⟩)
        exact hadds
  | cons parent above ih =>
      obtain ⟨hp, hrest⟩ := List.pairwise_cons.1 habove
      have hall {s : Slot} (hslot : fs.slot p = .ok s) :
          ∀ q ∈ parent :: above, fs.nodeAt q = .ok .directory :=
        fun q hq => nodeAt_of_isAbove (hp q hq) (hne q hq) hslot
      have ih' : ∀ mid, fs.createBelow parent above = (.ok (), mid) ↔
          fs.AddsAll (parent :: above) mid :=
        fun mid => ih hrest fun q hq => hne q (List.mem_cons_of_mem _ hq)
      simp only [createBelow_cons_eq_ok_iff, ih', ensureDirectory_eq_ok_iff]
      constructor
      · rintro (hadds | ⟨-, mid, -, -, hmid, hadds⟩)
        · obtain ⟨s, hslot⟩ := hadds.slot_eq_ok
          exact .cons (.of_directories (hall hslot)) hadds
        · exact .cons hmid hadds
      · rintro (_ | @⟨_, _, mid, _, hmid, hadds⟩)
        cases hslot : fs.slot p with
        | ok s =>
            obtain rfl := hmid.eq_of_directories (hall hslot)
            exact .inl hadds
        | error cause =>
            obtain ⟨s, hs⟩ := hadds.slot_eq_ok
            have hcause : cause = .noEntry := by
              refine (slot_of_madeAlong hmid.made.1 hslot).resolve_right fun hfails => ?_
              rw [hs] at hfails
              cases hfails
            exact .inr ⟨cause, mid, ensureDirectory_of_slot_error hslot, hcause ▸ rfl, hmid, hadds⟩

/-- Directories are made exactly where they can be added. -/
theorem createDirectories_eq_ok_iff :
    fs.createDirectories p = (.ok (), fs') ↔ fs.AddsDirectories p fs' := by
  have hpairwise := p.pairwise_withAncestors
  unfold createDirectories AddsDirectories
  cases hp : p.isEmpty with
  | true =>
      obtain rfl : p = ⟨[]⟩ := congrArg Path.mk (List.isEmpty_iff.1 hp)
      have hpaths : (⟨[]⟩ : Path).withAncestors = [] := rfl
      rw [hpaths, if_pos rfl, Prod.mk.injEq]
      constructor
      · rintro ⟨-, rfl⟩
        exact .nil
      · rintro ⟨⟩
        exact ⟨rfl, rfl⟩
  | false =>
      rw [Path.withAncestors_eq hp] at hpairwise ⊢
      rw [if_neg Bool.false_ne_true]
      exact createBelow_eq_ok_iff hpairwise fun q hq => by simpa using (List.mem_filter.1 hq).2

/-- A directory that is there already is not made, and nothing else is either. -/
theorem AddsDirectories.eq_of_directory (h : fs.AddsDirectories p fs')
    (hdir : fs.nodeAt p = .ok .directory) : fs' = fs := by
  obtain ⟨s, hslot⟩ := slot_of_nodeAt hdir
  have hp : p.isEmpty = false := (checkPath_eq_ok_iff.1 (checkPath_of_slot hslot)).2.1
  have hpairwise := p.pairwise_withAncestors
  unfold AddsDirectories at h
  rw [Path.withAncestors_eq hp] at h hpairwise
  refine AddsAll.eq_of_directories h fun q hq => ?_
  rcases List.mem_cons.1 hq with rfl | hq
  · exact hdir
  · have hne : q.isEmpty = false := by simpa using (List.mem_filter.1 hq).2
    exact nodeAt_of_isAbove (List.rel_of_pairwise_cons hpairwise hq) hne hslot

/-- `new` is `old` with the directory that the path names, and with those above it. -/
structure DirectoryMade (old : FileSystem) (p : Path) (new : FileSystem) : Prop where
  nodeAt_eq : new.nodeAt p = .ok .directory
  above : ∀ q ∈ p.ancestors, q.isEmpty = false → new.nodeAt q = .ok .directory
  along : MadeAlong (p :: p.ancestors) old new

theorem AddsDirectories.directoryMade (h : fs.AddsDirectories p fs') (hp : p.isEmpty = false) :
    DirectoryMade fs p fs' := by
  obtain ⟨halong, hdirs⟩ := AddsAll.made h
  have hmem : ∀ q ∈ p :: p.ancestors, q.isEmpty = false → q ∈ p.withAncestors := fun q hq hne =>
    List.mem_filter.2 ⟨hq, by simp [hne]⟩
  refine ⟨hdirs p (hmem p List.mem_cons_self hp), fun q hq hne => ?_, halong.mono ?_⟩
  · exact hdirs q (hmem q (List.mem_cons_of_mem p hq) hne)
  · exact fun q hq => (List.mem_filter.1 hq).1

end ArtifactCache.FileSystem
