import ArtifactCache.Proofs.FileSystem.Absence

/-!
# Trees with entries missing

In a tree that only lacks some entries of another one every way goes as it did, or ends where an
entry is missing.  Clearing a directory takes away what is below it, so a way that keeps clear of
that goes as it did.
-/

namespace ArtifactCache.FileSystem

/-- The entries of `fs'` are entries of `fs`. -/
structure Thinned (fs fs' : FileSystem) : Prop where
  here_eq : fs'.here = fs.here
  get?_eq : ∀ k, fs'.get? k = fs.get? k ∨ fs'.get? k = none

variable {fs fs' : FileSystem} {p : Path} {name : Name} {dir l k : Location} {n : Nat}
  {steps rest : List Step} {cause : IoError}

theorem isBelow_iff {inner : Location} : isBelow l inner = true ↔ l <:+ inner ∧ inner ≠ l := by
  simp [isBelow]

theorem isSuffix_iff_isBelow {inner : Location} :
    l <:+ inner ↔ inner = l ∨ isBelow l inner = true := by
  rw [isBelow_iff]
  constructor
  · intro h
    by_cases heq : inner = l
    · exact .inl heq
    · exact .inr ⟨h, heq⟩
  · rintro (rfl | ⟨h, -⟩)
    · exact List.suffix_refl inner
    · exact h

theorem not_isBelow_self (l : Location) : isBelow l l = false := by simp [isBelow]

/-- A directory is not below what is in it. -/
theorem not_isBelow_tail (name : Name) (dir : Location) : isBelow (name :: dir) dir = false := by
  rw [Bool.eq_false_iff]
  intro h
  have hlength := (isBelow_iff.1 h).1.length_le
  rw [List.length_cons] at hlength
  omega

theorem get?_clear (fs : FileSystem) (l k : Location) :
    (fs.clear l).get? k = if isBelow l k then none else fs.get? k := by
  by_cases hk : k = []
  · subst hk
    have hroot : isBelow l [] = false := by
      rw [Bool.eq_false_iff]
      intro h
      obtain ⟨hsuffix, hne⟩ := isBelow_iff.1 h
      exact hne (List.suffix_nil.1 hsuffix).symm
    simp [hroot]
  · exact get?_drop fs _ hk

theorem get?_eraseTree (fs : FileSystem) (hl : l ≠ []) (k : Location) :
    (fs.eraseTree l).get? k = if l <:+ k then none else fs.get? k := by
  rw [eraseTree, get?_erase _ hl, get?_clear]
  by_cases hk : k = l
  · subst hk
    rw [if_pos rfl, if_pos (List.suffix_refl k)]
  · rw [if_neg hk]
    by_cases hbelow : isBelow l k = true
    · rw [if_pos hbelow, if_pos (isSuffix_iff_isBelow.2 (.inr hbelow))]
    · rw [if_neg hbelow, if_neg]
      intro h
      rcases isSuffix_iff_isBelow.1 h with heq | hbelow'
      · exact hk heq
      · exact hbelow hbelow'

theorem thinned_drop (fs : FileSystem) (p : Location → Bool) : Thinned fs (fs.drop p) := by
  refine ⟨rfl, fun k => ?_⟩
  by_cases hk : k = []
  · subst hk
    exact .inl rfl
  · rw [get?_drop fs p hk]
    split
    · exact .inr rfl
    · exact .inl rfl

theorem Thinned.trans {fs'' : FileSystem} (h : Thinned fs fs') (h' : Thinned fs' fs'') :
    Thinned fs fs'' := by
  refine ⟨h'.here_eq.trans h.here_eq, fun k => ?_⟩
  rcases h'.get?_eq k with hsame | hnone
  · rw [hsame]
    exact h.get?_eq k
  · exact .inr hnone

theorem thinned_eraseTree (fs : FileSystem) (l : Location) : Thinned fs (fs.eraseTree l) :=
  (thinned_drop fs (isBelow l)).trans (thinned_drop (fs.clear l) (· == l))

/-! ## Ways in a tree with entries missing -/

namespace Thinned

theorem stepsTo (h : Thinned fs fs') {step : Step} (hstep : fs.StepsTo l step k) :
    fs'.StepsTo l step k ∨ fs'.StopsAt l step .noEntry := by
  obtain ⟨hl, hstep⟩ := hstep
  rcases h.get?_eq l with hsame | hnone
  · rw [hl] at hsame
    cases step with
    | stay => exact .inl ⟨hsame, hstep⟩
    | up => exact .inl ⟨hsame, hstep⟩
    | enter name =>
        obtain ⟨rfl, hshort, node, hnode, hlink⟩ := hstep
        rcases h.get?_eq (name :: l) with hsame' | hnone'
        · exact .inl ⟨hsame, rfl, hshort, node, hsame'.trans hnode, hlink⟩
        · exact .inr (.missing hsame hshort hnone')
  · exact .inr (.nowhere hnone)

theorem meetsLink (h : Thinned fs fs') {step : Step} {target : Path}
    (hlink : fs.MeetsLink l step target) :
    fs'.MeetsLink l step target ∨ fs'.StopsAt l step .noEntry := by
  obtain ⟨hl, name, rfl, hshort, hnode⟩ := hlink
  rcases h.get?_eq l with hsame | hnone
  · rw [hl] at hsame
    rcases h.get?_eq (name :: l) with hsame' | hnone'
    · exact .inl ⟨hsame, name, rfl, hshort, hsame'.trans hnode⟩
    · exact .inr (.missing hsame hshort hnone')
  · exact .inr (.nowhere hnone)

/-- What is passed is passed still, or the way has come to an end before. -/
theorem passes (h : Thinned fs fs') (hpasses : fs.Passes n l steps k rest) :
    fs'.Passes n l steps k rest ∨
      ∃ m ≤ n, ∃ j step more, fs'.Passes m l steps j (step :: more) ∧
        fs'.StopsAt j step .noEntry := by
  induction hpasses with
  | here => exact .inl .here
  | step hstep _ ih =>
      rcases h.stepsTo hstep with hstep' | hstop
      · rcases ih with hpasses | ⟨m, hm, j, next, more, hpasses, hstop⟩
        · exact .inl (.step hstep' hpasses)
        · exact .inr ⟨m, hm, j, next, more, .step hstep' hpasses, hstop⟩
      · exact .inr ⟨0, Nat.zero_le _, _, _, _, .here, hstop⟩
  | link hlink _ ih =>
      rcases h.meetsLink hlink with hlink' | hstop
      · rcases ih with hpasses | ⟨m, hm, j, next, more, hpasses, hstop⟩
        · exact .inl (.link hlink' hpasses)
        · exact .inr ⟨m + 1, Nat.succ_le_succ hm, j, next, more, .link hlink' hpasses, hstop⟩
      · exact .inr ⟨0, Nat.zero_le _, _, _, _, .here, hstop⟩

/-- The directory of the last part is found where it was, or an entry is missing. -/
theorem directoryAt (h : Thinned fs fs') (hdir : fs.directoryAt k steps = .ok dir) :
    fs'.directoryAt k steps = .ok dir ∨ fs'.directoryAt k steps = .error .noEntry := by
  obtain ⟨hfollow, hget⟩ := directoryAt_eq_ok_iff.1 hdir
  obtain ⟨n, hn, hpasses⟩ := follow_eq_ok_iff.1 hfollow
  rcases h.passes hpasses with hpasses' | ⟨m, hm, j, step, more, hpasses', hstop⟩
  · have hfollow' := follow_eq_ok_iff.2 ⟨n, hn, hpasses'⟩
    rcases h.get?_eq dir with hsame | hnone
    · exact .inl (directoryAt_eq_ok_iff.2 ⟨hfollow', hsame.trans hget⟩)
    · exact .inr (directoryAt_eq_error_iff.2 (.inr ⟨dir, hfollow', .nowhere hnone⟩))
  · have hfollow' := follow_of_stopsAt hpasses' hstop (Nat.le_trans hm hn)
    exact .inr (directoryAt_eq_error_iff.2 (.inl hfollow'))

theorem slot (h : Thinned fs fs') (hp : p.EndsIn name)
    (hslot : fs.slot p = .ok (.entry dir name false)) :
    fs'.slot p = .ok (.entry dir name false) ∨ fs'.slot p = .error .noEntry := by
  obtain ⟨hcheck, -, last, -, -, hdir⟩ := slot_eq_entry_iff.1 hslot
  rw [← h.here_eq] at hdir
  rcases h.directoryAt hdir with hsame | hmissing
  · exact .inl (slot_of_directoryAt hp hcheck hsame)
  · exact .inr (slot_of_directoryAt_error hp hcheck hmissing)

/-- Without the entry that a path named nothing is at the path. -/
theorem lacks (h : Thinned fs fs') (hp : p.EndsIn name)
    (hslot : fs.slot p = .ok (.entry dir name false)) (hshort : isTooLong name = false)
    (hnone : fs'.get? (name :: dir) = none) : fs'.Lacks p name := by
  apply (lacks_iff hp).2
  rcases h.slot hp hslot with hslot' | hmissing
  · rw [locateEntry_of_entry hslot', hshort, hnone]
    rfl
  · exact locateEntry_of_slot_error hmissing

end Thinned

/-! ## Ways that keep clear of what is below a location -/

/-- The way passes `k` or enters it next. -/
def LeadsThrough (fs : FileSystem) (p : Path) (k : Location) : Prop :=
  ∃ j rest, fs.OnWay p j rest ∧ (j = k ∨ ∃ name more, rest = .enter name :: more ∧ name :: j = k)

theorem passes_clear (h : fs.Passes n k steps dir rest)
    (hfree : ∀ m ≤ n, ∀ j more, fs.Passes m k steps j more → isBelow l j = false ∧
      ∀ name after, more = .enter name :: after → isBelow l (name :: j) = false) :
    (fs.clear l).Passes n k steps dir rest := by
  have hkept {j : Location} (hj : isBelow l j = false) : (fs.clear l).get? j = fs.get? j := by
    rw [get?_clear, hj]
    rfl
  induction h with
  | here => exact .here
  | @step n k j _ step rest _ hstep _ ih =>
      have hnow := hfree 0 (Nat.zero_le n) k (step :: rest) .here
      have hstep' : (fs.clear l).StepsTo k step j := by
        obtain ⟨hk, hstep⟩ := hstep
        refine ⟨(hkept hnow.1).trans hk, ?_⟩
        cases step with
        | stay => exact hstep
        | up => exact hstep
        | enter name =>
            obtain ⟨rfl, hshort, node, hnode, hlink⟩ := hstep
            exact ⟨rfl, hshort, node, (hkept (hnow.2 name rest rfl)).trans hnode, hlink⟩
      apply Passes.step hstep'
      exact ih fun m hm i more hmore => hfree m hm i more (.step hstep hmore)
  | @link n k _ step target rest _ hlink _ ih =>
      have hnow := hfree 0 (Nat.zero_le _) k (step :: rest) .here
      have hlink' : (fs.clear l).MeetsLink k step target := by
        obtain ⟨hk, name, rfl, hshort, hnode⟩ := hlink
        exact ⟨(hkept hnow.1).trans hk, name, rfl, hshort,
          (hkept (hnow.2 name rest rfl)).trans hnode⟩
      apply Passes.link hlink'
      exact ih fun m hm i more hmore =>
        hfree (m + 1) (Nat.succ_le_succ hm) i more (.link hlink hmore)

/-- A directory whose path does not lead through what is below it is still found when that has been
cleared away. -/
theorem slot_clear (hp : p.EndsIn name) (hslot : fs.slot p = .ok (.entry dir name false))
    (hfree : ∀ k, isBelow (name :: dir) k = true → ¬ fs.LeadsThrough p k) :
    (fs.clear (name :: dir)).slot p = .ok (.entry dir name false) := by
  obtain ⟨hcheck, -, last, -, -, hdir⟩ := slot_eq_entry_iff.1 hslot
  obtain ⟨hfollow, hget⟩ := directoryAt_eq_ok_iff.1 hdir
  obtain ⟨n, hn, hpasses⟩ := follow_eq_ok_iff.1 hfollow
  have hpasses' : (fs.clear (name :: dir)).Passes n (origin fs.here p) p.approach dir [] := by
    apply passes_clear hpasses
    intro m hm j more hmore
    have hway : fs.OnWay p j more := ⟨m, Nat.le_trans hm hn, hmore⟩
    constructor
    · rw [Bool.eq_false_iff]
      exact fun hbelow => hfree j hbelow ⟨j, more, hway, .inl rfl⟩
    · intro next after hnext
      rw [Bool.eq_false_iff]
      exact fun hbelow =>
        hfree (next :: j) hbelow ⟨j, more, hway, .inr ⟨next, after, hnext, rfl⟩⟩
  have hget' : (fs.clear (name :: dir)).get? dir = some .directory := by
    rw [get?_clear, not_isBelow_tail]
    exact hget
  exact slot_of_directoryAt hp hcheck
    (directoryAt_eq_ok_iff.2 ⟨follow_eq_ok_iff.2 ⟨n, hn, hpasses'⟩, hget'⟩)

end ArtifactCache.FileSystem
