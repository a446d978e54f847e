import ArtifactCache.Proofs.FileSystem.Ways

/-!
# Ways through links

Following a way in two parts is following it at once, the number of links that are left apart.  That
number decides nothing but whether there are too many links.  A link that leads nowhere can be
erased: nothing is reached by way of it.
-/

namespace ArtifactCache.FileSystem

/-- Go on from where a walk has come to. -/
def Walk.goOn (fs : FileSystem) (more : List Step) : Walk → Walk
  | .arrived l => fs.walk l more
  | .failed cause => .failed cause
  | .link dir target rest => .link dir target (rest ++ more)

theorem walk_append (fs : FileSystem) (more : List Step) :
    ∀ (l : Location) (steps : List Step),
      fs.walk l (steps ++ more) = (fs.walk l steps).goOn fs more := by
  intro l steps
  induction steps generalizing l with
  | nil => simp [walk, Walk.goOn]
  | cons step rest ih =>
      rw [List.cons_append]
      rcases fs.step_cases l step with ⟨j, hj⟩ | ⟨target, hlink⟩ | ⟨cause, hfail⟩
      · rw [walk_of_stepsTo hj, walk_of_stepsTo hj, ih]
      · rw [walk_of_meetsLink hlink, walk_of_meetsLink hlink]
        rfl
      · rw [hfail, hfail]
        rfl

section Following

variable {fs fs' : FileSystem} {n m : Nat} {l k dir : Location} {steps rest : List Step}
  {target : Path} {cause : IoError}

theorem follow_of_arrived (h : fs.walk l steps = .arrived k) (n : Nat) :
    fs.follow n l steps = .ok k := by
  unfold follow
  rw [h]

theorem follow_of_failed (h : fs.walk l steps = .failed cause) (n : Nat) :
    fs.follow n l steps = .error cause := by
  unfold follow
  rw [h]

theorem follow_zero_of_link (h : fs.walk l steps = .link dir target rest) :
    fs.follow 0 l steps = .error .tooManyLinks := by
  unfold follow
  rw [h]

theorem follow_succ_of_link (h : fs.walk l steps = .link dir target rest) (n : Nat) :
    fs.follow (n + 1) l steps = fs.follow n (origin dir target) (target.steps ++ rest) := by
  conv =>
    lhs
    unfold follow
  rw [h]

theorem follow_nil (fs : FileSystem) (n : Nat) (l : Location) : fs.follow n l [] = .ok l :=
  follow_of_arrived rfl n

theorem follow_congr {l' : Location} {steps' : List Step}
    (h : fs.walk l steps = fs.walk l' steps') (n : Nat) :
    fs.follow n l steps = fs.follow n l' steps' := by
  unfold follow
  rw [h]

/-! ## A way in two parts -/

theorem follow_append_of_ok (h : fs.follow n l steps = .ok k) :
    ∃ m ≤ n, ∀ more, fs.follow n l (steps ++ more) = fs.follow m k more := by
  fun_induction fs.follow n l steps with
  | case1 n l steps j hw =>
      cases h
      refine ⟨n, Nat.le_refl n, fun more => follow_congr ?_ n⟩
      rw [walk_append, hw]
      rfl
  | case2 n l steps cause hw => cases h
  | case3 l steps dir target rest hw => cases h
  | case4 l steps dir target rest hw n ih =>
      obtain ⟨m, hm, hmore⟩ := ih h
      refine ⟨m, Nat.le_succ_of_le hm, fun more => ?_⟩
      have hw' : fs.walk l (steps ++ more) = .link dir target (rest ++ more) := by
        rw [walk_append, hw]
        rfl
      rw [follow_succ_of_link hw', ← List.append_assoc, hmore]

theorem follow_append_of_error (more : List Step) (h : fs.follow n l steps = .error cause) :
    fs.follow n l (steps ++ more) = .error cause := by
  fun_induction fs.follow n l steps with
  | case1 n l steps j hw => cases h
  | case2 n l steps other hw =>
      cases h
      apply follow_of_failed
      rw [walk_append, hw]
      rfl
  | case3 l steps dir target rest hw =>
      cases h
      have hw' : fs.walk l (steps ++ more) = .link dir target (rest ++ more) := by
        rw [walk_append, hw]
        rfl
      exact follow_zero_of_link hw'
  | case4 l steps dir target rest hw n ih =>
      have hw' : fs.walk l (steps ++ more) = .link dir target (rest ++ more) := by
        rw [walk_append, hw]
        rfl
      rw [follow_succ_of_link hw', ← List.append_assoc, ih h]

/-- With another number of links one comes to the same location, or there are too many of them. -/
theorem follow_eq_or_tooManyLinks (h : fs.follow n l steps = .ok k) (m : Nat) :
    fs.follow m l steps = .ok k ∨ fs.follow m l steps = .error .tooManyLinks := by
  fun_induction fs.follow n l steps generalizing m with
  | case1 n l steps j hw =>
      cases h
      exact .inl (follow_of_arrived hw m)
  | case2 n l steps cause hw => cases h
  | case3 l steps dir target rest hw => cases h
  | case4 l steps dir target rest hw n ih =>
      cases m with
      | zero => exact .inr (follow_zero_of_link hw)
      | succ m =>
          rw [follow_succ_of_link hw]
          exact ih h m

/-! ## The same way in another tree -/

theorem WaysKept.follow_eq_ok (hways : WaysKept fs fs') (hk : KeptAt k fs fs')
    (h : fs.follow n l steps = .ok k) : fs'.follow n l steps = .ok k := by
  fun_induction fs.follow n l steps with
  | case1 n l steps j hw =>
      cases h
      exact follow_of_arrived (hways.walk_eq_arrived hk hw) n
  | case2 n l steps cause hw => cases h
  | case3 l steps dir target rest hw => cases h
  | case4 l steps dir target rest hw n ih =>
      rw [follow_succ_of_link (hways.walk_eq_link hw)]
      exact ih h

/-! ## Links that lead nowhere -/

/-- Nothing is found by way of a link in `dir` with this target. -/
def Dangles (fs : FileSystem) (dir : Location) (target : Path) : Prop :=
  ∀ n k, fs.follow n (origin dir target) target.steps = .ok k → fs.get? k = none

theorem eq_nil_of_follow_eq_ok (hl : fs.get? l = none) (h : fs.follow n l steps = .ok k) :
    steps = [] := by
  cases steps with
  | nil => rfl
  | cons step rest =>
      have hfail : fs.walk l (step :: rest) = .failed .noEntry := by simp [walk, hl]
      rw [follow_of_failed hfail] at h
      cases h

theorem Dangles.get?_eq_none (hd : fs.Dangles dir target)
    (h : fs.follow n (origin dir target) (target.steps ++ rest) = .ok k) : fs.get? k = none := by
  cases hf : fs.follow n (origin dir target) target.steps with
  | error cause =>
      rw [follow_append_of_error rest hf] at h
      cases h
  | ok j =>
      have hj := hd n j hf
      obtain ⟨m, -, hmore⟩ := follow_append_of_ok hf
      rw [hmore rest] at h
      have hrest := eq_nil_of_follow_eq_ok hj h
      subst hrest
      cases (follow_of_arrived rfl m).symm.trans h
      exact hj

section Erasing

variable {name : Name} {target₀ : Path}

theorem StepsTo.erase_link {l₀ : Location} {step : Step} (hl₀ : l₀ ≠ [])
    (h₀ : fs.get? l₀ = some (.link target₀)) (h : fs.StepsTo l step k) :
    (fs.erase l₀).StepsTo l step k := by
  obtain ⟨hl, hstep⟩ := h
  have hne : l ≠ l₀ := by
    rintro rfl
    rw [hl] at h₀
    cases h₀
  refine ⟨by rw [get?_erase_of_ne fs hne, hl], ?_⟩
  cases step with
  | stay => exact hstep
  | up => exact hstep
  | enter name =>
      obtain ⟨hk, hlong, node, hnode, hlink⟩ := hstep
      refine ⟨hk, hlong, node, ?_, hlink⟩
      have hne' : k ≠ l₀ := by
        rintro rfl
        rw [hnode, Option.some.injEq] at h₀
        exact hlink _ h₀
      rw [get?_erase_of_ne fs hne', hnode]

theorem walk_erase_link_of_arrived {l₀ : Location} (hl₀ : l₀ ≠ [])
    (h₀ : fs.get? l₀ = some (.link target₀)) (h : fs.walk l steps = .arrived k) :
    (fs.erase l₀).walk l steps = .arrived k := by
  induction steps generalizing l with
  | nil => exact h
  | cons step rest ih =>
      obtain ⟨j, hj, hrest⟩ := walk_cons_eq_arrived_iff.1 h
      exact walk_cons_eq_arrived_iff.2 ⟨j, hj.erase_link hl₀ h₀, ih hrest⟩

/-- A walk that meets another link than the erased one meets it still. -/
theorem walk_erase_link_of_link (h₀ : fs.get? (name :: dir) = some (.link target₀))
    {d : Location} (hne : ¬ (d = dir ∧ target = target₀))
    (h : fs.walk l steps = .link d target rest) :
    (fs.erase (name :: dir)).walk l steps = .link d target rest := by
  have hl₀ : name :: dir ≠ [] := List.cons_ne_nil _ _
  induction steps generalizing l with
  | nil => cases h
  | cons step more ih =>
      rcases walk_cons_eq_link_iff.1 h with
        ⟨j, hj, hrest⟩ | ⟨⟨hl, other, hstep, hlong, hnode⟩, hd, hmore⟩
      · exact walk_cons_eq_link_iff.2 (.inl ⟨j, hj.erase_link hl₀ h₀, ih hrest⟩)
      · have hl' : l ≠ name :: dir := by
          rintro rfl
          rw [hl] at h₀
          cases h₀
        have hother : other :: l ≠ name :: dir := by
          intro heq
          rw [heq, h₀, Option.some.injEq, Node.link.injEq] at hnode
          exact hne ⟨hd.trans (List.cons.inj heq).2, hnode.symm⟩
        refine walk_cons_eq_link_iff.2 (.inr ⟨⟨?_, other, hstep, hlong, ?_⟩, hd, hmore⟩)
        · rw [get?_erase_of_ne fs hl', hl]
        · rw [get?_erase_of_ne fs hother, hnode]

/-- What is found in a tree is found without a link that leads nowhere. -/
theorem follow_erase_of_dangles (h₀ : fs.get? (name :: dir) = some (.link target₀))
    (hd : fs.Dangles dir target₀) (hk : fs.get? k ≠ none) (h : fs.follow n l steps = .ok k) :
    (fs.erase (name :: dir)).follow n l steps = .ok k := by
  fun_induction fs.follow n l steps with
  | case1 n l steps j hw =>
      cases h
      exact follow_of_arrived (walk_erase_link_of_arrived (List.cons_ne_nil _ _) h₀ hw) n
  | case2 n l steps cause hw => cases h
  | case3 l steps dir target rest hw => cases h
  | case4 l steps d target rest hw n ih =>
      have hne : ¬ (d = dir ∧ target = target₀) := by
        rintro ⟨rfl, rfl⟩
        exact hk (hd.get?_eq_none h)
      rw [follow_succ_of_link (walk_erase_link_of_link h₀ hne hw)]
      exact ih h

end Erasing

end Following

end ArtifactCache.FileSystem
