import ArtifactCache.Proofs.FileSystem.Links

/-!
# The places that a way passes

Following a way is passing one place after the other.  It ends at the place where no steps are left,
or at the first one from where it cannot go on: nothing or no directory is there, or the name to be
entered is too long or missing, or it is a link and there have been too many of them.
-/

namespace ArtifactCache.FileSystem

/-- The way from the first location, by the first steps, comes to the second location with the
second steps before it, through that many links. -/
inductive Passes (fs : FileSystem) : Nat → Location → List Step → Location → List Step → Prop
  | here {l : Location} {steps : List Step} : Passes fs 0 l steps l steps
  | step {n : Nat} {l j k : Location} {step : Step} {rest more : List Step} :
      fs.StepsTo l step j → Passes fs n j rest k more → Passes fs n l (step :: rest) k more
  | link {n : Nat} {l k : Location} {step : Step} {target : Path} {rest more : List Step} :
      fs.MeetsLink l step target →
      Passes fs n (origin l target) (target.steps ++ rest) k more →
      Passes fs (n + 1) l (step :: rest) k more

/-- No way leads on from the location by the step, whatever comes after it. -/
inductive StopsAt (fs : FileSystem) (l : Location) : Step → IoError → Prop
  | nowhere {step : Step} : fs.get? l = none → StopsAt fs l step .noEntry
  | noDirectory {step : Step} {node : Node} :
      fs.get? l = some node → node ≠ .directory → StopsAt fs l step .notDirectory
  | tooLong {name : Name} :
      fs.get? l = some .directory → isTooLong name = true →
      StopsAt fs l (.enter name) .nameTooLong
  | missing {name : Name} :
      fs.get? l = some .directory → isTooLong name = false → fs.get? (name :: l) = none →
      StopsAt fs l (.enter name) .noEntry

variable {fs : FileSystem} {n m : Nat} {l j k dir : Location} {step : Step}
  {steps rest more : List Step} {target : Path} {cause : IoError}

theorem StopsAt.walk_eq (h : fs.StopsAt l step cause) (rest : List Step) :
    fs.walk l (step :: rest) = .failed cause := by
  cases h with
  | nowhere hl => simp only [walk, hl]
  | noDirectory hl hnode => simp only [walk, hl]
  | tooLong hl hlong => simp [walk, hl, hlong]
  | missing hl hlong hname => simp [walk, hl, hlong, hname]

theorem stopsAt_cases (fs : FileSystem) (l : Location) (step : Step) :
    (∃ k, fs.StepsTo l step k) ∨ (∃ target, fs.MeetsLink l step target) ∨
      ∃ cause, fs.StopsAt l step cause := by
  cases hl : fs.get? l with
  | none => exact .inr (.inr ⟨_, .nowhere hl⟩)
  | some node =>
      by_cases hnode : node = .directory
      · subst hnode
        cases step with
        | stay => exact .inl ⟨l, hl, rfl⟩
        | up => exact .inl ⟨l.tail, hl, rfl⟩
        | enter name =>
            cases hlong : isTooLong name with
            | true => exact .inr (.inr ⟨_, .tooLong hl hlong⟩)
            | false =>
                cases hname : fs.get? (name :: l) with
                | none => exact .inr (.inr ⟨_, .missing hl hlong hname⟩)
                | some inner =>
                    by_cases hlink : ∃ target, inner = .link target
                    · obtain ⟨target, rfl⟩ := hlink
                      exact .inr (.inl ⟨target, hl, name, rfl, hlong, hname⟩)
                    · have hother : ∀ target, inner ≠ .link target :=
                        fun target heq => hlink ⟨target, heq⟩
                      exact .inl ⟨name :: l, hl, rfl, hlong, inner, hname, hother⟩
      · exact .inr (.inr ⟨_, .noDirectory hl hnode⟩)

namespace Passes

/-- What is left to follow decides, with as many links as are left. -/
theorem follow_eq (h : fs.Passes n l steps k rest) (m : Nat) :
    fs.follow (n + m) l steps = fs.follow m k rest := by
  induction h with
  | here => rw [Nat.zero_add]
  | step hstep _ ih =>
      rw [← ih]
      exact follow_congr (walk_of_stepsTo hstep _) _
  | link hlink _ ih =>
      rw [← ih, Nat.add_right_comm]
      exact follow_succ_of_link (walk_of_meetsLink hlink _) _

theorem append (h : fs.Passes n l steps k rest) (more : List Step) :
    fs.Passes n l (steps ++ more) k (rest ++ more) := by
  induction h with
  | here => exact .here
  | step hstep _ ih => exact .step hstep ih
  | link hlink _ ih =>
      rw [List.append_assoc] at ih
      exact .link hlink ih

theorem trans (h : fs.Passes n l steps j rest) (h' : fs.Passes m j rest k more) :
    fs.Passes (n + m) l steps k more := by
  induction h with
  | here => rwa [Nat.zero_add]
  | step hstep _ ih => exact .step hstep (ih h')
  | link hlink _ ih =>
      rw [Nat.add_right_comm]
      exact .link hlink (ih h')

end Passes

/-- Without a link, a way comes to its end, or to a link or a stop. -/
theorem passes_cases (fs : FileSystem) (l : Location) (steps : List Step) :
    (∃ k, fs.Passes 0 l steps k []) ∨
      ∃ k step rest, fs.Passes 0 l steps k (step :: rest) ∧
        ((∃ target, fs.MeetsLink k step target) ∨ ∃ cause, fs.StopsAt k step cause) := by
  induction steps generalizing l with
  | nil => exact .inl ⟨l, .here⟩
  | cons step rest ih =>
      rcases fs.stopsAt_cases l step with ⟨k, hk⟩ | hlink | hstop
      · rcases ih k with ⟨j, hj⟩ | ⟨j, next, more, hj, hnext⟩
        · exact .inl ⟨j, .step hk hj⟩
        · exact .inr ⟨j, next, more, .step hk hj, hnext⟩
      · exact .inr ⟨l, step, rest, .here, .inl hlink⟩
      · exact .inr ⟨l, step, rest, .here, .inr hstop⟩

theorem follow_of_stopsAt (h : fs.Passes n l steps k (step :: rest))
    (hstop : fs.StopsAt k step cause) (hn : n ≤ m) : fs.follow m l steps = .error cause := by
  obtain ⟨spare, rfl⟩ := Nat.exists_eq_add_of_le hn
  rw [h.follow_eq]
  exact follow_of_failed (hstop.walk_eq rest) spare

/-- A way has an end, a stop, or too many links. -/
theorem follow_cases (fs : FileSystem) (n : Nat) (l : Location) (steps : List Step) :
    (∃ m ≤ n, ∃ k, fs.Passes m l steps k []) ∨
      (∃ m ≤ n, ∃ k step rest cause,
        fs.Passes m l steps k (step :: rest) ∧ fs.StopsAt k step cause) ∨
      fs.follow n l steps = .error .tooManyLinks := by
  induction n generalizing l steps with
  | zero =>
      rcases fs.passes_cases l steps with
        ⟨k, hk⟩ | ⟨k, step, rest, hk, ⟨target, hlink⟩ | ⟨cause, hstop⟩⟩
      · exact .inl ⟨0, Nat.le_refl 0, k, hk⟩
      · refine .inr (.inr ?_)
        have hfollow := hk.follow_eq 0
        rw [Nat.zero_add] at hfollow
        rw [hfollow]
        exact follow_zero_of_link (walk_of_meetsLink hlink rest)
      · exact .inr (.inl ⟨0, Nat.le_refl 0, k, step, rest, cause, hk, hstop⟩)
  | succ n ih =>
      rcases fs.passes_cases l steps with
        ⟨k, hk⟩ | ⟨k, step, rest, hk, ⟨target, hlink⟩ | ⟨cause, hstop⟩⟩
      · exact .inl ⟨0, Nat.zero_le _, k, hk⟩
      · have hjump {m : Nat} {j : Location} {more : List Step}
            (h : fs.Passes m (origin k target) (target.steps ++ rest) j more) :
            fs.Passes (m + 1) l steps j more := by
          have hall := hk.trans (.link hlink h)
          rwa [Nat.zero_add] at hall
        rcases ih (origin k target) (target.steps ++ rest) with
          ⟨m, hm, j, hj⟩ | ⟨m, hm, j, next, more, cause, hj, hstop⟩ | hmany
        · exact .inl ⟨m + 1, Nat.succ_le_succ hm, j, hjump hj⟩
        · exact .inr (.inl
            ⟨m + 1, Nat.succ_le_succ hm, j, next, more, cause, hjump hj, hstop⟩)
        · refine .inr (.inr ?_)
          have hfollow := hk.follow_eq (n + 1)
          rw [Nat.zero_add] at hfollow
          rw [hfollow, follow_succ_of_link (walk_of_meetsLink hlink rest), hmany]
      · exact .inr (.inl ⟨0, Nat.zero_le _, k, step, rest, cause, hk, hstop⟩)

theorem follow_eq_ok_iff :
    fs.follow n l steps = .ok k ↔ ∃ m ≤ n, fs.Passes m l steps k [] := by
  constructor
  · intro h
    rcases fs.follow_cases n l steps with
      ⟨m, hm, j, hj⟩ | ⟨m, hm, j, step, rest, cause, hj, hstop⟩ | hmany
    · obtain ⟨spare, rfl⟩ := Nat.exists_eq_add_of_le hm
      rw [hj.follow_eq, follow_nil, Except.ok.injEq] at h
      subst h
      exact ⟨m, hm, hj⟩
    · rw [follow_of_stopsAt hj hstop hm] at h
      cases h
    · rw [hmany] at h
      cases h
  · rintro ⟨m, hm, hk⟩
    obtain ⟨spare, rfl⟩ := Nat.exists_eq_add_of_le hm
    rw [hk.follow_eq, follow_nil]

theorem follow_eq_error_iff (hcause : cause ≠ .tooManyLinks) :
    fs.follow n l steps = .error cause ↔
      ∃ m ≤ n, ∃ k step rest, fs.Passes m l steps k (step :: rest) ∧ fs.StopsAt k step cause := by
  constructor
  · intro h
    rcases fs.follow_cases n l steps with
      ⟨m, hm, j, hj⟩ | ⟨m, hm, j, step, rest, other, hj, hstop⟩ | hmany
    · rw [follow_eq_ok_iff.2 ⟨m, hm, hj⟩] at h
      cases h
    · rw [follow_of_stopsAt hj hstop hm, Except.error.injEq] at h
      subst h
      exact ⟨m, hm, j, step, rest, hj, hstop⟩
    · rw [hmany, Except.error.injEq] at h
      exact absurd h.symm hcause
  · rintro ⟨m, hm, k, step, rest, hk, hstop⟩
    exact follow_of_stopsAt hk hstop hm

end ArtifactCache.FileSystem
