import ArtifactCache.FileSystem.Operations

/-!
# Ways through a tree

A walk passes through directories and links only, so what it comes to is the same in every tree that
keeps them: files may be written, made and removed without a path leading elsewhere.
-/

namespace ArtifactCache.FileSystem

/-!
## Changing one entry

Putting, growing and erasing an entry of a tree, told by what is found at each location afterwards.
Two trees that agree but for one location are related by `SameBut`.
-/

/-- `new` is `old` but for what is at `l`. -/
def SameBut (l : Location) (old new : FileSystem) : Prop :=
  new.here = old.here ∧ ∀ k, k ≠ l → new.get? k = old.get? k

theorem get?_put (fs : FileSystem) {l : Location} (hl : l ≠ []) (node : Node) (k : Location) :
    (fs.put l node).get? k = if k = l then some node else fs.get? k := by
  by_cases h : k = l
  · rw [if_pos h, h, get?_put_self fs hl]
  · rw [if_neg h, get?_put_of_ne fs h]

theorem get?_erase (fs : FileSystem) {l : Location} (hl : l ≠ []) (k : Location) :
    (fs.erase l).get? k = if k = l then none else fs.get? k := by
  by_cases h : k = l
  · rw [if_pos h, h, get?_erase_self fs hl]
  · rw [if_neg h, get?_erase_of_ne fs h]

theorem sameBut_put (fs : FileSystem) (l : Location) (node : Node) :
    SameBut l fs (fs.put l node) :=
  ⟨rfl, fun _ hk => get?_put_of_ne fs hk node⟩

theorem sameBut_erase (fs : FileSystem) (l : Location) : SameBut l fs (fs.erase l) :=
  ⟨rfl, fun _ hk => get?_erase_of_ne fs hk⟩

theorem erase_erase (fs : FileSystem) (l : Location) : (fs.erase l).erase l = fs.erase l := by
  simp [erase, drop]

/-- What is put at a location does not depend on what was there. -/
theorem put_erase (fs : FileSystem) (l : Location) (node : Node) :
    (fs.erase l).put l node = fs.put l node := by
  simp only [put, erase_erase]
  rfl

/-- A file that was just put grows by what is written to it, and nothing else does. -/
theorem append_put (fs : FileSystem) (l : Location) (content bytes : List UInt8) :
    (fs.put l (.file content)).append l bytes = fs.put l (.file (content ++ bytes)) := by
  have hrest : ∀ entry ∈ (fs.erase l).nodes, entry.1 ≠ l := by
    intro entry hentry
    simp only [erase, drop, List.mem_filter] at hentry
    simpa using hentry.2
  simp only [append, put, List.map_cons, if_pos, mk.injEq, List.cons.injEq, true_and, and_true]
  refine (List.map_congr_left ?_).trans (List.map_id _)
  rintro ⟨k, node⟩ hentry
  have hk : k ≠ l := hrest _ hentry
  cases node with
  | file old => simp [hk]
  | directory => rfl
  | link target => rfl
  | device => rfl

/-- What is put at one location and erased at another can be erased first. -/
theorem erase_put_comm (fs : FileSystem) {k l : Location} (h : k ≠ l) (node : Node) :
    (fs.put k node).erase l = (fs.erase l).put k node := by
  have hhead : (!(k == l)) = true := by simpa using h
  simp only [put, erase, drop, List.filter_cons, hhead, if_true, List.filter_filter]
  simp [Bool.and_comm]

/-- A node with more bytes at its end, if it is a file. -/
def grown (bytes : List UInt8) : Node → Node
  | .file content => .file (content ++ bytes)
  | node => node

theorem get?_append (fs : FileSystem) (l : Location) (bytes : List UInt8) (k : Location) :
    (fs.append l bytes).get? k =
      if k = l then (fs.get? k).map (grown bytes) else fs.get? k := by
  obtain ⟨nodes, here⟩ := fs
  by_cases hk : k = []
  · simp [hk, grown]
  · simp only [get?, append, if_neg hk]
    induction nodes with
    | nil => simp
    | cons entry nodes ih =>
        obtain ⟨j, node⟩ := entry
        by_cases hj : k = j
        · subst hj
          cases node <;> by_cases hl : k = l <;> simp [hl, grown]
        · have hne : (k == j) = false := beq_false_of_ne hj
          cases node <;> simp only [List.map_cons, List.lookup_cons, hne] <;> exact ih

/-! ## Ways through a tree -/

/-- Something that a walk passes through. -/
def IsWay : Node → Prop
  | .directory | .link _ => True
  | .file _ | .device => False

/-- Every directory and every link of `fs` is in `fs'`. -/
def WaysKept (fs fs' : FileSystem) : Prop :=
  fs'.here = fs.here ∧ ∀ l node, IsWay node → fs.get? l = some node → fs'.get? l = some node

/-- What is at a location of `fs` is there in `fs'`. -/
def KeptAt (l : Location) (fs fs' : FileSystem) : Prop :=
  ∀ node, fs.get? l = some node → fs'.get? l = some node

/-- One step to `k` that follows no link. -/
def StepsTo (fs : FileSystem) (l : Location) (step : Step) (k : Location) : Prop :=
  fs.get? l = some .directory ∧
    match step with
    | .stay => k = l
    | .up => k = l.tail
    | .enter name =>
        k = name :: l ∧ isTooLong name = false ∧
          ∃ node, fs.get? k = some node ∧ ∀ target, node ≠ .link target

def MeetsLink (fs : FileSystem) (l : Location) (step : Step) (target : Path) : Prop :=
  fs.get? l = some .directory ∧
    ∃ name, step = .enter name ∧ isTooLong name = false ∧ fs.get? (name :: l) = some (.link target)

section Walking

variable {fs fs' : FileSystem} {l k dir : Location} {step : Step} {steps rest : List Step}
  {target : Path}

theorem StepsTo.isDirectory (h : fs.StepsTo l step k) : fs.get? l = some .directory := h.1

theorem walk_of_stepsTo (h : fs.StepsTo l step k) (rest : List Step) :
    fs.walk l (step :: rest) = fs.walk k rest := by
  obtain ⟨hl, hstep⟩ := h
  cases step with
  | stay => simp only [walk, hl, hstep]
  | up => simp only [walk, hl, hstep]
  | enter name =>
      obtain ⟨rfl, hlong, node, hnode, hlink⟩ := hstep
      simp only [walk, hl, hlong, hnode]
      cases node with
      | link target => exact absurd rfl (hlink target)
      | directory => rfl
      | file content => rfl
      | device => rfl

theorem walk_of_meetsLink (h : fs.MeetsLink l step target) (rest : List Step) :
    fs.walk l (step :: rest) = .link l target rest := by
  obtain ⟨hl, name, rfl, hlong, hnode⟩ := h
  simp [walk, hl, hlong, hnode]

/-- A step leads on, meets a link, or fails whatever comes after it. -/
theorem step_cases (fs : FileSystem) (l : Location) (step : Step) :
    (∃ k, fs.StepsTo l step k) ∨ (∃ target, fs.MeetsLink l step target) ∨
      ∃ cause, ∀ rest, fs.walk l (step :: rest) = .failed cause := by
  cases hl : fs.get? l with
  | none => exact .inr (.inr ⟨.noEntry, fun rest => by simp [walk, hl]⟩)
  | some node =>
      cases node with
      | file content => exact .inr (.inr ⟨.notDirectory, fun rest => by simp [walk, hl]⟩)
      | link target => exact .inr (.inr ⟨.notDirectory, fun rest => by simp [walk, hl]⟩)
      | device => exact .inr (.inr ⟨.notDirectory, fun rest => by simp [walk, hl]⟩)
      | directory =>
          cases step with
          | stay => exact .inl ⟨l, hl, rfl⟩
          | up => exact .inl ⟨l.tail, hl, rfl⟩
          | enter name =>
              by_cases hlong : isTooLong name = true
              · exact .inr (.inr ⟨.nameTooLong, fun rest => by simp [walk, hl, hlong]⟩)
              · have hshort : isTooLong name = false := by simpa using hlong
                cases hname : fs.get? (name :: l) with
                | none => exact .inr (.inr ⟨.noEntry, fun rest => by simp [walk, hl, hlong, hname]⟩)
                | some inner =>
                    cases inner with
                    | link target => exact .inr (.inl ⟨target, hl, name, rfl, hshort, hname⟩)
                    | directory => exact .inl ⟨name :: l, hl, rfl, hshort, _, hname, nofun⟩
                    | file content => exact .inl ⟨name :: l, hl, rfl, hshort, _, hname, nofun⟩
                    | device => exact .inl ⟨name :: l, hl, rfl, hshort, _, hname, nofun⟩

theorem walk_cons_eq_arrived_iff :
    fs.walk l (step :: rest) = .arrived k ↔
      ∃ j, fs.StepsTo l step j ∧ fs.walk j rest = .arrived k := by
  constructor
  · intro h
    rcases fs.step_cases l step with ⟨j, hj⟩ | ⟨target, ht⟩ | ⟨cause, hc⟩
    · exact ⟨j, hj, by rw [← h, walk_of_stepsTo hj]⟩
    · rw [walk_of_meetsLink ht] at h
      cases h
    · rw [hc] at h
      cases h
  · rintro ⟨j, hj, h⟩
    rw [walk_of_stepsTo hj, h]

theorem walk_cons_eq_link_iff {more : List Step} :
    fs.walk l (step :: rest) = .link dir target more ↔
      (∃ j, fs.StepsTo l step j ∧ fs.walk j rest = .link dir target more) ∨
        (fs.MeetsLink l step target ∧ dir = l ∧ more = rest) := by
  constructor
  · intro h
    rcases fs.step_cases l step with ⟨j, hj⟩ | ⟨other, ht⟩ | ⟨cause, hc⟩
    · exact .inl ⟨j, hj, by rw [← h, walk_of_stepsTo hj]⟩
    · rw [walk_of_meetsLink ht] at h
      cases h
      exact .inr ⟨ht, rfl, rfl⟩
    · rw [hc] at h
      cases h
  · rintro (⟨j, hj, h⟩ | ⟨ht, rfl, rfl⟩)
    · rw [walk_of_stepsTo hj, h]
    · exact walk_of_meetsLink ht _

/-- A walk that goes on from a location finds a directory there. -/
theorem isDirectory_of_walk_eq_link {more : List Step}
    (h : fs.walk l steps = .link dir target more) : fs.get? l = some .directory := by
  cases steps with
  | nil => cases h
  | cons step rest =>
      rcases walk_cons_eq_link_iff.1 h with ⟨j, hj, _⟩ | ⟨ht, _⟩
      · exact hj.1
      · exact ht.1

theorem isDirectory_or_eq_of_walk_eq_arrived (h : fs.walk l steps = .arrived k) :
    fs.get? l = some .directory ∨ (steps = [] ∧ l = k) := by
  cases steps with
  | nil =>
      cases h
      exact .inr ⟨rfl, rfl⟩
  | cons step rest =>
      obtain ⟨j, hj, _⟩ := walk_cons_eq_arrived_iff.1 h
      exact .inl hj.1

end Walking

/-! ### Walks in two trees -/

theorem WaysKept.here_eq {fs fs' : FileSystem} (h : WaysKept fs fs') : fs'.here = fs.here := h.1

theorem WaysKept.keptAt {fs fs' : FileSystem} {l : Location} (h : WaysKept fs fs')
    (hl : fs.get? l = some .directory) : KeptAt l fs fs' := by
  intro node hnode
  rw [hl, Option.some.injEq] at hnode
  subst hnode
  exact h.2 l _ trivial hl

theorem WaysKept.meetsLink {fs fs' : FileSystem} {l : Location} {step : Step} {target : Path}
    (h : WaysKept fs fs') (hlink : fs.MeetsLink l step target) : fs'.MeetsLink l step target := by
  obtain ⟨hl, name, hstep, hlong, hnode⟩ := hlink
  exact ⟨h.2 l _ trivial hl, name, hstep, hlong, h.2 _ _ trivial hnode⟩

theorem WaysKept.stepsTo {fs fs' : FileSystem} {l k : Location} {step : Step}
    (h : WaysKept fs fs') (hk : KeptAt k fs fs') (hstep : fs.StepsTo l step k) :
    fs'.StepsTo l step k := by
  obtain ⟨hl, hstep⟩ := hstep
  refine ⟨h.2 l _ trivial hl, ?_⟩
  cases step with
  | stay => exact hstep
  | up => exact hstep
  | enter name =>
      obtain ⟨hk', hlong, node, hnode, hlink⟩ := hstep
      exact ⟨hk', hlong, node, hk node hnode, hlink⟩

theorem WaysKept.walk_eq_link {fs fs' : FileSystem} (h : WaysKept fs fs') {steps : List Step} :
    ∀ {l dir : Location} {target : Path} {more : List Step},
      fs.walk l steps = .link dir target more → fs'.walk l steps = .link dir target more := by
  induction steps with
  | nil =>
      intro l dir target more hwalk
      cases hwalk
  | cons step rest ih =>
      intro l dir target more hwalk
      rcases walk_cons_eq_link_iff.1 hwalk with ⟨j, hj, hrest⟩ | ⟨hlink, hdir, hmore⟩
      · have hj' := h.keptAt (isDirectory_of_walk_eq_link hrest)
        exact walk_cons_eq_link_iff.2 (.inl ⟨j, h.stepsTo hj' hj, ih hrest⟩)
      · exact walk_cons_eq_link_iff.2 (.inr ⟨h.meetsLink hlink, hdir, hmore⟩)

/-- Only the end of a walk can be something else than a directory. -/
theorem WaysKept.walk_eq_arrived {fs fs' : FileSystem} (h : WaysKept fs fs') {k : Location}
    (hk : KeptAt k fs fs') {steps : List Step} :
    ∀ {l : Location}, fs.walk l steps = .arrived k → fs'.walk l steps = .arrived k := by
  induction steps with
  | nil =>
      intro l hwalk
      exact hwalk
  | cons step rest ih =>
      intro l hwalk
      obtain ⟨j, hj, hrest⟩ := walk_cons_eq_arrived_iff.1 hwalk
      have hj' : KeptAt j fs fs' := by
        rcases isDirectory_or_eq_of_walk_eq_arrived hrest with hdir | ⟨-, rfl⟩
        · exact h.keptAt hdir
        · exact hk
      exact walk_cons_eq_arrived_iff.2 ⟨j, h.stepsTo hj' hj, ih hrest⟩

theorem waysKept_put {fs : FileSystem} {l : Location}
    (h : ∀ node, fs.get? l = some node → ¬ IsWay node) (content : List UInt8) :
    WaysKept fs (fs.put l (.file content)) := by
  refine ⟨rfl, fun k node hnode hk => ?_⟩
  have hne : k ≠ l := by
    rintro rfl
    exact h node hk hnode
  rw [get?_put_of_ne fs hne, hk]

theorem waysKept_of_put (fs : FileSystem) {l : Location} (hl : l ≠ []) (content : List UInt8) :
    WaysKept (fs.put l (.file content)) fs := by
  refine ⟨rfl, fun k way hway hk => ?_⟩
  rw [get?_put fs hl] at hk
  split at hk
  · cases hk
    cases hway
  · exact hk

theorem waysKept_erase_put {fs : FileSystem} {l : Location} (hl : l ≠ []) (node : Node) :
    WaysKept (fs.erase l) (fs.put l node) := by
  refine ⟨rfl, fun k way _ hk => ?_⟩
  rw [get?_erase fs hl] at hk
  split at hk
  · cases hk
  · next hne => rw [get?_put_of_ne fs hne, hk]

theorem waysKept_erase (fs : FileSystem) {l : Location} (hl : l ≠ []) :
    WaysKept (fs.erase l) fs := by
  refine ⟨rfl, fun k way _ hk => ?_⟩
  rw [get?_erase fs hl] at hk
  split at hk
  · cases hk
  · exact hk

theorem waysKept_append (fs : FileSystem) (l : Location) (bytes : List UInt8) :
    WaysKept fs (fs.append l bytes) := by
  refine ⟨rfl, fun k way hway hk => ?_⟩
  rw [get?_append, hk]
  split
  · cases way with
    | file content => cases hway
    | device => cases hway
    | directory => rfl
    | link target => rfl
  · rfl

theorem waysKept_erase_of_not_way {fs : FileSystem} {l : Location}
    (h : ∀ node, fs.get? l = some node → ¬ IsWay node) : WaysKept fs (fs.erase l) := by
  refine ⟨rfl, fun k way hway hk => ?_⟩
  have hne : k ≠ l := by
    rintro rfl
    exact h way hk hway
  rw [get?_erase_of_ne fs hne, hk]

section Moving

variable {fs : FileSystem} {k l : Location} {content : List UInt8}

theorem ne_of_isWay {way : Node} {j : Location} (hfile : fs.get? k = some (.file content))
    (hway : IsWay way) (hj : fs.get? j = some way) : j ≠ k := by
  rintro rfl
  rw [hfile, Option.some.injEq] at hj
  subst hj
  exact hway

theorem waysKept_erase_file (h : fs.get? k = some (.file content)) :
    WaysKept fs (fs.erase k) :=
  waysKept_erase_of_not_way fun _ hway hisWay => ne_of_isWay h hisWay hway rfl

/-- What a file takes the place of is the only way that can be lost when it moves there. -/
theorem waysKept_move (hl : l ≠ []) (h : fs.get? k = some (.file content)) (node : Node) :
    WaysKept (fs.erase l) ((fs.erase k).put l node) := by
  refine ⟨rfl, fun j way hway hj => ?_⟩
  rw [get?_erase fs hl] at hj
  split at hj
  · cases hj
  · next hne => rw [get?_put_of_ne _ hne, get?_erase_of_ne fs (ne_of_isWay h hway hj), hj]

end Moving

end ArtifactCache.FileSystem
