import ArtifactCache.Proofs.Download.Effect

/-!
# Integrity of the cache

Over any session of retrievals a tree changes only where their artifacts belong.  Whatever is new at
such a place is the whole body of a successful answer to the retrieval that put it there; nothing
else appears anywhere, and what a link in the cache leads to stays as it was.
-/

namespace ArtifactCache.Retrieval

open FileSystem

variable {x : Retrieval} {fs fs' : FileSystem} {ending : Ending (Path × Provenance)}
  {s : Storage} {l k : Location} {node : Option Node}

/-- The artifact of the retrieval belongs at a location of the tree. -/
def Names (x : Retrieval) (fs : FileSystem) (l : Location) : Prop :=
  ∃ url path, x.request.AsksFor url path ∧ fs.NamesEntry path l

/-- What a retrieval may leave where its artifact belongs: nothing, or the whole of a body that its
own request brought. -/
def Leaves (x : Retrieval) (fs : FileSystem) (l : Location) (node : Option Node) : Prop :=
  x.Names fs l ∧
    (node = none ∨ ∃ url path content, x.request.AsksFor url path ∧ x.Delivers url content ∧
      node = some (.file content))

/-- One step changes nothing, or only what is at the one place that it names. -/
def Changes (x : Retrieval) (fs fs' : FileSystem) : Prop :=
  fs' = fs ∨ ∃ l, SameBut l fs fs' ∧ x.Leaves fs l (fs'.get? l)

/-- What the link of a cached copy leads to is left alone. -/
def SparesTarget (x : Retrieval) (fs fs' : FileSystem) : Prop :=
  ∀ url path l target k, x.request.AsksFor url path → fs.NamesEntry path l →
    fs.get? l = some (.link target) → fs.locate path = .ok k → fs'.get? k = fs.get? k

theorem leaves_put {url : Url} {path : Path} {content : List UInt8}
    (hasks : x.request.AsksFor url path) (hl : fs.NamesEntry path l)
    (hbody : x.Delivers url content) :
    x.Leaves fs l ((fs.put l (.file content)).get? l) := by
  refine ⟨⟨url, path, hasks, hl⟩, .inr ⟨url, path, content, hasks, hbody, ?_⟩⟩
  exact get?_put_self fs hl.ne_nil _

theorem Effect.changes (h : x.Effect fs ending fs') : x.Changes fs fs' := by
  cases h with
  | none => exact .inl rfl
  | stored hasks hl _ _ hbody =>
      exact .inr ⟨_, sameBut_put fs _ _, leaves_put hasks hl.namesEntry hbody⟩
  | replaced hasks hl _ _ _ hbody =>
      exact .inr ⟨_, sameBut_put fs _ _, leaves_put hasks hl hbody⟩
  | removed hasks hl =>
      refine .inr ⟨_, sameBut_erase fs _, ⟨_, _, hasks, hl⟩, .inl ?_⟩
      exact get?_erase_self fs hl.ne_nil

/-- A path that leads to a file or to nothing does not end at a link. -/
theorem ne_of_link {path : Path} {target : Path} (hlink : fs.get? l = some (.link target))
    (hk : fs.locate path = .ok k)
    (hnode : fs.nodeAt path ≠ .ok (.link target)) : k ≠ l := by
  rintro rfl
  exact hnode (nodeAt_eq_ok_iff.2 ⟨k, hk, hlink⟩)

theorem Effect.sparesTarget (h : x.Effect fs ending fs') : x.SparesTarget fs fs' := by
  intro url path l target k hasks hl hlink hk
  cases h with
  | none => rfl
  | @stored url' path' l' cause content hasks' hl' hnode =>
      obtain ⟨-, rfl⟩ := hasks.unique hasks'
      obtain rfl := hl.unique hl'.namesEntry
      exact get?_put_of_ne fs (ne_of_link hlink hk (by simp [hnode])) _
  | @replaced url' path' l' old content hasks' hl' _ hnode =>
      obtain ⟨-, rfl⟩ := hasks.unique hasks'
      obtain rfl := hl.unique hl'
      exact get?_put_of_ne fs (ne_of_link hlink hk (by simp [hnode])) _
  | @removed _ url' path' l' old hasks' hl' hnode =>
      obtain ⟨-, rfl⟩ := hasks.unique hasks'
      obtain rfl := hl.unique hl'
      exact get?_erase_of_ne fs (ne_of_link hlink hk (by simp [hnode]))

/-! ## Sessions -/

theorem runAll_cons (s : Storage) (x : Retrieval) (rest : List Retrieval) :
    runAll s (x :: rest) = runAll (x.run s).storage rest := rfl

theorem runAll_append (s : Storage) (before after : List Retrieval) :
    runAll s (before ++ after) = runAll (runAll s before) after :=
  List.foldl_append

theorem files_runAll_concat (s : Storage) (before : List Retrieval) (x : Retrieval) :
    (runAll s (before ++ [x])).files = (x.run (runAll s before)).files := by
  rw [runAll_append]
  rfl

/-- Whatever a session changes, one of its steps left there. -/
theorem get?_runAll (steps : List Retrieval) (k : Location) :
    ∀ s : Storage, (runAll s steps).files.get? k = s.files.get? k ∨
      ∃ before x after, steps = before ++ x :: after ∧
        x.Leaves (runAll s before).files k ((runAll s steps).files.get? k) := by
  induction steps with
  | nil => exact fun s => .inl rfl
  | cons x rest ih =>
      intro s
      rw [runAll_cons]
      rcases ih (x.run s).storage with hsame | ⟨before, y, after, rfl, hleaves⟩
      · rw [hsame]
        rcases (x.effect_run s).changes with hfiles | ⟨l, hbut, hleaves⟩
        · simp only [Run.files] at hfiles
          exact .inl (by rw [hfiles])
        · by_cases hk : k = l
          · subst hk
            exact .inr ⟨[], x, rest, rfl, hleaves⟩
          · exact .inl (hbut.2 k hk)
      · exact .inr ⟨x :: before, y, after, rfl, hleaves⟩

/-- Over a whole session each step changes the tree at most where its artifact belongs, where there
is nothing afterwards or the whole body that this step got, and spares what a link there leads to.
So all that the session has changed in the end was left by a step that it names. -/
theorem session_integrity (s : Storage) (steps : List Retrieval) :
    (∀ before x after, steps = before ++ x :: after →
      let old := (runAll s before).files
      let new := (runAll s (before ++ [x])).files
      x.Changes old new ∧ x.SparesTarget old new) ∧
      ∀ k, (runAll s steps).files.get? k = s.files.get? k ∨
        ∃ before x after, steps = before ++ x :: after ∧
          x.Leaves (runAll s before).files k ((runAll s steps).files.get? k) := by
  refine ⟨?_, fun k => get?_runAll steps k s⟩
  intro before x after _
  rw [files_runAll_concat]
  exact ⟨(x.effect_run _).changes, (x.effect_run _).sparesTarget⟩

end ArtifactCache.Retrieval
