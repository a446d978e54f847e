import ArtifactCache.CommandLine.Run

/-!
# What arguments are read

Whatever the arguments and the environment say, the cache directory that is read from them is no
empty path.  A value is looked at by one function only, whichever way it came, so each way of taking
an argument up keeps this of the draft.
-/

namespace ArtifactCache.CommandLine

theorem ok_of_bind {ε α β : Type} {x : Except ε α} {f : α → Except ε β} {b : β}
    (h : x >>= f = .ok b) : ∃ a, x = .ok a ∧ f a = .ok b := by
  cases x with
  | error e => cases h
  | ok a => exact ⟨a, rfl, h⟩

/-- The cache directory of a draft, if it has one, is no empty path. -/
def Draft.IsSound (d : Draft) : Prop := ∀ dir, d.cacheDir = some dir → dir.isEmpty = false

namespace Draft

variable {d d' : Draft}

theorem isSound_congr (h : d'.cacheDir = d.cacheDir) (hd : d.IsSound) : d'.IsSound := by
  intro dir hdir
  rw [h] at hdir
  exact hd dir hdir

theorem isEmpty_of_readPath {v : List Char} {p : Path} (h : readPath v = .ok p) :
    p.isEmpty = false := by
  unfold readPath at h
  split at h
  · cases h
  · next hv =>
      cases h
      simpa [Path.isEmpty] using hv

theorem once_eq_ok {α β : Type} {old : Option α} {next : Except Stop β} {b : β}
    (h : once old next = .ok b) : next = .ok b := by
  unfold once at h
  split at h
  · cases h
  · exact h

theorem map_eq_ok {α : Type} {x : Except Stop α} {f : α → Draft} (h : x.map f = .ok d) :
    ∃ a, x = .ok a ∧ f a = d := by
  cases x with
  | error e => cases h
  | ok a =>
      cases h
      exact ⟨a, rfl, rfl⟩

theorem IsSound.set {option : ValueOption} {v : List Char} (hd : d.IsSound)
    (h : d.set option v = .ok d') : d'.IsSound := by
  cases option with
  | cacheDir =>
      obtain ⟨p, hp, rfl⟩ := map_eq_ok (once_eq_ok h)
      intro dir hdir
      cases hdir
      exact isEmpty_of_readPath hp
  | probeTimeout | transferTimeout | connectTimeout =>
      obtain ⟨n, -, rfl⟩ := map_eq_ok (once_eq_ok h)
      exact isSound_congr rfl hd
  | checksumHeader =>
      cases once_eq_ok h
      exact isSound_congr rfl hd

theorem cacheDir_turnOn {s : Switch} (h : d.turnOn s = .ok d') : d'.cacheDir = d.cacheDir := by
  unfold turnOn at h
  cases s with
  | progress | strictHash | verbose =>
      simp only [] at h
      split at h
      · cases h
      · cases h
        rfl
  | help | version => cases h

theorem IsSound.withEnvironment {setting : Option String} (hd : d.IsSound)
    (h : d.withEnvironment setting = .ok d') : d'.IsSound := by
  unfold Draft.withEnvironment at h
  split at h
  · cases h
    exact hd
  · split at h
    · cases h
      exact hd
    · exact hd.set h

theorem cacheDir_finish {a : Arguments} (h : d.finish = .ok a) : a.cacheDir = d.cacheDir := by
  unfold finish at h
  split at h
  · cases h
  · cases h
    rfl

end Draft

namespace Reader

variable {r r' : Reader}

theorem isSound_settle (hr : r.draft.IsSound) (h : r.settle = .ok r') : r'.draft.IsSound := by
  unfold settle at h
  split at h
  · cases h
    exact hr
  · cases h
  · next option v _ =>
      cases hset : r.draft.set option v with
      | error e =>
          rw [hset] at h
          cases h
      | ok d =>
          rw [hset] at h
          cases h
          exact hr.set hset

theorem isSound_turnOn {s : Switch} (hr : r.draft.IsSound) (h : r.turnOn s = .ok r') :
    r'.draft.IsSound := by
  obtain ⟨settled, hsettle, h⟩ := ok_of_bind h
  obtain ⟨d, hd, h⟩ := ok_of_bind h
  cases h
  exact Draft.isSound_congr (Draft.cacheDir_turnOn hd) (isSound_settle hr hsettle)

theorem isSound_takeOption {option : ValueOption} {attached : Option (List Char)}
    (hr : r.draft.IsSound) (h : r.takeOption option attached = .ok r') : r'.draft.IsSound := by
  obtain ⟨settled, hsettle, h⟩ := ok_of_bind h
  have hsettled := isSound_settle hr hsettle
  cases attached with
  | none =>
      cases h
      exact hsettled
  | some v =>
      obtain ⟨d, hd, h⟩ := ok_of_bind h
      cases h
      exact hsettled.set hd

theorem isSound_takeLong {name : List Char} {attached : Option (List Char)}
    (hr : r.draft.IsSound) (h : r.takeLong name attached = .ok r') : r'.draft.IsSound := by
  unfold takeLong at h
  split at h
  · cases h
  · cases h
  · exact isSound_turnOn hr h
  · exact isSound_takeOption hr h

theorem isSound_takeLetters (cs : List Char) :
    ∀ {r : Reader}, r.draft.IsSound → r.takeLetters cs = .ok r' → r'.draft.IsSound := by
  induction cs with
  | nil =>
      intro r hr h
      cases h
      exact hr
  | cons c rest ih =>
      intro r hr h
      unfold takeLetters at h
      split at h
      · cases h
      · obtain ⟨on, hon, h⟩ := ok_of_bind h
        exact ih (isSound_turnOn hr hon) h
      · exact isSound_takeOption hr h

theorem isSound_takeUrl {arg : List Char} (hr : r.draft.IsSound) (h : r.takeUrl arg = .ok r') :
    r'.draft.IsSound := by
  unfold takeUrl at h
  split at h
  · cases h
  · obtain ⟨settled, hsettle, h⟩ := ok_of_bind h
    have hsettled := isSound_settle hr hsettle
    cases h
    exact Draft.isSound_congr rfl hsettled

theorem isSound_takePlain {arg : List Char} (hr : r.draft.IsSound)
    (h : r.takePlain arg = .ok r') : r'.draft.IsSound := by
  unfold takePlain at h
  split at h
  · cases h
    exact hr
  · exact isSound_takeUrl hr h

/-- Taking up one argument keeps the draft sound. -/
theorem isSound_take {arg : List Char} (hr : r.draft.IsSound) (h : r.take arg = .ok r') :
    r'.draft.IsSound := by
  unfold take at h
  split at h
  · exact isSound_takeUrl hr h
  · split at h
    · cases h
      exact hr
    · exact isSound_takeLong hr h
    · exact isSound_takeLetters _ hr h
    · exact isSound_takePlain hr h

theorem isSound_takeAll (args : List (List Char)) :
    ∀ {r : Reader}, r.draft.IsSound → r.takeAll args = .ok r' → r'.draft.IsSound := by
  induction args with
  | nil =>
      intro r hr h
      cases h
      exact hr
  | cons arg rest ih =>
      intro r hr h
      obtain ⟨next, hnext, h⟩ := ok_of_bind h
      exact ih (isSound_take hr hnext) h

end Reader

/-- The cache directory that is read from the arguments or the environment is no empty path. -/
theorem cacheDir_of_parse {args : List String} {setting : Option String} {a : Arguments}
    {dir : Path} (h : parse args setting = .ok a) (hdir : a.cacheDir = some dir) :
    dir.isEmpty = false := by
  obtain ⟨r, hr, h⟩ := ok_of_bind h
  obtain ⟨settled, hsettled, h⟩ := ok_of_bind h
  obtain ⟨d, hd, h⟩ := ok_of_bind h
  have hempty : ({} : Reader).draft.IsSound := nofun
  have hsound := Reader.isSound_settle (Reader.isSound_takeAll _ hempty hr) hsettled
  rw [Draft.cacheDir_finish h] at hdir
  exact hsound.withEnvironment hd dir hdir

theorem isEmpty_join {p q : Path} (hq : q.isEmpty = false) : (p.join q).isEmpty = false := by
  have hchars : q.chars ≠ [] := List.isEmpty_eq_false_iff.1 hq
  rw [Path.join]
  split
  · exact hq
  · split
    · simp [Path.isEmpty, hchars]
    · simp [Path.isEmpty]

theorem isEmpty_defaultCacheDir (home : Path) : (defaultCacheDir home).isEmpty = false :=
  isEmpty_join rfl

/-- There is a name for the cache directory of whatever run. -/
theorem isEmpty_of_cacheDirIn? {args : List String} {env : Environment} {a : Arguments} {dir : Path}
    (h : parse args env.cacheDir = .ok a) (hdir : a.cacheDirIn? env = some dir) :
    dir.isEmpty = false := by
  cases hnamed : a.cacheDir with
  | some named =>
      rw [Arguments.cacheDirIn?, hnamed] at hdir
      cases hdir
      exact cacheDir_of_parse h hnamed
  | none =>
      rw [Arguments.cacheDirIn?, hnamed] at hdir
      obtain ⟨home, -, rfl⟩ := Option.map_eq_some_iff.1 hdir
      exact isEmpty_defaultCacheDir home

end ArtifactCache.CommandLine
