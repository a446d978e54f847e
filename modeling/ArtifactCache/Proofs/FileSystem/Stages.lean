import ArtifactCache.FileSystem.Session
import ArtifactCache.Proofs.FileSystem.Books

/-!
# Several replacements at a time

Replacements may be made, written, committed and dropped in any order: each keeps to its own file,
and the rest of the tree changes by commits alone.  Two things can upset this: a commit onto the
file of another replacement, and one in the place of a link that the path of another leads through.
-/

namespace ArtifactCache

open FileSystem

namespace Books

/-- The books after an action, which is written down if the reply says that it was done. -/
def note (b : Books) (s : Session) (action : Session.Action) : Books :=
  match action, (s.step action).1 with
  | .create label _, .created _ => b.opened label
  | .write label bytes, .done => b.added label bytes
  | .commit label, .committed path =>
      match s.storage.files.entryAt? path with
      | some l => b.settled l (b.written label)
      | none => b
  | _, _ => b

def run (b : Books) (s : Session) : List Session.Action → Books
  | [] => b
  | action :: rest => (b.note s action).run (s.step action).2 rest

end Books

namespace Session

variable {s : Session} {label : String} {destination : Path} {r : Replacement}
  {initial : FileSystem} {b : Books} {action : Action}

/-- If the action is a commit, `P` holds of its label and of the place that it goes to. -/
def Commits (s : Session) (P : String → Location → Prop) : Action → Prop
  | .commit label =>
      ∀ r ∈ s.get? label, ∀ l ∈ s.storage.files.entryAt? r.destination, P label l
  | .create _ _ | .write _ _ | .drop _ => True

instance (s : Session) (P : String → Location → Prop) [∀ label l, Decidable (P label l)]
    (action : Action) : Decidable (s.Commits P action) :=
  match action with
  | .commit label => inferInstanceAs (Decidable (∀ r ∈ s.get? label, _))
  | .create _ _ | .write _ _ | .drop _ => .isTrue trivial

/-- No commit goes to where the file of another replacement is. -/
def TakesNoStage (s : Session) : Action → Prop :=
  s.Commits fun label l => ∀ e ∈ s.live, e.1 ≠ label → e.2.location ≠ l

/-- No commit goes to where a link is that the path of another replacement leads through. -/
def CutsNoWay (s : Session) : Action → Prop :=
  s.Commits fun label l => s.storage.files.isLinkAt l = true →
    ∀ e ∈ s.live, e.1 ≠ label →
      (s.storage.files.erase l).entryAt? e.2.path = some e.2.location

instance (s : Session) : DecidablePred s.TakesNoStage := fun action =>
  inferInstanceAs (Decidable (s.Commits _ action))

instance (s : Session) : DecidablePred s.CutsNoWay := fun action =>
  inferInstanceAs (Decidable (s.Commits _ action))

/-- Every action has a property when its turn comes. -/
def Always (P : Session → Action → Prop) (s : Session) : List Action → Prop
  | [] => True
  | action :: rest => P s action ∧ Always P (s.step action).2 rest

instance (P : Session → Action → Prop) [∀ s action, Decidable (P s action)] (s : Session)
    (actions : List Action) : Decidable (Always P s actions) :=
  match actions with
  | [] => .isTrue trivial
  | action :: rest =>
      have : Decidable (Always P (s.step action).2 rest) := instDecidableAlways P _ rest
      inferInstanceAs (Decidable (_ ∧ _))

theorem get?_forget (s : Session) (label : String) :
    (s.forget label).get? = without s.get? label := by
  funext other
  unfold get? forget without
  by_cases hother : other = label
  · rw [if_pos hother]
    exact lookup_filter_of_neg (p := (· != label)) (by simp [hother])
  · rw [if_neg hother]
    exact lookup_filter_of_pos (p := (· != label)) (by simp [hother])

theorem get?_withFiles (s : Session) (files : FileSystem) : (s.withFiles files).get? = s.get? := rfl

theorem get?_cons (storage : Storage) (s : Session) (label : String) (r : Replacement) :
    ({ storage, live := (label, r) :: (s.forget label).live } : Session).get? =
      withNew s.get? label r := by
  have hforget := s.get?_forget label
  rw [← withNew_without, ← hforget]
  funext other
  unfold get? withNew
  by_cases hother : other = label
  · rw [if_pos hother, List.lookup_cons, hother, beq_self_eq_true]
  · rw [if_neg hother, List.lookup_cons, beq_false_of_ne hother]

theorem mem_live_of_get? (h : s.get? label = some r) : (label, r) ∈ s.live := by
  unfold get? at h
  generalize s.live = live at h
  induction live with
  | nil => cases h
  | cons e rest ih =>
      obtain ⟨other, r'⟩ := e
      rw [List.lookup_cons] at h
      by_cases hother : label = other
      · rw [hother, beq_self_eq_true] at h
        cases h
        rw [hother]
        exact List.mem_cons_self
      · rw [beq_false_of_ne hother] at h
        exact List.mem_cons_of_mem _ (ih h)

/-- A failed creation has changed nothing but the count of names. -/
theorem of_create_refused {e : FileError}
    (h : (s.create label destination).1 = .refused e) :
    (s.create label destination).2.storage.files = s.storage.files ∧
      (s.create label destination).2.live = s.live := by
  unfold create at h ⊢
  cases hcreate : Replacement.create s.storage destination with
  | mk answer storage =>
      cases answer with
      | ok r =>
          rw [hcreate] at h
          cases h
      | error e => exact ⟨Replacement.files_of_create_error hcreate, rfl⟩

end Session

/-- The books agree with a session that began with the tree `initial`. -/
def Books.Agree (b : Books) (initial : FileSystem) (s : Session) : Prop :=
  Balanced initial s.storage.files s.get? b

namespace Books.Agree

variable {s : Session} {label : String} {destination : Path} {r : Replacement}
  {initial : FileSystem} {b : Books} {action : Session.Action}

theorem create (h : b.Agree initial s) (label : String) (destination : Path) :
    (b.note s (.create label destination)).Agree initial
      (s.step (.create label destination)).2 := by
  unfold Agree
  simp only [Books.note, Session.step, Session.create]
  cases hcreate : Replacement.create s.storage destination with
  | mk answer storage =>
      cases answer with
      | error e =>
          simp only [Replacement.files_of_create_error hcreate]
          exact h
      | ok r =>
          obtain ⟨hnone, hfiles, hkeeps⟩ := Replacement.keeps_of_create hcreate
          simp only [Session.get?_cons]
          cases holder : s.get? label with
          | none =>
              simp only [hfiles]
              exact h.begun holder hnone (hfiles ▸ hkeeps)
          | some older =>
              simp only [hfiles]
              exact h.renewed holder hnone (hfiles ▸ hkeeps)

theorem write (h : b.Agree initial s) (label : String) (bytes : List UInt8) :
    (b.note s (.write label bytes)).Agree initial (s.step (.write label bytes)).2 := by
  unfold Agree
  simp only [Books.note, Session.step]
  cases hr : s.get? label with
  | none => exact h
  | some r => exact h.written hr bytes

theorem drop (h : b.Agree initial s) (label : String) :
    (b.note s (.drop label)).Agree initial (s.step (.drop label)).2 := by
  unfold Agree
  simp only [Books.note, Session.step]
  cases hr : s.get? label with
  | none => exact h
  | some r =>
      simp only [(h.keeps hr).discard_eq, Session.get?_withFiles, Session.get?_forget]
      exact h.released hr

theorem commit (h : b.Agree initial s) (hfree : s.TakesNoStage (.commit label))
    (hcut : s.CutsNoWay (.commit label)) :
    (b.note s (.commit label)).Agree initial (s.step (.commit label)).2 := by
  unfold Agree
  simp only [Books.note, Session.step]
  cases hr : s.get? label with
  | none => exact h
  | some r =>
      rcases (h.keeps hr).commit_cases with ⟨l, hl, hcommit⟩ | ⟨e, hcommit⟩
      · have hplace := entryAt?_eq_some_iff.2 hl.namesEntry
        simp only [hcommit, hplace, Session.get?_withFiles, Session.get?_forget]
        refine h.committed hr hl.namesEntry.ne_nil ?free ?leads
        case free =>
          intro other r' hr'
          obtain ⟨hne, hr'⟩ := without_eq_some_iff.1 hr'
          exact hfree r hr l hplace (other, r') (Session.mem_live_of_get? hr') hne
        case leads =>
          intro other r' hr'
          obtain ⟨hne, hr'⟩ := without_eq_some_iff.1 hr'
          by_cases hlink : s.storage.files.isLinkAt l = true
          · have hmem := Session.mem_live_of_get? hr'
            exact entryAt?_eq_some_iff.1 (hcut r hr l hplace hlink (other, r') hmem hne)
          · have hways := waysKept_erase_of_not_way (not_isWay_of_replaceable hl hlink)
            exact hways.namesEntry (h.keeps hr').leads
      · simp only [hcommit, Session.get?_withFiles, Session.get?_forget]
        exact h.released hr

theorem step (h : b.Agree initial s) (hfree : s.TakesNoStage action) (hcut : s.CutsNoWay action) :
    (b.note s action).Agree initial (s.step action).2 := by
  cases action with
  | create label destination => exact h.create label destination
  | write label bytes => exact h.write label bytes
  | commit label => exact h.commit hfree hcut
  | drop label => exact h.drop label

theorem run {actions : List Session.Action} (h : b.Agree initial s)
    (hfree : Session.Always Session.TakesNoStage s actions)
    (hcut : Session.Always Session.CutsNoWay s actions) :
    (b.run s actions).Agree initial (s.run actions) := by
  induction actions generalizing s b with
  | nil => exact h
  | cons action rest ih => exact ih (h.step hfree.1 hcut.1) hfree.2 hcut.2

theorem start (storage : Storage) : ({} : Books).Agree storage.files { storage } where
  here := rfl
  keeps := nofun
  apart := nofun
  vacant := nofun
  rest _ := rfl

end Books.Agree

namespace Session

variable {s : Session} {label : String} {r : Replacement} {content : List UInt8}

theorem step_drop (hkeeps : r.Keeps s.storage.files content) (hr : s.get? label = some r) :
    (s.step (.drop label)).2 =
      (s.forget label).withFiles (s.storage.files.erase r.location) := by
  simp only [step, hr, hkeeps.discard_eq]

theorem of_commit_refused {e : FileError}
    (hkeeps : r.Keeps s.storage.files content) (hr : s.get? label = some r)
    (h : (s.step (.commit label)).1 = .refused e) :
    (s.step (.commit label)).2 =
      (s.forget label).withFiles (s.storage.files.erase r.location) := by
  rcases hkeeps.commit_cases with ⟨l, -, hcommit⟩ | ⟨cause, hcommit⟩
  · simp only [step, hr, hcommit] at h
    cases h
  · simp only [step, hr, hcommit]

/-- Replacements made, written, committed and dropped in any order keep apart, if no commit goes to
where the file of another is, or a link that the path of another leads through.  Each live one has
a path and a file of its own in the directory of its destination, beside the entry that this names,
with what was written to it.  The rest of the tree is the tree of the beginning, but for what was
let into its place, the last of it where there was more; so nothing else is left when no replacement
is live.  A creation that fails changes no file, and a commit that fails or a drop takes away one
file, that of the replacement. -/
theorem stages_keep_apart (storage : Storage) (actions : List Action)
    (hfree : Always TakesNoStage { storage } actions)
    (hcut : Always CutsNoWay { storage } actions) :
    let s := Session.run { storage } actions
    let books := Books.run {} { storage } actions
    (∀ label r, s.get? label = some r →
      s.storage.files.get? r.location = some (.file (books.written label)) ∧
        ∃ dir name, r.location = name :: dir ∧
          r.path = Replacement.pathBeside r.destination name ∧
          s.storage.files.entryAt? r.path = some r.location ∧
          s.storage.files.IsDirectoryOf (Replacement.directory r.destination) dir ∧
          ∀ l, s.storage.files.entryAt? r.destination = some l → l.tail = dir) ∧
    (∀ label r other r', s.get? label = some r → s.get? other = some r' → other ≠ label →
      r'.path ≠ r.path ∧ r'.location ≠ r.location) ∧
    s.storage.files.here = storage.files.here ∧
    (∀ k, (∀ label r, s.get? label = some r → r.location ≠ k) →
      s.storage.files.get? k = books.node? storage.files k) ∧
    (s.live = [] → ∀ k, s.storage.files.get? k = books.node? storage.files k) ∧
    (∀ label destination e, (s.step (.create label destination)).1 = .refused e →
      (s.step (.create label destination)).2.storage.files = s.storage.files ∧
        (s.step (.create label destination)).2.live = s.live) ∧
    (∀ label r, s.get? label = some r →
      (∀ e, (s.step (.commit label)).1 = .refused e →
        (s.step (.commit label)).2 =
          (s.forget label).withFiles (s.storage.files.erase r.location)) ∧
      (s.step (.drop label)).2 =
        (s.forget label).withFiles (s.storage.files.erase r.location)) := by
  intro s books
  have hagree : books.Agree storage.files s := (Books.Agree.start storage).run hfree hcut
  refine ⟨?live, ?apart, hagree.here, fun k => hagree.rest, ?consumed, ?create, ?consume⟩
  case live =>
    intro label r hr
    have hkeeps := hagree.keeps hr
    obtain ⟨dir, name, hlocation, hpath, -, -, hdir⟩ := hkeeps.entry
    refine ⟨hkeeps.holds, dir, name, hlocation, hpath, entryAt?_eq_some_iff.2 hkeeps.leads, hdir,
      fun l hl => ?_⟩
    rw [← hkeeps.sibling (entryAt?_eq_some_iff.1 hl), hlocation]
    rfl
  case apart =>
    intro label r other r' hr hr' hne
    have hlocation := hagree.apart hr hr' hne
    exact ⟨(hagree.keeps hr').path_ne (hagree.keeps hr) hlocation, hlocation⟩
  case consumed =>
    intro hnone k
    refine hagree.rest fun label r hr => ?_
    have hmem := mem_live_of_get? hr
    rw [hnone] at hmem
    cases hmem
  case create => exact fun label destination e => of_create_refused
  case consume =>
    intro label r hr
    have hkeeps := hagree.keeps hr
    exact ⟨fun e => of_commit_refused hkeeps hr, step_drop hkeeps hr⟩

/-- A directory, and a link to it. -/
def linked : Storage where
  files := {
    nodes := [(["d".toList], .link (.ofString "real")), (["real".toList], .directory)]
    here := [] }
  process := 7

/-- Two replacements for one file, by way of the link and past it, and one for the link itself. -/
def sharing : List Action :=
  [.create "a" (.ofString "d/x"), .write "a" [1], .create "b" (.ofString "real/x"),
    .write "b" [2], .commit "a", .create "c" (.ofString "d"), .write "c" [3], .commit "c",
    .write "b" [4], .commit "b"]

theorem sharing_keeps_apart :
    Always TakesNoStage { storage := linked } sharing ∧
      Always CutsNoWay { storage := linked } sharing ∧
      (Session.run { storage := linked } sharing).live = [] ∧
      (Session.run { storage := linked } sharing).storage.files.get?
        ["x".toList, "real".toList] = some (.file [2, 4]) := by
  have hfree : Always TakesNoStage { storage := linked } sharing := by decide +kernel
  have hcut : Always CutsNoWay { storage := linked } sharing := by decide +kernel
  have hlive : (Session.run { storage := linked } sharing).live = [] := by decide +kernel
  obtain ⟨-, -, -, -, hconsumed, -⟩ := stages_keep_apart linked sharing hfree hcut
  exact ⟨hfree, hcut, hlive, (hconsumed hlive _).trans (by decide +kernel)⟩

/-- A replacement is made by way of the link, and another takes the place of the link. -/
def crossing : List Action :=
  [.create "a" (.ofString "d/x"), .create "b" (.ofString "d"), .commit "b", .drop "a"]

/-- Where a link is replaced that the path of another leads through, the file of that one stays. -/
theorem crossing_strands_a_file :
    Always TakesNoStage { storage := linked } crossing ∧
      (Session.run { storage := linked } crossing).live = [] ∧
      (Session.run { storage := linked } crossing).storage.files.get?
        [".x.7-0.part".toList, "real".toList] = some (.file []) ∧
      (Books.run {} { storage := linked } crossing).node? linked.files
        [".x.7-0.part".toList, "real".toList] = none := by
  decide +kernel

end Session

end ArtifactCache
