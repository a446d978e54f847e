import ArtifactCache.Proofs.FileSystem.Companions

/-!
# Books on replacements

A caller who writes down what went into each replacement and what was let into each place can tell
from these books what a tree holds: each change to the live replacements keeps the two in agreement.
Making one puts a file where nothing was, giving one up takes that file away, and only a commit
reaches another place.
-/

namespace ArtifactCache

open FileSystem

/-- The location of the entry that a path names, if it names one. -/
def FileSystem.entryAt? (fs : FileSystem) (p : Path) : Option Location :=
  match fs.slot p with
  | .ok (.entry dir name false) => some (name :: dir)
  | _ => none

theorem FileSystem.entryAt?_eq_some_iff {fs : FileSystem} {p : Path} {l : Location} :
    fs.entryAt? p = some l ↔ fs.NamesEntry p l := by
  unfold entryAt? NamesEntry
  constructor
  · intro h
    split at h
    · next dir name hslot => exact ⟨dir, name, (Option.some.inj h).symm, hslot⟩
    · cases h
  · rintro ⟨dir, name, rfl, hslot⟩
    rw [hslot]

def FileSystem.isLinkAt (fs : FileSystem) (l : Location) : Bool :=
  match fs.get? l with
  | some (.link _) => true
  | _ => false

/-- What a file takes the place of is no way, unless it is a link. -/
theorem not_isWay_of_replaceable {files : FileSystem} {p : Path} {l : Location}
    (hl : files.Replaceable p l) (hlink : ¬ files.isLinkAt l = true) :
    ∀ node, files.get? l = some node → ¬ IsWay node := by
  obtain ⟨dir, name, -, -, -, hdir⟩ := hl
  intro node hnode hway
  cases node with
  | directory => exact hdir hnode
  | link target => exact hlink (by simp [isLinkAt, hnode])
  | file content => exact hway
  | device => exact hway

/-! ## Books -/

/-- What went into the replacement at each label since it was made, and what was let into each
place last. -/
structure Books where
  written : String → List UInt8 := fun _ => []
  placed : Location → Option (List UInt8) := fun _ => none

namespace Books

def opened (b : Books) (label : String) : Books :=
  { b with written := fun other => if other = label then [] else b.written other }

def added (b : Books) (label : String) (bytes : List UInt8) : Books :=
  { b with
    written := fun other => if other = label then b.written label ++ bytes else b.written other }

def settled (b : Books) (l : Location) (content : List UInt8) : Books :=
  { b with placed := fun k => if k = l then some content else b.placed k }

/-- What is at a location by the books, in a tree that was `initial` at first. -/
def node? (b : Books) (initial : FileSystem) (k : Location) : Option Node :=
  match b.placed k with
  | some content => some (.file content)
  | none => initial.get? k

variable (b : Books) (initial : FileSystem) {k l : Location} (content : List UInt8)

theorem node?_settled_self : (b.settled l content).node? initial l = some (.file content) := by
  simp [node?, settled]

theorem node?_settled_of_ne (h : k ≠ l) :
    (b.settled l content).node? initial k = b.node? initial k := by
  simp [node?, settled, h]

end Books

/-! ## One action -/

/-- The books agree with the tree and the live replacements: each of these keeps what was written
to it, at a location of its own that is free by the books; everything else is as the books say. -/
structure Balanced (initial files : FileSystem) (live : String → Option Replacement) (b : Books) :
    Prop where
  here : files.here = initial.here
  keeps : ∀ {label r}, live label = some r → r.Keeps files (b.written label)
  apart : ∀ {label r other r'}, live label = some r → live other = some r' → other ≠ label →
    r'.location ≠ r.location
  vacant : ∀ {label r}, live label = some r → b.node? initial r.location = none
  rest : ∀ {k}, (∀ label r, live label = some r → r.location ≠ k) →
    files.get? k = b.node? initial k

/-- The replacements but for the one at a label. -/
def without (live : String → Option Replacement) (label : String) : String → Option Replacement :=
  fun other => if other = label then none else live other

/-- The replacements with this one at a label. -/
def withNew (live : String → Option Replacement) (label : String) (r : Replacement) :
    String → Option Replacement :=
  fun other => if other = label then some r else live other

section Accounts

variable {initial files : FileSystem} {live : String → Option Replacement} {b : Books}
  {label other : String} {r r' : Replacement} {l : Location}

theorem without_eq_some_iff :
    without live label other = some r ↔ other ≠ label ∧ live other = some r := by
  unfold without
  split
  · next h => simp [h]
  · next h => simp [h]

theorem withNew_self : withNew live label r label = some r := if_pos rfl

theorem withNew_eq_some_iff :
    withNew live label r other = some r' ↔
      (other = label ∧ r = r') ∨ (other ≠ label ∧ live other = some r') := by
  unfold withNew
  split
  · next h => simp [h]
  · next h => simp [h]

theorem withNew_without : withNew (without live label) label r = withNew live label r := by
  funext other
  unfold withNew without
  split
  · rfl
  · rfl

namespace Balanced

/-- A location that is no live replacement's once one is gone was that one's, or nobody's. -/
theorem get?_of_not_others {k : Location} (h : Balanced initial files live b)
    (hr : live label = some r) (hk : ∀ other r', without live label other = some r' →
      r'.location ≠ k) :
    (files.erase r.location).get? k = b.node? initial k := by
  rw [get?_erase files (h.keeps hr).ne_nil]
  split
  · next heq => rw [heq, h.vacant hr]
  · next hne =>
      refine h.rest fun other r' hr' => ?_
      by_cases hother : other = label
      · subst hother
        rw [hr] at hr'
        cases hr'
        exact Ne.symm hne
      · exact hk other r' (without_eq_some_iff.2 ⟨hother, hr'⟩)

theorem released (h : Balanced initial files live b) (hr : live label = some r) :
    Balanced initial (files.erase r.location) (without live label) b where
  here := h.here
  keeps := by
    intro other r' hr'
    obtain ⟨hne, hr'⟩ := without_eq_some_iff.1 hr'
    exact (h.keeps hr').erase (h.keeps hr).holds (h.apart hr hr' hne)
  apart hr' hr'' hne := h.apart (without_eq_some_iff.1 hr').2 (without_eq_some_iff.1 hr'').2 hne
  vacant hr' := h.vacant (without_eq_some_iff.1 hr').2
  rest hk := h.get?_of_not_others hr hk

/-- A replacement takes its place, where no other is or is led through. -/
theorem committed (h : Balanced initial files live b) (hr : live label = some r) (hl : l ≠ [])
    (hfree : ∀ other r', without live label other = some r' → r'.location ≠ l)
    (hleads : ∀ other r', without live label other = some r' →
      (files.erase l).NamesEntry r'.path r'.location) :
    Balanced initial ((files.erase r.location).put l (.file (b.written label)))
      (without live label) (b.settled l (b.written label)) where
  here := h.here
  keeps := by
    intro other r' hr'
    have hfree' := hfree other r' hr'
    have hleads' := hleads other r' hr'
    obtain ⟨hne, hr'⟩ := without_eq_some_iff.1 hr'
    have hkeeps := h.keeps hr'
    -- A link may be lost at `l`, so the ways that count are those of the tree without it.
    refine ⟨hkeeps.beside, (waysKept_move hl (h.keeps hr).holds _).namesEntry hleads', ?_⟩
    rw [get?_put_of_ne _ hfree', get?_erase_of_ne files (h.apart hr hr' hne), hkeeps.holds]
    rfl
  apart hr' hr'' hne := h.apart (without_eq_some_iff.1 hr').2 (without_eq_some_iff.1 hr'').2 hne
  vacant := by
    intro other r' hr'
    rw [b.node?_settled_of_ne initial _ (hfree other r' hr')]
    exact h.vacant (without_eq_some_iff.1 hr').2
  rest := by
    intro k hk
    rw [get?_put _ hl]
    split
    · next heq => rw [heq, b.node?_settled_self]
    · next hne => rw [b.node?_settled_of_ne initial _ hne, h.get?_of_not_others hr hk]

theorem written (h : Balanced initial files live b) (hr : live label = some r)
    (bytes : List UInt8) :
    Balanced initial (files.append r.location bytes) live (b.added label bytes) where
  here := h.here
  keeps := by
    intro other r' hr'
    refine (h.keeps hr').carry (waysKept_append files r.location bytes) ?_
    rw [get?_append, (h.keeps hr').holds]
    by_cases hother : other = label
    · subst hother
      rw [hr] at hr'
      cases hr'
      simp [Books.added, grown]
    · rw [if_neg (h.apart hr hr' hother)]
      simp [Books.added, hother]
  apart := h.apart
  vacant := h.vacant
  rest := by
    intro k hk
    rw [get?_append, if_neg (Ne.symm (hk label r hr))]
    exact h.rest hk

theorem begun (h : Balanced initial files live b) (hnew : live label = none)
    (hnone : files.get? r.location = none)
    (hkeeps : r.Keeps (files.put r.location (.file [])) []) :
    Balanced initial (files.put r.location (.file [])) (withNew live label r)
      (b.opened label) := by
  have hne : ∀ {other r'}, live other = some r' → other ≠ label := by
    rintro other r' hr' rfl
    rw [hnew] at hr'
    cases hr'
  -- All others have a file where they are, and there was nothing at the new location.
  have hapart : ∀ {other r'}, live other = some r' → r'.location ≠ r.location :=
    fun hr' => (h.keeps hr').ne_of_get?_eq_none hnone
  refine ⟨h.here, ?keeps, ?apart, ?vacant, ?rest⟩
  case keeps =>
    intro other r' hr'
    rcases withNew_eq_some_iff.1 hr' with ⟨rfl, rfl⟩ | ⟨hother, hr'⟩
    · simpa [Books.opened] using hkeeps
    · simpa [Books.opened, hother] using (h.keeps hr').put hnone []
  case apart =>
    intro one r' other r'' hr' hr'' hdiff
    rcases withNew_eq_some_iff.1 hr' with ⟨rfl, rfl⟩ | ⟨-, hr'⟩
    · have hr'' := (withNew_eq_some_iff.1 hr'').resolve_left fun heq => hdiff heq.1
      exact hapart hr''.2
    · rcases withNew_eq_some_iff.1 hr'' with ⟨-, rfl⟩ | ⟨-, hr''⟩
      · exact (hapart hr').symm
      · exact h.apart hr' hr'' hdiff
  case vacant =>
    intro other r' hr'
    rcases withNew_eq_some_iff.1 hr' with ⟨-, rfl⟩ | ⟨-, hr'⟩
    · exact (h.rest fun other r' hr' => hapart hr').symm.trans hnone
    · exact h.vacant hr'
  case rest =>
    intro k hk
    have hself := hk label r withNew_self
    rw [get?_put_of_ne _ (Ne.symm hself)]
    exact h.rest fun other r' hr' => hk other r' (withNew_eq_some_iff.2 (.inr ⟨hne hr', hr'⟩))

/-- A new replacement takes a label over, and the older one is given up. -/
theorem renewed {older : Replacement} (h : Balanced initial files live b)
    (holder : live label = some older) (hnone : files.get? r.location = none)
    (hkeeps : r.Keeps (files.put r.location (.file [])) []) :
    Balanced initial (older.discard (files.put r.location (.file []))) (withNew live label r)
      (b.opened label) := by
  have hapart := (h.keeps holder).ne_of_get?_eq_none hnone
  have hput := (h.keeps holder).put hnone []
  -- The older one could have been given up first: then the label would have been free.
  have hswap : older.discard (files.put r.location (.file [])) =
      (files.erase older.location).put r.location (.file []) := by
    rw [hput.discard_eq, erase_put_comm _ hapart.symm]
  have hnone' : (files.erase older.location).get? r.location = none := by
    rw [get?_erase_of_ne _ hapart.symm, hnone]
  have hkeeps' : r.Keeps ((files.erase older.location).put r.location (.file [])) [] := by
    rw [← hswap, hput.discard_eq]
    exact hkeeps.erase hput.holds hapart.symm
  have hbegun := (h.released holder).begun (if_pos rfl) hnone' hkeeps'
  rwa [withNew_without, ← hswap] at hbegun

end Balanced

end Accounts

end ArtifactCache
