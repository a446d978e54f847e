import ArtifactCache.Path

/-!
# Trees of files

A file system is a tree of directories, files, symbolic links and devices, kept as the list of its
entries below the root, each with its location.  Every change is to one location, or to everything
below one, so what it leaves alone can be said entry by entry.  Nobody is denied access to an entry,
and there is room for whatever is written: an operation fails for what its paths name, and for
nothing else.
-/

namespace ArtifactCache

abbrev Name := List Char

/-- A place in the tree: the names from the entry up to the root, which itself is at `[]`. -/
abbrev Location := List Name

inductive Node where
  | directory
  | file (content : List UInt8)
  | link (target : Path)
  /-- A device that is always empty and takes everything. -/
  | device
  deriving DecidableEq, Repr

structure FileSystem where
  nodes : List (Location × Node)
  /-- The directory that relative paths begin in. -/
  here : Location
  deriving DecidableEq, Repr

namespace FileSystem

def get? (fs : FileSystem) (l : Location) : Option Node :=
  if l = [] then some .directory else fs.nodes.lookup l

def drop (fs : FileSystem) (p : Location → Bool) : FileSystem :=
  { fs with nodes := fs.nodes.filter fun entry => !p entry.1 }

def erase (fs : FileSystem) (l : Location) : FileSystem := fs.drop (· == l)

def put (fs : FileSystem) (l : Location) (node : Node) : FileSystem :=
  { fs with nodes := (l, node) :: (fs.erase l).nodes }

/-- The tree with more bytes at the end of the file at a location, if there is one. -/
def append (fs : FileSystem) (l : Location) (bytes : List UInt8) : FileSystem :=
  { fs with nodes := fs.nodes.map fun
      | (k, .file content) => (k, .file (if k = l then content ++ bytes else content))
      | entry => entry }

def isBelow (l inner : Location) : Bool := l.isSuffixOf inner && inner != l

/-- The tree without what lies below a location. -/
def clear (fs : FileSystem) (l : Location) : FileSystem := fs.drop (isBelow l)

/-- The tree without a location and what lies below it. -/
def eraseTree (fs : FileSystem) (l : Location) : FileSystem := (fs.clear l).erase l

theorem lookup_filter_of_pos {α β : Type} [BEq α] [LawfulBEq α] {p : α → Bool}
    {entries : List (α × β)} {a : α} (h : p a = true) :
    (entries.filter fun entry => p entry.1).lookup a = entries.lookup a := by
  induction entries with
  | nil => rfl
  | cons entry entries ih =>
      obtain ⟨k, node⟩ := entry
      by_cases ha : a = k
      · subst ha
        simp [List.filter, h]
      · have hne : (a == k) = false := beq_false_of_ne ha
        by_cases hp : p k = true <;> simp [List.filter, hp, List.lookup_cons, hne, ih]

theorem lookup_filter_of_neg {α β : Type} [BEq α] [LawfulBEq α] {p : α → Bool}
    {entries : List (α × β)} {a : α} (h : p a = false) :
    (entries.filter fun entry => p entry.1).lookup a = none := by
  induction entries with
  | nil => rfl
  | cons entry entries ih =>
      obtain ⟨k, node⟩ := entry
      by_cases hp : p k = true
      · have ha : a ≠ k := by
          rintro rfl
          simp [h] at hp
        rw [List.filter_cons_of_pos (by exact hp), List.lookup_cons, beq_false_of_ne ha]
        exact ih
      · rw [List.filter_cons_of_neg (by exact hp)]
        exact ih

@[simp] theorem get?_root (fs : FileSystem) : fs.get? [] = some .directory := rfl

theorem get?_drop (fs : FileSystem) (p : Location → Bool) {l : Location} (hl : l ≠ []) :
    (fs.drop p).get? l = if p l then none else fs.get? l := by
  simp only [get?, if_neg hl, drop]
  split
  · next h => exact lookup_filter_of_neg (p := fun k => !p k) (by simp [h])
  · next h => exact lookup_filter_of_pos (p := fun k => !p k) (by simpa using h)

theorem get?_erase_self (fs : FileSystem) {l : Location} (hl : l ≠ []) :
    (fs.erase l).get? l = none := by
  simp [erase, get?_drop _ _ hl]

theorem get?_erase_of_ne (fs : FileSystem) {k l : Location} (h : k ≠ l) :
    (fs.erase l).get? k = fs.get? k := by
  by_cases hk : k = []
  · simp [hk]
  · simp [erase, get?_drop _ _ hk, h]

theorem get?_put_self (fs : FileSystem) {l : Location} (hl : l ≠ []) (node : Node) :
    (fs.put l node).get? l = some node := by
  simp [get?, put, hl]

theorem get?_put_of_ne (fs : FileSystem) {k l : Location} (h : k ≠ l) (node : Node) :
    (fs.put l node).get? k = fs.get? k := by
  rw [← get?_erase_of_ne fs h]
  by_cases hk : k = []
  · simp [hk]
  · simp [get?, put, hk, List.lookup_cons, beq_false_of_ne h]

/-- What is put where nothing was can be erased again without a trace. -/
theorem erase_put (fs : FileSystem) {l : Location} (hl : l ≠ []) (h : fs.get? l = none)
    (node : Node) : (fs.put l node).erase l = fs := by
  have hkeys : ∀ entry ∈ fs.nodes, entry.1 ≠ l := by
    intro entry he hk
    simp only [get?, if_neg hl, List.lookup_eq_none_iff] at h
    exact absurd (h entry he) (by simp [hk])
  have hfilter : fs.nodes.filter (fun entry => !(entry.1 == l)) = fs.nodes :=
    List.filter_eq_self.2 fun entry he => by simpa using hkeys entry he
  cases fs
  simp only [erase, drop, put] at hfilter ⊢
  simp [hfilter]

end FileSystem

end ArtifactCache
