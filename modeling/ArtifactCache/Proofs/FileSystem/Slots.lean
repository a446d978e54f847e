import ArtifactCache.Proofs.FileSystem.Links

/-!
# The entry that a path names

A path that ends in a name and no slash names the entry of that name in a directory, and what it
leads to is found through that entry.  A regular file at the end of a path is the entry itself or
behind a link there; where nothing is found, the entry is missing or a link that leads nowhere.
-/

namespace ArtifactCache.FileSystem

/-- The path ends in a name, without a slash, of the directory above the location `l`. -/
def NamesEntry (fs : FileSystem) (p : Path) (l : Location) : Prop :=
  ∃ dir name, l = name :: dir ∧ fs.slot p = .ok (.entry dir name false)

variable {fs fs' : FileSystem} {p : Path} {l dir : Location} {name : Name} {slash : Bool}

theorem NamesEntry.ne_nil (h : fs.NamesEntry p l) : l ≠ [] := by
  obtain ⟨dir, name, rfl, -⟩ := h
  exact List.cons_ne_nil _ _

theorem NamesEntry.unique {k : Location} (h : fs.NamesEntry p l) (h' : fs.NamesEntry p k) :
    l = k := by
  obtain ⟨dir, name, rfl, hslot⟩ := h
  obtain ⟨dir', name', rfl, hslot'⟩ := h'
  rw [hslot] at hslot'
  cases hslot'
  rfl

theorem directoryAt_eq_ok_iff {steps : List Step} :
    fs.directoryAt dir steps = .ok l ↔
      fs.follow linkLimit dir steps = .ok l ∧ fs.get? l = some .directory := by
  unfold directoryAt
  cases hf : fs.follow linkLimit dir steps with
  | error cause => simp [bind, Except.bind]
  | ok k =>
      simp only [bind, Except.bind, Except.ok.injEq]
      cases hk : fs.get? k with
      | none =>
          simp only [reduceCtorEq, false_iff, not_and]
          rintro rfl
          simp [hk]
      | some node =>
          cases node with
          | directory =>
              simp only [Except.ok.injEq]
              exact ⟨fun h => ⟨h, h ▸ hk⟩, fun h => h.1⟩
          | _ =>
              simp only [reduceCtorEq, false_iff, not_and]
              rintro rfl
              simp [hk]

theorem slot_eq_entry_iff :
    fs.slot p = .ok (.entry dir name slash) ↔
      checkPath p = .ok () ∧ p.endsInSlash = slash ∧
        ∃ last, p.parts.getLast? = some last ∧ Step.ofPart last = .enter name ∧
          fs.directoryAt (origin fs.here p) (p.parts.dropLast.map Step.ofPart) = .ok dir := by
  unfold slot
  cases hc : checkPath p with
  | error cause => simp [bind, Except.bind]
  | ok _ =>
      cases hlast : p.parts.getLast? with
      | none => simp [bind, Except.bind]
      | some last =>
          cases hdir : fs.directoryAt (origin fs.here p) (p.parts.dropLast.map Step.ofPart) with
          | error cause => simp [bind, Except.bind]
          | ok k =>
              cases hstep : Step.ofPart last with
              | stay => simp [bind, Except.bind, hstep]
              | up => simp [bind, Except.bind, hstep]
              | enter other =>
                  simp only [bind, Except.bind, hstep, Except.ok.injEq, Slot.entry.injEq,
                    Option.some.injEq, Step.enter.injEq, true_and, exists_eq_left']
                  exact ⟨fun ⟨hd, hn, hs⟩ => ⟨hs, hn, hd⟩, fun ⟨hs, hn, hd⟩ => ⟨hd, hn, hs⟩⟩

theorem locate_eq_ok_iff :
    fs.locate p = .ok l ↔
      checkPath p = .ok () ∧ fs.follow linkLimit (origin fs.here p) p.steps = .ok l := by
  unfold locate
  cases hc : checkPath p <;> simp [bind, Except.bind]

theorem nodeAt_eq_ok_iff {node : Node} :
    fs.nodeAt p = .ok node ↔ ∃ l, fs.locate p = .ok l ∧ fs.get? l = some node := by
  unfold nodeAt
  cases hl : fs.locate p with
  | error cause => simp [bind, Except.bind]
  | ok k =>
      simp only [bind, Except.bind, Except.ok.injEq, exists_eq_left']
      cases fs.get? k <;> simp

/-! ## From a path to its entry -/

theorem steps_eq_of_getLast? {last : List Char} (hlast : p.parts.getLast? = some last) :
    p.steps = p.parts.dropLast.map Step.ofPart ++
      Step.ofPart last :: if p.endsInSlash then [.stay] else [] := by
  obtain ⟨front, hfront⟩ := List.getLast?_eq_some_iff.1 hlast
  simp [Path.steps, hfront]

/-- What a path leads to is found from the directory of its entry. -/
theorem locate_eq_follow_of_entry (h : fs.slot p = .ok (.entry dir name false)) :
    fs.get? dir = some .directory ∧
      ∃ n ≤ linkLimit, fs.locate p = fs.follow n dir [.enter name] := by
  obtain ⟨hcheck, hslash, last, hlast, hstep, hdir⟩ := slot_eq_entry_iff.1 h
  obtain ⟨hfollow, hget⟩ := directoryAt_eq_ok_iff.1 hdir
  obtain ⟨n, hn, hmore⟩ := follow_append_of_ok hfollow
  refine ⟨hget, n, hn, ?_⟩
  have hsteps : p.steps = p.parts.dropLast.map Step.ofPart ++ [.enter name] := by
    rw [steps_eq_of_getLast? hlast, hslash, hstep]
    rfl
  rw [← hmore, ← hsteps]
  unfold locate
  rw [hcheck]
  rfl

/-- A file that is named is the file that the path leads to. -/
theorem nodeAt_of_entry {node : Node} (h : fs.slot p = .ok (.entry dir name false))
    (hlong : isTooLong name = false) (hnode : fs.get? (name :: dir) = some node)
    (hlink : ∀ target, node ≠ .link target) : fs.nodeAt p = .ok node := by
  obtain ⟨hdir, n, -, hlocate⟩ := locate_eq_follow_of_entry h
  have hstep : fs.StepsTo dir (.enter name) (name :: dir) := ⟨hdir, rfl, hlong, node, hnode, hlink⟩
  refine nodeAt_eq_ok_iff.2 ⟨name :: dir, ?_, hnode⟩
  rw [hlocate]
  apply follow_of_arrived
  rw [walk_of_stepsTo hstep]
  rfl

theorem isNotFound_of_locate {cause other : IoError} (hnode : fs.nodeAt p = .error cause)
    (hfound : cause.isNotFound = true) (h : fs.locate p = .error other) :
    other.isNotFound = true := by
  have hsame : fs.nodeAt p = .error other := by
    unfold nodeAt
    rw [h]
    rfl
  rw [hsame] at hnode
  cases hnode
  exact hfound

theorem get?_eq_none_of_locate {cause : IoError} (hnode : fs.nodeAt p = .error cause)
    (h : fs.locate p = .ok l) : fs.get? l = none := by
  cases hget : fs.get? l with
  | none => rfl
  | some node =>
      rw [nodeAt_eq_ok_iff.2 ⟨l, h, hget⟩] at hnode
      cases hnode

/-- A link at the end of a path that leads to nothing leads nowhere, through however many links:
with fewer of them the path would lead to too many. -/
theorem dangles_of_not_found {cause : IoError} {target : Path} {n : Nat}
    (hwalk : fs.walk dir [.enter name] = .link dir target [])
    (hlocate : fs.locate p = fs.follow n dir [.enter name]) (hnode : fs.nodeAt p = .error cause)
    (hfound : cause.isNotFound = true) : fs.Dangles dir target := by
  intro m k hk
  cases n with
  | zero =>
      have hmany :=
        isNotFound_of_locate hnode hfound (hlocate.trans (follow_zero_of_link hwalk))
      cases hmany
  | succ n =>
      rw [follow_succ_of_link hwalk, List.append_nil] at hlocate
      rcases follow_eq_or_tooManyLinks hk n with hn | hn
      · exact get?_eq_none_of_locate hnode (hlocate.trans hn)
      · have hmany := isNotFound_of_locate hnode hfound (hlocate.trans hn)
        cases hmany

/-- Where a path leads to nothing there is no entry, or a link that leads nowhere. -/
theorem entry_of_not_found {cause : IoError} (h : fs.slot p = .ok (.entry dir name false))
    (hnode : fs.nodeAt p = .error cause) (hfound : cause.isNotFound = true) :
    fs.get? (name :: dir) = none ∨
      ∃ target, fs.get? (name :: dir) = some (.link target) ∧ fs.Dangles dir target := by
  obtain ⟨hdir, n, -, hlocate⟩ := locate_eq_follow_of_entry h
  rcases fs.step_cases dir (.enter name) with ⟨k, hk⟩ | ⟨target, hlink⟩ | ⟨other, hfail⟩
  · obtain ⟨-, rfl, hlong, node, hget, hlink⟩ := hk
    rw [nodeAt_of_entry h hlong hget hlink] at hnode
    cases hnode
  · have hwalk := walk_of_meetsLink hlink []
    obtain ⟨-, other, hother, -, hget⟩ := hlink
    cases hother
    exact .inr ⟨target, hget, dangles_of_not_found hwalk hlocate hnode hfound⟩
  · cases hget : fs.get? (name :: dir) with
    | none => exact .inl rfl
    | some node =>
        by_cases hlong : isTooLong name = true
        · have hwalk : fs.walk dir [.enter name] = .failed .nameTooLong := by
            simp [walk, hdir, hlong]
          have hmany :=
            isNotFound_of_locate hnode hfound (hlocate.trans (follow_of_failed hwalk n))
          cases hmany
        · have hwalk := hfail []
          simp only [walk, hdir, if_neg hlong, hget] at hwalk
          cases node <;> cases hwalk

theorem isDirectory_of_follow_cons {n : Nat} {step : Step} {rest : List Step}
    (h : fs.follow n dir (step :: rest) = .ok l) :
    fs.get? dir = some .directory := by
  rcases fs.step_cases dir step with ⟨k, hk⟩ | ⟨target, hlink⟩ | ⟨cause, hfail⟩
  · exact hk.1
  · exact hlink.1
  · rw [follow_of_failed (hfail rest)] at h
    cases h

theorem follow_of_append_stay {n : Nat} (steps : List Step)
    (h : fs.follow n dir (steps ++ [.stay]) = .ok l) :
    fs.follow n dir steps = .ok l ∧ fs.get? l = some .directory := by
  cases hf : fs.follow n dir steps with
  | error cause =>
      rw [follow_append_of_error _ hf] at h
      cases h
  | ok k =>
      obtain ⟨m, -, hmore⟩ := follow_append_of_ok hf
      rw [hmore] at h
      rcases fs.step_cases k .stay with ⟨j, hj⟩ | ⟨target, -, name, hname, -⟩ | ⟨cause, hfail⟩
      · rw [follow_congr (walk_of_stepsTo hj []), follow_nil] at h
        cases h
        obtain ⟨hk, rfl⟩ := hj
        exact ⟨rfl, hk⟩
      · cases hname
      · rw [follow_of_failed (hfail [])] at h
        cases h

theorem slot_eq_of_directoryAt {last : List Char} {step : Step} (hcheck : checkPath p = .ok ())
    (hlast : p.parts.getLast? = some last)
    (hdir : fs.directoryAt (origin fs.here p) (p.parts.dropLast.map Step.ofPart) = .ok dir)
    (hstep : Step.ofPart last = step) :
    fs.slot p = .ok (match step with
      | .stay => .stay
      | .up => .up
      | .enter name => .entry dir name p.endsInSlash) := by
  unfold slot
  rw [hcheck, hlast]
  simp only [bind, Except.bind, hdir, hstep]
  cases step <;> rfl

theorem entry_of_follow_enter {n : Nat} {content : List UInt8}
    (h : fs.follow n dir [.enter name] = .ok l) (hl : fs.get? l = some (.file content)) :
    isTooLong name = false ∧
      (fs.get? (name :: dir) = some (.file content) ∨
        ∃ target, fs.get? (name :: dir) = some (.link target)) := by
  rcases fs.step_cases dir (.enter name) with ⟨k, hk⟩ | ⟨target, hlink⟩ | ⟨cause, hfail⟩
  · rw [follow_congr (walk_of_stepsTo hk []), follow_nil] at h
    cases h
    obtain ⟨-, rfl, hlong, -⟩ := hk
    exact ⟨hlong, .inl hl⟩
  · obtain ⟨-, other, hother, hlong, hname⟩ := hlink
    cases hother
    exact ⟨hlong, .inr ⟨target, hname⟩⟩
  · rw [follow_of_failed (hfail [])] at h
    cases h

/-- A regular file at the end of a path is the entry that the path names or behind a link there;
a path that names no entry can lead to one as well. -/
theorem entry_of_file {content : List UInt8} (h : fs.nodeAt p = .ok (.file content)) :
    (∃ dir name, fs.slot p = .ok (.entry dir name false) ∧ isTooLong name = false ∧
        (fs.get? (name :: dir) = some (.file content) ∨
          ∃ target, fs.get? (name :: dir) = some (.link target))) ∨
      ∃ s, fs.slot p = .ok s ∧ ∀ dir name slash, s ≠ .entry dir name slash := by
  obtain ⟨l, hlocate, hl⟩ := nodeAt_eq_ok_iff.1 h
  obtain ⟨hcheck, hfollow⟩ := locate_eq_ok_iff.1 hlocate
  cases hlast : p.parts.getLast? with
  | none =>
      refine .inr ⟨.root, ?_, nofun⟩
      unfold slot
      rw [hcheck, hlast]
      rfl
  | some last =>
      rw [steps_eq_of_getLast? hlast] at hfollow
      cases hdir : fs.follow linkLimit (origin fs.here p) (p.parts.dropLast.map Step.ofPart) with
      | error cause =>
          rw [follow_append_of_error _ hdir] at hfollow
          cases hfollow
      | ok dir =>
          obtain ⟨n, -, hmore⟩ := follow_append_of_ok hdir
          rw [hmore] at hfollow
          have hget := isDirectory_of_follow_cons hfollow
          have hdir' := directoryAt_eq_ok_iff.2 ⟨hdir, hget⟩
          cases hstep : Step.ofPart last with
          | stay => exact .inr ⟨.stay, slot_eq_of_directoryAt hcheck hlast hdir' hstep, nofun⟩
          | up => exact .inr ⟨.up, slot_eq_of_directoryAt hcheck hlast hdir' hstep, nofun⟩
          | enter name =>
              rw [hstep] at hfollow
              cases hslash : p.endsInSlash with
              | true =>
                  rw [if_pos hslash] at hfollow
                  obtain ⟨-, hl'⟩ := follow_of_append_stay [.enter name] hfollow
                  rw [hl] at hl'
                  cases hl'
              | false =>
                  rw [if_neg (by simp [hslash])] at hfollow
                  have hslot := slot_eq_entry_iff.2 ⟨hcheck, hslash, last, hlast, hstep, hdir'⟩
                  exact .inl ⟨dir, name, hslot, entry_of_follow_enter hfollow hl⟩

/-! ## Entries and files in two trees -/

theorem WaysKept.directoryAt_eq_ok {steps : List Step} (h : WaysKept fs fs')
    (hdir : fs.directoryAt dir steps = .ok l) : fs'.directoryAt dir steps = .ok l := by
  obtain ⟨hfollow, hl⟩ := directoryAt_eq_ok_iff.1 hdir
  have hk := h.keptAt hl
  exact directoryAt_eq_ok_iff.2 ⟨h.follow_eq_ok hk hfollow, hk _ hl⟩

theorem WaysKept.slot_eq_entry (h : WaysKept fs fs')
    (hslot : fs.slot p = .ok (.entry dir name slash)) :
    fs'.slot p = .ok (.entry dir name slash) := by
  obtain ⟨hcheck, hslash, last, hlast, hstep, hdir⟩ := slot_eq_entry_iff.1 hslot
  refine slot_eq_entry_iff.2 ⟨hcheck, hslash, last, hlast, hstep, ?_⟩
  rw [h.here_eq]
  exact h.directoryAt_eq_ok hdir

theorem WaysKept.namesEntry (h : WaysKept fs fs') (hp : fs.NamesEntry p l) :
    fs'.NamesEntry p l := by
  obtain ⟨dir, name, hl, hslot⟩ := hp
  exact ⟨dir, name, hl, h.slot_eq_entry hslot⟩

theorem WaysKept.nodeAt_eq_ok {node : Node} (h : WaysKept fs fs')
    (hkept : ∀ l, fs.get? l = some node → KeptAt l fs fs') (hp : fs.nodeAt p = .ok node) :
    fs'.nodeAt p = .ok node := by
  obtain ⟨l, hlocate, hl⟩ := nodeAt_eq_ok_iff.1 hp
  obtain ⟨hcheck, hfollow⟩ := locate_eq_ok_iff.1 hlocate
  refine nodeAt_eq_ok_iff.2 ⟨l, locate_eq_ok_iff.2 ⟨hcheck, ?_⟩, hkept l hl node hl⟩
  rw [h.here_eq]
  exact h.follow_eq_ok (hkept l hl) hfollow

/-- A file put at the entry that a path names is found by the path, unless the way to it is through
that very entry. -/
theorem nodeAt_put_of_namesEntry {content : List UInt8} (hlong : isTooLong name = false)
    (h : (fs.erase (name :: dir)).NamesEntry p (name :: dir)) :
    (fs.put (name :: dir) (.file content)).nodeAt p = .ok (.file content) := by
  have hl : name :: dir ≠ [] := List.cons_ne_nil _ _
  obtain ⟨dir', name', heq, hslot⟩ := (waysKept_erase_put hl (.file content)).namesEntry h
  cases heq
  exact nodeAt_of_entry hslot hlong (get?_put_self fs hl _) nofun

theorem namesEntry_erase_of_dangles {target : Path} (h : fs.NamesEntry p (name :: dir))
    (hlink : fs.get? (name :: dir) = some (.link target)) (hd : fs.Dangles dir target) :
    (fs.erase (name :: dir)).NamesEntry p (name :: dir) := by
  obtain ⟨dir', name', heq, hslot⟩ := h
  cases heq
  obtain ⟨hcheck, hslash, last, hlast, hstep, hdir⟩ := slot_eq_entry_iff.1 hslot
  obtain ⟨hfollow, hget⟩ := directoryAt_eq_ok_iff.1 hdir
  have hfollow' := follow_erase_of_dangles hlink hd (by simp [hget]) hfollow
  have hget' : (fs.erase (name :: dir)).get? dir = some .directory := by
    rw [get?_erase_of_ne fs (fun h => by simpa using congrArg List.length h), hget]
  exact ⟨dir, name, rfl, slot_eq_entry_iff.2
    ⟨hcheck, hslash, last, hlast, hstep, directoryAt_eq_ok_iff.2 ⟨hfollow', hget'⟩⟩⟩

/-- Where a path names an entry and leads to nothing, the way to the entry is not through it. -/
theorem namesEntry_erase_of_not_found {cause : IoError} (h : fs.NamesEntry p l)
    (hnode : fs.nodeAt p = .error cause) (hfound : cause.isNotFound = true) :
    (fs.erase l).NamesEntry p l := by
  obtain ⟨dir, name, rfl, hslot⟩ := h
  rcases entry_of_not_found hslot hnode hfound with hnone | ⟨target, hlink, hd⟩
  · have hways : WaysKept fs (fs.erase (name :: dir)) := by
      refine ⟨rfl, fun k way _ hk => ?_⟩
      rw [get?_erase_of_ne fs (fun heq => by simp [heq, hnone] at hk), hk]
    exact hways.namesEntry ⟨dir, name, rfl, hslot⟩
  · exact namesEntry_erase_of_dangles ⟨dir, name, rfl, hslot⟩ hlink hd

/-- A file put where a path led to nothing hides no file that another path leads to. -/
theorem nodeAt_put_of_not_found {q : Path} {cause : IoError} {content old : List UInt8}
    (h : fs.NamesEntry p l) (hnode : fs.nodeAt p = .error cause)
    (hfound : cause.isNotFound = true) (hq : fs.nodeAt q = .ok (.file old)) :
    (fs.put l (.file content)).nodeAt q = .ok (.file old) := by
  obtain ⟨dir, name, rfl, hslot⟩ := h
  have hl : name :: dir ≠ [] := List.cons_ne_nil _ _
  have hkept : ∀ k, KeptAt k (fs.erase (name :: dir)) (fs.put (name :: dir) (.file content)) := by
    intro k node hk
    rw [get?_erase fs hl] at hk
    split at hk
    · cases hk
    · next hne => rw [get?_put_of_ne fs hne, hk]
  have herase : (fs.erase (name :: dir)).nodeAt q = .ok (.file old) := by
    rcases entry_of_not_found hslot hnode hfound with hnone | ⟨target, hlink, hd⟩
    · have hsame : ∀ k, KeptAt k fs (fs.erase (name :: dir)) := by
        intro k node hk
        rw [get?_erase_of_ne fs (fun heq => by simp [heq, hnone] at hk), hk]
      have hways : WaysKept fs (fs.erase (name :: dir)) := ⟨rfl, fun k node _ => hsame k node⟩
      exact hways.nodeAt_eq_ok (fun k _ => hsame k) hq
    · obtain ⟨k, hlocate, hk⟩ := nodeAt_eq_ok_iff.1 hq
      obtain ⟨hcheck, hfollow⟩ := locate_eq_ok_iff.1 hlocate
      have hne : k ≠ name :: dir := by
        rintro rfl
        rw [hlink] at hk
        cases hk
      refine nodeAt_eq_ok_iff.2 ⟨k, locate_eq_ok_iff.2 ⟨hcheck, ?_⟩, ?_⟩
      · exact follow_erase_of_dangles hlink hd (by simp [hk]) hfollow
      · rw [get?_erase_of_ne fs hne, hk]
  exact (waysKept_erase_put hl _).nodeAt_eq_ok (fun k _ => hkept k) herase

end ArtifactCache.FileSystem
