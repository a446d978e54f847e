import ArtifactCache.FileSystem.Lookup
import ArtifactCache.Proofs.Text.Bytes
import Mathlib.Data.List.Basic
import Mathlib.Data.List.TakeWhile

/-!
# The paths above a path

What is above a path is the path up to a slash, with more parts behind the slash, or it is the root
or the directory at hand.  So the paths above a path are above one another, too, and the nearest of
them has all parts but the last, apart from those that name nothing.
-/

namespace ArtifactCache.Path

variable {p q : Path} {first : List Char} {parts rest front : List (List Char)}

theorem intercalate_append {front back : List (List Char)} (hfront : front ≠ [])
    (hback : back ≠ []) :
    ['/'].intercalate (front ++ back) =
      ['/'].intercalate front ++ '/' :: ['/'].intercalate back := by
  induction front with
  | nil => exact absurd rfl hfront
  | cons part front ih =>
      cases front with
      | nil =>
          obtain ⟨next, back, rfl⟩ := List.exists_cons_of_ne_nil hback
          simp [List.intercalate_cons_cons]
      | cons next front =>
          have hrest := ih (List.cons_ne_nil _ _)
          simp only [List.cons_append] at hrest ⊢
          rw [List.intercalate_cons_cons, List.intercalate_cons_cons, hrest]
          simp only [List.append_assoc]

theorem start_append_drop (p : Path) : p.start ++ p.chars.drop p.start.length = p.chars := by
  unfold start
  split
  · next h => simp [h]
  · next h => simp [h]
  · next h => simp [h]
  · simp

/-- The way along a path begins with the way along its beginning up to a slash. -/
theorem parts_of_cut {rest : List Char} (h : p.chars = q.chars ++ '/' :: rest) :
    p.parts = q.parts ++ (⟨rest⟩ : Path).parts := by
  simp [parts, h, List.splitOn, List.splitOnP_append_cons]

/-- `q` is the root, or `p` up to a slash with more parts behind it. -/
def IsAbove (q p : Path) : Prop :=
  q = ⟨['/']⟩ ∨ ∃ rest, p.chars = q.chars ++ '/' :: rest ∧ (⟨rest⟩ : Path).parts ≠ []

theorem IsAbove.append (h : q.IsAbove p) (more : List Char) :
    q.IsAbove ⟨p.chars ++ '/' :: more⟩ := by
  rcases h with rfl | ⟨rest, hcut, hrest⟩
  · exact .inl rfl
  · refine .inr ⟨rest ++ '/' :: more, ?_, ?_⟩
    · rw [hcut, List.append_assoc, List.cons_append]
    · have hparts : (⟨rest ++ '/' :: more⟩ : Path).parts = _ := parts_of_cut (q := ⟨rest⟩) rfl
      rw [hparts]
      exact List.append_ne_nil_of_left_ne_nil hrest _

/-- What stands in a path behind its start, last part first: there is no slash in a part, and one
behind the directory at hand. -/
structure StandsBehind (first : List Char) (parts : List (List Char)) : Prop where
  start : first = [] ∨ first = ['/'] ∨ first = ['.'] ∧ (parts = [] ∨ parts.getLast? = some [])
  slash : ∀ part ∈ parts, '/' ∉ part

theorem StandsBehind.of_append (front : List (List Char))
    (h : StandsBehind first (front ++ rest)) : StandsBehind first rest := by
  refine ⟨?_, fun part hpart => h.slash part (List.mem_append_right _ hpart)⟩
  rcases h.start with hnone | hroot | ⟨hhere, hlast⟩
  · exact .inl hnone
  · exact .inr (.inl hroot)
  · refine .inr (.inr ⟨hhere, ?_⟩)
    by_cases hrest : rest = []
    · exact .inl hrest
    · rcases hlast with hnil | hlast
      · exact .inl (List.append_eq_nil_iff.1 hnil).2
      · rw [List.getLast?_append_of_ne_nil _ hrest] at hlast
        exact .inr hlast

theorem standsBehind_start (p : Path) :
    StandsBehind p.start ((p.chars.drop p.start.length).splitOn '/').reverse := by
  constructor
  · unfold start
    split
    · exact .inr (.inl rfl)
    · next h => exact .inr (.inr ⟨rfl, .inr (by simp [h])⟩)
    · next rest h =>
        have hcut : ('/' :: rest).splitOn '/' = [] :: rest.splitOn '/' :=
          List.splitOnP_append_cons [] rest rfl
        exact .inr (.inr ⟨rfl, .inr (by simp [h, hcut])⟩)
    · exact .inl rfl
  · intro part hpart
    exact Text.separator_not_mem_of_mem_splitOnP (p := (· == '/')) rfl (List.mem_reverse.1 hpart)

/-- The path of some parts, last one first. -/
def upTo (first : List Char) (parts : List (List Char)) : Path :=
  ⟨first ++ ['/'].intercalate parts.reverse⟩

theorem upTo_start (p : Path) :
    upTo p.start ((p.chars.drop p.start.length).splitOn '/').reverse = p := by
  rw [upTo, List.reverse_reverse, List.intercalate_splitOn, start_append_drop]

theorem parts_intercalate_ne_nil (hslash : ∀ part ∈ parts, '/' ∉ part)
    (hpart : ∃ part ∈ parts, isIdle part = false) :
    (⟨['/'].intercalate parts⟩ : Path).parts ≠ [] := by
  obtain ⟨part, hmem, hidle⟩ := hpart
  have hne : part.isEmpty = false := (Bool.or_eq_false_iff.1 hidle).1
  rw [Path.parts, List.splitOn_intercalate '/' hslash (List.ne_nil_of_mem hmem)]
  exact List.ne_nil_of_mem (List.mem_filter.2 ⟨hmem, by simp [hne]⟩)

/-- Where a part that counts is left away, what is left of the path is above it. -/
theorem isAbove_upTo (h : StandsBehind first (front ++ rest))
    (hpart : ∃ part ∈ front, isIdle part = false) :
    (upTo first rest).isEmpty = true ∨ (upTo first rest).IsAbove (upTo first (front ++ rest)) := by
  have hfront : front.reverse ≠ [] := by
    obtain ⟨part, hmem, -⟩ := hpart
    exact List.ne_nil_of_mem (List.mem_reverse.2 hmem)
  have hslash : ∀ part ∈ front.reverse, '/' ∉ part := fun part hmem =>
    h.slash part (List.mem_append_left _ (List.mem_reverse.1 hmem))
  have hparts : ∃ part ∈ front.reverse, isIdle part = false := by
    simpa only [List.mem_reverse] using hpart
  by_cases hrest : rest = []
  · subst hrest
    rcases h.start with rfl | rfl | ⟨rfl, hnil | hlast⟩
    · exact .inl rfl
    · exact .inr (.inl rfl)
    · rw [List.append_nil] at hnil
      exact absurd (List.reverse_eq_nil_iff.2 hnil) hfront
    · -- The slash behind the directory at hand is in front of the parts that are left away.
      rw [List.append_nil, List.getLast?_eq_some_iff] at hlast
      obtain ⟨others, rfl⟩ := hlast
      rw [List.reverse_append, List.reverse_singleton, List.singleton_append] at hslash hparts
      have hothers : ∃ part ∈ others.reverse, isIdle part = false := by
        obtain ⟨part, hmem, hidle⟩ := hparts
        rcases List.mem_cons.1 hmem with rfl | hmem
        · cases hidle
        · exact ⟨part, hmem, hidle⟩
      have hne : others.reverse ≠ [] := by
        obtain ⟨part, hmem, -⟩ := hothers
        exact List.ne_nil_of_mem hmem
      refine .inr (.inr ⟨['/'].intercalate others.reverse, ?_, parts_intercalate_ne_nil
        (fun part hmem => hslash part (List.mem_cons_of_mem _ hmem)) hothers⟩)
      have hcut := intercalate_append (List.cons_ne_nil [] []) hne
      simpa [upTo] using hcut
  · refine .inr (.inr ⟨['/'].intercalate front.reverse, ?_, parts_intercalate_ne_nil hslash hparts⟩)
    have hcut := intercalate_append (mt List.reverse_eq_nil_iff.1 hrest) hfront
    simp only [upTo, List.reverse_append, hcut, List.append_assoc]

theorem isAbove_of_mem_above (h : StandsBehind first parts) (hq : q ∈ above first parts) :
    q.isEmpty = true ∨ q.IsAbove (upTo first parts) := by
  induction parts with
  | nil =>
      rw [above] at hq
      split at hq
      · rw [List.mem_singleton.1 hq]
        exact .inl rfl
      · cases hq
  | cons part rest ih =>
      have hrest : q ∈ above first rest →
          q.isEmpty = true ∨ q.IsAbove (upTo first (part :: rest)) := by
        intro hmem
        by_cases hnil : rest = []
        · subst hnil
          rw [above] at hmem
          split at hmem
          · rw [List.mem_singleton.1 hmem]
            exact .inl rfl
          · cases hmem
        · refine (ih (h.of_append [part]) hmem).imp_right fun habove => ?_
          have hcut := intercalate_append (mt List.reverse_eq_nil_iff.1 hnil)
            (List.cons_ne_nil part [])
          have hmore := habove.append part
          simpa [upTo, hcut] using hmore
      rw [above] at hq
      split at hq
      · exact hrest hq
      · next hidle =>
          rcases List.mem_cons.1 hq with rfl | hmem
          · have hsplit : part :: rest =
                (part :: rest.takeWhile isIdle) ++ rest.dropWhile isIdle := by
              rw [List.cons_append, List.takeWhile_append_dropWhile]
            rw [hsplit] at h ⊢
            exact isAbove_upTo h ⟨part, List.mem_cons_self, by simpa using hidle⟩
          · exact hrest hmem

theorem above_dropWhile (first : List Char) (parts : List (List Char)) :
    above first (parts.dropWhile isIdle) = above first parts := by
  induction parts with
  | nil => rfl
  | cons part rest ih =>
      by_cases hidle : isIdle part = true
      · rw [List.dropWhile_cons_of_pos hidle, ih, above, if_pos hidle]
      · rw [List.dropWhile_cons_of_neg hidle]

theorem pairwise_above (h : StandsBehind first parts) :
    (above first parts).Pairwise fun p q => q.isEmpty = true ∨ q.IsAbove p := by
  induction parts with
  | nil =>
      rw [above]
      split
      · exact List.pairwise_singleton _ _
      · exact .nil
  | cons part rest ih =>
      have hrest := h.of_append [part]
      rw [above]
      split
      · exact ih hrest
      · refine List.pairwise_cons.2 ⟨fun q hq => ?_, ih hrest⟩
        rw [← above_dropWhile] at hq
        rw [← List.takeWhile_append_dropWhile (p := isIdle) (l := rest)] at hrest
        exact isAbove_of_mem_above (hrest.of_append _) hq

/-- A path and those above it, nearest first, without the directory at hand. -/
def withAncestors (p : Path) : List Path := (p :: p.ancestors).filter (!·.isEmpty)

theorem withAncestors_eq (hp : p.isEmpty = false) :
    p.withAncestors = p :: p.ancestors.filter (!·.isEmpty) := by
  rw [withAncestors, List.filter_cons_of_pos (by simp [hp])]

/-- Each of the paths is above those before it. -/
theorem pairwise_withAncestors (p : Path) :
    p.withAncestors.Pairwise fun p q => q.IsAbove p := by
  have hbehind := p.standsBehind_start
  have hancestors : p.ancestors =
      above p.start ((p.chars.drop p.start.length).splitOn '/').reverse := above_dropWhile _ _
  have hall : (p :: p.ancestors).Pairwise fun p q => q.isEmpty = true ∨ q.IsAbove p := by
    rw [hancestors]
    refine List.pairwise_cons.2 ⟨fun q hq => ?_, pairwise_above hbehind⟩
    have habove := isAbove_of_mem_above hbehind hq
    rwa [upTo_start] at habove
  rw [withAncestors, List.pairwise_filter]
  refine hall.imp fun h _ hq => h.resolve_left ?_
  simpa using hq

/-! ## The path right above -/

theorem parts_upTo (h : StandsBehind first parts) :
    (upTo first parts).parts =
      (⟨first⟩ : Path).parts ++ parts.reverse.filter (!·.isEmpty) := by
  have hsplit : ∀ {parts : List (List Char)}, (∀ part ∈ parts, '/' ∉ part) →
      (⟨['/'].intercalate parts⟩ : Path).parts = parts.filter (!·.isEmpty) := by
    intro parts hslash
    cases parts with
    | nil => rfl
    | cons part rest =>
        rw [Path.parts, List.splitOn_intercalate '/' hslash (List.cons_ne_nil part rest)]
  have hslash : ∀ part ∈ parts.reverse, '/' ∉ part := fun part hmem =>
    h.slash part (List.mem_reverse.1 hmem)
  rcases h.start with rfl | rfl | ⟨rfl, rfl | hlast⟩
  · exact hsplit hslash
  · have hcut : (upTo ['/'] parts).chars = [] ++ '/' :: ['/'].intercalate parts.reverse := rfl
    have hparts := parts_of_cut (q := ⟨[]⟩) hcut
    rw [hparts, hsplit hslash]
    rfl
  · rfl
  · obtain ⟨others, rfl⟩ := List.getLast?_eq_some_iff.1 hlast
    by_cases hothers : others.reverse = []
    · rw [List.reverse_eq_nil_iff.1 hothers]
      rfl
    · have happend := intercalate_append (List.cons_ne_nil [] []) hothers
      have hcut : (upTo ['.'] (others ++ [[]])).chars =
          ['.'] ++ '/' :: ['/'].intercalate others.reverse := by
        simpa [upTo] using happend
      have hothers' : ∀ part ∈ others.reverse, '/' ∉ part := fun part hmem =>
        h.slash part (List.mem_append_left _ (List.mem_reverse.1 hmem))
      rw [parts_of_cut (q := ⟨['.']⟩) hcut, hsplit hothers']
      simp

theorem isAbsolute_start (p : Path) : p.isAbsolute = (⟨p.start⟩ : Path).isAbsolute := by
  unfold start isAbsolute
  split
  · next h => simp [h]
  · next h => simp [h]
  · next h => simp [h]
  · next hroot _ _ =>
      rw [List.head?_nil, Option.none_beq_some, beq_eq_false_iff_ne]
      intro hhead
      obtain ⟨rest, hrest⟩ := List.head?_eq_some_iff.1 hhead
      exact hroot rest hrest

theorem isAbsolute_of_cut {rest : List Char} (h : p.chars = q.chars ++ '/' :: rest)
    (hq : q.isEmpty = false) : p.isAbsolute = q.isAbsolute := by
  obtain ⟨_ | ⟨c, chars⟩⟩ := q
  · cases hq
  · rw [Path.isAbsolute, h]
    rfl

theorem isAbsolute_upTo (hp : upTo p.start (front ++ rest) = p) :
    (upTo p.start rest).isAbsolute = p.isAbsolute := by
  by_cases hrest : rest = []
  · subst hrest
    rw [p.isAbsolute_start, upTo, List.reverse_nil, List.intercalate_nil, List.append_nil]
  by_cases hfront : front = []
  · rw [← List.nil_append rest, ← hfront, hp]
  have hcut : p.chars = (upTo p.start rest).chars ++ '/' :: ['/'].intercalate front.reverse := by
    have happend := intercalate_append (mt List.reverse_eq_nil_iff.1 hrest)
      (mt List.reverse_eq_nil_iff.1 hfront)
    rw [← List.reverse_append] at happend
    have hchars : p.chars = p.start ++ ['/'].intercalate (front ++ rest).reverse :=
      (congrArg Path.chars hp).symm
    rw [hchars, happend, upTo, List.append_assoc]
  cases hempty : (upTo p.start rest).isEmpty with
  | false => exact (isAbsolute_of_cut hcut hempty).symm
  | true =>
      -- Then there would be a slash in front, which belongs to the start.
      have hnil : (upTo p.start rest).chars = [] := List.isEmpty_iff.1 hempty
      have hstart : p.start = [] := (List.append_eq_nil_iff.1 hnil).1
      rw [hnil, List.nil_append] at hcut
      rw [start, hcut] at hstart
      cases hstart

theorem isIdle_of_mem_start (p : Path) : ∀ part ∈ (⟨p.start⟩ : Path).parts, isIdle part = true := by
  rcases p.standsBehind_start.start with h | h | ⟨h, -⟩
  · rw [h]
    exact nofun
  · rw [h]
    exact nofun
  · rw [h]
    exact fun part hmem => List.mem_singleton.1 hmem ▸ rfl

/-- What is left of parts that name nothing are those that stay where they are. -/
theorem filter_eq_replicate (parts : List (List Char)) (h : ∀ part ∈ parts, isIdle part = true) :
    ∃ n, parts.filter (!·.isEmpty) = List.replicate n ['.'] := by
  refine ⟨_, List.eq_replicate_of_mem fun part hmem => ?_⟩
  obtain ⟨hmem, hne⟩ := List.mem_filter.1 hmem
  have hidle := h part hmem
  simp only [isIdle, Bool.or_eq_true, beq_iff_eq] at hidle
  exact hidle.resolve_left (by simpa using hne)

theorem isIdle_of_mem_parts (hidle : p.partsFromEnd = []) :
    ∀ part ∈ p.parts, isIdle part = true := by
  intro part hmem
  have hparts := parts_upTo p.standsBehind_start
  rw [p.upTo_start] at hparts
  rw [hparts, List.mem_append] at hmem
  rcases hmem with hmem | hmem
  · exact p.isIdle_of_mem_start part hmem
  · have hpart := List.mem_reverse.1 (List.mem_filter.1 hmem).1
    exact List.dropWhile_eq_nil_iff.1 hidle part hpart

section LastName

variable {parts rest : List (List Char)} {part : List Char}

theorem eq_append_of_dropWhile (hdrop : parts.dropWhile isIdle = part :: rest) :
    parts = (parts.takeWhile isIdle ++ part :: rest.takeWhile isIdle) ++ rest.dropWhile isIdle := by
  rw [List.append_assoc, List.cons_append, List.takeWhile_append_dropWhile, ← hdrop,
    List.takeWhile_append_dropWhile]

theorem isIdle_eq_false_of_dropWhile (hdrop : parts.dropWhile isIdle = part :: rest) :
    isIdle part = false := by
  simpa [hdrop] using List.head?_dropWhile_not isIdle parts

/-- Before the last name of a path are the parts of what lies above it, and behind it are none that
lead on. -/
theorem parts_of_dropWhile (h : StandsBehind first parts)
    (hdrop : parts.dropWhile isIdle = part :: rest) :
    ∃ n m, (upTo first parts).parts =
      (upTo first (rest.dropWhile isIdle)).parts ++ List.replicate n ['.'] ++
        part :: List.replicate m ['.'] := by
  obtain ⟨n, hbefore⟩ := filter_eq_replicate (rest.takeWhile isIdle).reverse
    fun part hmem => List.mem_takeWhile_imp (List.mem_reverse.1 hmem)
  obtain ⟨m, hbehind⟩ := filter_eq_replicate (parts.takeWhile isIdle).reverse
    fun part hmem => List.mem_takeWhile_imp (List.mem_reverse.1 hmem)
  have hsplit := eq_append_of_dropWhile hdrop
  have habove := parts_upTo ((hsplit ▸ h).of_append _)
  have hreverse : parts.reverse = (rest.dropWhile isIdle).reverse ++
      (rest.takeWhile isIdle).reverse ++ part :: (parts.takeWhile isIdle).reverse := by
    conv_lhs => rw [hsplit]
    simp only [List.reverse_append, List.reverse_cons, List.append_assoc, List.cons_append,
      List.nil_append]
  have hne : (!part.isEmpty) = true := by
    rw [(Bool.or_eq_false_iff.1 (isIdle_eq_false_of_dropWhile hdrop)).1]
    rfl
  refine ⟨n, m, ?_⟩
  simp only [parts_upTo h, habove, hreverse, List.filter_append, hbefore, List.filter_cons, hne,
    if_true, hbehind, List.append_assoc]

end LastName

/-- Of a path that ends in a name, the path right above it has all parts but the name, apart from
those that name nothing. -/
theorem parts_of_parent {name : List Char} (hlast : p.parts.getLast? = some name)
    (hname : isIdle name = false) :
    ∃ parent n, p.parent? = some parent ∧ parent.isAbsolute = p.isAbsolute ∧
      p.parts.dropLast = parent.parts ++ List.replicate n ['.'] := by
  cases hfrom : p.partsFromEnd with
  | nil =>
      have hidle := isIdle_of_mem_parts hfrom name (List.mem_of_getLast? hlast)
      rw [hname] at hidle
      cases hidle
  | cons part rest =>
      have hpart := isIdle_eq_false_of_dropWhile hfrom
      obtain ⟨n, m, hparts⟩ := parts_of_dropWhile p.standsBehind_start hfrom
      rw [p.upTo_start] at hparts
      refine ⟨upTo p.start (rest.dropWhile isIdle), n, ?_, ?_, ?_⟩
      · rw [parent?, ancestors, hfrom, above, if_neg (by simp [hpart])]
        rfl
      · exact isAbsolute_upTo (eq_append_of_dropWhile hfrom ▸ p.upTo_start)
      · cases m with
        | zero => rw [hparts, List.replicate_zero, List.dropLast_concat]
        | succ m =>
            -- The last part would be one that names nothing.
            rw [hparts, List.replicate_succ', ← List.cons_append, ← List.append_assoc,
              List.getLast?_concat] at hlast
            cases hlast
            cases hname

end ArtifactCache.Path
