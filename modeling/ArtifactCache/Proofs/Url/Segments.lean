import ArtifactCache.Proofs.Text.Bytes
import ArtifactCache.Url.Parse

/-!
# Segments are names

No segment of a parsed URL has a slash or a NUL in it, and none stands for a directory: the text of
a path is cut at its slashes, encoding a character writes none, and dots are resolved.  So the
segments can be told from the printed path, and one of them is empty at its end only if the path
ends in a slash.
-/

namespace ArtifactCache.Url

/-- None of the texts has a slash in it. -/
def SlashFree (segments : List (List Char)) : Prop := ∀ segment ∈ segments, '/' ∉ segment

def Path.SlashFree : Path → Prop
  | .segments parts => Url.SlashFree parts
  | .text _ => True

/-- A text that is the name of an entry in some directory, unless it is empty. -/
structure IsPlain (segment : List Char) : Prop where
  slash : '/' ∉ segment
  nul : '\x00' ∉ segment
  dot : segment ≠ ['.']
  dots : segment ≠ ['.', '.']

def ArePlain (segments : List (List Char)) : Prop := ∀ segment ∈ segments, IsPlain segment

/-- The segments of a path are plain, and only a path that has segments begins with a slash. -/
def Path.IsPlain : Path → Prop
  | .segments parts => ArePlain parts
  | .text whole => whole.head? ≠ some '/'

variable {style : PathStyle} {trail parts : List (List Char)} {s segment : List Char}

/-! ## What encoding writes -/

theorem not_mem_encodedByte {c : Char} (hc : c ≠ '%') (hdigit : ∀ n : Fin 16, upperHexDigit n ≠ c)
    (b : UInt8) : c ∉ encodedByte b := by
  have hb : b.toNat < 256 := b.toNat_lt
  have hhigh := hdigit ⟨b.toNat / 16, by omega⟩
  have hlow := hdigit ⟨b.toNat % 16, by omega⟩
  simp only [encodedByte, List.mem_cons, List.not_mem_nil, or_false, not_or]
  exact ⟨hc, hhigh.symm, hlow.symm⟩

theorem slash_not_mem_encodedByte (b : UInt8) : '/' ∉ encodedByte b :=
  not_mem_encodedByte (by decide) (by decide) b

theorem nul_not_mem_encodedByte (b : UInt8) : '\x00' ∉ encodedByte b :=
  not_mem_encodedByte (by decide) (by decide) b

/-- A character that is neither written by encoding nor left as it is does not occur. -/
theorem not_mem_percentEncode {set : EncodeSet} {c : Char} (hbyte : ∀ b, c ∉ encodedByte b)
    (h : c ∈ s → set c = true) : c ∉ percentEncode set s := by
  intro hmem
  obtain ⟨d, hd, hc⟩ := List.mem_flatMap.1 hmem
  split at hc
  · obtain ⟨b, -, hb⟩ := List.mem_flatMap.1 hc
    exact hbyte b hb
  · next hset =>
      rw [List.mem_singleton] at hc
      subst hc
      exact hset (by rw [h hd, Bool.true_or])

theorem slash_not_mem_percentEncode {set : EncodeSet} (h : '/' ∉ s) :
    '/' ∉ percentEncode set s :=
  not_mem_percentEncode slash_not_mem_encodedByte fun hs => absurd hs h

theorem nul_not_mem_percentEncode (s : List Char) : '\x00' ∉ percentEncode .path s :=
  not_mem_percentEncode nul_not_mem_encodedByte fun _ => rfl

/-- Encoding leaves a text that does not begin with a slash without one in front. -/
theorem head?_percentEncode {set : EncodeSet} (h : s.head? ≠ some '/') :
    (percentEncode set s).head? ≠ some '/' := by
  cases s with
  | nil => exact nofun
  | cons c rest =>
      rw [percentEncode, List.flatMap_cons]
      split
      · obtain ⟨b, more, hbytes⟩ :=
          List.exists_cons_of_ne_nil (String.utf8EncodeChar_ne_nil (c := c))
        rw [encodedChar, hbytes, List.flatMap_cons, encodedByte]
        exact fun heq => absurd (Option.some.inj heq) (by decide)
      · exact h

theorem slashFree_pathParts (style : PathStyle) (s : List Char) : SlashFree (pathParts style s) :=
  fun _ hpart => Text.separator_not_mem_of_mem_splitOnP (p := style.isSlash) rfl hpart

/-! ## Segments behind a trail -/

theorem isPlain_nil : IsPlain [] := ⟨nofun, nofun, nofun, nofun⟩

/-- A segment is kept as it is encoded, unless it stands for a directory. -/
theorem isPlain_percentEncode (hs : '/' ∉ s)
    (hdouble : ¬ isDoubleDot (percentEncode .path s) = true)
    (hsingle : ¬ isSingleDot (percentEncode .path s) = true) : IsPlain (percentEncode .path s) where
  slash := slash_not_mem_percentEncode hs
  nul := nul_not_mem_percentEncode s
  dot := by
    intro heq
    rw [heq] at hsingle
    exact hsingle (by decide)
  dots := by
    intro heq
    rw [heq] at hdouble
    exact hdouble (by decide)

theorem isPlain_take_append_colon (h : IsPlain segment) : IsPlain (segment.take 1 ++ [':']) where
  slash := by
    intro hmem
    rcases List.mem_append.1 hmem with htake | hcolon
    · exact h.slash (List.mem_of_mem_take htake)
    · cases List.mem_singleton.1 hcolon
  nul := by
    intro hmem
    rcases List.mem_append.1 hmem with htake | hcolon
    · exact h.nul (List.mem_of_mem_take htake)
    · cases List.mem_singleton.1 hcolon
  dot heq := by
    have hlast := congrArg List.getLast? heq
    rw [List.getLast?_concat] at hlast
    cases hlast
  dots heq := by
    have hlast := congrArg List.getLast? heq
    rw [List.getLast?_concat] at hlast
    cases hlast

theorem isPlain_writtenSegment (h : IsPlain segment) :
    IsPlain (writtenSegment style trail segment) := by
  unfold writtenSegment
  split
  · exact isPlain_take_append_colon h
  · exact h

theorem ArePlain.cons (hs : IsPlain s) (h : ArePlain parts) : ArePlain (s :: parts) := by
  intro segment hsegment
  rcases List.mem_cons.1 hsegment with rfl | hrest
  · exact hs
  · exact h segment hrest

theorem ArePlain.reverse (h : ArePlain parts) : ArePlain parts.reverse :=
  fun segment hsegment => h segment (List.mem_reverse.1 hsegment)

theorem ArePlain.leave (h : ArePlain trail) : ArePlain (Trail.leave trail) := by
  cases trail with
  | nil => exact h
  | cons first rest =>
      simp only [Trail.leave]
      split
      · exact h
      · exact fun segment hsegment => h segment (List.mem_cons_of_mem first hsegment)

theorem SlashFree.tail (h : SlashFree (s :: parts)) : SlashFree parts :=
  fun segment hsegment => h segment (List.mem_cons_of_mem s hsegment)

theorem arePlain_segmentsFrom (htrail : ArePlain trail) (hparts : SlashFree parts) :
    ArePlain (segmentsFrom style trail parts) := by
  -- The segments come out of the trail, which takes up the parts encoded one by one.
  fun_induction segmentsFrom style trail parts with
  | case1 trail => exact htrail.reverse
  | case2 trail last segment hdouble => exact (htrail.leave.cons isPlain_nil).reverse
  | case3 trail last segment hdouble hsingle => exact (htrail.cons isPlain_nil).reverse
  | case4 trail last segment hdouble hsingle =>
      have hlast := isPlain_percentEncode (hparts last List.mem_cons_self) hdouble hsingle
      exact (htrail.cons (isPlain_writtenSegment hlast)).reverse
  | case5 trail part rest hmore segment hdouble ih => exact ih htrail.leave hparts.tail
  | case6 trail part rest hmore segment hdouble hsingle ih => exact ih htrail hparts.tail
  | case7 trail part rest hmore segment hdouble hsingle ih =>
      have hpart := isPlain_percentEncode (hparts part List.mem_cons_self) hdouble hsingle
      exact ih (htrail.cons (isPlain_writtenSegment hpart)) hparts.tail

theorem segmentsFrom_ne_nil (h : parts ≠ []) : segmentsFrom style trail parts ≠ [] := by
  fun_induction segmentsFrom style trail parts with
  | case1 trail => exact absurd rfl h
  | case2 trail last segment hdouble => simp
  | case3 trail last segment hdouble hsingle => simp
  | case4 trail last segment hdouble hsingle => simp
  | case5 trail part rest hmore segment hdouble ih => exact ih hmore
  | case6 trail part rest hmore segment hdouble hsingle ih => exact ih hmore
  | case7 trail part rest hmore segment hdouble hsingle ih => exact ih hmore

theorem arePlain_readSegments (style : PathStyle) (s : List Char) :
    ArePlain (readSegments style s) :=
  arePlain_segmentsFrom nofun (slashFree_pathParts style s)

theorem readSegments_ne_nil (style : PathStyle) (s : List Char) : readSegments style s ≠ [] :=
  segmentsFrom_ne_nil (List.splitOnP_ne_nil _ s)

theorem ArePlain.dropEmptyRoots (h : ArePlain parts) : ArePlain (dropEmptyRoots parts) := by
  unfold Url.dropEmptyRoots
  split
  · exact ArePlain.cons isPlain_nil nofun
  · exact fun segment hsegment => h segment ((List.dropWhile_sublist _).subset hsegment)

theorem Path.IsPlain.lastSegment?_eq {path : Path} (h : path.IsPlain) :
    path.lastSegment? =
      if path.chars.head? = some '/' then (path.chars.splitOn '/').getLast? else none := by
  cases path with
  | text whole => exact (if_neg h).symm
  | segments parts =>
      cases parts with
      | nil => rfl
      | cons first rest =>
          have hhead : (Path.segments (first :: rest)).chars.head? = some '/' := rfl
          have hsplit : (Path.segments (first :: rest)).chars.splitOn '/' = [] :: first :: rest :=
            Text.splitOnP_append_flatMap_slash List.not_mem_nil
              fun segment hsegment => (h segment hsegment).slash
          rw [if_pos hhead, hsplit, List.getLast?_cons_cons]
          rfl

/-! ## The path of a URL -/

variable {kind : SchemeKind} {scheme : List Char} {b : Body} {url : Url}

theorem arePlain_readPathAfter (kind : SchemeKind) (s : List Char) :
    ArePlain (readPathAfter kind s) := by
  unfold readPathAfter
  split
  · exact nofun
  · exact arePlain_readSegments _ _
  · exact arePlain_readSegments _ _

theorem of_readWithAuthority (h : readWithAuthority kind scheme s b = .ok url) :
    url.scheme = scheme ∧ ∃ rest, url.path = .segments (readPathAfter kind rest) := by
  unfold readWithAuthority at h
  simp only [bind, Except.bind] at h
  split at h
  · cases h
  · cases h
    exact ⟨rfl, _, rfl⟩

theorem isPlain_of_readWithAuthority (h : readWithAuthority kind scheme s b = .ok url) :
    url.path.IsPlain := by
  obtain ⟨-, rest, hpath⟩ := of_readWithAuthority h
  rw [hpath]
  exact arePlain_readPathAfter kind rest

theorem of_readOther (h : readOther scheme b = .ok url) :
    url.scheme = scheme ∧ url.path.IsPlain := by
  unfold readOther at h
  split at h
  · exact ⟨(of_readWithAuthority h).1, isPlain_of_readWithAuthority h⟩
  · cases h
    exact ⟨rfl, arePlain_readSegments _ _⟩
  · next text _ hslash =>
      cases h
      refine ⟨rfl, head?_percentEncode fun hhead => ?_⟩
      obtain ⟨rest, hrest⟩ := List.head?_eq_some_iff.1 hhead
      exact hslash rest hrest

/-- A URL of a file, with plain segments. -/
def IsFileUrl (url : Url) : Prop := url.scheme = "file".toList ∧ url.path.IsPlain

theorem isFileUrl_fileUrl (host : Host) (s : List Char) (b : Body) :
    IsFileUrl (fileUrl host (readSegments .file s) b) :=
  ⟨rfl, (arePlain_readSegments .file s).dropEmptyRoots⟩

theorem isFileUrl_of_readFileAuthority (h : readFileAuthority s b = .ok url) : IsFileUrl url := by
  unfold readFileAuthority at h
  simp only [bind, Except.bind] at h
  split at h
  · cases h
    exact isFileUrl_fileUrl _ _ _
  · split at h
    · cases h
    · split at h
      · cases h
        exact isFileUrl_fileUrl _ _ _
      · cases h
        exact isFileUrl_fileUrl _ _ _

theorem isFileUrl_of_readFile (h : readFile b = .ok url) : IsFileUrl url := by
  unfold readFile at h
  simp only at h
  split at h
  · cases h
    exact isFileUrl_fileUrl _ _ _
  · cases h
    exact isFileUrl_fileUrl _ _ _
  · split at h
    · exact isFileUrl_of_readFileAuthority h
    · split at h
      · cases h
        exact isFileUrl_fileUrl _ _ _
      · cases h
        exact isFileUrl_fileUrl _ _ _

theorem isPlain_of_parse {raw : String} (h : parse raw = .ok url) : url.path.IsPlain := by
  unfold parse parseChars at h
  split at h
  · cases h
  · next kind scheme rest hsplit =>
      simp only at h
      split at h
      · exact isPlain_of_readWithAuthority h
      · exact (isFileUrl_of_readFile h).2
      · exact (of_readOther h).2

theorem slashFree_of_parse {raw : String} (h : parse raw = .ok url) : url.path.SlashFree := by
  have hplain := isPlain_of_parse h
  cases hpath : url.path with
  | text whole => trivial
  | segments parts =>
      rw [hpath] at hplain
      exact fun segment hsegment => (hplain segment hsegment).slash

theorem IsHttp.ofScheme_eq (h : url.IsHttp) : SchemeKind.ofScheme url.scheme = .special := by
  rcases h with h | h
  · rw [h]
    rfl
  · rw [h]
    rfl

theorem segments_of_isHttp {raw : String} (h : parse raw = .ok url) (hurl : url.IsHttp) :
    ∃ parts, url.path = .segments parts ∧ parts ≠ [] := by
  have hkind := hurl.ofScheme_eq
  unfold parse parseChars at h
  split at h
  · cases h
  · next kind scheme rest hsplit =>
      simp only at h
      split at h
      · obtain ⟨-, path, hpath⟩ := of_readWithAuthority h
        refine ⟨_, hpath, ?_⟩
        unfold readPathAfter
        split
        · contradiction
        · exact readSegments_ne_nil _ _
        · exact readSegments_ne_nil _ _
      · rw [(isFileUrl_of_readFile h).1] at hkind
        cases hkind
      · next hother =>
          rw [(of_readOther h).1, hother] at hkind
          cases hkind

end ArtifactCache.Url
