import ArtifactCache.Cache
import ArtifactCache.Proofs.FileSystem.Joining
import ArtifactCache.Proofs.FileSystem.Staging
import ArtifactCache.Proofs.Url.Segments

/-!
# Artifacts stay in the cache directory

However a URL is spelled, its artifact is kept under one name in the cache directory.  Dots, in
whatever spelling, and slashes of both kinds are dealt with when the URL is parsed: what is left of
its path behind the last slash is a name, or nothing at all.
-/

namespace ArtifactCache

/-!
## The entry of an artifact

The path of an artifact ends in its name, so whatever copy it leads to is there by an entry of that
name in the cache directory, and can be removed.
-/

namespace Url

variable {url : Url} {name : List Char}

theorem fileName?_eq_some_iff :
    url.fileName? = some name ↔ url.path.lastSegment? = some name ∧ IsFileName name := by
  simp [fileName?, Option.filter_eq_some_iff]

theorem fileName?_eq_none
    (h : ∀ name, url.path.lastSegment? = some name → ¬ IsFileName name) : url.fileName? = none := by
  cases hname : url.fileName? with
  | none => rfl
  | some name =>
      obtain ⟨hlast, hfile⟩ := fileName?_eq_some_iff.1 hname
      exact absurd hfile (h name hlast)

end Url

theorem IsFileName.isEntryName {name : List Char} (h : IsFileName name) (hslash : '/' ∉ name) :
    FileSystem.IsEntryName name := by
  obtain ⟨hne, hdot, hdots⟩ := h
  refine ⟨hne, hslash, ?_⟩
  rw [Step.ofPart, if_neg hdot, if_neg hdots]

namespace FileSystem

variable {fs : FileSystem} {name : Name} {content : List UInt8}

/-- A copy in a directory is removed with its entry, whether it is there or behind a link. -/
theorem removeAny_join {dir : Path} (hname : IsFileName name) (hslash : '/' ∉ name)
    (h : fs.nodeAt (dir.join ⟨name⟩) = .ok (.file content)) :
    ∃ l, fs.NamesEntry (dir.join ⟨name⟩) l ∧
      fs.removeAny (dir.join ⟨name⟩) = (.ok (), fs.erase l) := by
  rcases entry_of_file h with ⟨l, last, hslot, hlong, hnode⟩ | ⟨slot, hslot, hother⟩
  · refine ⟨last :: l, ⟨l, last, rfl, hslot⟩, ?_⟩
    rcases hnode with hfile | ⟨target, hlink⟩
    · exact removeAny_of_entry hslot hlong hfile nofun
    · exact removeAny_of_entry hslot hlong hlink nofun
  · obtain ⟨l, rfl, -⟩ := slot_join (hname.isEntryName hslash) hslot
    exact absurd rfl (hother _ _ _)

end FileSystem

/-! ## Artifacts stay in the cache directory -/

variable {raw : String} {url url' : Url} {name : List Char} {cacheDir path : Path}

theorem parse_of_readUrl (h : readUrl raw = .ok url) : Url.parse raw = .ok url := by
  unfold readUrl at h
  cases hparse : Url.parse raw with
  | error e =>
      rw [hparse] at h
      cases h
  | ok parsed =>
      rw [hparse] at h
      cases h
      rfl

theorem artifactPath_eq_ok_iff :
    artifactPath cacheDir url = .ok path ↔
      ∃ name, url.fileName? = some name ∧ path = cacheDir.join ⟨name⟩ := by
  unfold artifactPath
  cases url.fileName? with
  | none => simp
  | some name => simp [eq_comm]

theorem artifactPath_eq_error_iff {e : DownloadError} :
    artifactPath cacheDir url = .error e ↔ url.fileName? = none ∧ e = .noFileName url.text := by
  unfold artifactPath
  cases url.fileName? with
  | none => simp [eq_comm]
  | some name => simp

namespace Url

theorem IsPlain.isFileName (h : IsPlain name) (hne : name ≠ []) : IsFileName name :=
  ⟨hne, h.dot, h.dots⟩

theorem isPlain_of_fileName? (h : url.path.IsPlain) (hname : url.fileName? = some name) :
    IsPlain name := by
  obtain ⟨hlast, -⟩ := fileName?_eq_some_iff.1 hname
  cases hpath : url.path with
  | text whole =>
      rw [hpath] at hlast
      cases hlast
  | segments parts =>
      rw [hpath] at h hlast
      exact h name (List.mem_of_getLast? hlast)

/-- The name is what is written behind the last slash of the path. -/
theorem fileName?_congr (h : url.path.IsPlain) (h' : url'.path.IsPlain)
    (hchars : url'.path.chars = url.path.chars) : url'.fileName? = url.fileName? := by
  rw [fileName?, fileName?, h'.lastSegment?_eq, h.lastSegment?_eq, hchars]

theorem getLast?_chars_segments (front : List (List Char)) (last : List Char) :
    (Path.segments (front ++ [last])).chars.getLast? = some (last.getLast?.getD '/') := by
  have hchars : (Path.segments (front ++ [last])).chars =
      front.flatMap ('/' :: ·) ++ '/' :: last := by
    simp [Path.chars]
  rw [hchars, List.getLast?_append, List.getLast?_cons, Option.some_or]

/-- A path with segments has a name at its end unless a slash is there. -/
theorem fileName?_eq_none_iff {parts : List (List Char)} (hpath : url.path = .segments parts)
    (hparts : ArePlain parts) (hne : parts ≠ []) :
    url.fileName? = none ↔ url.path.chars.getLast? = some '/' := by
  obtain ⟨front, last, rfl⟩ : ∃ front last, parts = front ++ [last] :=
    ⟨parts.dropLast, parts.getLast hne, (List.dropLast_concat_getLast hne).symm⟩
  have hlast : url.path.lastSegment? = some last := by
    rw [hpath]
    exact List.getLast?_concat
  have hplain : IsPlain last := hparts last (by simp)
  rw [hpath, getLast?_chars_segments]
  by_cases hempty : last = []
  · have hunnamed : url.fileName? = none := fileName?_eq_none fun name hname hfile =>
      hfile.1 ((Option.some.inj (hname.symm.trans hlast)).trans hempty)
    rw [hempty]
    exact iff_of_true hunnamed rfl
  · have hnamed := fileName?_eq_some_iff.2 ⟨hlast, hplain.isFileName hempty⟩
    refine iff_of_false (by simp [hnamed]) fun hslash => ?_
    have hend := List.getLast?_eq_some_getLast hempty
    rw [hend, Option.getD_some, Option.some.injEq] at hslash
    exact hplain.slash (hslash ▸ List.getLast_mem hempty)

end Url

/-- No URL leads out of the cache directory.  The artifact of a URL is kept, if anywhere, under a
name of an entry of that directory, in whatever tree; the name depends only on the path of the URL;
and a URL of HTTP has one unless its path ends in a slash. -/
theorem artifact_stays_in_directory (hurl : readUrl raw = .ok url) (cacheDir : Path) :
    (∀ path, artifactPath cacheDir url = .ok path →
      ∃ name, path = cacheDir.join ⟨name⟩ ∧ IsFileName name ∧ '/' ∉ name ∧ '\x00' ∉ name ∧
        path.parts = cacheDir.parts ++ [name] ∧
        ∀ (fs : FileSystem) (found : FileSystem.Slot), fs.slot path = .ok found →
          ∃ dir, found = .entry dir name false ∧ fs.IsDirectoryOf cacheDir dir) ∧
    (∀ raw' url', readUrl raw' = .ok url' → url'.path.chars = url.path.chars →
      ∀ path, artifactPath cacheDir url' = .ok path ↔ artifactPath cacheDir url = .ok path) ∧
    (∀ e, artifactPath cacheDir url = .error e → e = .noFileName url.text) ∧
    (url.IsHttp →
      (artifactPath cacheDir url = .error (.noFileName url.text) ↔
        url.path.chars.getLast? = some '/')) := by
  have hparse := parse_of_readUrl hurl
  have hplain := Url.isPlain_of_parse hparse
  refine ⟨?contained, ?fromPath, ?error, ?http⟩
  case contained =>
    intro path hpath
    obtain ⟨name, hname, rfl⟩ := artifactPath_eq_ok_iff.1 hpath
    have hfile := (Url.fileName?_eq_some_iff.1 hname).2
    have hsegment := Url.isPlain_of_fileName? hplain hname
    exact ⟨name, rfl, hfile, hsegment.slash, hsegment.nul,
      cacheDir.parts_join hfile.1 hsegment.slash,
      fun fs found => fs.slot_join (hfile.isEntryName hsegment.slash)⟩
  case fromPath =>
    intro raw' url' hurl' hchars path
    have hplain' := Url.isPlain_of_parse (parse_of_readUrl hurl')
    rw [artifactPath_eq_ok_iff, artifactPath_eq_ok_iff, Url.fileName?_congr hplain hplain' hchars]
  case error =>
    intro e he
    exact (artifactPath_eq_error_iff.1 he).2
  case http =>
    intro hhttp
    obtain ⟨parts, hpath, hne⟩ := Url.segments_of_isHttp hparse hhttp
    have hparts : Url.ArePlain parts := by
      rw [hpath] at hplain
      exact hplain
    rw [artifactPath_eq_error_iff, ← Url.fileName?_eq_none_iff hpath hparts hne]
    exact and_iff_left rfl

/-- A URL as it is read from a text that climbs with dots, encoded dots and backslashes. -/
def climbingUrl : Url :=
  { scheme := "http".toList
    username := "u".toList
    password := some "p".toList
    host := some (.domain "h".toList)
    path := .segments ["b".toList, "..%2Fx%00".toList]
    query := some "q=/../z".toList
    fragment := some "/w".toList }

theorem climbing_artifact_stays :
    readUrl "http:\\\\u:p@h\\a\\.\t%2E\\b\\%2e\\..%2Fx%00?q=/../z#/w" = .ok climbingUrl ∧
      ∃ path name, artifactPath (.ofString "cache") climbingUrl = .ok path ∧
        path = (Path.ofString "cache").join ⟨name⟩ ∧ IsFileName name ∧
          path.parts = ["cache".toList, name] := by
  have hread : readUrl "http:\\\\u:p@h\\a\\.\t%2E\\b\\%2e\\..%2Fx%00?q=/../z#/w" =
      .ok climbingUrl := rfl
  have hpath : artifactPath (.ofString "cache") climbingUrl =
      .ok (.ofString "cache/..%2Fx%00") := rfl
  obtain ⟨hstays, -⟩ := artifact_stays_in_directory hread (.ofString "cache")
  obtain ⟨name, hjoin, hfile, -, -, hparts, -⟩ := hstays _ hpath
  exact ⟨hread, _, name, hpath, hjoin, hfile, hparts⟩

end ArtifactCache
