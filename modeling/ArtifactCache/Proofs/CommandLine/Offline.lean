import ArtifactCache.Proofs.CommandLine.Parsing
import ArtifactCache.Proofs.Download.Refusal
import ArtifactCache.Proofs.FileSystem.Directories

/-!
# Runs without a network

A run whose server refuses everything makes the cache directory and nothing else.  It succeeds
exactly when the artifact is there already, with whatever options.
-/

namespace ArtifactCache.CommandLine

open FileSystem

namespace Arguments

/-- There is a copy of what the arguments ask for: their URL is one of HTTP with a file name, and a
regular file of that name is in the cache directory, if need be behind links. -/
def HasCopy (a : Arguments) (dir : Path) (fs : FileSystem) (path : Path) : Prop :=
  ∃ url name content, Url.parse a.url = .ok url ∧ url.IsHttp ∧ url.fileName? = some name ∧
    path = dir.join ⟨name⟩ ∧ fs.nodeAt path = .ok (.file content)

variable {a : Arguments} {dir : Path} {fs fs' : FileSystem} {path : Path}

theorem hasCopy_request_iff : (a.request dir).HasCopy fs path ↔ a.HasCopy dir fs path := by
  constructor
  · rintro ⟨url, content, ⟨hparse, name, hlast, hname, hpath⟩, hurl, hfile⟩
    exact ⟨url, name, content, hparse, hurl, Url.fileName?_eq_some_iff.2 ⟨hlast, hname⟩, hpath,
      hfile⟩
  · rintro ⟨url, name, content, hparse, hurl, hname, hpath, hfile⟩
    obtain ⟨hlast, hname⟩ := Url.fileName?_eq_some_iff.1 hname
    exact ⟨url, content, ⟨hparse, name, hlast, hname, hpath⟩, hurl, hfile⟩

theorem HasCopy.unique {path' : Path} (h : a.HasCopy dir fs path) (h' : a.HasCopy dir fs path') :
    path = path' :=
  (hasCopy_request_iff.2 h).unique (hasCopy_request_iff.2 h')

/-- A copy is not lost by making directories. -/
theorem HasCopy.of_madeAlong {paths : List Path} (h : a.HasCopy dir fs path)
    (hmade : MadeAlong paths fs fs') : a.HasCopy dir fs' path := by
  obtain ⟨url, name, content, hparse, hurl, hname, hpath, hfile⟩ := h
  exact ⟨url, name, content, hparse, hurl, hname, hpath, hmade.nodeAt_eq_ok hfile⟩

variable {server : Server} {storage : Storage}

/-- Once there is a cache directory, a run against a server that refuses succeeds with a copy or
fails. -/
theorem runIn_of_refuses (env : Environment) (hserver : server.Refuses)
    (hmade : storage.files.createDirectories dir = (.ok (), fs)) :
    let f := a.runIn dir env server storage
    f.storage.files = fs ∧
      ((∃ path, a.HasCopy dir fs path ∧ f.exit = .success (path.text ++ "\n")) ∨
        ((∀ path, ¬ a.HasCopy dir fs path) ∧ ∃ failure, f.exit = .failure failure)) := by
  intro f
  obtain ⟨hfiles, hending⟩ := Retriever.retrieve_of_refuses (r := a.retriever server) hserver
    (a.request dir) { storage with files := fs }
  have hf : f = a.runIn dir env server storage := rfl
  simp only [runIn, hmade] at hf
  refine ⟨by rw [hf]; exact hfiles, ?_⟩
  rcases hending with ⟨path, hcopy, hdone⟩ | ⟨hnone, e, hfailed⟩
  · exact .inl ⟨path, hasCopy_request_iff.1 hcopy, by rw [hf, hdone]⟩
  · exact .inr ⟨fun path hcopy => hnone path (hasCopy_request_iff.2 hcopy), _,
      by rw [hf, hfailed]⟩

end Arguments

variable {args : List String} {env : Environment} {a : Arguments} {dir : Path} {server : Server}
  {storage : Storage} {files : FileSystem}

/-- Where the cache directory can be made, a run against a server that refuses makes it, and those
above it as far as they are missing, and nothing else.  It succeeds exactly when there is a copy
then, whose path is all that it prints, and fails in every other case.  A copy from before is still
there, and where there is a cache directory already nothing at all is changed. -/
theorem refused_run_offers_the_copy (hparse : parse args env.cacheDir = .ok a)
    (hdir : a.cacheDirIn? env = some dir) (hserver : server.Refuses)
    (hmade : storage.files.AddsDirectories dir files) :
    let f := run args env server storage
    f.storage.files = files ∧ DirectoryMade storage.files dir f.storage.files ∧
      (storage.files.nodeAt dir = .ok .directory → f.storage.files = storage.files) ∧
      (∀ path, a.HasCopy dir storage.files path → a.HasCopy dir f.storage.files path) ∧
      (∀ output, f.exit = .success output ↔
        ∃ path, a.HasCopy dir f.storage.files path ∧ output = path.text ++ "\n") ∧
      ((∀ path, ¬ a.HasCopy dir f.storage.files path) → ∃ failure, f.exit = .failure failure) := by
  intro f
  have hf : f = a.runIn dir env server storage := by
    simp only [f, run, hparse, Arguments.run, hdir]
  obtain ⟨hfiles, hexit⟩ := a.runIn_of_refuses env hserver (createDirectories_eq_ok_iff.2 hmade)
  rw [← hf] at hfiles hexit
  have hdirectory := hmade.directoryMade (isEmpty_of_cacheDirIn? hparse hdir)
  rw [hfiles]
  refine ⟨rfl, hdirectory, hmade.eq_of_directory, fun path hcopy => ?_, ?_, ?_⟩
  · exact hcopy.of_madeAlong hdirectory.along
  · intro output
    rcases hexit with ⟨path, hcopy, hdone⟩ | ⟨hnone, failure, hfailed⟩
    · rw [hdone, Exit.success.injEq]
      constructor
      · rintro rfl
        exact ⟨path, hcopy, rfl⟩
      · rintro ⟨path', hcopy', rfl⟩
        rw [hcopy.unique hcopy']
    · constructor
      · intro hdone
        rw [hfailed] at hdone
        cases hdone
      · rintro ⟨path, hcopy, -⟩
        exact absurd hcopy (hnone path)
  · intro hnone
    rcases hexit with ⟨path, hcopy, -⟩ | ⟨-, hfailed⟩
    · exact absurd hcopy (hnone path)
    · exact hfailed

/-- A cache with a copy behind a link. -/
def linkedCopy : Storage where
  files.nodes :=
    [(["cache".toList], .directory), (["a".toList, "cache".toList], .link (.ofString "../store")),
      (["store".toList], .file [1])]
  files.here := []
  process := 1

def linkedArguments (dir : String) : Arguments where
  url := "http://host/a"
  cacheDir := some (.ofString dir)
  progress := true
  probeTimeout := some 5
  strictHash := true

/-- With the cache directory `new/deep`, and nothing at `new`, two directories are made. -/
def deepFiles : FileSystem :=
  (linkedCopy.files.put ["new".toList] .directory).put ["deep".toList, "new".toList] .directory

theorem linked_copy_offered_deep_directory_made :
    let runIn dir := run ["http://host/a", "--strict-hash", "-pd", dir, "--probe-timeout=5"] {}
      (.failing ["connection refused"]) linkedCopy
    (runIn "cache").exit = .success "cache/a\n" ∧
      (runIn "cache").storage.files = linkedCopy.files ∧
      (∃ failure, (runIn "new/deep").exit = .failure failure) ∧
      (runIn "new/deep").storage.files = deepFiles := by
  intro runIn
  have hserver := Server.refuses_failing ["connection refused"]
  have hthere : linkedCopy.files.AddsDirectories (.ofString "cache") linkedCopy.files :=
    .cons .nil (.there rfl)
  have hmissing : linkedCopy.files.AddsDirectories (.ofString "new/deep") deepFiles := by
    refine .cons (.cons .nil (.missing rfl ?_ rfl)) (.missing rfl ?_ rfl)
    · decide
    · decide
  have hparse : parse ["http://host/a", "--strict-hash", "-pd", "cache", "--probe-timeout=5"] none =
      .ok (linkedArguments "cache") := rfl
  have hparse' :
      parse ["http://host/a", "--strict-hash", "-pd", "new/deep", "--probe-timeout=5"] none =
        .ok (linkedArguments "new/deep") := rfl
  have hdir : (linkedArguments "cache").cacheDirIn? {} = some (.ofString "cache") := rfl
  have hdir' : (linkedArguments "new/deep").cacheDirIn? {} = some (.ofString "new/deep") := rfl
  obtain ⟨hsame, -, -, hcopies, hexit, -⟩ :=
    refused_run_offers_the_copy hparse hdir hserver hthere
  obtain ⟨hdeep, -, -, -, -, hfails⟩ :=
    refused_run_offers_the_copy hparse' hdir' hserver hmissing
  refine ⟨(hexit _).2 ⟨.ofString "cache/a", hcopies _ ?_, rfl⟩, hsame, hfails ?_, hdeep⟩
  · exact ⟨_, "a".toList, [1], rfl, by decide, rfl, rfl, rfl⟩
  · rw [hdeep]
    rintro path ⟨url, name, content, hurl, -, hname, rfl, hfile⟩
    cases hurl
    cases hname
    cases hfile

end ArtifactCache.CommandLine
