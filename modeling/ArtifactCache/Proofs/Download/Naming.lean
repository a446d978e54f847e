import ArtifactCache.Proofs.Cache.Containment
import ArtifactCache.Proofs.Download.Course
import ArtifactCache.Proofs.Progress.Bars

/-!
# What the bar of a delivery is named

An artifact is kept under the last segment of the path of its URL.  The bar that shows its delivery
is named for what stands behind the last slash of the whole URL, with its query and its fragment.
The two agree for a URL that has neither, and else only by chance.
-/

namespace ArtifactCache

namespace Url

variable {url : Url} {name : List Char}

/-- Query and fragment, as they stand behind the path. -/
def suffixChars (url : Url) : List Char := url.queryChars ++ url.fragmentChars

theorem suffixChars_eq_nil_iff : url.suffixChars = [] ↔ url.query = none ∧ url.fragment = none := by
  rw [suffixChars, List.append_eq_nil_iff, queryChars, fragmentChars]
  cases url.query <;> cases url.fragment <;> simp

/-- The name of an artifact is what its URL has between a slash and the query. -/
theorem chars_of_fileName? (h : url.fileName? = some name) :
    ∃ front, url.chars = front ++ '/' :: (name ++ url.suffixChars) := by
  obtain ⟨hlast, -⟩ := fileName?_eq_some_iff.1 h
  cases hpath : url.path with
  | text whole =>
      rw [hpath] at hlast
      cases hlast
  | segments parts =>
      rw [hpath] at hlast
      obtain ⟨front, rfl⟩ := List.getLast?_eq_some_iff.1 hlast
      refine ⟨url.scheme ++ ':' :: url.authorityChars ++ front.flatMap ('/' :: ·), ?_⟩
      simp [chars, hpath, Path.chars, suffixChars]

end Url

namespace Bar

variable {url : Url} {name suffix : List Char}

/-- A text behind a name leaves the label that name only if there is none, or if it has the name
behind a slash itself. -/
theorem label_append_eq_iff (hname : '/' ∉ name) :
    label (name ++ suffix) = name ↔ suffix = [] ∨ ∃ front, suffix = front ++ '/' :: name := by
  constructor
  · intro h
    obtain ⟨-, hwhole | ⟨front, hbehind⟩⟩ := isLabel_iff.2 h.symm
    · exact .inl (List.append_right_eq_self.1 hwhole)
    · -- The name has no slash, so that in front of the label is one of the suffix.
      rcases List.append_eq_append_iff.1 hbehind with ⟨more, -, hsuffix⟩ | ⟨more, hsplit, hslash⟩
      · exact .inr ⟨more, hsuffix⟩
      · cases more with
        | nil => exact .inr ⟨[], hslash.symm⟩
        | cons c more =>
            obtain ⟨rfl, -⟩ := List.cons.inj hslash
            exact absurd (hsplit ▸ List.mem_append_right _ List.mem_cons_self) hname
  · rintro (rfl | ⟨front, rfl⟩)
    · rw [List.append_nil, label_of_slash_not_mem hname]
    · rw [← List.append_assoc, label_append_slash, label_of_slash_not_mem hname]

theorem label_text (h : url.fileName? = some name) :
    label url.text.toList = label (name ++ url.suffixChars) := by
  obtain ⟨front, hchars⟩ := url.chars_of_fileName? h
  rw [Url.text, String.toList_ofList, hchars, label_append_slash]

end Bar

namespace Courier

variable {c : Courier} {url : Url} {path : Path} {s : Storage}

/-- An observer of a delivery hears of one transfer at most, from the URL that is delivered. -/
theorem events_cases (hobserver : c.observer.isSome = true) (url : Url) (path : Path)
    (s : Storage) :
    let events := Notice.events (c.deliver url path s).notices
    ((∀ delay answer, ¬ c.Obtains url path s delay answer) ∧ events = []) ∨
      ∃ total since, events = .start url.text total :: since ∧ ∀ e ∈ since, e.isStart = false := by
  intro events
  by_cases hobtains : ∃ delay answer, c.Obtains url path s delay answer
  · obtain ⟨delay, answer, h⟩ := hobtains
    obtain ⟨pieces, rest, hcourse⟩ := exists_runsTo answer.bodyEnd answer.body h.inTime
    obtain ⟨updates, last, p, hevents, -, -, hlast⟩ := events_of_obtains hobserver h hcourse
    refine .inr ⟨_, _, hevents, fun e he => ?_⟩
    rcases List.mem_append.1 he with hupdate | hself
    · obtain ⟨q, -, rfl⟩ := List.mem_map.1 hupdate
      rfl
    · rw [List.mem_singleton.1 hself]
      rcases hlast with ⟨-, rfl⟩ | ⟨-, rfl⟩ <;> rfl
  · have hnone : ∀ delay answer, ¬ c.Obtains url path s delay answer :=
      fun delay answer h => hobtains ⟨delay, answer, h⟩
    exact .inl ⟨hnone, events_of_not_obtains hnone⟩

/-- From its first event on, a delivery is shown by a bar that is labelled with its URL. -/
theorem bar_of_events (hobserver : c.observer.isSome = true) (n : Nat) :
    let events := Notice.events (c.deliver url path s).notices
    ((∃ delay answer, c.Obtains url path s delay answer) → 0 < n →
        ∃ bar, Bar.after (events.take n) = some bar) ∧
      ∀ bar, Bar.after (events.take n) = some bar → bar.message = Bar.label url.text.toList := by
  intro events
  rcases events_cases hobserver url path s with ⟨hnone, hevents⟩ | ⟨total, since, hevents, hsince⟩
  · refine ⟨fun ⟨delay, answer, h⟩ => absurd h (hnone delay answer), fun bar hbar => ?_⟩
    simp only [events, hevents, List.take_nil] at hbar
    cases hbar
  · cases n with
    | zero => exact ⟨fun _ h => absurd h (Nat.lt_irrefl 0), fun bar hbar => nomatch hbar⟩
    | succ n =>
        obtain ⟨bar, hbar, hshows⟩ := Bar.after_of_latest_start [] url.text total
          fun e he => hsince e (List.mem_of_mem_take (i := n) he)
        have htake : events.take (n + 1) = [] ++ .start url.text total :: since.take n := by
          simp only [events, hevents, List.take_succ_cons, List.nil_append]
        refine ⟨fun _ _ => ⟨bar, htake ▸ hbar⟩, fun bar' hbar' => ?_⟩
        rw [htake, hbar] at hbar'
        cases hbar'
        exact Bar.isLabel_iff.1 hshows.message

/-- There is a bar once a body is being delivered, and it is named for what the URL has behind its
last slash.  That is the name under which the artifact is kept exactly if the URL has neither query
nor fragment, or these end in a slash and that very name. -/
theorem bar_named_for_artifact_iff {raw : String} {cacheDir : Path}
    (hurl : readUrl raw = .ok url) (hpath : artifactPath cacheDir url = .ok path)
    (server : Server) (limit : Option Duration) (s : Storage) :
    let c : Courier := { server, observer := some .recorder, limit }
    let events := Notice.events (c.deliver url path s).notices
    ∃ name, path.fileName? = some name ∧
      ((∃ delay answer, c.Obtains url path s delay answer) →
        ∀ n, 0 < n → ∃ bar, Bar.after (events.take n) = some bar) ∧
      ∀ n bar, Bar.after (events.take n) = some bar →
        Bar.IsLabel bar.message (name ++ url.suffixChars) ∧
          (bar.message = name ↔
            (url.query = none ∧ url.fragment = none) ∨
              ∃ front, url.suffixChars = front ++ '/' :: name) := by
  intro c events
  obtain ⟨name, hname, rfl⟩ := artifactPath_eq_ok_iff.1 hpath
  obtain ⟨hne, hdot, hdots⟩ := (Url.fileName?_eq_some_iff.1 hname).2
  have hplain := Url.isPlain_of_parse (parse_of_readUrl hurl)
  have hslash := (Url.isPlain_of_fileName? hplain hname).slash
  refine ⟨name, cacheDir.fileName?_join hne hslash hdot hdots,
    fun h n => (bar_of_events rfl n).1 h, fun n bar hbar => ?_⟩
  have hmessage := (bar_of_events rfl n).2 bar hbar
  rw [Bar.label_text hname] at hmessage
  refine ⟨Bar.isLabel_iff.2 hmessage, ?_⟩
  rw [hmessage, Bar.label_append_eq_iff hslash, Url.suffixChars_eq_nil_iff]

/-- A URL with a query that has a slash in it. -/
def signedUrl : Url where
  scheme := "http".toList
  host := some (.domain "host".toList)
  path := .segments ["file".toList]
  query := some "sig=a/b".toList

theorem readUrl_signed : readUrl "http://host/file?sig=a/b" = .ok signedUrl := rfl

theorem obtains_signed :
    ∃ delay answer, Courier.Obtains { server := trickle.server, observer := some .recorder }
      signedUrl (.ofString "/cache/file") tricklePlace delay answer :=
  ⟨1, _, ⟨.inl rfl, _, _, _, _, rfl, rfl, by decide, rfl⟩, rfl, .unlimited 1, by decide, by decide⟩

theorem query_names_the_bar :
    readUrl "http://host/file?sig=a/b" = .ok signedUrl ∧
      artifactPath (.ofString "/cache") signedUrl = .ok (.ofString "/cache/file") ∧
      ∃ bar, Bar.after ((Notice.events (Courier.deliver
          { server := trickle.server, observer := some .recorder } signedUrl
          (.ofString "/cache/file") tricklePlace).notices).take 1) = some bar ∧
        bar.message = "b".toList := by
  have hpath : artifactPath (.ofString "/cache") signedUrl = .ok (.ofString "/cache/file") := rfl
  obtain ⟨name, hname, hsome, hnamed⟩ :=
    bar_named_for_artifact_iff readUrl_signed hpath trickle.server none tricklePlace
  obtain ⟨bar, hbar⟩ := hsome obtains_signed 1 Nat.one_pos
  obtain rfl : "file".toList = name := Option.some.inj hname
  exact ⟨readUrl_signed, hpath, bar, hbar, Bar.isLabel_iff.1 (hnamed 1 bar hbar).1⟩

/-- A slash in the query of a URL makes the bar be named for what is behind it. -/
theorem bar_not_named_for_artifact :
    ¬ ∀ (raw : String) (url : Url) (cacheDir path : Path) (server : Server) (s : Storage) (n : Nat)
      (bar : Bar), readUrl raw = .ok url → url.IsHttp → artifactPath cacheDir url = .ok path →
        Bar.after ((Notice.events (Courier.deliver { server, observer := some .recorder } url path
          s).notices).take n) = some bar →
        path.fileName? = some bar.message := by
  intro h
  let c : Courier := { server := trickle.server, observer := some .recorder }
  obtain ⟨bar, hbar⟩ := (c.bar_of_events rfl 1).1 obtains_signed Nat.one_pos
  have hname := h _ signedUrl (.ofString "/cache") (.ofString "/cache/file") trickle.server
    tricklePlace 1 bar readUrl_signed (.inl rfl) rfl hbar
  have hmessage := (bar_of_events rfl 1).2 bar hbar
  rw [hmessage] at hname
  exact absurd hname (by decide)

end Courier

end ArtifactCache
