import ArtifactCache.Progress.Bar
import ArtifactCache.Proofs.Progress.Looks
import Mathlib.Data.List.Induction
import Mathlib.Data.List.TakeWhile

/-!
# What a bar shows

There is a bar from the first start of a transfer on, and it shows the transfer that started last,
whatever was heard before.  Its length and its name are those told at the start.  It is finished
once that transfer is, and stays so; it is where the last event has put it.
-/

namespace ArtifactCache

namespace Bar

/-- What stands behind the last slash of a text: all of it, if there is no slash. -/
def IsLabel (name text : List Char) : Prop :=
  '/' ∉ name ∧ (text = name ∨ ∃ front, text = front ++ '/' :: name)

/-- The bar after some events, from none on. -/
def after (events : List Progress.Event) : Option Bar := events.foldl hear none

/-- Where a bar of this length is put by an event; one that finishes is full, if its length is
known. -/
def placeAt (length : Option Nat) : Progress.Event → Nat
  | .start _ _ => 0
  | .update p | .abandon p => p.bytes
  | .finish p => length.getD p.bytes

/-- How a bar shows a transfer of which this was heard since it started. -/
structure Shows (bar : Bar) (url : String) (total : Option Nat) (since : List Progress.Event) :
    Prop where
  length : bar.length = total
  message : IsLabel bar.message url.toList
  isFinished : bar.isFinished = true ↔ ∃ e ∈ since, e.isTerminal = true
  started : since = [] → bar.position = 0
  moved {front : List Progress.Event} {e : Progress.Event} :
    since = front ++ [e] → bar.position = placeAt total e

variable {bar : Bar} {url : String} {total : Option Nat} {since events : List Progress.Event}
  {e : Progress.Event} {name text front : List Char}

/-! ## Names of bars -/

theorem label_of_slash_not_mem (h : '/' ∉ text) : label text = text := by
  have hall : ∀ c ∈ text.reverse, (c != '/') = true := by
    intro c hc
    rw [bne_iff_ne]
    rintro rfl
    exact h (List.mem_reverse.1 hc)
  rw [label, List.takeWhile_eq_self_iff.2 hall, List.reverse_reverse]

theorem slash_not_mem_label (text : List Char) : '/' ∉ label text := by
  intro hmem
  have := List.mem_takeWhile_imp (List.mem_reverse.1 hmem)
  simp at this

theorem label_append_slash (front text : List Char) :
    label (front ++ '/' :: text) = label text := by
  rw [label, label, List.reverse_append, List.reverse_cons, List.append_assoc,
    List.takeWhile_append]
  split
  · next hlength =>
      rw [(List.takeWhile_prefix _).eq_of_length hlength]
      simp
  · rfl

theorem isLabel_iff : IsLabel name text ↔ name = label text := by
  constructor
  · rintro ⟨hname, rfl | ⟨front, rfl⟩⟩
    · exact (label_of_slash_not_mem hname).symm
    · rw [label_append_slash, label_of_slash_not_mem hname]
  · rintro rfl
    refine ⟨slash_not_mem_label text, ?_⟩
    by_cases hmem : '/' ∈ text
    · -- The last slash is the first one from the end.
      obtain ⟨name, front, hreverse, hname⟩ :=
        List.eq_append_cons_of_mem (List.mem_reverse.2 hmem)
      have htext : text = front.reverse ++ '/' :: name.reverse := by
        rw [← List.reverse_inj, hreverse]
        simp
      have hlabel : label text = name.reverse := by
        rw [htext, label_append_slash, label_of_slash_not_mem (by simpa using hname)]
      exact .inr ⟨front.reverse, by rw [hlabel, ← htext]⟩
    · exact .inl (label_of_slash_not_mem hmem).symm

/-! ## From one event to the next -/

theorem shows_start (url : String) (total : Option Nat) :
    (start url total).Shows url total [] where
  length := rfl
  message := isLabel_iff.2 rfl
  isFinished := by simp [start]
  started _ := rfl
  moved h := by simp at h

/-- A bar goes on showing its transfer until another one starts. -/
theorem Shows.hear (h : bar.Shows url total since) (he : e.isStart = false) :
    ∃ bar', Bar.hear (some bar) e = some bar' ∧ bar'.Shows url total (since ++ [e]) := by
  have hshows {bar' : Bar} (hlength : bar'.length = bar.length)
      (hmessage : bar'.message = bar.message)
      (hfinished : bar'.isFinished = (bar.isFinished || e.isTerminal))
      (hposition : bar'.position = placeAt total e) : bar'.Shows url total (since ++ [e]) := by
    refine ⟨hlength.trans h.length, hmessage ▸ h.message, ?_, by simp, fun heq => ?_⟩
    · simp [hfinished, h.isFinished, or_and_right, exists_or]
    · obtain ⟨-, heq⟩ := List.append_inj' heq rfl
      cases heq
      exact hposition
  cases e with
  | start url total => cases he
  | update p => exact ⟨_, rfl, hshows rfl rfl (Bool.or_false _).symm rfl⟩
  | finish p => exact ⟨_, rfl, hshows rfl rfl (Bool.or_true _).symm (by rw [← h.length]; rfl)⟩
  | abandon p => exact ⟨_, rfl, hshows rfl rfl (Bool.or_true _).symm rfl⟩

/-! ## Whole courses of events -/

theorem after_concat (events : List Progress.Event) (e : Progress.Event) :
    after (events ++ [e]) = hear (after events) e := by
  rw [after, List.foldl_append]
  rfl

theorem after_of_no_start (h : ∀ e ∈ events, e.isStart = false) : after events = none := by
  induction events using List.reverseRecOn with
  | nil => rfl
  | append_singleton events e ih =>
      rw [after_concat, ih fun e' he' => h e' (List.mem_append_left _ he')]
      cases e with
      | start url total => cases h _ (List.mem_append_right _ List.mem_cons_self)
      | update | finish | abandon => rfl

theorem after_append_start (before since : List Progress.Event) :
    after (before ++ .start url total :: since) = after (.start url total :: since) := by
  rw [after, List.foldl_append]
  rfl

theorem after_of_latest_start (before : List Progress.Event) (url : String) (total : Option Nat)
    (h : ∀ e ∈ since, e.isStart = false) :
    ∃ bar, after (before ++ .start url total :: since) = some bar ∧ bar.Shows url total since := by
  induction since using List.reverseRecOn with
  | nil => exact ⟨start url total, after_concat _ _, shows_start url total⟩
  | append_singleton since e ih =>
      obtain ⟨bar, hbar, hshows⟩ := ih fun e' he' => h e' (List.mem_append_left _ he')
      obtain ⟨bar', hbar', hshows'⟩ := hshows.hear (h e (by simp))
      refine ⟨bar', ?_, hshows'⟩
      rw [← List.cons_append, ← List.append_assoc, after_concat, hbar, hbar']

theorem exists_latest_start (h : ∃ e ∈ events, e.isStart = true) :
    ∃ before url total since, events = before ++ .start url total :: since ∧
      ∀ e ∈ since, e.isStart = false := by
  induction events using List.reverseRecOn with
  | nil => simp at h
  | append_singleton events e ih =>
      cases hstart : e.isStart with
      | true =>
          cases e with
          | start url total => exact ⟨events, url, total, [], rfl, nofun⟩
          | update | finish | abandon => cases hstart
      | false =>
          obtain ⟨e', he', hstart'⟩ := h
          have hearlier : ∃ e ∈ events, e.isStart = true := by
            rcases List.mem_append.1 he' with he' | he'
            · exact ⟨e', he', hstart'⟩
            · rw [List.mem_singleton.1 he', hstart] at hstart'
              cases hstart'
          obtain ⟨before, url, total, since, rfl, hsince⟩ := ih hearlier
          refine ⟨before, url, total, since ++ [e], by simp, fun other hother => ?_⟩
          rcases List.mem_append.1 hother with hother | hother
          · exact hsince other hother
          · rwa [List.mem_singleton.1 hother]

/-- There is a bar exactly if a transfer has started, and then it shows the one that started last,
with what was heard since, and as if nothing had been heard before. -/
theorem bar_shows_latest_transfer (events : List Progress.Event) :
    (after events = none ↔ ∀ e ∈ events, e.isStart = false) ∧
      ∀ before url total since, events = before ++ .start url total :: since →
        (∀ e ∈ since, e.isStart = false) →
          after events = after (.start url total :: since) ∧
            ∃ bar, after events = some bar ∧ bar.Shows url total since := by
  refine ⟨⟨fun hnone e he => ?_, after_of_no_start⟩, ?_⟩
  · cases hstart : e.isStart with
    | false => rfl
    | true =>
        obtain ⟨before, url, total, since, rfl, hsince⟩ := exists_latest_start ⟨e, he, hstart⟩
        obtain ⟨bar, hbar, -⟩ := after_of_latest_start before url total hsince
        rw [hbar] at hnone
        cases hnone
  · rintro before url total since rfl hsince
    exact ⟨after_append_start before since, after_of_latest_start before url total hsince⟩

end Bar

end ArtifactCache
