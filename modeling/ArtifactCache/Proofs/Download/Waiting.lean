import ArtifactCache.Duration

/-!
# When an answer comes

Waiting ends with the answer exactly when that comes by the limit.  It is cut off when the answer
comes later or never, and goes on for ever only without a limit.
-/

namespace ArtifactCache

/-- An instant at which a limit has not passed. -/
def InTime (limit : Option Duration) (instant : Nat) : Prop :=
  ∀ d ∈ limit, instant ≤ d.deadline

theorem InTime.unlimited (t : Nat) : InTime none t := nofun

theorem InTime.of_le {t : Nat} {d : Duration} (h : t ≤ d.deadline) : InTime (some d) t := by
  intro d' hd'
  cases hd'
  exact h

theorem InTime.mono {limit : Option Duration} {n m : Nat} (h : InTime limit n) (hm : m ≤ n) :
    InTime limit m :=
  fun d hd => Nat.le_trans hm (h d hd)

namespace Wait

variable {α : Type} {w : Wait α} {limit : Option Duration} {start now : Nat} {answer : α}
  {d : Duration}

/-- The answer comes, and by the limit. -/
def Brings (w : Wait α) (limit : Option Duration) (answer : α) : Prop :=
  ∃ delay, w = .after delay answer ∧ InTime limit delay

/-- The limit is over before an answer comes. -/
def Expires (w : Wait α) (limit : Option Duration) (d : Duration) : Prop :=
  limit = some d ∧ ∀ delay answer, w = .after delay answer → d.deadline < delay

/-- No answer comes and there is no limit. -/
def Hangs (w : Wait α) (limit : Option Duration) : Prop := w = .never ∧ limit = none

theorem resolve_eq_answered_iff :
    w.resolve limit start = .answered now answer ↔
      ∃ delay, w = .after delay answer ∧ now = start + delay ∧ InTime limit now := by
  cases w with
  | never => cases limit <;> simp [resolve]
  | after delay other =>
      cases limit with
      | none =>
          simp only [resolve, Awaited.answered.injEq, after.injEq]
          constructor
          · rintro ⟨rfl, rfl⟩
            exact ⟨delay, ⟨rfl, rfl⟩, rfl, nofun⟩
          · rintro ⟨_, ⟨rfl, rfl⟩, rfl, -⟩
            exact ⟨rfl, rfl⟩
      | some d =>
          simp only [resolve]
          split
          · next hd =>
              simp only [Awaited.answered.injEq, after.injEq]
              constructor
              · rintro ⟨rfl, rfl⟩
                refine ⟨delay, ⟨rfl, rfl⟩, rfl, ?_⟩
                intro d' hd'
                cases hd'
                exact hd
              · rintro ⟨_, ⟨rfl, rfl⟩, rfl, -⟩
                exact ⟨rfl, rfl⟩
          · next hd =>
              simp only [reduceCtorEq, after.injEq, false_iff]
              rintro ⟨_, ⟨rfl, rfl⟩, rfl, htime⟩
              exact hd (htime d rfl)

theorem resolve_eq_expired_iff :
    w.resolve limit start = .expired d ↔
      limit = some d ∧ ∀ delay answer, w = .after delay answer → d.deadline < start + delay := by
  cases w with
  | never => cases limit <;> simp [resolve]
  | after delay other =>
      cases limit with
      | none => simp [resolve]
      | some d' =>
          simp only [resolve]
          split
          · next hd =>
              simp only [reduceCtorEq, Option.some.injEq, after.injEq, false_iff, not_and]
              rintro rfl hlate
              exact absurd (hlate delay other ⟨rfl, rfl⟩) (Nat.not_lt.2 hd)
          · next hd =>
              simp only [Awaited.expired.injEq, Option.some.injEq, after.injEq]
              constructor
              · rintro rfl
                refine ⟨rfl, ?_⟩
                rintro _ _ ⟨rfl, rfl⟩
                exact Nat.lt_of_not_le hd
              · exact fun h => h.1

theorem resolve_eq_stuck_iff : w.resolve limit start = .stuck ↔ w.Hangs limit := by
  cases w with
  | never => cases limit <;> simp [resolve, Hangs]
  | after delay answer =>
      cases limit with
      | none => simp [resolve, Hangs]
      | some d =>
          simp only [resolve, Hangs]
          split <;> simp

/-! ## Waiting from the beginning on -/

theorem resolve_of_answer {delay : Nat} (hw : w = .after delay answer)
    (htime : InTime limit delay) :
    w.resolve limit 0 = .answered delay answer :=
  resolve_eq_answered_iff.2 ⟨delay, hw, (Nat.zero_add delay).symm, htime⟩

theorem Brings.resolve_eq (h : w.Brings limit answer) :
    ∃ delay, w.resolve limit 0 = .answered delay answer := by
  obtain ⟨delay, hw, htime⟩ := h
  exact ⟨delay, resolve_of_answer hw htime⟩

theorem Expires.resolve_eq (h : w.Expires limit d) : w.resolve limit 0 = .expired d := by
  refine resolve_eq_expired_iff.2 ⟨h.1, fun delay answer hw => ?_⟩
  rw [Nat.zero_add]
  exact h.2 delay answer hw

theorem Hangs.resolve_eq (h : w.Hangs limit) : w.resolve limit 0 = .stuck :=
  resolve_eq_stuck_iff.2 h

theorem brings_of_resolve (h : w.resolve limit 0 = .answered now answer) :
    w.Brings limit answer := by
  obtain ⟨delay, hw, hnow, htime⟩ := resolve_eq_answered_iff.1 h
  rw [Nat.zero_add] at hnow
  subst hnow
  exact ⟨now, hw, htime⟩

theorem expires_of_resolve (h : w.resolve limit 0 = .expired d) : w.Expires limit d := by
  obtain ⟨hlimit, hlate⟩ := resolve_eq_expired_iff.1 h
  refine ⟨hlimit, fun delay answer hw => ?_⟩
  have := hlate delay answer hw
  rwa [Nat.zero_add] at this

theorem brings_or_expires_or_hangs (w : Wait α) (limit : Option Duration) :
    (∃ answer, w.Brings limit answer) ∨ (∃ d, w.Expires limit d) ∨ w.Hangs limit := by
  cases h : w.resolve limit 0 with
  | answered instant answer => exact .inl ⟨answer, brings_of_resolve h⟩
  | expired d => exact .inr (.inl ⟨d, expires_of_resolve h⟩)
  | stuck => exact .inr (.inr (resolve_eq_stuck_iff.1 h))

end Wait

end ArtifactCache
