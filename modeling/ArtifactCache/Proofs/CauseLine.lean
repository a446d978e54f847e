import ArtifactCache.Log
import Mathlib.Data.List.Induction

/-!
# Causes told in one line

The line about an error joins its text and those of some of its causes.  A cause is left out exactly
if its text is already somewhere in what is told before it, so that all texts can be found in the
line, and none is added for nothing.
-/

namespace ArtifactCache.CauseLine

/-- The one text is somewhere in the other. -/
def Within (part text : String) : Prop := part.toList <:+: text.toList

/-- The causes of an error, and for each of them whether it is told. -/
abbrev Account := List (String × Bool)

namespace Account

def causes (account : Account) : List String := account.map (·.1)

def told (account : Account) : List String := (account.filter (·.2)).map (·.1)

/-- What the causes that are told are joined to. -/
def joined (outermost : String) (account : Account) : String :=
  ": ".intercalate (outermost :: account.told)

end Account

variable {outermost cause part text : String} {causes : List String} {account : Account}

theorem Within.refl (text : String) : Within text text := List.infix_rfl

theorem Within.trans {whole : String} (h : Within part text) (h' : Within text whole) :
    Within part whole :=
  List.IsInfix.trans h h'

theorem contains_iff_within :
    Text.contains text.toList cause.toList = true ↔ Within cause text :=
  Text.contains_iff

/-! ## One cause more -/

theorem toList_ofTexts (outermost : String) (causes : List String) :
    (ofTexts (outermost :: causes)).toList = line outermost.toList (causes.map (·.toList)) :=
  String.toList_ofList

theorem ofTexts_concat (outermost : String) (causes : List String) (cause : String) :
    (ofTexts (outermost :: (causes ++ [cause]))).toList =
      extend (ofTexts (outermost :: causes)).toList cause.toList := by
  rw [toList_ofTexts, toList_ofTexts, line, List.map_append, List.foldl_append]
  rfl

theorem ofTexts_singleton (outermost : String) : ofTexts [outermost] = outermost :=
  String.ofList_toList

theorem ofTexts_concat_of_within (h : Within cause (ofTexts (outermost :: causes))) :
    ofTexts (outermost :: (causes ++ [cause])) = ofTexts (outermost :: causes) := by
  rw [← String.toList_inj, ofTexts_concat, extend, if_pos (contains_iff_within.2 h)]

theorem ofTexts_concat_of_not_within (h : ¬ Within cause (ofTexts (outermost :: causes))) :
    ofTexts (outermost :: (causes ++ [cause])) =
      ofTexts (outermost :: causes) ++ ": " ++ cause := by
  rw [← String.toList_inj, ofTexts_concat, extend, if_neg (mt contains_iff_within.1 h)]
  simp

/-- What is told stays in the line when it is continued. -/
theorem within_ofTexts_concat (outermost : String) (causes : List String) (cause : String) :
    Within (ofTexts (outermost :: causes)) (ofTexts (outermost :: (causes ++ [cause]))) ∧
      Within cause (ofTexts (outermost :: (causes ++ [cause]))) := by
  rw [Within, Within, ofTexts_concat]
  exact ⟨List.IsPrefix.isInfix <| extend_prefix _ _, infix_extend _ _⟩

theorem within_ofTexts (h : text ∈ outermost :: causes) :
    Within text (ofTexts (outermost :: causes)) := by
  induction causes using List.reverseRecOn with
  | nil =>
      rw [List.mem_singleton.1 h, ofTexts_singleton]
      exact Within.refl _
  | append_singleton causes cause ih =>
      obtain ⟨hold, hnew⟩ := within_ofTexts_concat outermost causes cause
      rw [← List.cons_append, List.mem_append] at h
      rcases h with hmem | hself
      · exact (ih hmem).trans hold
      · rwa [List.mem_singleton.1 hself]

/-- The line is the one about these texts, and each of them can be found in it. -/
def Tells (line : String) (texts : List String) : Prop :=
  line = ofTexts texts ∧ ∀ text ∈ texts, Within text line

theorem tells_iff {line : String} {texts : List String} :
    Tells line texts ↔ line = ofTexts texts := by
  refine ⟨And.left, ?_⟩
  rintro rfl
  refine ⟨rfl, fun text htext => ?_⟩
  cases texts with
  | nil => cases htext
  | cons outermost causes => exact within_ofTexts htext

theorem ofTexts_of_all_within (h : ∀ cause ∈ causes, Within cause outermost) :
    ofTexts (outermost :: causes) = outermost := by
  induction causes using List.reverseRecOn with
  | nil => exact ofTexts_singleton outermost
  | append_singleton causes cause ih =>
      have hline := ih fun c hc => h c (List.mem_append_left _ hc)
      have hcause : Within cause (ofTexts (outermost :: causes)) := by
        rw [hline]
        exact h cause (by simp)
      rw [ofTexts_concat_of_within hcause, hline]

/-! ## Which causes are told -/

/-- The account is one of these causes.  What is told of each part of it that comes first, joined,
is the line about that part, and a cause is left out exactly if it is in the line about those before
it. -/
structure Account.Fits (account : Account) (outermost : String) (causes : List String) : Prop where
  causes_eq : account.causes = causes
  line_eq {before : Account} : before <+: account →
    ofTexts (outermost :: before.causes) = before.joined outermost
  omits_iff {before after : Account} {cause : String} {isTold : Bool} :
    account = before ++ (cause, isTold) :: after →
      (isTold = false ↔ Within cause (ofTexts (outermost :: before.causes)))

namespace Account

theorem told_sublist (account : Account) : account.told.Sublist account.causes :=
  List.filter_sublist.map _

theorem joined_concat_omitted (outermost : String) (account : Account) (cause : String) :
    joined outermost (account ++ [(cause, false)]) = account.joined outermost := by
  simp [joined, told]

theorem joined_concat_told (outermost : String) (account : Account) (cause : String) :
    joined outermost (account ++ [(cause, true)]) = account.joined outermost ++ ": " ++ cause := by
  have htold : told (account ++ [(cause, true)]) = account.told ++ [cause] := by simp [told]
  rw [joined, htold, ← List.cons_append,
    String.intercalate_append_of_ne_nil (List.cons_ne_nil _ _) (List.cons_ne_nil _ _),
    String.intercalate_singleton]
  rfl

theorem fits_nil (outermost : String) : Fits [] outermost [] where
  causes_eq := rfl
  line_eq h := by
    rw [List.prefix_nil.1 h]
    exact (ofTexts_singleton outermost).trans String.intercalate_singleton.symm
  omits_iff h := by simp at h

theorem Fits.causes_concat (h : account.Fits outermost causes) (cause : String)
    (isTold : Bool) : Account.causes (account ++ [(cause, isTold)]) = causes ++ [cause] := by
  rw [Account.causes, List.map_append, ← h.causes_eq]
  rfl

theorem Fits.joined_concat (h : account.Fits outermost causes) (isTold : Bool)
    (htold : isTold = false ↔ Within cause (ofTexts (outermost :: causes))) :
    ofTexts (outermost :: (causes ++ [cause])) =
      joined outermost (account ++ [(cause, isTold)]) := by
  have hline := h.line_eq List.prefix_rfl
  rw [h.causes_eq] at hline
  cases isTold with
  | false => rw [ofTexts_concat_of_within (htold.1 rfl), hline, joined_concat_omitted]
  | true =>
      have hnew : ¬ Within cause (ofTexts (outermost :: causes)) := fun hin =>
        Bool.noConfusion (htold.2 hin)
      rw [ofTexts_concat_of_not_within hnew, hline, joined_concat_told]

/-- One cause more is told exactly if it is not in the line so far. -/
theorem Fits.concat (h : account.Fits outermost causes) (isTold : Bool)
    (htold : isTold = false ↔ Within cause (ofTexts (outermost :: causes))) :
    Fits (account ++ [(cause, isTold)]) outermost (causes ++ [cause]) where
  causes_eq := h.causes_concat cause isTold
  line_eq {before} hbefore := by
    rcases List.prefix_concat_iff.1 hbefore with rfl | hearlier
    · rw [h.causes_concat cause isTold]
      exact h.joined_concat isTold htold
    · exact h.line_eq hearlier
  omits_iff {before after c b} heq := by
    rcases List.eq_nil_or_concat after with rfl | ⟨after, last, rfl⟩
    · obtain ⟨rfl, hlast⟩ := List.append_inj' heq rfl
      cases hlast
      rwa [h.causes_eq]
    · rw [List.concat_eq_append, ← List.cons_append, ← List.append_assoc] at heq
      exact h.omits_iff (List.append_inj' heq rfl).1

end Account

theorem exists_account (outermost : String) (causes : List String) :
    ∃ account : Account, account.Fits outermost causes := by
  induction causes using List.reverseRecOn with
  | nil => exact ⟨[], Account.fits_nil outermost⟩
  | append_singleton causes cause ih =>
      obtain ⟨account, haccount⟩ := ih
      by_cases hin : Within cause (ofTexts (outermost :: causes))
      · exact ⟨_, haccount.concat false (iff_of_true rfl hin)⟩
      · exact ⟨_, haccount.concat true (iff_of_false Bool.noConfusion hin)⟩

end ArtifactCache.CauseLine
