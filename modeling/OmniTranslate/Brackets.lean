-- Histories whose entries open and close keys: what is open after a history,
-- and when no key is opened or closed a second time.
import Mathlib.Data.List.Nodup
import OmniTranslate.Runs

namespace brackets

open runs

variable {ε κ : Type} (opens closes : ε → Option κ)

/-- The keys that are open after a history. -/
def Open (log : List ε) : κ → Prop :=
  run (fun open_keys e k => opens e = some k ∨ (open_keys k ∧ closes e ≠ some k)) (fun _ => False) log

/-- An entry opens what is not open and closes what is. -/
def Bracketed (log : List ε) : Prop :=
  Each (fun before e => (∀ k, opens e = some k → ¬ Open opens closes before k) ∧
    ∀ k, closes e = some k → Open opens closes before k) log

/-- No key is opened after it was closed. -/
def Fresh (log : List ε) : Prop :=
  Each (fun before e => ∀ k, opens e = some k → ∀ f ∈ before, closes f ≠ some k) log

variable {opens closes} {log : List ε} {e : ε} {k : κ}

@[simp] theorem open_nil : ¬ Open opens closes [] k := id

theorem open_snoc :
    Open opens closes (log ++ [e]) k ↔
      opens e = some k ∨ (Open opens closes log k ∧ closes e ≠ some k) := by
  unfold Open
  rw [run_snoc]

theorem known (h : Open opens closes log k) : ∃ f ∈ log, opens f = some k := by
  induction log using List.reverseRecOn with
  | nil => exact absurd h open_nil
  | append_singleton log e ih =>
    rcases open_snoc.mp h with hnew | ⟨hold, -⟩
    · exact ⟨e, by simp, hnew⟩
    · obtain ⟨f, hf, ho⟩ := ih hold
      exact ⟨f, by simp [hf], ho⟩

/-- What was opened was closed afterwards, or is open still. -/
theorem answered {before after : List ε} {c : ε} (hlog : log = before ++ c :: after)
    (hc : opens c = some k) : (∃ f ∈ after, closes f = some k) ∨ Open opens closes log k := by
  induction log using List.reverseRecOn generalizing after with
  | nil => simp at hlog
  | append_singleton log e ih =>
    rcases split_snoc hlog with ⟨-, -, rfl⟩ | ⟨rest, rfl, hold⟩
    · exact .inr (open_snoc.mpr (.inl hc))
    · rcases ih hold with ⟨f, hf, hclose⟩ | hopen
      · exact .inl ⟨f, by simp [hf], hclose⟩
      · by_cases he : closes e = some k
        · exact .inl ⟨e, by simp, he⟩
        · exact .inr (open_snoc.mpr (.inr ⟨hopen, he⟩))

/-- What was closed and is open was opened in between. -/
theorem reopened (hone : ∀ e, opens e = none ∨ closes e = none) {before after : List ε} {c : ε}
    (hlog : log = before ++ c :: after) (hc : closes c = some k) (hopen : Open opens closes log k) :
    ∃ f ∈ after, opens f = some k := by
  induction log using List.reverseRecOn generalizing after with
  | nil => simp at hlog
  | append_singleton log e ih =>
    rcases split_snoc hlog with ⟨-, -, rfl⟩ | ⟨rest, rfl, hold⟩
    · rcases open_snoc.mp hopen with hnew | ⟨-, hne⟩
      · rcases hone e with hnone | hnone
        · simp [hnone] at hnew
        · simp [hnone] at hc
      · exact absurd hc hne
    · rcases open_snoc.mp hopen with hnew | ⟨hopen, -⟩
      · exact ⟨e, by simp, hnew⟩
      · obtain ⟨f, hf, ho⟩ := ih hold hopen
        exact ⟨f, by simp [hf], ho⟩

/-- A key is named once when no entry names what one before it has named. -/
theorem nodup_iff (p : ε → Option κ) (log : List ε) :
    (log.filterMap p).Nodup ↔
      Each (fun before e => ∀ k, p e = some k → ∀ f ∈ before, p f ≠ some k) log := by
  induction log using List.reverseRecOn with
  | nil => simp [Each.nil]
  | append_singleton log e ih =>
    rw [Each.snoc, ← ih, List.filterMap_append]
    cases he : p e with
    | none => simp [he]
    | some k =>
      rw [List.filterMap_cons_some he, List.filterMap_nil, List.nodup_append]
      refine and_congr_right fun _ => ?_
      constructor
      · rintro ⟨-, hnew⟩ k' hk' f hf hfk
        obtain rfl := Option.some.inj hk'
        exact hnew k (List.mem_filterMap.mpr ⟨f, hf, hfk⟩) k (by simp) rfl
      · intro hnew
        refine ⟨List.nodup_singleton k, fun a ha b hb => ?_⟩
        obtain ⟨f, hf, hfa⟩ := List.mem_filterMap.mp ha
        rintro rfl
        rw [List.mem_singleton.mp hb] at hfa
        exact hnew k rfl f hf hfa

/-- In a bracketed history the keys are opened once and closed once if and only if none is opened
after it was closed. -/
theorem once_iff_fresh (hone : ∀ e, opens e = none ∨ closes e = none)
    (h : Bracketed opens closes log) :
    ((log.filterMap opens).Nodup ∧ (log.filterMap closes).Nodup) ↔ Fresh opens closes log := by
  rw [nodup_iff, nodup_iff]
  constructor
  · rintro ⟨hopens, -⟩ before e after hlog k hk f hf hclose
    obtain ⟨x, y, rfl⟩ := List.append_of_mem hf
    -- the first close found the key open, so it had been opened before
    have hopen := (h x f (y ++ e :: after) (by simp [hlog])).2 k hclose
    obtain ⟨g, hg, hgk⟩ := known hopen
    exact hopens (x ++ f :: y) e after hlog k hk g (by simp [hg]) hgk
  · intro hfresh
    refine ⟨fun before e after hlog k hk f hf hfk => ?_, fun before e after hlog k hk f hf hfk => ?_⟩
    · obtain ⟨x, y, hbefore⟩ := List.append_of_mem hf
      rcases answered hbefore hfk with ⟨g, hg, hclose⟩ | hopen
      · exact hfresh before e after hlog k hk g (by simp [hbefore, hg]) hclose
      · exact (h before e after hlog).1 k hk hopen
    · obtain ⟨x, y, hbefore⟩ := List.append_of_mem hf
      have hopen := (h before e after hlog).2 k hk
      obtain ⟨g, hg, hgk⟩ := reopened hone hbefore hfk hopen
      obtain ⟨y₁, y₂, rfl⟩ := List.append_of_mem hg
      refine hfresh (x ++ f :: y₁) g (y₂ ++ e :: after) ?_ k hgk f (by simp) hfk
      rw [hlog, hbefore]
      simp

end brackets
