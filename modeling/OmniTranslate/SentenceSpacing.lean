-- A normalized hypothesis, line by line and word by word: the scan of
-- `normalize_hypothesis` gives the words of the lines that have any, so a change
-- of the spacing alone neither restarts the splitter nor repeats a sentence.
import OmniTranslate.SentenceLaws

namespace omni_translate.sentence

open text runs

/-! ## The reference of a normalized text -/

def is_line_break (c : Char) : Bool := c == '\r' || c == '\n'

/-- The lines that have words, each with one blank between two words. -/
def spaced_lines (ls : List Text) : List Text :=
  ((ls.map split_whitespace).filter (· ≠ [])).map (join [' '])

/-- The words of the lines that have any. -/
def words_of_lines (t : Text) : List (List Text) :=
  ((t.splitOnP is_line_break).map split_whitespace).filter (· ≠ [])

/-- The lines that have words, joined by line breaks, and the words of each by blanks. -/
def line_by_line (t : Text) : Text := join ['\n'] ((words_of_lines t).map (join [' ']))

/-- Each text with the separator in front. -/
def led (sep : Char) (ts : List Text) : Text := ts.flatMap (sep :: ·)

theorem join_eq_led (sep : Char) (w : Text) (ws : List Text) :
    join [sep] (w :: ws) = w ++ led sep ws := by
  induction ws generalizing w with
  | nil => simp [join, led]
  | cons v ws ih => rw [join_cons (by simp), ih]; simp [led]

variable {c d : Char} {t : Text}

theorem words_nil : split_whitespace [] = [] := by simp [split_whitespace]

theorem words_space (h : is_whitespace c = true) (l : Text) :
    split_whitespace (c :: l) = split_whitespace l := by
  simp [split_whitespace, List.splitOnP_cons_eq_if_modifyHead, h]

theorem trim_end_last (h : is_whitespace d = false) (r : Text) :
    trim_end (r ++ [d]) = r ++ [d] := by
  simp [trim_end, h]

/-- A line break, at the start, after a line break and after a character of a word. -/
theorem step_break (h : is_line_break c = true) (hd : is_whitespace d = false) (r : Text)
    (p : Bool) :
    normalize_step ([], p) c = ([], false) ∧
      normalize_step (r ++ [d, '\n'], p) c = (r ++ [d, '\n'], false) ∧
      normalize_step (r ++ [d], p) c = (r ++ [d, '\n'], false) := by
  have hb : d ≠ ' ' := by rintro rfl; simp [is_whitespace] at hd
  have hn : d ≠ '\n' := by rintro rfl; simp [is_whitespace] at hd
  have hc : c = '\r' ∨ c = '\n' := by simpa [is_line_break] using h
  have hr : r ++ [d, '\n'] = (r ++ [d]) ++ ['\n'] := by simp
  refine ⟨?_, ?_, ?_⟩
  · simp [normalize_step, hc]
  · simp only [normalize_step, if_pos hc, hr, List.rdropWhile_concat]
    simp
  · simp [normalize_step, hc, hb, hn]

theorem step_space (h : is_line_break c = false) (hc : is_whitespace c = true) (r : Text)
    (p : Bool) :
    normalize_step (r, p) c = (r, true) := by
  simp_all [normalize_step, is_line_break]

/-- A character of a word, at the same places. -/
theorem step_word (hc : is_whitespace c = false) (hd : is_whitespace d = false) (r : Text)
    (p : Bool) :
    normalize_step ([], p) c = ([c], false) ∧
      normalize_step (r ++ [d, '\n'], p) c = (r ++ [d, '\n'] ++ [c], false) ∧
      normalize_step (r ++ [d], p) c = (r ++ [d] ++ (if p then [' '] else []) ++ [c], false) := by
  have h1 : c ≠ '\r' := by rintro rfl; simp [is_whitespace] at hc
  have h2 : c ≠ '\n' := by rintro rfl; simp [is_whitespace] at hc
  have hn : d ≠ '\n' := by rintro rfl; simp [is_whitespace] at hd
  cases p <;> simp [normalize_step, h1, h2, hc, hn]

/-- The rest `t` of a hypothesis after the start, after a line break and after a character of a
word. Its first line starts with the text `w` up to the first white space. -/
theorem normalize_rest (t : Text) : ∃ l ls w ws,
    t.splitOnP is_line_break = l :: ls ∧ l.splitOnP is_whitespace = w :: ws ∧
    (∀ p, trim_end (t.foldl normalize_step ([], p)).1 = line_by_line t) ∧
    ∀ r d, is_whitespace d = false → ∀ p,
      trim_end (t.foldl normalize_step (r ++ [d, '\n'], p)).1 =
        r ++ [d] ++ led '\n' (spaced_lines (l :: ls)) ∧
      trim_end (t.foldl normalize_step (r ++ [d], p)).1 =
        r ++ [d] ++ (if p then led ' ' (split_whitespace l)
          else w ++ led ' ' (ws.filter (· ≠ []))) ++ led '\n' (spaced_lines ls) := by
  induction t with
  | nil =>
    refine ⟨[], [], [], [], by simp, by simp, ?_, fun r d hd p => ⟨?_, ?_⟩⟩
    · simp [trim_end, line_by_line, words_of_lines, words_nil, join]
    · have := (List.rdropWhile_concat_pos is_whitespace (r ++ [d]) '\n' rfl).trans
        (trim_end_last hd r)
      simpa [trim_end, spaced_lines, words_nil, led] using this
    · simp [trim_end_last hd, spaced_lines, words_nil, led]
  | cons c t ih =>
    obtain ⟨l, ls, w, ws, hl, hw, hstart, hrest⟩ := ih
    by_cases hb : is_line_break c = true
    · -- a line break ends the line
      refine ⟨[], l :: ls, [], [], ?_, by simp, ?_, fun r d hd p => ⟨?_, ?_⟩⟩
      · rw [List.splitOnP_cons_eq_if_modifyHead, if_pos hb, hl]
      · intro p
        rw [List.foldl_cons, (step_break hb (d := 'a') rfl [] p).1, hstart]
        simp [line_by_line, words_of_lines, List.splitOnP_cons_eq_if_modifyHead, hb, words_nil]
      · rw [List.foldl_cons, (step_break hb hd r p).2.1, (hrest r d hd _).1]
        simp [spaced_lines, words_nil]
      · rw [List.foldl_cons, (step_break hb hd r p).2.2, (hrest r d hd _).1]
        simp [words_nil, led]
    have hb : is_line_break c = false := by simpa using hb
    have hlines : (c :: t).splitOnP is_line_break = (c :: l) :: ls := by
      rw [List.splitOnP_cons_eq_if_modifyHead, hb, hl]
      rfl
    by_cases hc : is_whitespace c = true
    · refine ⟨c :: l, ls, [], w :: ws, hlines, ?_, ?_, fun r d hd p => ⟨?_, ?_⟩⟩
      · rw [List.splitOnP_cons_eq_if_modifyHead, if_pos hc, hw]
      · intro p
        rw [List.foldl_cons, step_space hb hc, hstart]
        simp only [line_by_line, words_of_lines, hlines, hl, List.map_cons, words_space hc]
      · rw [List.foldl_cons, step_space hb hc, (hrest r d hd _).1]
        simp only [spaced_lines, List.map_cons, words_space hc]
      · rw [List.foldl_cons, step_space hb hc, (hrest r d hd _).2, words_space hc]
        simp [split_whitespace, hw]
    · have hc : is_whitespace c = false := by simpa using hc
      have hwords : (c :: l).splitOnP is_whitespace = (c :: w) :: ws := by
        rw [List.splitOnP_cons_eq_if_modifyHead, hc, hw]
        rfl
      have hsplit : split_whitespace (c :: l) = (c :: w) :: ws.filter (· ≠ []) := by
        simp [split_whitespace, hwords]
      have hspaced : spaced_lines ((c :: l) :: ls) =
          (c :: w ++ led ' ' (ws.filter (· ≠ []))) :: spaced_lines ls := by
        simp [spaced_lines, hsplit, join_eq_led]
      refine ⟨c :: l, ls, c :: w, ws, hlines, hwords, ?_, fun r d hd p => ⟨?_, ?_⟩⟩
      · intro p
        have := (hrest [] c hc false).2
        rw [List.foldl_cons, (step_word hc (d := 'a') rfl [] p).1]
        change _ = join ['\n'] (spaced_lines ((c :: t).splitOnP is_line_break))
        rw [hlines, hspaced, join_eq_led]
        simpa using this
      · have := (hrest (r ++ [d, '\n']) c hc false).2
        rw [List.foldl_cons, (step_word hc hd r p).2.1, this, hspaced]
        simp [led]
      · have := (hrest (r ++ [d] ++ (if p then [' '] else [])) c hc false).2
        rw [List.foldl_cons, (step_word hc hd r p).2.2, this, hsplit]
        cases p <;> simp [led]

theorem normalize_is_line_by_line (t : Text) : normalize_hypothesis t = line_by_line t := by
  obtain ⟨_, _, _, _, _, _, h, _⟩ := normalize_rest t
  exact h false

/-- The loop takes a spaced text as it is; a blank at the end still waits. -/
theorem Spaced.taken (h : Spaced t) : t.foldl normalize_step ([], false) =
    if t.getLast? = some ' ' then (t.dropLast, true) else (t, false) := by
  induction t using List.reverseRecOn with
  | nil => rfl
  | append_singleton t c ih =>
    have ht : Spaced t := h.first_part (List.prefix_append _ _)
    rw [List.foldl_append, ih ht]
    have hword : is_whitespace c = false → c ≠ ' ' := by rintro hc rfl; cases hc
    rcases List.eq_nil_or_concat t with rfl | ⟨t, d, rfl⟩
    · have hc := h.head c rfl
      simp [(step_word hc hc [] false).1, hword hc]
    · have hdc : ¬ (is_whitespace d = true ∧ is_whitespace c = true) := by
        have := h.single
        rw [List.isChain_append] at this
        exact this.2.2 d (by simp) c (by simp)
      by_cases hd : is_whitespace d = true
      · have hc : is_whitespace c = false := by simpa [hd] using hdc
        -- the white space follows a character of a word
        obtain ⟨r, e, rfl, he⟩ : ∃ r e, t = r ++ [e] ∧ is_whitespace e = false := by
          rcases List.eq_nil_or_concat t with rfl | ⟨r, e, rfl⟩
          · exact absurd (ht.head d rfl) (by simp [hd])
          · have := ht.single
            rw [List.concat_eq_append, List.isChain_append] at this
            exact ⟨r, e, by simp, by simpa [hd] using this.2.2 e (by simp) d (by simp)⟩
        rcases h.blank d (by simp) hd with rfl | rfl
        · simpa [hword hc] using (step_word hc he r true).2.2
        · simpa [hword hc] using (step_word hc he r false).2.1
      · have hd : is_whitespace d = false := by simpa using hd
        have hb : d ≠ ' ' := by rintro rfl; cases hd
        by_cases hc : is_whitespace c = true
        · rcases h.blank c (by simp) hc with rfl | rfl
          · simp [hb, step_space rfl hc]
          · simpa [hb] using (step_break rfl hd t false).2.2
        · have hc : is_whitespace c = false := by simpa using hc
          simpa [hb, hword hc] using (step_word hc hd t false).2.2

theorem normalize_normalize (t : Text) :
    normalize_hypothesis (normalize_hypothesis t) = normalize_hypothesis t := by
  have h := (spaced_normalize t).taken
  rcases List.eq_nil_or_concat (normalize_hypothesis t) with hn | ⟨r, d, hr⟩
  · rw [hn]
    rfl
  · have hd := normalize_last (t := t) (c := d) (by simp [hr])
    have hb : d ≠ ' ' := by rintro rfl; cases hd
    rw [if_neg (by simp [hr, hb])] at h
    rw [normalize_hypothesis, h, hr]
    simpa using trim_end_last hd r

/-! ## The splitter -/

variable {F : Type} [F64 F] (g : Segmentation)

/-- The splitter of a run of feeds is settled. -/
theorem Session.settled (feeds : List Feed) : ∀ x,
    run (Session.feed g) (some (Session.new : Session F)) feeds = some x → Settled x.splitter := by
  refine run_keeps _ (fun session : Option (Session F) =>
    ∀ x, session = some x → Settled x.splitter) ?_ ?_ feeds
  · intro session f hs x' hx'
    obtain ⟨x, r, rfl, hfeed, _⟩ := Session.feed_eq_some hx'
    exact (feed_taken g (hs x rfl) hfeed).2.1
  · rintro x ⟨⟩
    exact settled_new

/-- Normalization is the reference and changes nothing twice; and after any run of feeds since
the start or a reset, a hypothesis that has the words of the last one on the same lines
contradicts nothing, and shows only text after the committed one. -/
theorem spacing_alone_changes_nothing :
    (∀ t, normalize_hypothesis t = line_by_line t) ∧
    (∀ t, normalize_hypothesis (normalize_hypothesis t) = normalize_hypothesis t) ∧
    ∀ (feeds : List Feed) (last f : Feed) (x : Session F),
      run (Session.feed g) (some Session.new) (feeds ++ [last]) = some x →
      words_of_lines f.full_text = words_of_lines last.full_text →
      x.splitter.resets (normalize_hypothesis f.full_text) = false ∧
        ∀ s' r, x.splitter.feed_internal g f.full_text f.mode f.now f.unix_ms = some (s', r) →
          r.revision_reset = false ∧
            ∃ rest, normalize_hypothesis f.full_text = x.splitter.committed ++ rest ∧
              keep (emitted_text r.sentences) <+: keep rest ∧
              ∀ q ∈ r.sentences, q.is_forced = true →
                ∃ tail, tail <:+ rest ∧ q.sentence = trim tail := by
  refine ⟨normalize_is_line_by_line, normalize_normalize, ?_⟩
  intro feeds last f x hrun hwords
  have hx := Session.settled g _ x hrun
  -- the buffer is the last hypothesis, which is this one once both are normalized
  have hbuf : x.splitter.buffer = normalize_hypothesis f.full_text := by
    rw [run_snoc] at hrun
    obtain ⟨y, r, hy, hfeed, _⟩ := Session.feed_eq_some hrun
    obtain ⟨_, _, _, htook⟩ := feed_taken g (Session.settled g _ y hy) hfeed
    rw [htook.buffer, normalize_is_line_by_line, normalize_is_line_by_line, line_by_line, line_by_line,
      hwords]
  have hreset : x.splitter.resets (normalize_hypothesis f.full_text) = false := by
    simp [SentenceSplitter.resets, ← hbuf, hx.committed]
  refine ⟨hreset, ?_⟩
  intro s' r hfeed
  obtain ⟨hr, _, m, htook⟩ := feed_taken g hx hfeed
  have hcom := htook.committed
  have hemit := htook.fresh
  rw [started, hreset, if_neg (by simp)] at hcom hemit
  obtain ⟨rest, hrest⟩ := hx.committed
  rw [hbuf] at hrest
  refine ⟨hr.trans hreset, rest, hrest.symm, hemit rest hrest, ?_⟩
  intro q hq hforced
  obtain ⟨tail, htail, hsentence⟩ := htook.shows q hq hforced
  rw [hcom, htook.buffer, ← hrest, List.append_assoc] at htail
  exact ⟨tail, ⟨m, List.append_cancel_left htail⟩, hsentence⟩

def two_lines : Feed := ⟨"Hi   all.\r\nYou  there".toList, .LegacyStablePunctuation, 0, 0⟩

/-- The same two lines with the blanks elsewhere. -/
theorem two_lines_contradict_nothing : ∃ x : Session ℚ,
    run (Session.feed Segmentation.chars) (some Session.new) [two_lines] = some x ∧
      x.splitter.resets (normalize_hypothesis "Hi all.\n\n You there ".toList) = false := by
  obtain ⟨x, hx⟩ := Option.isSome_iff_exists.mp (show (run (Session.feed Segmentation.chars)
    (some (Session.new : Session ℚ)) [two_lines]).isSome = true by decide +kernel)
  exact ⟨x, hx, ((spacing_alone_changes_nothing Segmentation.chars).2.2 [] two_lines
    ⟨"Hi all.\n\n You there ".toList, .LegacyStablePunctuation, 1, 1⟩ x hx (by decide +kernel)).1⟩

end omni_translate.sentence
