import SyslogRelay.Text.Ansi
import SyslogRelay.Proofs.LineBounds

/-!
Colour escapes and the runs between them: the scanner's runs are the one split
of a text into runs and escapes (`ansiRuns_eq_iff`).
-/

namespace SyslogRelay.Text

/-- The two characters that open a colour escape. -/
def escapeOpen : List Char := ['\x1b', '[']

/-- How a text splits into the runs between its colour escapes. -/
inductive EscapeSplit : List Char → List (List Char) → Prop
  /-- A run with no escape opening in it ends the text. -/
  | last {g : List Char} (hg : ¬ escapeOpen <:+: g) : EscapeSplit g [g]
  /-- A run, an escape closed by its first `m`, then the rest of the text. -/
  | closed {g w rest : List Char} {gs : List (List Char)} (hg : ¬ escapeOpen <:+: g) (hw : 'm' ∉ w)
      (h : EscapeSplit rest gs) : EscapeSplit (g ++ '\x1b' :: '[' :: (w ++ 'm' :: rest)) (g :: gs)
  /-- A run, then an escape that never closes, which leaves an empty last run. -/
  | unclosed {g w : List Char} (hg : ¬ escapeOpen <:+: g) (hw : 'm' ∉ w) :
      EscapeSplit (g ++ '\x1b' :: '[' :: w) [g, []]

/-! ### Escape openings inside a run -/

theorem escapeOpen_infix_cons (t : List Char) : escapeOpen <:+: '\x1b' :: '[' :: t :=
  (List.prefix_append escapeOpen t).isInfix

theorem not_escapeOpen_infix_nil : ¬ escapeOpen <:+: [] := by
  intro h
  simpa [escapeOpen] using h.length_le

theorem not_escapeOpen_infix_of_cons {c : Char} {g : List Char} (h : ¬ escapeOpen <:+: c :: g) :
    ¬ escapeOpen <:+: g :=
  fun hg => h (hg.trans (List.suffix_cons c g).isInfix)

/-- A run with no escape opening starts with none: its first character is not
an `ESC` followed by `[`. -/
theorem not_opens_of_no_escape {c : Char} {g : List Char} (h : ¬ escapeOpen <:+: c :: g) :
    ∀ t, c = '\x1b' → g = '[' :: t → False := by
  rintro t rfl rfl
  exact h (escapeOpen_infix_cons t)

/-- A run grows by one character without opening an escape unless it ends in
`ESC` and the character is `[`. -/
theorem not_escapeOpen_infix_concat {g : List Char} {c : Char} (hg : ¬ escapeOpen <:+: g)
    (hc : g.getLast? = some '\x1b' → c ≠ '[') : ¬ escapeOpen <:+: g ++ [c] := by
  intro h
  -- read the run backwards: the reversed opening is a prefix of `c :: g.reverse` or lies in `g.reverse`
  rw [← List.reverse_infix, List.reverse_append] at h
  rcases List.infix_cons_iff.mp h with hp | hi
  · obtain ⟨bracket, t, ht⟩ : '[' = c ∧ ['\x1b'] <+: g.reverse :=
      List.cons_prefix_cons.mp (by simpa [escapeOpen] using hp)
    have last : g.getLast? = some '\x1b' := by
      rw [← List.head?_reverse, ← ht]
      rfl
    exact hc last bracket.symm
  · exact hg (by simpa using hi.reverse)

/-! ### The scanner splits every text -/

/-- The scanner's runs split every text by the grammar, with the first run gathered
reversed in `run`. -/
theorem escapeSplit_scan :
    (∀ run cs, ¬ escapeOpen <:+: run.reverse → (run.head? = some '\x1b' → cs.head? ≠ some '[') →
      EscapeSplit (run.reverse ++ cs) (ansiRuns run cs)) ∧
    (∀ cs g w, ¬ escapeOpen <:+: g → 'm' ∉ w →
      EscapeSplit (g ++ '\x1b' :: '[' :: (w ++ cs)) (g :: skipEscape cs)) := by
  refine ansiRuns.mutual_induct _ (fun cs => ∀ g w, ¬ escapeOpen <:+: g → 'm' ∉ w →
      EscapeSplit (g ++ '\x1b' :: '[' :: (w ++ cs)) (g :: skipEscape cs)) ?_ ?_ ?_ ?_ ?_ ?_
  · intro run hrun _
    rw [ansiRuns, List.append_nil]
    exact .last hrun
  · intro run rest skip hrun _
    rw [ansiRuns]
    simpa using skip run.reverse [] hrun List.not_mem_nil
  · intro run c rest hno scan hrun hhead
    have grown : ¬ escapeOpen <:+: (c :: run).reverse := by
      rw [List.reverse_cons]
      refine not_escapeOpen_infix_concat hrun fun hlast hc => hhead ?_ (by simp [hc])
      rwa [List.getLast?_reverse] at hlast
    have ahead : (c :: run).head? = some '\x1b' → rest.head? ≠ some '[' := by
      intro hc hr
      obtain ⟨t, rfl⟩ : ∃ t, rest = '[' :: t := by
        cases rest with
        | nil => simp at hr
        | cons d t => exact ⟨t, by simp_all⟩
      exact hno t (by simpa using hc) rfl
    rw [ansiRuns.eq_3 _ _ _ hno]
    simpa using scan grown ahead
  · intro g w hg hw
    rw [skipEscape, List.append_nil]
    exact .unclosed hg hw
  · intro rest scan g w hg hw
    rw [skipEscape]
    exact .closed hg hw (by simpa using scan (by simpa using not_escapeOpen_infix_nil) (by simp))
  · intro c rest hm skip g w hg hw
    rw [skipEscape.eq_3 _ _ hm]
    simpa using skip g (w ++ [c]) hg (by simp [hw, Ne.symm hm])

theorem escapeSplit_ansiRuns (cs : List Char) : EscapeSplit cs (ansiRuns [] cs) := by
  simpa using escapeSplit_scan.1 [] cs not_escapeOpen_infix_nil (by simp)

/-! ### A text splits in one way only -/

theorem ansiRuns_of_no_escape {g : List Char} (hg : ¬ escapeOpen <:+: g) (run : List Char) :
    ansiRuns run g = [run.reverse ++ g] := by
  induction g generalizing run with
  | nil => simp [ansiRuns]
  | cons c g ih =>
    rw [ansiRuns.eq_3 _ _ _ (not_opens_of_no_escape hg), ih (not_escapeOpen_infix_of_cons hg)]
    simp

theorem ansiRuns_append_escape {g : List Char} (hg : ¬ escapeOpen <:+: g) (run rest : List Char) :
    ansiRuns run (g ++ '\x1b' :: '[' :: rest) = (run.reverse ++ g) :: skipEscape rest := by
  induction g generalizing run with
  | nil => simp [ansiRuns]
  | cons c g ih =>
    have hno : ∀ t, c = '\x1b' → g ++ '\x1b' :: '[' :: rest = '[' :: t → False := by
      intro t hc ht
      cases g with
      | nil => simp at ht
      | cons d g => exact not_opens_of_no_escape hg g hc (by simp_all)
    rw [List.cons_append, ansiRuns.eq_3 _ _ _ hno, ih (not_escapeOpen_infix_of_cons hg)]
    simp

theorem skipEscape_append_close {w : List Char} (hw : 'm' ∉ w) (rest : List Char) :
    skipEscape (w ++ 'm' :: rest) = ansiRuns [] rest := by
  induction w with
  | nil => simp [skipEscape]
  | cons c w ih =>
    rw [List.cons_append, skipEscape.eq_3 _ _ fun h => hw (h ▸ List.mem_cons_self),
      ih fun h => hw (List.mem_cons_of_mem c h)]

theorem skipEscape_unclosed {w : List Char} (hw : 'm' ∉ w) : skipEscape w = [[]] := by
  induction w with
  | nil => simp [skipEscape]
  | cons c w ih =>
    rw [skipEscape.eq_3 _ _ fun h => hw (h ▸ List.mem_cons_self), ih fun h => hw (List.mem_cons_of_mem c h)]

/-- A split by the grammar is the scanner's: the runs are determined by the
text, each escape starting at the first `ESC [` after the run before it. -/
theorem ansiRuns_of_escapeSplit {cs : List Char} {gs : List (List Char)} (h : EscapeSplit cs gs) :
    ansiRuns [] cs = gs := by
  induction h with
  | last hg => simpa using ansiRuns_of_no_escape hg []
  | closed hg hw _ ih => rw [ansiRuns_append_escape hg, skipEscape_append_close hw, ih]; simp
  | unclosed hg hw => rw [ansiRuns_append_escape hg, skipEscape_unclosed hw]; simp

theorem ansiRuns_eq_iff {cs : List Char} {gs : List (List Char)} : ansiRuns [] cs = gs ↔ EscapeSplit cs gs :=
  ⟨fun h => h ▸ escapeSplit_ansiRuns cs, ansiRuns_of_escapeSplit⟩

/-! ### The text without escapes -/

theorem byteSize_le_of_sublist {a b : List Char} (h : a.Sublist b) : byteSize a ≤ byteSize b := by
  induction h with
  | slnil => exact Nat.le_refl 0
  | cons c _ ih => rw [byteSize_cons]; omega
  | cons_cons c _ ih => rw [byteSize_cons, byteSize_cons]; omega

/-- The runs, joined, are the text with its escapes left out. -/
theorem EscapeSplit.flatten_sublist {cs : List Char} {gs : List (List Char)} (h : EscapeSplit cs gs) :
    gs.flatten.Sublist cs := by
  induction h with
  | last => simp
  | @closed g w rest gs _ _ _ ih =>
    rw [List.flatten_cons]
    exact (ih.trans (List.suffix_append (w ++ ['m']) rest).sublist |>.trans
      (by simp)).append_left g
  | unclosed => simp

theorem toList_stripAnsi (s : String) : (stripAnsi s).toList = (ansiRuns [] s.toList).flatten := by
  simp [stripAnsi, segments, String.toList_join, List.flatMap_map]

theorem stripAnsi_sublist (s : String) : (stripAnsi s).toList.Sublist s.toList := by
  rw [toList_stripAnsi]
  exact (escapeSplit_ansiRuns _).flatten_sublist

/-- A character that ends a line: a line feed or a carriage return. -/
def IsLineEnd (c : Char) : Prop := c = '\n' ∨ c = '\r'

/-- Dropping the line ends leaves `cs` less a tail of line ends, and what is
left does not end in one. -/
theorem dropLineEnds_spec (cs : List Char) :
    ∃ ends, cs = dropLineEnds cs ++ ends ∧ (∀ c ∈ ends, IsLineEnd c) ∧
      ∀ c ∈ (dropLineEnds cs).getLast?, ¬ IsLineEnd c := by
  refine ⟨(cs.reverse.takeWhile fun c => c = '\n' ∨ c = '\r').reverse, ?_, fun c hc => ?_, fun c hc => ?_⟩
  · rw [dropLineEnds, ← List.reverse_append, List.takeWhile_append_dropWhile, List.reverse_reverse]
  · simpa [IsLineEnd] using List.all_eq_true.mp List.all_takeWhile _ (List.mem_reverse.mp hc)
  · have first := List.head?_dropWhile_not (fun c : Char => decide (c = '\n' ∨ c = '\r')) cs.reverse
    rw [dropLineEnds, List.getLast?_reverse] at hc
    rw [Option.mem_def.mp hc] at first
    simpa [IsLineEnd] using first

/-- Line ends added after a text that does not end in one are dropped again. -/
theorem dropLineEnds_append_of_ends {cs ends : List Char} (hends : ∀ c ∈ ends, IsLineEnd c)
    (hlast : ∀ c ∈ cs.getLast?, ¬ IsLineEnd c) : dropLineEnds (cs ++ ends) = cs := by
  rw [dropLineEnds, List.reverse_append, List.dropWhile_append_of_pos (by simpa [IsLineEnd] using hends)]
  rcases hrev : cs.reverse with _ | ⟨d, t⟩
  · simpa using hrev
  · have hd : ¬ IsLineEnd d := hlast d (by rw [← List.head?_reverse, hrev]; rfl)
    rw [List.dropWhile_cons_of_neg (by simpa [IsLineEnd] using hd), ← hrev, List.reverse_reverse]

/-- **The runs of a text follow the escape grammar**, the text without escapes is
the runs joined, and the cleaned line is that text less its line ends. -/
theorem segments_follow_escapes (s : String) :
    (∀ gs : List String, segments s = gs ↔ EscapeSplit s.toList (gs.map String.toList)) ∧
      stripAnsi s = String.join (segments s) ∧
      ∃ ends, (stripAnsi s).toList = (cleanLine s).toList ++ ends ∧ (∀ c ∈ ends, IsLineEnd c) ∧
        ∀ c ∈ (cleanLine s).toList.getLast?, ¬ IsLineEnd c := by
  refine ⟨fun gs => ?_, rfl, ?_⟩
  · rw [← ansiRuns_eq_iff]
    constructor
    · rintro rfl
      simp [segments, List.map_map]
    · intro h
      rw [segments, h, List.map_map]
      simp
  · obtain ⟨ends, split, line_ends, last⟩ := dropLineEnds_spec (stripAnsi s).toList
    rw [cleanLine, String.toList_ofList]
    exact ⟨ends, split, line_ends, last⟩

end SyslogRelay.Text
