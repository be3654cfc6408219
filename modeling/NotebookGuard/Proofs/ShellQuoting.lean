import NotebookGuard.Recovery
import Mathlib

/-!
# A quoted path reads back as itself

`commandLine` puts the notebook path into a recovery template between single
quotes, each quote of the path written `'\''`. Every `{nb}` is replaced and
nothing else (`commandLine_intercalate`), the shell reads the quoted path as
one quoted word (`wordPieces_shellQuote`), and that word expands to the path
alone (`wordChunks_quoted`).
-/

namespace NotebookGuard

/-! ### Replacing the placeholder -/

/-- A pattern none of whose proper tails starts it again: two of its
occurrences never overlap. -/
def Unbordered (pat : List Char) : Prop :=
  ∀ k < pat.length, 0 < k → ¬ pat.drop k <+: pat

instance (pat : List Char) : Decidable (Unbordered pat) :=
  inferInstanceAs (Decidable (∀ k < pat.length, 0 < k → ¬ pat.drop k <+: pat))

lemma replaceChars_cons_of_not_start {pat rep rest : List Char} {c : Char}
    (h : ¬ pat <+: c :: rest) :
    replaceChars pat rep (c :: rest) = c :: replaceChars pat rep rest := by
  rw [replaceChars, if_neg (fun hp => h (List.isPrefixOf_iff_prefix.mp hp.2))]

lemma replaceChars_eq_self {pat rep : List Char} (cs : List Char) (h : ¬ pat <:+: cs) :
    replaceChars pat rep cs = cs := by
  induction cs with
  | nil => rw [replaceChars]
  | cons c rest ih =>
    rw [replaceChars_cons_of_not_start (fun hp => h hp.isInfix),
      ih (fun hi => h (hi.trans (List.suffix_cons c rest).isInfix))]

/-- After a nonempty text without the pattern, an unbordered pattern does not
start. -/
lemma not_prefix_append_of_unbordered {pat w ys : List Char} (hb : Unbordered pat)
    (hw : w ≠ []) (hx : ¬ pat <:+: w) : ¬ pat <+: w ++ (pat ++ ys) := by
  intro hp
  have hwp : w <+: w ++ (pat ++ ys) := List.prefix_append w _
  rcases Nat.lt_or_ge w.length pat.length with hlt | hge
  · -- the pattern would start inside `w` and run on into itself
    obtain ⟨v, rfl⟩ := List.prefix_of_prefix_length_le hwp hp hlt.le
    have hv : v <+: v ++ ys := List.prefix_append v ys
    have hv' : v <+: (w ++ v) ++ ys :=
      (List.prefix_append_right_inj w).mp (by simpa [List.append_assoc] using hp)
    have hlen : 0 < w.length := List.length_pos_iff.mpr hw
    refine hb w.length hlt hlen ?_
    simpa using List.prefix_of_prefix_length_le hv' (List.prefix_append _ ys) (by simp)
  · exact hx (List.prefix_of_prefix_length_le hp hwp hge).isInfix

/-- An unbordered pattern after a text without it is replaced there. -/
lemma replaceChars_append_pat {pat rep : List Char} (hpat : pat ≠ []) (hb : Unbordered pat)
    (ys : List Char) (xs : List Char) (hx : ¬ pat <:+: xs) :
    replaceChars pat rep (xs ++ (pat ++ ys)) = xs ++ (rep ++ replaceChars pat rep ys) := by
  induction xs with
  | nil =>
    obtain ⟨p, ps, rfl⟩ := List.exists_cons_of_ne_nil hpat
    rw [List.nil_append, List.cons_append, replaceChars,
      if_pos ⟨hpat, List.isPrefixOf_iff_prefix.mpr (List.prefix_append _ ys)⟩]
    simp
  | cons x xs ih =>
    have hnp : ¬ pat <+: x :: (xs ++ (pat ++ ys)) :=
      not_prefix_append_of_unbordered hb (List.cons_ne_nil x xs) hx
    rw [List.cons_append, replaceChars_cons_of_not_start hnp,
      ih (fun hi => hx (hi.trans (List.suffix_cons x xs).isInfix))]
    rfl

/-- Text joined by an unbordered pattern, with no occurrence in any piece, has
the pattern replaced at each join and nowhere else. -/
lemma replaceChars_intercalate {pat rep : List Char} (hpat : pat ≠ []) (hb : Unbordered pat)
    (segs : List (List Char)) (hsegs : ∀ seg ∈ segs, ¬ pat <:+: seg) :
    replaceChars pat rep (pat.intercalate segs) = rep.intercalate segs := by
  induction segs with
  | nil => rw [List.intercalate_nil, List.intercalate_nil, replaceChars]
  | cons seg rest ih =>
    cases rest with
    | nil => simpa using replaceChars_eq_self seg (hsegs seg (by simp))
    | cons seg' rest =>
      rw [List.intercalate_cons_cons, List.intercalate_cons_cons, List.append_assoc,
        replaceChars_append_pat hpat hb _ seg (hsegs seg (by simp)),
        ih (fun s hs => hsegs s (List.mem_cons_of_mem _ hs)), List.append_assoc]

/-- A one-character pattern is replaced character by character. -/
lemma replaceChars_single (q : Char) (rep : List Char) (cs : List Char) :
    replaceChars [q] rep cs = cs.flatMap fun c => if c = q then rep else [c] := by
  induction cs with
  | nil => rw [replaceChars]; rfl
  | cons c rest ih =>
    rw [replaceChars, List.flatMap_cons, ← ih]
    by_cases hc : c = q
    · subst hc
      simp
    · simp [List.isPrefixOf, hc, Ne.symm hc]

lemma exists_eq_append_cons_of_mem {α : Type} [DecidableEq α] {a : α} {s : List α} (h : a ∈ s) :
    ∃ seg rest, s = seg ++ a :: rest ∧ a ∉ seg := by
  induction s with
  | nil => cases h
  | cons c s ih =>
    by_cases hc : c = a
    · exact ⟨[], s, by simp [hc], by simp⟩
    · obtain ⟨seg, rest, rfl, hseg⟩ := ih (by simpa [Ne.symm hc] using h)
      exact ⟨c :: seg, rest, rfl, by simp [hseg, Ne.symm hc]⟩

/-- The characters of a quoted path between its outer quotes. -/
def quoteBody (s : List Char) : List Char :=
  s.flatMap fun c => if c = '\'' then ['\'', '\\', '\'', '\''] else [c]

@[simp] lemma quoteBody_nil : quoteBody [] = [] := rfl

lemma length_quoteBody (s : List Char) :
    (quoteBody s).length = s.length + 3 * s.count '\'' := by
  induction s with
  | nil => rfl
  | cons c rest ih =>
    by_cases hc : c = '\''
    · subst hc
      simp only [quoteBody, List.flatMap_cons] at ih ⊢
      simp [ih]
      omega
    · simp only [quoteBody, List.flatMap_cons, if_neg hc] at ih ⊢
      simp [ih, hc]
      omega

lemma quoteBody_of_not_mem {s : List Char} (h : '\'' ∉ s) : quoteBody s = s := by
  induction s with
  | nil => rfl
  | cons c rest ih =>
    have hc : c ≠ '\'' := fun hc => h (hc ▸ List.mem_cons_self)
    simp only [quoteBody, List.flatMap_cons, if_neg hc] at ih ⊢
    rw [ih (fun hr => h (List.mem_cons_of_mem _ hr))]
    rfl

lemma quoteBody_append_quote (seg rest : List Char) (h : '\'' ∉ seg) :
    quoteBody (seg ++ '\'' :: rest) = seg ++ '\'' :: '\\' :: '\'' :: '\'' :: quoteBody rest := by
  have hseg := quoteBody_of_not_mem h
  simp only [quoteBody] at hseg ⊢
  simp [List.flatMap_append, hseg]

lemma shellQuote_toList (s : String) :
    (shellQuote s).toList = '\'' :: (quoteBody s.toList ++ ['\'']) := by
  simp only [shellQuote, replaceAll, String.toList_append, String.toList_ofList]
  rw [show "'".toList = ['\''] from rfl, show "'\\''".toList = ['\'', '\\', '\'', '\''] from rfl,
    replaceChars_single]
  rfl

/-- Every occurrence of `{nb}` in a template becomes the quoted path, and the
rest of the template is kept. -/
theorem commandLine_intercalate (segs : List String) (path : String)
    (hsegs : ∀ seg ∈ segs, ¬ "{nb}".toList <:+: seg.toList) :
    commandLine ("{nb}".intercalate segs) path = (shellQuote path).intercalate segs := by
  apply String.toList_inj.mp
  simp only [commandLine, replaceAll, String.toList_ofList, String.toList_intercalate]
  exact replaceChars_intercalate (by simp) (by decide) _
    (fun seg hseg => by
      obtain ⟨s, hs, rfl⟩ := List.mem_map.mp hseg
      exact hsegs s hs)

/-! ### Reading the quoted word -/

namespace ShellCursor

def rest (c : ShellCursor) : List Char := c.chars.toList.drop c.pos

def advance (c : ShellCursor) (k : Nat) : ShellCursor := { c with pos := c.pos + k }

lemma drop_pos_eq_rest (c : ShellCursor) : c.chars.toList.drop c.pos = c.rest := rfl

@[simp] lemma advance_advance (c : ShellCursor) (a b : Nat) :
    (c.advance a).advance b = c.advance (a + b) := by
  simp only [advance, Nat.add_assoc]

@[simp] lemma rest_advance (c : ShellCursor) (k : Nat) : (c.advance k).rest = c.rest.drop k := by
  simp only [rest, advance, List.drop_drop]

end ShellCursor

namespace ShellRead

variable {β : Type} (c : ShellCursor)

@[simp] lemma run_get_bind (f : ShellCursor → ShellRead β) :
    ((get >>= f : ShellRead β)).run.run c = (f c).run.run c := rfl

@[simp] lemma run_peekAt_bind (k : Nat) (f : Option Char → ShellRead β) :
    (peekAt k >>= f).run.run c = (f c.rest[k]?).run.run c := by
  simp [peekAt, ShellCursor.rest]
  rfl

@[simp] lemma run_peek_bind (f : Option Char → ShellRead β) :
    (peek >>= f).run.run c = (f c.rest.head?).run.run c := by
  show (peekAt 0 >>= f).run.run c = _
  rw [run_peekAt_bind]
  cases c.rest <;> rfl

@[simp] lemma run_skip_bind (k : Nat) (f : Unit → ShellRead β) :
    (skip k >>= f).run.run c = (f ()).run.run (c.advance k) := rfl

@[simp] lemma run_pure (b : β) : ((pure b : ShellRead β)).run.run c = (.ok b, c) := rfl

lemma addText_addText (ps : List ShellPiece) (s t : String) (q : Bool) :
    addText (addText ps s q) t q = addText ps (s ++ t) q := by
  rcases List.eq_nil_or_concat ps with rfl | ⟨init, last, rfl⟩
  · simp [addText]
  · cases last with
    | text u q' =>
      by_cases hq : q' = q
      · subst hq
        simp [addText, String.append_assoc]
      · simp [addText, hq]
    | _ => simp [addText]

@[simp] lemma addText_nil (s : String) (q : Bool) : addText [] s q = [.text s q] := rfl

/-- A run of quote-free characters between single quotes is one quoted text. -/
lemma wordPieces_single_quoted (fuel : Nat) (acc : List ShellPiece) (seg more : List Char)
    (hseg : '\'' ∉ seg) (hc : c.rest = '\'' :: (seg ++ '\'' :: more)) :
    (wordPieces (fuel + 1) acc).run.run c =
      (wordPieces fuel (addText acc (String.ofList seg) true)).run.run
        (c.advance (seg.length + 2)) := by
  have htake : ((seg ++ '\'' :: more).takeWhile fun x => x != '\'') = seg := by
    rw [List.takeWhile_append_of_pos (fun x hx => by simpa using ne_of_mem_of_not_mem hx hseg)]
    simp
  have hdrop : ('\'' :: (seg ++ '\'' :: more)).drop (1 + seg.length) = '\'' :: more := by
    rw [Nat.add_comm]
    simp
  rw [wordPieces]
  simp only [run_peek_bind, hc, List.head?_cons, run_skip_bind, run_get_bind,
    ShellCursor.drop_pos_eq_rest, ShellCursor.rest_advance, ShellCursor.advance_advance,
    List.drop_succ_cons, List.drop_zero, htake, hdrop, beq_self_eq_true, if_true]
  rw [show 1 + seg.length + 1 = seg.length + 2 by omega]

/-- `\'` outside quotes is one quoted quote. -/
lemma wordPieces_escaped_quote (fuel : Nat) (acc : List ShellPiece) (more : List Char)
    (hc : c.rest = '\\' :: '\'' :: more) :
    (wordPieces (fuel + 1) acc).run.run c =
      (wordPieces fuel (addText acc "'" true)).run.run (c.advance 2) := by
  rw [wordPieces]
  simp only [run_peek_bind, run_peekAt_bind, hc, List.head?_cons, List.getElem?_cons_succ,
    List.getElem?_cons_zero]
  rfl

/-- A word ends at a break or at the end of the text. -/
lemma wordPieces_at_break (fuel : Nat) (acc : List ShellPiece)
    (hc : ∀ ch ∈ c.rest.head?, isBreak ch = true) :
    (wordPieces (fuel + 1) acc).run.run c = (.ok acc, c) := by
  rw [wordPieces]
  rcases hr : c.rest with _ | ⟨ch, more⟩
  · simp only [run_peek_bind, hr, List.head?_nil, run_pure]
  · have hb : isBreak ch = true := hc ch (by simp [hr])
    have : ch = ' ' ∨ ch = '\t' ∨ ch = '\n' ∨ ch = ';' ∨ ch = '&' ∨ ch = '|' ∨ ch = '(' ∨
        ch = ')' ∨ ch = '<' ∨ ch = '>' := by
      simpa [isBreak, or_assoc] using hb
    rcases this with rfl | rfl | rfl | rfl | rfl | rfl | rfl | rfl | rfl | rfl <;>
      simp only [run_peek_bind, hr, List.head?_cons, isBreak] <;> rfl

/-- The quoted body of a path, between its outer quotes, is read as the path in
quoted text: one step for each run of quote-free characters and one for each
escaped quote. -/
lemma wordPieces_quoteBody (s : List Char) (fuel : Nat) (acc : List ShellPiece) (more : List Char)
    (hc : c.rest = '\'' :: (quoteBody s ++ '\'' :: more)) :
    (wordPieces (fuel + 2 * s.count '\'' + 1) acc).run.run c =
      (wordPieces fuel (addText acc (String.ofList s) true)).run.run
        (c.advance ((quoteBody s).length + 2)) := by
  -- induction on the quotes of the path, each read as `'\''`
  generalize hn : s.count '\'' = n
  induction n generalizing s c acc with
  | zero =>
    have hq : '\'' ∉ s := List.count_eq_zero.mp hn
    rw [quoteBody_of_not_mem hq] at hc ⊢
    exact wordPieces_single_quoted c fuel acc s more hq hc
  | succ n ih =>
    have hq : '\'' ∈ s := List.count_pos_iff.mp (by rw [hn]; exact Nat.succ_pos n)
    obtain ⟨seg, rest, rfl, hseg⟩ := exists_eq_append_cons_of_mem hq
    have hcount : rest.count '\'' = n := by
      simpa [List.count_append, List.count_eq_zero.mpr hseg] using hn
    rw [quoteBody_append_quote seg rest hseg] at hc ⊢
    rw [show fuel + 2 * (n + 1) + 1 = (fuel + 2 * n + 1) + 1 + 1 by omega,
      wordPieces_single_quoted c _ acc seg _ hseg (by simpa using hc),
      wordPieces_escaped_quote _ _ _ ('\'' :: (quoteBody rest ++ '\'' :: more))
        (by simp [hc, List.drop_append]),
      ih _ rest _ (by simp [hc, List.drop_append]) hcount, addText_addText, addText_addText]
    simp only [ShellCursor.advance_advance, List.length_append, List.length_cons]
    congr 2
    · simp
    · omega

/-- The quoted form of a path, followed by a break or the end, reads as one
word: a single quoted text that is the path. -/
theorem wordPieces_shellQuote (path : String) (rest : List Char) (fuel : Nat)
    (hc : c.rest = (shellQuote path).toList ++ rest)
    (hend : ∀ ch ∈ rest.head?, isBreak ch = true) (hfuel : (shellQuote path).length ≤ fuel) :
    (wordPieces fuel []).run.run c =
      (.ok [.text path true], c.advance (shellQuote path).length) := by
  have hlen : (shellQuote path).length = (quoteBody path.toList).length + 2 := by
    rw [← String.length_toList, shellQuote_toList]
    simp
  -- the quoted form needs a step per quote-free run and per quote, and one more to end
  have hsteps : 2 * path.toList.count '\'' + 2 ≤ (shellQuote path).length := by
    rw [hlen, length_quoteBody]
    omega
  obtain ⟨k, rfl⟩ : ∃ k, fuel = k + 1 + 2 * path.toList.count '\'' + 1 :=
    ⟨fuel - (2 * path.toList.count '\'' + 2), by omega⟩
  rw [shellQuote_toList] at hc
  rw [wordPieces_quoteBody c path.toList (k + 1) [] rest (by simpa using hc),
    wordPieces_at_break _ k, hlen]
  · simp
  · simpa [ShellCursor.rest_advance, hc] using hend

end ShellRead

/-! ### Expanding the word -/

/-- Quoted text expands to one quoted chunk, with nothing run and nothing of the
shell changed. -/
lemma ShellRun.wordChunks_quoted (host : ShellHost) (st : ShellState) (fuel : Nat) (s : String) :
    ((ShellRun.wordChunks (fuel + 2) [.text s true]).run host).run.run st =
      (.ok [⟨s, .quoted⟩], st) := rfl

@[simp] lemma Chunk.fields_quoted (s : String) : Chunk.fields [⟨s, .quoted⟩] = [s] := by
  simp [Chunk.fields]

@[simp] lemma Chunk.pattern_quoted (s : String) :
    Chunk.pattern [⟨s, .quoted⟩] = s.toList.map (·, false) := by
  simp only [Chunk.pattern, List.flatMap_cons, List.flatMap_nil, List.append_nil]
  rfl

/-- A recovery template gets the quoted path at each `{nb}` and nothing else
changes; wherever the quoted path stands as a word, the shell reads it as one
quoted text that expands to the path as one field, running nothing and
matching no pattern. -/
theorem shellQuote_reads_as_path (segs : List String) (path : String)
    (hsegs : ∀ seg ∈ segs, ¬ "{nb}".toList <:+: seg.toList) :
    commandLine ("{nb}".intercalate segs) path = (shellQuote path).intercalate segs ∧
    (∀ (c : ShellCursor) (rest : List Char) (fuel : Nat),
      c.rest = (shellQuote path).toList ++ rest →
      (∀ ch ∈ rest.head?, ShellRead.isBreak ch = true) → (shellQuote path).length ≤ fuel →
      (ShellRead.wordPieces fuel []).run.run c =
        (.ok [.text path true], c.advance (shellQuote path).length)) ∧
    (∀ (host : ShellHost) (st : ShellState) (fuel : Nat),
      ((ShellRun.wordChunks (fuel + 2) [.text path true]).run host).run.run st =
        (.ok [⟨path, .quoted⟩], st)) ∧
    Chunk.fields [⟨path, .quoted⟩] = [path] ∧
    Chunk.pattern [⟨path, .quoted⟩] = path.toList.map (·, false) :=
  ⟨commandLine_intercalate segs path hsegs,
    fun c rest fuel hc hend hfuel => ShellRead.wordPieces_shellQuote c path rest fuel hc hend hfuel,
    fun host st fuel => ShellRun.wordChunks_quoted host st fuel path,
    Chunk.fields_quoted path, Chunk.pattern_quoted path⟩

/-- A template that runs a fixer on the notebook, for a path with a quote, a
blank, a dollar sign, a backquote and a star. -/
theorem shellQuote_reads_as_path_fixer :
    (∀ seg ∈ ["fix ", " && echo done"], ¬ "{nb}".toList <:+: seg.toList) ∧
      commandLine ("{nb}".intercalate ["fix ", " && echo done"]) "it's $HOME `x` *.py" =
        (shellQuote "it's $HOME `x` *.py").intercalate ["fix ", " && echo done"] ∧
      Chunk.fields [⟨"it's $HOME `x` *.py", .quoted⟩] = ["it's $HOME `x` *.py"] :=
  have h : ∀ seg ∈ ["fix ", " && echo done"], ¬ "{nb}".toList <:+: seg.toList := by decide
  ⟨h, (shellQuote_reads_as_path _ _ h).1, (shellQuote_reads_as_path _ _ h).2.2.2.1⟩

end NotebookGuard
