import NotebookGuard.Json.Decode
import Mathlib
/-!
# Running a reader over a text

A reader's run is seen through the characters it still has to read (`ahead`).
`Reads x d P s a` says that wherever `s` stands, followed by a text `P` allows,
`x` gives `a` and stops right after `s`; it is closed under sequencing
(`Reads.bind`), and `ReadsValue` adds the blanks around a value.
-/

namespace NotebookGuard.Proofs

variable {α β : Type}

/-- A reader run from a cursor: its outcome and the cursor it leaves. -/
def runOn (x : Reader α) (c : Cursor) : Except ReadError α × Cursor := x.run.run c

/-- The characters a cursor has still to read. -/
def ahead (c : Cursor) : List Char := c.chars.toList.drop c.pos

/-- The cursor `n` characters further on. -/
def advance (c : Cursor) (n : Nat) : Cursor := { c with pos := c.pos + n }

/-! ### Running the reader's steps -/

lemma runOn_bind (x : Reader α) (f : α → Reader β) (c : Cursor) :
    runOn (x >>= f) c = match runOn x c with
      | (.ok a, c') => runOn (f a) c'
      | (.error e, c') => (.error e, c') := by
  unfold runOn ExceptT.run StateT.run
  simp only [bind, ExceptT.bind, ExceptT.mk, StateT.bind, ExceptT.bindCont]
  rcases x c with ⟨_ | a, c'⟩ <;> rfl

@[simp] lemma runOn_pure (a : α) (c : Cursor) : runOn (pure a) c = (.ok a, c) := rfl

@[simp] lemma runOn_get (c : Cursor) : runOn get c = (.ok c, c) := rfl

@[simp] lemma runOn_set (c c' : Cursor) : runOn (set c') c = (.ok ⟨⟩, c') := rfl

@[simp] lemma runOn_modify (f : Cursor → Cursor) (c : Cursor) :
    runOn (modify f) c = (.ok (), f c) := rfl

@[simp] lemma runOn_throw (e : ReadError) (c : Cursor) :
    runOn (throw e : Reader α) c = (.error e, c) := rfl

lemma runOn_tryCatch (x : Reader α) (h : ReadError → Reader α) (c : Cursor) :
    runOn (tryCatch x h) c = match runOn x c with
      | (.ok a, c') => (.ok a, c')
      | (.error e, c') => runOn (h e) c' := by
  unfold runOn ExceptT.run StateT.run
  simp only [MonadExcept.tryCatch, tryCatchThe, MonadExceptOf.tryCatch, ExceptT.tryCatch,
    ExceptT.mk, bind, StateT.bind]
  rcases x c with ⟨_ | a, c'⟩ <;> rfl

lemma runOn_map (f : α → β) (x : Reader α) (c : Cursor) :
    runOn (f <$> x) c = ((runOn x c).1.map f, (runOn x c).2) := by
  unfold runOn ExceptT.run StateT.run
  simp only [Functor.map, ExceptT.map, ExceptT.mk, bind, StateT.bind]
  rcases x c with ⟨_ | a, c'⟩ <;> rfl

lemma head?_ahead (c : Cursor) : (ahead c).head? = c.chars[c.pos]? := by
  simp [ahead, List.head?_drop]

@[simp] lemma runOn_peek (c : Cursor) : runOn Reader.peek c = (.ok (ahead c).head?, c) := by
  simp [Reader.peek, runOn_map, head?_ahead, Except.map]

@[simp] lemma runOn_bump (c : Cursor) : runOn Reader.bump c = (.ok (), advance c 1) := rfl

@[simp] lemma runOn_fuel (c : Cursor) : runOn Reader.fuel c = (.ok (c.chars.size + 2), c) := by
  simp [Reader.fuel, runOn_map, Except.map]

@[simp] lemma advance_chars (c : Cursor) (n : Nat) : (advance c n).chars = c.chars := rfl

@[simp] lemma advance_room (c : Cursor) (n : Nat) : (advance c n).room = c.room := rfl

@[simp] lemma advance_fromValue (c : Cursor) (n : Nat) : (advance c n).fromValue = c.fromValue := rfl

@[simp] lemma advance_zero (c : Cursor) : advance c 0 = c := rfl

@[simp] lemma advance_advance (c : Cursor) (m n : Nat) :
    advance (advance c m) n = advance c (m + n) := by
  simp [advance, Nat.add_assoc]

lemma ahead_advance (c : Cursor) (n : Nat) : ahead (advance c n) = (ahead c).drop n := by
  simp [ahead, advance, List.drop_drop]

lemma ahead_advance_append {c : Cursor} {s rest : List Char} (h : ahead c = s ++ rest) :
    ahead (advance c s.length) = rest := by
  rw [ahead_advance, h, List.drop_left]

lemma ahead_advance_cons {c : Cursor} {ch : Char} {rest : List Char} (h : ahead c = ch :: rest) :
    ahead (advance c 1) = rest :=
  ahead_advance_append (s := [ch]) h

lemma length_le_of_ahead {c : Cursor} {s rest : List Char} (h : ahead c = s ++ rest) :
    s.length ≤ c.chars.size := by
  have := congrArg List.length h
  simp only [ahead, List.length_drop, Array.length_toList, List.length_append] at this
  omega

lemma runOn_next_cons {c : Cursor} {ch : Char} {rest : List Char} (h : ahead c = ch :: rest) :
    runOn Reader.next c = (.ok (some ch), advance c 1) := by
  simp [Reader.next, runOn_bind, h, runOn_map, Except.map]

lemma runOn_placed {x : Reader α} {c c' : Cursor} {a : α} (h : runOn x c = (.ok a, c')) :
    runOn (Reader.placed x) c = (.ok a, c') := by
  simp [Reader.placed, runOn_tryCatch, h]

/-- Placing a fault changes only faults: the run gives a value exactly when the
reader does. -/
lemma runOn_placed_eq_ok {x : Reader α} {c c' : Cursor} {a : α} :
    runOn (Reader.placed x) c = (.ok a, c') ↔ runOn x c = (.ok a, c') := by
  refine ⟨fun h => ?_, runOn_placed⟩
  simp only [Reader.placed, runOn_tryCatch] at h
  split at h
  · exact (by rename_i heq; rw [heq, h])
  · simp [runOn_bind] at h
    split at h <;> simp at h

lemma runOn_attempt (x : Reader α) (c : Cursor) :
    runOn (Reader.attempt x) c = (.ok (runOn x c).1, (runOn x c).2) := by
  unfold Reader.attempt
  rw [runOn_tryCatch, runOn_map]
  rcases runOn x c with ⟨_ | a, c'⟩ <;> rfl

/-- Entering a bracket takes it and runs the inside one level deeper; the
level is given back after. -/
lemma runOn_nest {x : Reader α} {c c' : Cursor} {a : α} (hroom : 1 < c.room)
    (h : runOn x (advance { c with room := c.room - 1 } 1) = (.ok a, c')) :
    runOn (Reader.nest x) c = (.ok a, { c' with room := c'.room + 1 }) := by
  have hle : ¬ c.room ≤ 1 := by omega
  simp only [Reader.nest, runOn_bind, runOn_get, hle, ↓reduceIte, runOn_pure, runOn_set,
    runOn_bump, runOn_attempt, h, runOn_modify]

/-! ### Blanks -/

/-- Blanks: spaces, tabs and line breaks. -/
def Blank (ws : List Char) : Prop := ∀ ch ∈ ws, isJsonBlank ch = true

@[simp] lemma blank_nil : Blank [] := by simp [Blank]

@[simp] lemma blank_cons {ch : Char} {ws : List Char} :
    Blank (ch :: ws) ↔ isJsonBlank ch = true ∧ Blank ws := by
  simp [Blank]

/-- A text that does not start with a blank. -/
def StartsUnblank (s : List Char) : Prop := ∀ ch ∈ s.head?, isJsonBlank ch = false

@[simp] lemma blank_append {ws ws' : List Char} : Blank (ws ++ ws') ↔ Blank ws ∧ Blank ws' := by
  simp [Blank, or_imp, forall_and]

lemma getElem_of_drop_eq_cons {cs : Array Char} {i : Nat} {ch : Char} {rest : List Char}
    (h : cs.toList.drop i = ch :: rest) : ∃ hi : i < cs.size, cs[i] = ch := by
  have hi : i < cs.size := by
    have := congrArg List.length h
    simp only [List.length_drop, Array.length_toList, List.length_cons] at this
    omega
  refine ⟨hi, ?_⟩
  have hhead := congrArg List.head? h
  rw [List.head?_drop, Array.getElem?_toList, Array.getElem?_eq_getElem hi] at hhead
  simpa using hhead

/-- Blanks are passed over one by one: from before them the scan ends where it
ends from after them. -/
lemma skipBlanksFrom_blank_prefix (cs : Array Char) (ws rest : List Char) (hws : Blank ws) :
    ∀ i, cs.toList.drop i = ws ++ rest → skipBlanksFrom cs i = skipBlanksFrom cs (i + ws.length) := by
  induction ws with
  | nil => intro i _; rfl
  | cons ch ws ih =>
    intro i h
    obtain ⟨hi, hch⟩ := getElem_of_drop_eq_cons h
    rw [skipBlanksFrom, dif_pos hi, hch, if_pos (hws ch (by simp))]
    have hdrop : cs.toList.drop (i + 1) = ws ++ rest := by
      rw [← List.drop_drop, h]
      rfl
    rw [ih (fun c hc => hws c (by simp [hc])) (i + 1) hdrop]
    simp only [List.length_cons]
    congr 1
    omega

lemma skipBlanksFrom_unblank (cs : Array Char) (rest : List Char) (hr : StartsUnblank rest) (i : Nat)
    (h : cs.toList.drop i = rest) : skipBlanksFrom cs i = i := by
  rw [skipBlanksFrom]
  split
  · rename_i hi
    have hhead : rest.head? = some cs[i] := by
      rw [← h, List.head?_drop, Array.getElem?_toList, Array.getElem?_eq_getElem hi]
    simp [hr cs[i] (by simp [hhead])]
  · rfl

/-- From before a run of blanks, stepping over blanks goes where it goes from
after them. -/
lemma runOn_blanks_lead {c : Cursor} {ws t : List Char} (hws : Blank ws) (h : ahead c = ws ++ t) :
    runOn Reader.blanks c = runOn Reader.blanks (advance c ws.length) := by
  have hskip := skipBlanksFrom_blank_prefix c.chars ws t hws c.pos h
  simp only [Reader.blanks, runOn_bind, runOn_modify, runOn_peek, hskip]
  rfl

lemma runOn_blanks_stop {c : Cursor} (hr : StartsUnblank (ahead c)) :
    runOn Reader.blanks c = (.ok (ahead c).head?, c) := by
  have hstop : skipBlanksFrom c.chars c.pos = c.pos := skipBlanksFrom_unblank c.chars (ahead c) hr c.pos rfl
  simp only [Reader.blanks, runOn_bind, runOn_modify, runOn_peek, hstop]

lemma runOn_blanks {c : Cursor} {ws rest : List Char} (hws : Blank ws) (h : ahead c = ws ++ rest)
    (hr : StartsUnblank rest) :
    runOn Reader.blanks c = (.ok rest.head?, advance c ws.length) := by
  have hafter : ahead (advance c ws.length) = rest := ahead_advance_append h
  rw [runOn_blanks_lead hws h, runOn_blanks_stop (by rw [hafter]; exact hr), hafter]

lemma runOn_blanks_head {c : Cursor} {ch : Char} {t : List Char} (h : ahead c = ch :: t)
    (hch : isJsonBlank ch = false) : runOn Reader.blanks c = (.ok (some ch), c) := by
  have hstart : StartsUnblank (ahead c) := by
    rw [h]
    intro x hx
    simp only [List.head?_cons, Option.mem_def, Option.some.injEq] at hx
    exact hx ▸ hch
  rw [runOn_blanks_stop hstart, h]
  rfl

lemma eq_cons_of_head? {s : List Char} {ch : Char} (h : s.head? = some ch) : ∃ t, s = ch :: t := by
  cases s with
  | nil => cases h
  | cons x t => simp only [List.head?_cons, Option.some.injEq] at h; exact ⟨t, by rw [h]⟩

/-- A keyword's letters, when they stand ahead, are read one by one. -/
lemma runOn_keyword {c : Cursor} (kw : List Char) {rest : List Char} (h : ahead c = kw ++ rest) :
    runOn (Reader.keyword kw) c = (.ok (), advance c kw.length) := by
  induction kw generalizing c with
  | nil => rfl
  | cons ch kw ih =>
    have hnext := @runOn_next_cons c _ (kw ++ rest) h
    have hrest : ahead (advance c 1) = kw ++ rest := ahead_advance_cons h
    unfold Reader.keyword
    rw [List.forIn_cons]
    simp only [runOn_bind, hnext, ne_eq, not_true_eq_false, ↓reduceIte, runOn_pure]
    have hk := ih hrest
    unfold Reader.keyword at hk
    rw [runOn_bind] at hk
    split at hk
    · rename_i heq
      rw [heq]
      simp only [runOn_pure, Prod.mk.injEq] at hk
      simp [hk.2, Nat.add_comm]
    · cases hk

/-! ### Reading a text back -/

/-- `x` reads the text `s` as `a`: wherever `s` stands in a text being read,
followed by a text that `P` allows, with more than `depth` levels of nesting
left, `x` gives `a` and stops right after `s`. -/
def Reads (x : Reader α) (depth : Nat) (P : List Char → Prop) (s : List Char) (a : α) : Prop :=
  ∀ c rest, ahead c = s ++ rest → P rest → depth < c.room → c.fromValue = false →
    runOn x c = (.ok a, advance c s.length)

namespace Reads

variable {x : Reader α} {d d' : Nat} {P Q : List Char → Prop} {s t : List Char} {a : α}

lemma pure (a : α) : Reads (Pure.pure a) d P [] a := fun _ _ _ _ _ _ => rfl

lemma mono (hx : Reads x d P s a) (hd : d ≤ d') (hPQ : ∀ r, Q r → P r) : Reads x d' Q s a :=
  fun c rest h hr hroom hv => hx c rest h (hPQ _ hr) (by omega) hv

/-- Two readers in a row read two texts in a row, when what follows the
first is allowed for it. -/
lemma bind {f : α → Reader β} {b : β} (hx : Reads x d P s a) (hf : Reads (f a) d Q t b)
    (hQP : ∀ r, Q r → P (t ++ r)) : Reads (x >>= f) d Q (s ++ t) b := by
  intro c rest h hr hroom hv
  rw [List.append_assoc] at h
  have h₁ := hx c (t ++ rest) h (hQP _ hr) hroom hv
  have h₂ := hf (advance c s.length) rest (ahead_advance_append h) hr hroom hv
  rw [runOn_bind, h₁]
  simpa [List.length_append] using h₂

lemma bind_pure {f : α → Reader β} {b : β} (hx : Reads x d P s a) (hf : f a = Pure.pure b) :
    Reads (x >>= f) d P s b := by
  intro c rest h hr hroom hv
  rw [runOn_bind, hx c rest h hr hroom hv]
  simp only [hf, runOn_pure]

lemma seq {f : α → Reader β} {b : β} (hx : Reads x d (fun _ => True) s a) (hf : Reads (f a) d Q t b) :
    Reads (x >>= f) d Q (s ++ t) b :=
  hx.bind hf fun _ _ => trivial

lemma map (f : α → β) (hx : Reads x d P s a) : Reads (f <$> x) d P s (f a) := by
  intro c rest h hr hroom hv
  rw [runOn_map, hx c rest h hr hroom hv]
  rfl

lemma placed (hx : Reads x d P s a) : Reads (Reader.placed x) d P s a :=
  fun c rest h hr hroom hv => runOn_placed (hx c rest h hr hroom hv)

lemma attempt (hx : Reads x d P s a) : Reads (Reader.attempt x) d P s (.ok a) := by
  intro c rest h hr hroom hv
  rw [runOn_attempt, hx c rest h hr hroom hv]

/-- A bracketed text is read one level deeper inside its bracket. -/
lemma nest (b : Char) (hx : Reads x d P s a) : Reads (Reader.nest x) (d + 1) P (b :: s) a := by
  intro c rest h hr hroom hv
  have hin : ahead (advance { c with room := c.room - 1 } 1) = s ++ rest := by
    simpa [ahead, advance] using ahead_advance_cons h
  have hx' := hx _ rest hin hr (by simp; omega) hv
  rw [runOn_nest (by omega) hx']
  simp only [advance, List.length_cons, Prod.mk.injEq, Cursor.mk.injEq, true_and, and_true]
  exact ⟨by omega, by omega⟩

/-- A bracket, what it holds, and the text that closes it: the inside is read
one level deeper, then the closing text. -/
lemma bracket (b : Char) {close : Reader Unit} (hx : Reads x d Q s a)
    (hclose : Reads close (d + 1) P t ()) (hPQ : ∀ r, P r → Q (t ++ r)) :
    Reads (do
      let ret ← Reader.attempt (Reader.nest x)
      let fin ← Reader.attempt close
      Reader.firstFailure ret fin) (d + 1) P (b :: s ++ t) a := by
  have hin := (nest b hx).attempt
  have hout := hclose.attempt.bind (f := fun fin => Reader.firstFailure (.ok a) fin)
    (pure a) (fun _ h => by simpa using h)
  simp only [List.append_nil] at hout
  exact hin.bind (f := fun ret => do
    let fin ← Reader.attempt close
    Reader.firstFailure ret fin) hout hPQ

/-- A reader that starts by stepping over blanks reads a text after more blanks
as it reads the text. -/
lemma blanks_lead {k : Option Char → Reader α} (hx : Reads (Reader.blanks >>= k) d P s a)
    {ws : List Char} (hws : Blank ws) : Reads (Reader.blanks >>= k) d P (ws ++ s) a := by
  intro c rest h hr hroom hv
  rw [List.append_assoc] at h
  have hafter := ahead_advance_append h
  have h' := hx _ rest hafter hr hroom hv
  rw [runOn_bind, runOn_blanks_lead hws h, ← runOn_bind, h']
  simp [List.length_append, Nat.add_comm]

lemma blanks_bind {k : Option Char → Reader α} {ch : Char} (hch : isJsonBlank ch = false)
    (hk : Reads (k (some ch)) d P (ch :: s) a) : Reads (Reader.blanks >>= k) d P (ch :: s) a := by
  intro c rest h hr hroom hv
  have hstart : StartsUnblank (ahead c) := by
    rw [h]
    intro x hx
    simp only [List.cons_append, List.head?_cons, Option.mem_def, Option.some.injEq] at hx
    exact hx ▸ hch
  rw [runOn_bind, runOn_blanks_stop hstart, h]
  exact hk c rest h hr hroom hv

lemma placed_blanks_lead {k : Option Char → Reader α}
    (hx : Reads (Reader.placed (Reader.blanks >>= k)) d P s a) {ws : List Char} (hws : Blank ws) :
    Reads (Reader.placed (Reader.blanks >>= k)) d P (ws ++ s) a := by
  have hinner : Reads (Reader.blanks >>= k) d P s a :=
    fun c rest h hr hroom hv => runOn_placed_eq_ok.mp (hx c rest h hr hroom hv)
  exact (blanks_lead hinner hws).placed

lemma pure_bind {γ : Type} {f : α → Reader γ} {b : γ} (hf : Reads (f a) d P s b) :
    Reads (Pure.pure a >>= f) d P s b := by
  intro c rest h hr hroom hv
  rw [runOn_bind]
  exact hf c rest h hr hroom hv

/-- A loop that takes its fuel from the cursor has enough of it for any text
ahead. -/
lemma withFuel {g : Nat → Reader α} (hg : ∀ fuel, s.length < fuel → Reads (g fuel) d P s a) :
    Reads (Reader.fuel >>= g) d P s a := by
  intro c rest h hr hroom hv
  rw [runOn_bind, runOn_fuel]
  exact hg _ (by have := length_le_of_ahead h; omega) c rest h hr hroom hv

lemma bracket_then (b : Char) {close : Reader Unit} {g : α → Reader β} {v : β}
    (hx : Reads x d Q s a) (hclose : Reads close (d + 1) P t ()) (hPQ : ∀ r, P r → Q (t ++ r))
    (hg : g a = Pure.pure v) :
    Reads (do
      let ret ← Reader.attempt (Reader.nest x)
      let fin ← Reader.attempt close
      g (← Reader.firstFailure ret fin)) (d + 1) P (b :: s ++ t) v := by
  have hin := (nest b hx).attempt
  have hout := hclose.attempt.bind_pure (f := fun fin => Reader.firstFailure (.ok a) fin >>= g) (b := v)
    (by simp [Reader.firstFailure, hg])
  exact hin.bind (f := fun ret => do
    let fin ← Reader.attempt close
    g (← Reader.firstFailure ret fin)) hout hPQ

end Reads

lemma reads_bump (ch : Char) {d : Nat} {P : List Char → Prop} : Reads Reader.bump d P [ch] () :=
  fun _ _ _ _ _ _ => rfl

lemma reads_next (ch : Char) {d : Nat} {P : List Char → Prop} : Reads Reader.next d P [ch] (some ch) :=
  fun _ _ h _ _ _ => runOn_next_cons h

lemma reads_keyword (kw : List Char) {d : Nat} {P : List Char → Prop} :
    Reads (Reader.keyword kw) d P kw () :=
  fun _ _ h _ _ _ => runOn_keyword kw h

lemma reads_blanks {ws : List Char} {ch : Char} {d : Nat} (hws : Blank ws) (hch : isJsonBlank ch = false) :
    Reads Reader.blanks d (fun r => r.head? = some ch) ws (some ch) := by
  intro c rest h hr _ _
  rw [runOn_blanks hws h (by simp [StartsUnblank, hr, hch]), hr]

/-! ### Values -/

/-- Whether a character could continue a number. -/
def continuesNumber (ch : Char) : Bool := ch.isDigit || ch == '.' || ch == 'e' || ch == 'E'

/-- What may follow a value: the end, or a character that cannot continue a number. -/
def Ends (rest : List Char) : Prop := ∀ ch ∈ rest.head?, continuesNumber ch = false

lemma ends_nil : Ends [] := by simp [Ends]

lemma ends_cons {ch : Char} {t : List Char} (h : continuesNumber ch = false) : Ends (ch :: t) := by
  intro x hx
  simp only [List.head?_cons, Option.mem_def, Option.some.injEq] at hx
  exact hx ▸ h

/-- `x` reads the text `s` of a value as `a`, after any blanks and before
anything that cannot continue a number. -/
def ReadsValue (x : Reader α) (depth : Nat) (s : List Char) (a : α) : Prop :=
  ∀ ws, Blank ws → Reads x depth Ends (ws ++ s) a

/-- A reader that places its faults and starts by stepping over blanks reads a
value's text after any blanks. -/
lemma ReadsValue.of_blanks {k : Option Char → Reader α} {ch : Char} {s : List Char} {d : Nat} {a : α}
    (hch : isJsonBlank ch = false) (hk : Reads (k (some ch)) d Ends (ch :: s) a) :
    ReadsValue (Reader.placed (Reader.blanks >>= k)) d (ch :: s) a :=
  fun _ hws => (Reads.blanks_bind hch hk).placed.placed_blanks_lead hws

lemma ReadsValue.mono {x : Reader α} {d d' : Nat} {s : List Char} {a : α} (hx : ReadsValue x d s a)
    (hd : d ≤ d') : ReadsValue x d' s a :=
  fun ws hws => (hx ws hws).mono hd fun _ h => h

lemma ReadsValue.bind_pure {x : Reader α} {f : α → Reader β} {d : Nat} {s : List Char} {a : α} {b : β}
    (hx : ReadsValue x d s a) (hf : f a = Pure.pure b) : ReadsValue (x >>= f) d s b :=
  fun ws hws => (hx ws hws).bind_pure hf

/-- A whole text that holds one value's text is read as the value, when the
value nests less deep than the reader allows. -/
theorem decodeText_of_readsValue {x : Reader α} {d : Nat} {s : String} {a : α}
    (hx : ReadsValue x d s.toList a) (hd : d < 128) : decodeText x s = .ok a := by
  let c : Cursor := { chars := s.toList.toArray }
  have hc : ahead c = [] ++ s.toList ++ [] := by simp [c, ahead]
  have hread := hx [] blank_nil c [] hc ends_nil hd rfl
  have hend : ahead (advance c ([] ++ s.toList).length) = [] := ahead_advance_append (by simpa using hc)
  have hblanks := @runOn_blanks _ [] _ blank_nil (by simpa using hend) (by simp [StartsUnblank])
  simp only [decodeText]
  change (runOn _ c).1 = _
  rw [runOn_bind, hread]
  simp [runOn_bind, hblanks]

end NotebookGuard.Proofs
