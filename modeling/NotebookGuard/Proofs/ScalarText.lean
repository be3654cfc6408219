import NotebookGuard.Proofs.ReaderRun
import NotebookGuard.PhaseResult
/-!
# Reading scalars back from their text

The writer's text of a string, a flag, an integer within 64 bits or a status
is read back by the matching reader as the same value. A double is read back
when its text is (`FloatReadsBack`), the one fact about doubles the reader's
arithmetic leaves open.
-/

namespace NotebookGuard.Proofs

/-! ### Strings -/


/-- The text of a string between its quotes, each character as the writer
escapes it. -/
def escaped (s : List Char) : List Char := s.flatMap fun ch => (jsonEscape ch).toList

lemma foldl_jsonEscape_toList (l : List Char) (init : String) :
    (l.foldl (fun acc ch => acc ++ jsonEscape ch) init).toList = init.toList ++ escaped l := by
  induction l generalizing init with
  | nil => simp [escaped]
  | cons ch l ih => simp [ih, escaped, String.toList_append]

lemma jsonQuote_toList (s : String) :
    (jsonQuote s).toList = '"' :: (escaped s.toList ++ ['"']) := by
  simp [jsonQuote, String.toList_append, String.foldl_eq_foldl_toList, foldl_jsonEscape_toList]

lemma runOn_strBody_backslash {c : Cursor} {letter : Char} {more : List Char} (acc : String)
    (fuel : Nat) (h : ahead c = '\\' :: letter :: more) {ch : Char}
    (hesc : runOn (Reader.escape true acc) (advance c 1) = (.ok (acc.push ch), advance c 2)) :
    runOn (Reader.strBody true (fuel + 1) acc) c =
      runOn (Reader.strBody true fuel (acc.push ch)) (advance c 2) := by
  simp [Reader.strBody, runOn_bind, h, hesc]

lemma runOn_escape_simple {c : Cursor} {letter : Char} {more : List Char} (acc : String)
    (h : ahead c = letter :: more) (ch : Char)
    (hl : (letter, ch) ∈ [('"', '"'), ('\\', '\\'), ('b', '\x08'), ('f', '\x0c'), ('n', '\n'),
      ('r', '\r'), ('t', '\t')]) :
    runOn (Reader.escape true acc) c = (.ok (acc.push ch), advance c 1) := by
  simp only [List.mem_cons, Prod.mk.injEq, List.not_mem_nil, or_false] at hl
  rcases hl with ⟨rfl, rfl⟩ | ⟨rfl, rfl⟩ | ⟨rfl, rfl⟩ | ⟨rfl, rfl⟩ | ⟨rfl, rfl⟩ | ⟨rfl, rfl⟩ |
    ⟨rfl, rfl⟩ <;> simp [Reader.escape, runOn_bind, runOn_next_cons h]

lemma runOn_hexEscape {c : Cursor} {ds more : List Char} {n : Nat} (hlen : ds.length = 4)
    (h : ahead c = ds ++ more) (hv : hexValue ds = some n) :
    runOn Reader.hexEscape c = (.ok n, advance c 4) := by
  have hsize : c.pos + 4 ≤ c.chars.size := by
    have := congrArg List.length h
    simp only [ahead, List.length_drop, Array.length_toList, List.length_append, hlen] at this
    omega
  have hds : (c.chars.extract c.pos (c.pos + 4)).toList = ds := by
    rw [Array.toList_extract, List.extract_eq_take_drop]
    have : (ahead c).take 4 = ds := by rw [h, List.take_left' hlen]
    simpa [ahead] using this
  simp only [Reader.hexEscape, runOn_bind, runOn_get, hsize, ↓reduceIte, hds, hv, runOn_set,
    runOn_pure]
  rfl

/-- The four hexadecimal digits the writer gives a control character read back
as its code. -/
lemma hexValue_controlEscape : ∀ n < 32,
    (List.replicate (4 - (Nat.toDigits 16 n).length) '0' ++ Nat.toDigits 16 n).length = 4 ∧
    hexValue (List.replicate (4 - (Nat.toDigits 16 n).length) '0' ++ Nat.toDigits 16 n) = some n := by
  decide

/-- One character of a string, as the writer escapes it, is read back as that
character. -/
lemma runOn_strBody_step (ch : Char) (acc : String) (fuel : Nat) {c : Cursor} {more : List Char}
    (h : ahead c = (jsonEscape ch).toList ++ more) :
    runOn (Reader.strBody true (fuel + 1) acc) c =
      runOn (Reader.strBody true fuel (acc.push ch)) (advance c (jsonEscape ch).toList.length) := by
  have simple : ∀ letter, (letter, ch) ∈ [('"', '"'), ('\\', '\\'), ('b', '\x08'), ('f', '\x0c'),
      ('n', '\n'), ('r', '\r'), ('t', '\t')] → jsonEscape ch = String.ofList ['\\', letter] →
      runOn (Reader.strBody true (fuel + 1) acc) c =
        runOn (Reader.strBody true fuel (acc.push ch)) (advance c (jsonEscape ch).toList.length) := by
    intro letter hl he
    rw [he, String.toList_ofList] at h ⊢
    refine runOn_strBody_backslash acc fuel h ?_
    have h1 : ahead (advance c 1) = letter :: more := ahead_advance_cons h
    simpa using runOn_escape_simple acc h1 ch hl
  by_cases h1 : ch = '"'
  · subst h1; exact simple '"' (by simp) (by decide)
  by_cases h2 : ch = '\\'
  · subst h2; exact simple '\\' (by simp) (by decide)
  by_cases h3 : ch = '\n'
  · subst h3; exact simple 'n' (by simp) (by decide)
  by_cases h4 : ch = '\t'
  · subst h4; exact simple 't' (by simp) (by decide)
  by_cases h5 : ch = '\r'
  · subst h5; exact simple 'r' (by simp) (by decide)
  by_cases h6 : ch = '\x08'
  · subst h6; exact simple 'b' (by simp) (by decide)
  by_cases h7 : ch = '\x0c'
  · subst h7; exact simple 'f' (by simp) (by decide)
  by_cases h8 : ch.toNat < 0x20
  · -- a control character: a backslash, `u` and four hexadecimal digits
    obtain ⟨hlen, hv⟩ := hexValue_controlEscape ch.toNat h8
    have he : (jsonEscape ch).toList = '\\' :: 'u' ::
        (List.replicate (4 - (Nat.toDigits 16 ch.toNat).length) '0' ++ Nat.toDigits 16 ch.toNat) := by
      simp [jsonEscape, h1, h2, h3, h4, h5, h6, h7, h8, zeros, String.toList_append]
    rw [he] at h ⊢
    have hu : ahead (advance c 1) = 'u' :: ((List.replicate (4 - (Nat.toDigits 16 ch.toNat).length) '0' ++
        Nat.toDigits 16 ch.toNat) ++ more) := by
      simpa using ahead_advance_append (s := ['\\']) h
    have hds : ahead (advance c 2) = (List.replicate (4 - (Nat.toDigits 16 ch.toNat).length) '0' ++
        Nat.toDigits 16 ch.toNat) ++ more := by
      simpa using ahead_advance_append (s := ['\\', 'u']) h
    have hhex := runOn_hexEscape hlen hds hv
    have hcode : ¬(0xDC00 ≤ ch.toNat ∧ ch.toNat ≤ 0xDFFF) := by omega
    have hbmp : ch.toNat < 0xD800 ∨ ch.toNat > 0xDBFF := by omega
    have hesc : runOn (Reader.escape true acc) (advance c 1) = (.ok (acc.push ch), advance c 6) := by
      simp [Reader.escape, runOn_bind, runOn_next_cons hu, Reader.unicodeEscape, hhex, hcode,
        hbmp, Char.ofNat_toNat]
    simp [Reader.strBody, runOn_bind, h, hesc, hlen]
  · -- any other character stands for itself
    have he : jsonEscape ch = ch.toString := by simp [jsonEscape, h1, h2, h3, h4, h5, h6, h7, h8]
    rw [he] at h ⊢
    simp only [Char.toString, String.toList_singleton, List.singleton_append] at h ⊢
    simp only [Reader.strBody, runOn_bind, runOn_peek, h, List.head?_cons]
    simp [h8, runOn_bind]

/-- A string's escaped text and its closing quote are read back as the string. -/
lemma runOn_strBody (s : List Char) : ∀ (acc : String) (fuel : Nat) (c : Cursor) (rest : List Char),
    ahead c = escaped s ++ '"' :: rest → (escaped s).length < fuel →
    runOn (Reader.strBody true fuel acc) c = (.ok (acc ++ String.ofList s), advance c ((escaped s).length + 1)) := by
  induction s with
  | nil =>
    intro acc fuel c rest h hfuel
    obtain ⟨fuel, rfl⟩ : ∃ f, fuel = f + 1 := ⟨fuel - 1, by omega⟩
    simp only [escaped, List.flatMap_nil, List.nil_append] at h
    simp [Reader.strBody, runOn_bind, h, escaped, runOn_map, Except.map]
  | cons ch s ih =>
    intro acc fuel c rest h hfuel
    have hlen : (escaped (ch :: s)).length = (jsonEscape ch).toList.length + (escaped s).length := by
      simp [escaped]
    obtain ⟨fuel, rfl⟩ : ∃ f, fuel = f + 1 := ⟨fuel - 1, by omega⟩
    have hpos : 0 < (jsonEscape ch).toList.length := by
      unfold jsonEscape; split_ifs <;> simp [String.toList_append]
    have hh : ahead c = (jsonEscape ch).toList ++ (escaped s ++ '"' :: rest) := by
      simpa [escaped] using h
    rw [runOn_strBody_step ch acc fuel hh,
      ih (acc.push ch) fuel _ rest (ahead_advance_append hh) (by rw [hlen] at hfuel; omega)]
    simp only [advance_advance, hlen, Prod.mk.injEq]
    constructor
    · congr 1
      apply String.toList_inj.mp
      simp [String.toList_append]
    · congr 1

lemma reads_stringBody (s : String) {d : Nat} {P : List Char → Prop} :
    Reads Reader.stringBody d P (escaped s.toList ++ ['"']) s := by
  intro c rest h _ _ _
  have hsize := length_le_of_ahead h
  simp only [List.length_append, List.length_singleton] at hsize
  simp only [Reader.stringBody, runOn_bind, runOn_fuel]
  rw [runOn_strBody s.toList "" _ c rest (by simpa using h) (by omega)]
  simp


/-- A string as the writer quotes it is read back as the string. -/
theorem reads_string (expected : String) (s : String) :
    ReadsValue (Reader.string expected) 0 (jsonQuote s).toList s := by
  rw [jsonQuote_toList]
  exact ReadsValue.of_blanks (by decide) ((reads_bump '"').seq (reads_stringBody s))

/-! ### Flags -/

def flagText (b : Bool) : String := if b then "true" else "false"

theorem reads_boolean (b : Bool) : ReadsValue Reader.boolean 0 (flagText b).toList b := by
  cases b
  · have htext : (flagText false).toList = 'f' :: ['a', 'l', 's', 'e'] := by decide
    rw [htext]
    exact ReadsValue.of_blanks (by decide)
      ((reads_bump 'f').seq (((reads_keyword ['a', 'l', 's', 'e']).seq (Reads.pure false))))
  · have htext : (flagText true).toList = 't' :: ['r', 'u', 'e'] := by decide
    rw [htext]
    exact ReadsValue.of_blanks (by decide)
      ((reads_bump 't').seq (((reads_keyword ['r', 'u', 'e']).seq (Reads.pure true))))

/-! ### Numbers -/

/-- Once the digits end, a number without point or exponent is an integer. -/
lemma runOn_numberTail {c : Cursor} (hr : Ends (ahead c)) (positive : Bool) (digits : Nat) :
    runOn (Reader.numberTail positive digits) c =
      (.ok (if positive then .nat digits
        else if digits = 0 then .float (-0.0)
        else if digits ≤ Nat.pow 2 63 then .neg (-(digits : Int))
        else .float (-digits.toUInt64.toFloat)), c) := by
  rcases hc : ahead c with _ | ⟨ch, t⟩
  · simp only [Reader.numberTail, runOn_bind, runOn_peek, hc, List.head?_nil]
    cases positive
    · simp only [Bool.false_eq_true, ↓reduceIte]
      split_ifs <;> rfl
    · rfl
  · have hch := hr ch (by simp [hc])
    simp only [continuesNumber, Bool.or_eq_false_iff, beq_eq_false_iff_ne, ne_eq] at hch
    obtain ⟨⟨⟨_, hdot⟩, he⟩, hE⟩ := hch
    simp only [Reader.numberTail, runOn_bind, runOn_peek, hc, List.head?_cons]
    split
    · rename_i heq; exact absurd (Option.some.inj heq) hdot
    · rename_i heq; exact absurd (Option.some.inj heq) he
    · rename_i heq; exact absurd (Option.some.inj heq) hE
    · cases positive
      · simp only [Bool.false_eq_true, ↓reduceIte]
        split_ifs <;> rfl
      · rfl

/-- The digits of an integer are read one by one, none of the values on the
way passing the largest unsigned 64-bit integer. -/
lemma runOn_integer_more (positive : Bool) (ds : List Char) (hds : ∀ ch ∈ ds, ch.isDigit = true) :
    ∀ (fuel d : Nat) (c : Cursor) (rest : List Char), ahead c = ds ++ rest → Ends rest →
      ds.length < fuel → Nat.ofDigitChars 10 ds d ≤ Reader.u64Max →
      runOn (Reader.integer.more positive fuel d) c =
        runOn (Reader.numberTail positive (Nat.ofDigitChars 10 ds d)) (advance c ds.length) := by
  induction ds with
  | nil =>
    intro fuel d c rest h hr hfuel _
    obtain ⟨fuel, rfl⟩ : ∃ f, fuel = f + 1 := ⟨fuel - 1, by omega⟩
    simp only [List.nil_append] at h
    rcases rest with _ | ⟨ch, t⟩
    · simp [Reader.integer.more, runOn_bind, h, Nat.ofDigitChars]
    · have hch := hr ch (by simp)
      simp only [continuesNumber, Bool.or_eq_false_iff] at hch
      simp [Reader.integer.more, runOn_bind, h, hch.1.1.1, Nat.ofDigitChars]
  | cons ch ds ih =>
    intro fuel d c rest h hr hfuel hmax
    obtain ⟨fuel, rfl⟩ : ∃ f, fuel = f + 1 := ⟨fuel - 1, by omega⟩
    have hstep : Nat.ofDigitChars 10 (ch :: ds) d = Nat.ofDigitChars 10 ds (d * 10 + digitValue ch) := by
      rw [Nat.ofDigitChars_cons, digitValue, Nat.mul_comm]
    have hle : d * 10 + digitValue ch ≤ Nat.ofDigitChars 10 ds (d * 10 + digitValue ch) := by
      rw [Nat.ofDigitChars_eq_ofDigitChars_zero]
      have := Nat.one_le_two_pow (n := ds.length)
      have : 1 ≤ 10 ^ ds.length := Nat.one_le_pow _ _ (by omega)
      nlinarith
    rw [hstep] at hmax
    have hrest : ahead (advance c 1) = ds ++ rest := by
      simpa using ahead_advance_append (s := [ch]) h
    have hdig := hds ch (by simp)
    have hno : ¬ (d * 10 + digitValue ch > Reader.u64Max) := by omega
    simp only [List.cons_append] at h
    simp only [Reader.integer.more, runOn_bind, runOn_peek, h, List.head?_cons, hdig, ↓reduceIte, hno,
      runOn_bump]
    rw [ih (fun x hx => hds x (by simp [hx])) fuel _ _ rest hrest hr (by simp at hfuel; omega) hmax,
      hstep, advance_advance]
    simp [Nat.add_comm]

lemma digitChar_pos_bounds : ∀ n, n < 10 → 0 < n → '1' ≤ Nat.digitChar n ∧ Nat.digitChar n ≤ '9' := by
  decide

lemma toDigits_head {n : Nat} (hn : 0 < n) :
    ∃ d ds, Nat.toDigits 10 n = d :: ds ∧ '1' ≤ d ∧ d ≤ '9' := by
  induction n using Nat.strong_induction_on with
  | _ n ih =>
    rw [Nat.toDigits_eq_if (by decide)]
    split
    · exact ⟨_, [], rfl, digitChar_pos_bounds n ‹_› hn⟩
    · obtain ⟨d, ds, hd, h1, h9⟩ := ih (n / 10) (by omega) (by omega)
      exact ⟨d, ds ++ [Nat.digitChar (n % 10)], by rw [hd]; rfl, h1, h9⟩

/-- An integer written in decimal is read digit by digit, up to what follows it. -/
lemma runOn_integer_toDigits (positive : Bool) {n : Nat} (hn : n ≤ Reader.u64Max) {c : Cursor}
    {rest : List Char} (h : ahead c = Nat.toDigits 10 n ++ rest) (hr : Ends rest) :
    runOn (Reader.integer positive) c =
      runOn (Reader.numberTail positive n) (advance c (Nat.toDigits 10 n).length) := by
  rcases Nat.eq_zero_or_pos n with rfl | hpos
  · rw [Nat.toDigits_zero] at h ⊢
    simp only [List.singleton_append] at h
    have hrest : ahead (advance c 1) = rest := by simpa using ahead_advance_append (s := ['0']) h
    rcases rest with _ | ⟨ch, t⟩
    · simp [Reader.integer, runOn_bind, runOn_next_cons h, hrest]
    · have hch := hr ch (by simp)
      simp only [continuesNumber, Bool.or_eq_false_iff] at hch
      simp [Reader.integer, runOn_bind, runOn_next_cons h, hrest, hch.1.1.1]
  · obtain ⟨d, ds, hd, h1, h9⟩ := toDigits_head hpos
    have hdigits : ∀ ch ∈ ds, ch.isDigit = true := fun ch hch =>
      Nat.isDigit_of_mem_toDigits (b := 10) (n := n) (by decide) (by decide) (by rw [hd]; simp [hch])
    have hvalue : Nat.ofDigitChars 10 ds (digitValue d) = n := by
      have := Nat.ofDigitChars_ten_toDigits (n := n)
      rw [hd, Nat.ofDigitChars_cons] at this
      simpa [digitValue] using this
    have hd0 : d ≠ '0' := by
      intro h0
      rw [h0] at h1
      exact absurd h1 (by decide)
    rw [hd] at h ⊢
    simp only [List.cons_append] at h
    have hrest : ahead (advance c 1) = ds ++ rest := by
      simpa using ahead_advance_append (s := [d]) h
    have hsize := @length_le_of_ahead _ (d :: ds) rest h
    simp only [List.length_cons] at hsize
    simp only [Reader.integer, runOn_bind, runOn_next_cons h]
    rw [if_pos ⟨h1, h9⟩]
    simp only [runOn_bind, runOn_fuel, advance_chars]
    rw [runOn_integer_more positive ds hdigits _ _ _ rest hrest hr (by omega) (by omega), hvalue,
      advance_advance]
    simp [Nat.add_comm]


/-- The decimal digits of a number below `2^64` are read back as it. -/
lemma reads_integer_toDigits (positive : Bool) {n : Nat} (hn : n < 2 ^ 64) {d : Nat} :
    Reads (Reader.integer positive) d Ends (Nat.toDigits 10 n)
      (if positive then .nat n
        else if n = 0 then .float (-0.0)
        else if n ≤ Nat.pow 2 63 then .neg (-(n : Int))
        else .float (-n.toUInt64.toFloat)) := by
  intro c rest h hr _ _
  have hmax : n ≤ Reader.u64Max := by simp only [Reader.u64Max, Nat.pow_eq]; omega
  rw [runOn_integer_toDigits positive hmax h hr, runOn_numberTail (by rw [ahead_advance_append h]; exact hr)]

lemma toDigits_eq_cons (n : Nat) : ∃ ch ds, Nat.toDigits 10 n = ch :: ds ∧ ch.isDigit = true := by
  rcases Nat.eq_zero_or_pos n with rfl | hpos
  · exact ⟨'0', [], rfl, rfl⟩
  · obtain ⟨ch, ds, hd, h1, h9⟩ := toDigits_head hpos
    refine ⟨ch, ds, hd, ?_⟩
    simp only [Char.isDigit, Bool.and_eq_true, decide_eq_true_eq]
    exact ⟨Char.le_trans (by decide) h1, h9⟩

lemma isJsonBlank_of_isDigit {ch : Char} (h : ch.isDigit = true) : isJsonBlank ch = false := by
  simp only [Char.isDigit, Bool.and_eq_true, decide_eq_true_eq] at h
  obtain ⟨h0, h9⟩ := h
  simp only [isJsonBlank, Bool.or_eq_false_iff, decide_eq_false_iff_not]
  refine ⟨⟨⟨?_, ?_⟩, ?_⟩, ?_⟩ <;> intro heq <;> subst heq <;> exact absurd h0 (by decide)

/-- The text of an unsigned integer below `2^64` is read back as it. -/
theorem reads_number_nat (expected : String) {n : Nat} (hn : n < 2 ^ 64) :
    ReadsValue (Reader.number expected) 0 (toString n).toList (.nat n) := by
  have htext : (toString n).toList = Nat.toDigits 10 n := by
    simp [Nat.toString_eq_repr, Nat.toList_repr]
  obtain ⟨ch, ds, hds, hdigit⟩ := toDigits_eq_cons n
  rw [htext, hds]
  apply ReadsValue.of_blanks (isJsonBlank_of_isDigit hdigit)
  split
  · rename_i heq; cases heq
  · rename_i heq; cases heq; exact absurd hdigit (by decide)
  · rename_i heq
    cases heq
    rw [if_pos hdigit, ← hds]
    simpa using reads_integer_toDigits true hn

/-- The text of a negative integer not below `-2^63` is read back as it. -/
theorem reads_number_neg (expected : String) {n : Int} (hlow : -2 ^ 63 ≤ n) (hneg : n < 0) :
    ReadsValue (Reader.number expected) 0 (toString n).toList (.neg n) := by
  obtain ⟨m, rfl⟩ := Int.eq_negSucc_of_lt_zero hneg
  have htext : (toString (Int.negSucc m)).toList = '-' :: Nat.toDigits 10 (m + 1) := by
    simp [toString, Int.repr, Nat.toList_repr]
  have hm : m + 1 ≤ Nat.pow 2 63 := by simp only [Nat.pow_eq]; omega
  have hval : -(((m + 1 : Nat)) : Int) = Int.negSucc m := by
    rw [Int.negSucc_eq]
    push_cast
    rfl
  have hread := reads_integer_toDigits false (n := m + 1) (by omega) (d := 0)
  simp only [Bool.false_eq_true, ↓reduceIte, Nat.add_one_ne_zero, hm, hval] at hread
  rw [htext]
  exact ReadsValue.of_blanks (by decide) ((reads_bump '-').seq hread)

/-- A double's text reads back as the double: the writer's shortest digits and
the reader's scaling by powers of ten meet. -/
def FloatReadsBack (f : Float) : Prop :=
  Reads (Reader.number "f64") 0 Ends (FloatText.json f).toList (.float f)

lemma reads_number_float {f : Float} (hf : FloatReadsBack f) :
    ReadsValue (Reader.number "f64") 0 (FloatText.json f).toList (.float f) :=
  fun _ hws => Reads.placed_blanks_lead hf hws

/-- An unsigned integer that fits its width is read back from its digits. -/
theorem reads_unsigned {bits n : Nat} (hn : n < 2 ^ bits) (hbits : bits ≤ 64) :
    ReadsValue (Reader.unsigned bits) 0 (toString n).toList n := by
  have h64 : n < 2 ^ 64 := lt_of_lt_of_le hn (Nat.pow_le_pow_right (by omega) hbits)
  intro ws hws c rest h hr hroom hv
  have hnum := reads_number_nat ("u" ++ toString bits) h64 ws hws c rest h hr hroom hv
  apply runOn_placed
  rw [runOn_bind, hnum]
  simp [hn]

/-- A double whose text reads back is read back by the double reader. -/
theorem reads_double {f : Float} (hf : FloatReadsBack f) :
    ReadsValue Reader.double 0 (FloatText.json f).toList f :=
  fun ws hws => ((reads_number_float hf ws hws).map Number.toFloat).placed

/-! ### Optional values and statuses -/

/-- A present optional value is read as its value, when its text does not start
like `null`. -/
theorem reads_optional_some {α : Type} {x : Reader α} {d : Nat} {ch : Char} {s : List Char} {a : α}
    (hx : ReadsValue x d (ch :: s) a) (hch : isJsonBlank ch = false) (hn : ch ≠ 'n') :
    ReadsValue (Reader.optional x) d (ch :: s) (some a) := by
  intro ws hws c rest h hr hroom hv
  rw [List.append_assoc] at h
  have hblanks := runOn_blanks hws h (by
    intro x hx
    simp only [List.cons_append, List.head?_cons, Option.mem_def, Option.some.injEq] at hx
    exact hx ▸ hch)
  have hafter : ahead (advance c ws.length) = [] ++ ((ch :: s) ++ rest) := ahead_advance_append h
  have hread := hx [] (by simp [Blank]) (advance c ws.length) rest hafter hr hroom hv
  simp only [Reader.optional, runOn_bind, hblanks, List.cons_append, List.head?_cons]
  split
  · rename_i heq
    exact absurd (Option.some.inj heq) hn
  · rw [runOn_map, hread]
    simp [Except.map, List.length_append]

lemma lookup_status (st : Status) : (Status.all.map fun s => (s.name, s)).lookup st.name = some st := by
  cases st <;> rfl

/-- A status is read back from its quoted name. -/
theorem reads_status (st : Status) : ReadsValue Reader.status 0 (jsonQuote st.name).toList st := by
  intro ws hws c rest h hr hroom hv
  rw [jsonQuote_toList, List.append_assoc] at h
  have hblanks := runOn_blanks hws h (by simp [StartsUnblank, isJsonBlank])
  have hafter := ahead_advance_append h
  have hname : Reads (Reader.variantName (Status.all.map fun s => (s.name, s))) 0 Ends
      ('"' :: (escaped st.name.toList ++ ['"'])) st := by
    apply Reads.placed
    apply Reads.blanks_bind (by decide)
    exact (reads_bump '"').seq ((reads_stringBody st.name).bind_pure (by simp only [lookup_status]))
  have hread := hname (advance c ws.length) rest hafter hr hroom hv
  simp only [Reader.status, Reader.unitVariant, runOn_bind, runOn_get, hv, Bool.false_eq_true,
    ↓reduceIte, hblanks, List.cons_append, List.head?_cons]
  rw [hread]
  simp [jsonQuote_toList, List.length_append, Nat.add_assoc]

end NotebookGuard.Proofs
