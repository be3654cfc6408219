import NotebookGuard.Proofs.JsonValue
import Mathlib
/-!
# The room for nesting, kept

Only `Reader.nest` changes how many more brackets may open, and it gives the
level back as it leaves. Each reader's triple says it leaves the room as it
found it (`RoomPost`), with what its values satisfy; `mvcgen` composes them
and `decodeText_spec` reads one back on a whole text.
-/

open Std.Do

set_option mvcgen.warning false

namespace NotebookGuard

/-- A number as the number reader gives it: an integer within 64 bits (a
negative one not below `-2^63`), or any double. -/
def Number.InRange : Number → Prop
  | .nat n => n < 2 ^ 64
  | .neg n => -2 ^ 63 ≤ n ∧ n < 0
  | .float _ => True

end NotebookGuard

namespace NotebookGuard.Proofs

variable {α β : Type}

/-- What a reader that starts with `R` levels of room promises: it leaves them
as it found them, whether it gives a value or fails, and what it gives
satisfies `P`. -/
abbrev RoomPost (R : Nat) (P : α → Prop) : PostCond α (.except ReadError (.arg Cursor .pure)) :=
  post⟨fun a c => ⌜c.room = R ∧ P a⌝, fun _ c => ⌜c.room = R⌝⟩

/-- A reader's specification read back on a run: from a cursor with `R` levels
of room, it leaves `R`, and what it gives satisfies `P`. -/
theorem runOn_of_spec {x : Reader α} {R : Nat} {P : α → Prop}
    (h : ⦃fun c => ⌜c.room = R⌝⦄ x ⦃RoomPost R P⦄) (c : Cursor) (hc : c.room = R) :
    (runOn x c).2.room = R ∧ ∀ a, (runOn x c).1 = .ok a → P a := by
  have hwp := h c hc
  simp only [wp, PredTrans.pushExcept, PredTrans.pushArg, PredTrans.apply] at hwp
  unfold runOn
  rcases hx : x.run.run c with ⟨_ | a, c'⟩ <;> simp_all [ExceptT.run, StateT.run, Id.run] <;> exact hwp

/-! ### Steps -/

section Steps

variable (R : Nat)

-- A step that cannot fail promises nothing of a failure (`⇓`), so inside a
-- bracket its specification asks nothing of the room outside it.
@[spec] theorem peek_keepsRoom : ⦃fun c => ⌜c.room = R⌝⦄ Reader.peek ⦃⇓ _ c => ⌜c.room = R⌝⦄ := by
  mvcgen [Reader.peek]

@[spec] theorem bump_keepsRoom : ⦃fun c => ⌜c.room = R⌝⦄ Reader.bump ⦃⇓ _ c => ⌜c.room = R⌝⦄ := by
  mvcgen [Reader.bump]

@[spec] theorem next_keepsRoom : ⦃fun c => ⌜c.room = R⌝⦄ Reader.next ⦃⇓ _ c => ⌜c.room = R⌝⦄ := by
  mvcgen [Reader.next] <;> simp_all

@[spec] theorem failHere_keepsRoom (f : Fault) :
    ⦃fun c => ⌜c.room = R⌝⦄ (Reader.failHere f : Reader α) ⦃RoomPost R fun _ => False⦄ := by
  mvcgen [Reader.failHere]

@[spec] theorem failAhead_keepsRoom (f : Fault) :
    ⦃fun c => ⌜c.room = R⌝⦄ (Reader.failAhead f : Reader α) ⦃RoomPost R fun _ => False⦄ := by
  mvcgen [Reader.failAhead]

@[spec] theorem broken_keepsRoom (f : TextFault) :
    ⦃fun c => ⌜c.room = R⌝⦄ (Reader.broken f : Reader α) ⦃RoomPost R fun _ => False⦄ := by
  mvcgen [Reader.broken]

@[spec] theorem brokenAhead_keepsRoom (f : TextFault) :
    ⦃fun c => ⌜c.room = R⌝⦄ (Reader.brokenAhead f : Reader α) ⦃RoomPost R fun _ => False⦄ := by
  mvcgen [Reader.brokenAhead]

@[spec] theorem blanks_keepsRoom : ⦃fun c => ⌜c.room = R⌝⦄ Reader.blanks ⦃⇓ _ c => ⌜c.room = R⌝⦄ := by
  mvcgen [Reader.blanks]

@[spec] theorem fuel_keepsRoom : ⦃fun c => ⌜c.room = R⌝⦄ Reader.fuel ⦃⇓ _ c => ⌜c.room = R⌝⦄ := by
  mvcgen [Reader.fuel]

@[spec] theorem keyword_keepsRoom (kw : List Char) :
    ⦃fun c => ⌜c.room = R⌝⦄ Reader.keyword kw ⦃RoomPost R fun _ => True⦄ := by
  mvcgen [Reader.keyword] invariants
  · post⟨fun _ c => ⌜c.room = R⌝, fun _ c => ⌜c.room = R⌝⟩
  all_goals simp_all

@[spec] theorem hexEscape_keepsRoom : ⦃fun c => ⌜c.room = R⌝⦄ Reader.hexEscape ⦃RoomPost R fun _ => True⦄ := by
  mvcgen [Reader.hexEscape] <;> simp_all

@[spec] theorem unicodeEscape_keepsRoom (acc : String) :
    ⦃fun c => ⌜c.room = R⌝⦄ Reader.unicodeEscape acc ⦃RoomPost R fun _ => True⦄ := by
  mvcgen [Reader.unicodeEscape] <;> simp_all

@[spec] theorem escape_keepsRoom (decode : Bool) (acc : String) :
    ⦃fun c => ⌜c.room = R⌝⦄ Reader.escape decode acc ⦃RoomPost R fun _ => True⦄ := by
  mvcgen [Reader.escape] <;> simp_all

@[spec] theorem strBody_keepsRoom (decode : Bool) (fuel : Nat) (acc : String) :
    ⦃fun c => ⌜c.room = R⌝⦄ Reader.strBody decode fuel acc ⦃RoomPost R fun _ => True⦄ := by
  induction fuel generalizing acc with
  | zero => mvcgen [Reader.strBody] <;> simp_all
  | succ fuel ih => mvcgen [Reader.strBody, ih] <;> simp_all

@[spec] theorem stringBody_keepsRoom : ⦃fun c => ⌜c.room = R⌝⦄ Reader.stringBody ⦃RoomPost R fun _ => True⦄ := by
  mvcgen [Reader.stringBody]
  simp_all

/-! ### Numbers -/

@[spec] theorem fromParts_keepsRoom (positive : Bool) (digits : Nat) (exp : Int) :
    ⦃fun c => ⌜c.room = R⌝⦄ Reader.fromParts positive digits exp ⦃RoomPost R fun _ => True⦄ := by
  have hscale : ∀ n f e, ⦃fun c => ⌜c.room = R⌝⦄ Reader.fromParts.scale n f e ⦃RoomPost R fun _ => True⦄ := by
    intro n
    induction n with
    | zero => intro f e; mvcgen [Reader.fromParts.scale]
    | succ n ih => intro f e; mvcgen [Reader.fromParts.scale, ih] <;> simp_all
  mvcgen [Reader.fromParts, hscale]

@[spec] theorem skipDigits_keepsRoom (n : Nat) :
    ⦃fun c => ⌜c.room = R⌝⦄ Reader.skipDigits n ⦃RoomPost R fun _ => True⦄ := by
  induction n with
  | zero => mvcgen [Reader.skipDigits]
  | succ n ih => mvcgen [Reader.skipDigits, ih] <;> simp_all

@[spec] theorem exponent_keepsRoom (positive : Bool) (digits : Nat) (start : Int) :
    ⦃fun c => ⌜c.room = R⌝⦄ Reader.exponent positive digits start ⦃RoomPost R fun _ => True⦄ := by
  have hmore : ∀ n e, ⦃fun c => ⌜c.room = R⌝⦄ Reader.exponent.more n e ⦃RoomPost R fun _ => True⦄ := by
    intro n
    induction n with
    | zero => intro e; mvcgen [Reader.exponent.more]
    | succ n ih => intro e; mvcgen [Reader.exponent.more, ih] <;> simp_all
  mvcgen [Reader.exponent, hmore] <;> simp_all

@[spec] theorem fraction_keepsRoom (positive : Bool) (digits : Nat) (before : Int) :
    ⦃fun c => ⌜c.room = R⌝⦄ Reader.fraction positive digits before ⦃RoomPost R fun _ => True⦄ := by
  have hmore : ∀ n d a, ⦃fun c => ⌜c.room = R⌝⦄ Reader.fraction.more n d a ⦃RoomPost R fun _ => True⦄ := by
    intro n
    induction n with
    | zero => intro d a; mvcgen [Reader.fraction.more]
    | succ n ih => intro d a; mvcgen [Reader.fraction.more, ih] <;> simp_all
  mvcgen [Reader.fraction, hmore] <;> simp_all

lemma digitValue_le_nine {c : Char} (h : c ≤ '9') : digitValue c ≤ 9 := by
  have hc : c.toNat ≤ 57 := h
  have hzero : '0'.toNat = 48 := rfl
  simp only [digitValue, hzero]
  omega

@[spec] theorem numberTail_inRange (positive : Bool) (d : Nat) (hd : d ≤ Reader.u64Max) :
    ⦃fun c => ⌜c.room = R⌝⦄ Reader.numberTail positive d ⦃RoomPost R Number.InRange⦄ := by
  have hd' : d < 2 ^ 64 := Nat.lt_of_le_of_lt hd (by decide)
  mvcgen [Reader.numberTail] <;> simp_all [Number.InRange]
  -- the one goal left: a negative integer's digits are not all zero
  omega

@[spec] theorem longInteger_inRange (positive : Bool) (d : Nat) :
    ⦃fun c => ⌜c.room = R⌝⦄ Reader.longInteger positive d ⦃RoomPost R Number.InRange⦄ := by
  have hcount : ∀ n e, ⦃fun c => ⌜c.room = R⌝⦄ Reader.longInteger.count positive d n e
      ⦃RoomPost R Number.InRange⦄ := by
    intro n
    induction n with
    | zero => intro e; mvcgen [Reader.longInteger.count] <;> simp_all [Number.InRange]
    | succ n ih => intro e; mvcgen [Reader.longInteger.count, ih] <;> simp_all [Number.InRange]
  mvcgen [Reader.longInteger, hcount]
  simp_all

@[spec] theorem integer_inRange (positive : Bool) :
    ⦃fun c => ⌜c.room = R⌝⦄ Reader.integer positive ⦃RoomPost R Number.InRange⦄ := by
  have hmore : ∀ n d, d ≤ Reader.u64Max →
      ⦃fun c => ⌜c.room = R⌝⦄ Reader.integer.more positive n d ⦃RoomPost R Number.InRange⦄ := by
    intro n
    induction n with
    | zero => intro d hd; mvcgen [Reader.integer.more]; simp_all
    | succ n ih => intro d hd; mvcgen [Reader.integer.more, ih] <;> simp_all
  mvcgen [Reader.integer, hmore] <;> simp_all
  -- the first digit is at most nine, well within 64 bits
  obtain ⟨-, hc⟩ : _ ∧ _ ≤ '9' := ‹_›
  exact fun _ _ => le_trans (digitValue_le_nine hc) (by decide)

/-! ### Structure -/

@[spec] theorem settle_keepsRoom (e : ReadError) :
    ⦃fun c => ⌜c.room = R⌝⦄ Reader.settle e ⦃⇓ _ c => ⌜c.room = R⌝⦄ := by
  mvcgen [Reader.settle]

@[spec] theorem wrongKind_keepsRoom (expected : String) :
    ⦃fun c => ⌜c.room = R⌝⦄ (Reader.wrongKind expected : Reader α) ⦃RoomPost R fun _ => False⦄ := by
  mvcgen [Reader.wrongKind] <;> simp_all

@[spec] theorem nextItem_keepsRoom (first : Bool) :
    ⦃fun c => ⌜c.room = R⌝⦄ Reader.nextItem first ⦃RoomPost R fun _ => True⦄ := by
  mvcgen [Reader.nextItem] <;> simp_all

@[spec] theorem nextKey_keepsRoom (first : Bool) :
    ⦃fun c => ⌜c.room = R⌝⦄ Reader.nextKey first ⦃RoomPost R fun _ => True⦄ := by
  mvcgen [Reader.nextKey] <;> simp_all

@[spec] theorem colon_keepsRoom : ⦃fun c => ⌜c.room = R⌝⦄ Reader.colon ⦃RoomPost R fun _ => True⦄ := by
  mvcgen [Reader.colon] <;> simp_all

@[spec] theorem closeList_keepsRoom :
    ⦃fun c => ⌜c.room = R⌝⦄ Reader.closeList ⦃RoomPost R fun _ => True⦄ := by
  mvcgen [Reader.closeList] <;> simp_all

@[spec] theorem closeObject_keepsRoom :
    ⦃fun c => ⌜c.room = R⌝⦄ Reader.closeObject ⦃RoomPost R fun _ => True⦄ := by
  mvcgen [Reader.closeObject] <;> simp_all

/-- A bracket's contents are read one level deeper, and the level is given back
whether they were read or failed. -/
theorem nest_spec {x : Reader α} {P : α → Prop}
    (hx : 1 < R → ⦃fun c => ⌜c.room = R - 1⌝⦄ x ⦃RoomPost (R - 1) P⦄) :
    ⦃fun c => ⌜c.room = R⌝⦄ Reader.nest x ⦃RoomPost R fun a => 1 < R ∧ P a⦄ := by
  by_cases hR : 1 < R
  · have hin := hx hR
    mvcgen [Reader.nest, Reader.attempt, hin] <;> simp_all +zetaDelta
    all_goals omega
  · mvcgen [Reader.nest] <;> simp_all

/-! ### Passing over a value -/

@[spec] theorem skipExponent_keepsRoom :
    ⦃fun c => ⌜c.room = R⌝⦄ Reader.skipExponent ⦃RoomPost R fun _ => True⦄ := by
  mvcgen [Reader.skipExponent] <;> simp_all

@[spec] theorem skipNumber_keepsRoom :
    ⦃fun c => ⌜c.room = R⌝⦄ Reader.skipNumber ⦃RoomPost R fun _ => True⦄ := by
  mvcgen [Reader.skipNumber] <;> simp_all

@[spec] theorem skipString_keepsRoom :
    ⦃fun c => ⌜c.room = R⌝⦄ Reader.skipString ⦃RoomPost R fun _ => True⦄ := by
  mvcgen [Reader.skipString] <;> simp_all

@[spec] theorem skipClosers_keepsRoom (n : Nat) (frames : List Char) (acceptComma : Bool) :
    ⦃fun c => ⌜c.room = R⌝⦄ Reader.skipClosers n frames acceptComma ⦃RoomPost R fun _ => True⦄ := by
  induction n generalizing frames acceptComma with
  | zero => mvcgen [Reader.skipClosers]
  | succ n ih => mvcgen [Reader.skipClosers, ih] <;> simp_all

@[spec] theorem skipStart_keepsRoom : ⦃fun c => ⌜c.room = R⌝⦄ Reader.skipStart ⦃RoomPost R fun _ => True⦄ := by
  mvcgen [Reader.skipStart] <;> simp_all

@[spec] theorem skipKey_keepsRoom : ⦃fun c => ⌜c.room = R⌝⦄ Reader.skipKey ⦃RoomPost R fun _ => True⦄ := by
  mvcgen [Reader.skipKey] <;> simp_all

@[spec] theorem skipLoop_keepsRoom (n : Nat) (frames : List Char) :
    ⦃fun c => ⌜c.room = R⌝⦄ Reader.skipLoop n frames ⦃RoomPost R fun _ => True⦄ := by
  induction n generalizing frames with
  | zero => mvcgen [Reader.skipLoop]
  | succ n ih => mvcgen [Reader.skipLoop, ih] <;> simp_all

@[spec] theorem skipValue_keepsRoom :
    ⦃fun c => ⌜c.room = R⌝⦄ Reader.skipValue ⦃RoomPost R fun _ => True⦄ := by
  mvcgen [Reader.skipValue]
  simp_all

end Steps

/-- What a reader's specification promises from the full room holds of every
value read from a whole text. -/
theorem decodeText_spec {x : Reader α} {P : α → Prop} (hx : ⦃fun c => ⌜c.room = 128⌝⦄ x ⦃RoomPost 128 P⦄)
    {s : String} {a : α} (h : decodeText x s = .ok a) : P a := by
  simp only [decodeText] at h
  refine (runOn_of_spec ?_ { chars := s.toList.toArray } rfl).2 a h
  mvcgen [hx] <;> simp_all

end NotebookGuard.Proofs
