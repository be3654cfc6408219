import NotebookGuard.Proofs.Layout
/-!
# Any value, read back from its text

A value's text reads back as the value when the value is one the text can give
back (`Json.Storable`) and nests less deep than the reader allows
(`Json.depth`); the number reader and the reader of any value agree on numbers.
-/

namespace NotebookGuard.Proofs

/-! ### Readers that fail -/

/-- A reader that gives no value, wherever it runs. -/
def NeverOk {β : Type} (x : Reader β) : Prop := ∀ c b c', runOn x c ≠ (.ok b, c')

lemma neverOk_bind {β γ : Type} {x : Reader β} {f : β → Reader γ} (hf : ∀ b, NeverOk (f b)) :
    NeverOk (x >>= f) := by
  intro c b c' h
  rw [runOn_bind] at h
  split at h
  · exact hf _ _ _ _ h
  · cases h

lemma neverOk_throw {β : Type} (e : ReadError) : NeverOk (throw e : Reader β) := by
  intro c b c' h
  cases h

lemma neverOk_failHere {β : Type} (f : Fault) : NeverOk (Reader.failHere f : Reader β) :=
  neverOk_bind fun _ => neverOk_throw _

lemma neverOk_failAhead {β : Type} (f : Fault) : NeverOk (Reader.failAhead f : Reader β) :=
  neverOk_bind fun _ => neverOk_throw _

/-- Whatever value stands where another kind was due, the reader reads it only
to name it in its fault. -/
lemma neverOk_wrongKind {β : Type} (expected : String) : NeverOk (Reader.wrongKind expected : Reader β) := by
  unfold Reader.wrongKind
  refine neverOk_bind fun p => ?_
  dsimp only
  split
  all_goals repeat (first | exact neverOk_failHere _ | refine neverOk_bind fun _ => ?_ | split)

/-! ### Numbers inside any value -/

/-- What the number reader reads, any value reads as that number. -/
lemma reads_anyValue_of_number {e : String} {d : Nat} {P : List Char → Prop} {s : List Char}
    {n : Number} (hs : StartsValue s) (hnum : Reads (Reader.number e) d P s n) (fuel : Nat) :
    Reads (Reader.anyValue (fuel + 1)) d P s (.num n) := by
  obtain ⟨ch, hhead, hblank, -, -⟩ := hs
  obtain ⟨t, rfl⟩ : ∃ t, s = ch :: t := by
    cases s with
    | nil => cases hhead
    | cons x t => simp only [List.head?_cons, Option.some.injEq] at hhead; exact ⟨t, by rw [hhead]⟩
  intro c rest h hr hroom hv
  have hrun := hnum c rest h hr hroom hv
  have hstop := runOn_blanks_head h hblank
  rw [Reader.number, runOn_placed_eq_ok, runOn_bind, hstop] at hrun
  dsimp only at hrun
  rw [Reader.anyValue]
  apply runOn_placed
  rw [runOn_bind, hstop]
  dsimp only
  by_cases hminus : ch = '-'
  · subst hminus
    simp only [runOn_bind, runOn_bump] at hrun ⊢
    rw [hrun]
    rfl
  · -- the number reader took the branch of a digit
    have hdigit : ch.isDigit = true ∧ runOn (Reader.integer true) c = (.ok n, advance c (ch :: t).length) := by
      split at hrun
      · rename_i heq; cases heq
      · rename_i heq; cases heq; exact absurd rfl hminus
      · rename_i heq
        cases heq
        by_cases hd : ch.isDigit
        · rw [if_pos hd] at hrun
          exact ⟨hd, hrun⟩
        · rw [if_neg hd] at hrun
          exact absurd hrun (neverOk_wrongKind e _ _ _)
    obtain ⟨hd, hint⟩ := hdigit
    split
    all_goals first
      | (rename_i heq; cases heq; done)
      | (rename_i heq; cases heq; exact absurd hd (by decide))
      | skip
    rename_i heq
    cases heq
    rw [if_pos hd, runOn_bind, hint]
    rfl

end NotebookGuard.Proofs

namespace NotebookGuard.Json

mutual

/-- How deep arrays and objects nest in a value: a scalar is at depth 0. -/
def depth : Json → Nat
  | .arr items => depthItems items + 1
  | .obj members => depthMembers members + 1
  | _ => 0

def depthItems : List Json → Nat
  | [] => 0
  | j :: rest => max j.depth (depthItems rest)

def depthMembers : List (String × Json) → Nat
  | [] => 0
  | (_, j) :: rest => max j.depth (depthMembers rest)

end

lemma depth_le_depthItems {j : Json} {items : List Json} (h : j ∈ items) : j.depth ≤ depthItems items := by
  induction items with
  | nil => cases h
  | cons j' items ih =>
    rw [depthItems]
    rcases List.mem_cons.mp h with rfl | h
    · exact le_max_left _ _
    · exact le_trans (ih h) (le_max_right _ _)

lemma depth_le_depthMembers {m : String × Json} {ms : List (String × Json)} (h : m ∈ ms) :
    m.2.depth ≤ depthMembers ms := by
  induction ms with
  | nil => cases h
  | cons m' ms ih =>
    obtain ⟨k', j'⟩ := m'
    rw [depthMembers]
    rcases List.mem_cons.mp h with rfl | h
    · exact le_max_left _ _
    · exact le_trans (ih h) (le_max_right _ _)

/-- A value the writer's text gives back: integers within 64 bits, doubles
whose text reads back, and objects with their members sorted by key, no key
twice (as a map keeps them). -/
inductive Storable : Json → Prop
  | null : Storable .null
  | bool (b : Bool) : Storable (.bool b)
  | nat {n : Nat} (h : n < 2 ^ 64) : Storable (.num (.nat n))
  | neg {n : Int} (hlow : -2 ^ 63 ≤ n) (hneg : n < 0) : Storable (.num (.neg n))
  | float {f : Float} (h : Proofs.FloatReadsBack f) : Storable (.num (.float f))
  | str (s : String) : Storable (.str s)
  | arr {items : List Json} (h : ∀ j ∈ items, Storable j) : Storable (.arr items)
  | obj {ms : List (String × Json)} (hs : Proofs.SortedKeys ms) (h : ∀ m ∈ ms, Storable m.2) :
      Storable (.obj ms)

end NotebookGuard.Json

namespace NotebookGuard.Proofs

lemma readsValue_anyValue_of_number {e : String} {s : List Char} {n : Number} (hs : StartsValue s)
    (hnum : Reads (Reader.number e) 0 Ends s n) (fuel : Nat) :
    ReadsValue (Reader.anyValue (fuel + 1)) 0 s (.num n) := by
  intro ws hws
  have hval := reads_anyValue_of_number hs hnum fuel
  rw [Reader.anyValue] at hval ⊢
  exact Reads.placed_blanks_lead hval hws

lemma pretty_num (ind : String) (n : Number) : (Json.pretty ind (.num n)).toList = n.text.toList := by
  simp [Json.pretty, Json.compact]

/-- The text the writer gives a value is read back as the value, when the value
is one its text can give back. -/
theorem reads_anyValue {j : Json} (hj : j.Storable) : ∀ (ind : String) (fuel : Nat), Blank ind.toList →
    (Json.pretty ind j).toList.length < fuel →
    ReadsValue (Reader.anyValue fuel) j.depth (Json.pretty ind j).toList j := by
  induction hj with
  | null =>
    intro ind fuel _ hfuel
    obtain ⟨fuel, rfl⟩ : ∃ f, fuel = f + 1 := ⟨fuel - 1, by omega⟩
    have htext : (Json.pretty ind .null).toList = 'n' :: ['u', 'l', 'l'] := by
      simp [Json.pretty, Json.compact]
    rw [htext, Reader.anyValue]
    exact ReadsValue.of_blanks (by decide) ((reads_bump 'n').seq ((reads_keyword _).seq (Reads.pure _)))
  | bool b =>
    intro ind fuel _ hfuel
    obtain ⟨fuel, rfl⟩ : ∃ f, fuel = f + 1 := ⟨fuel - 1, by omega⟩
    rw [Reader.anyValue]
    cases b
    · have htext : (Json.pretty ind (.bool false)).toList = 'f' :: ['a', 'l', 's', 'e'] := by
        simp [Json.pretty, Json.compact]
      rw [htext]
      exact ReadsValue.of_blanks (by decide) ((reads_bump 'f').seq ((reads_keyword _).seq (Reads.pure _)))
    · have htext : (Json.pretty ind (.bool true)).toList = 't' :: ['r', 'u', 'e'] := by
        simp [Json.pretty, Json.compact]
      rw [htext]
      exact ReadsValue.of_blanks (by decide) ((reads_bump 't').seq ((reads_keyword _).seq (Reads.pure _)))
  | @nat n h =>
    intro ind fuel _ hfuel
    obtain ⟨fuel, rfl⟩ : ∃ f, fuel = f + 1 := ⟨fuel - 1, by omega⟩
    have hstart := pretty_startsValue ind (.num (.nat n))
    rw [pretty_num] at hstart ⊢
    exact readsValue_anyValue_of_number hstart (by simpa [Number.text] using reads_number_nat "u64" h [] blank_nil) fuel
  | @neg n hlow hneg =>
    intro ind fuel _ hfuel
    obtain ⟨fuel, rfl⟩ : ∃ f, fuel = f + 1 := ⟨fuel - 1, by omega⟩
    have hstart := pretty_startsValue ind (.num (.neg n))
    rw [pretty_num] at hstart ⊢
    exact readsValue_anyValue_of_number hstart (by simpa [Number.text] using reads_number_neg "i64" hlow hneg [] blank_nil) fuel
  | @float f h =>
    intro ind fuel _ hfuel
    obtain ⟨fuel, rfl⟩ : ∃ f, fuel = f + 1 := ⟨fuel - 1, by omega⟩
    have hstart := pretty_startsValue ind (.num (.float f))
    rw [pretty_num] at hstart ⊢
    exact readsValue_anyValue_of_number hstart h fuel
  | str s =>
    intro ind fuel _ hfuel
    obtain ⟨fuel, rfl⟩ : ∃ f, fuel = f + 1 := ⟨fuel - 1, by omega⟩
    have htext : (Json.pretty ind (.str s)).toList = '"' :: (escaped s.toList ++ ['"']) := by
      simp [Json.pretty, Json.compact, jsonQuote_toList]
    rw [htext, Reader.anyValue]
    exact ReadsValue.of_blanks (by decide) ((reads_bump '"').seq ((reads_stringBody s).bind_pure rfl))
  | @arr items h ih =>
    intro ind fuel hind hfuel
    obtain ⟨fuel, rfl⟩ : ∃ f, fuel = f + 1 := ⟨fuel - 1, by omega⟩
    rw [pretty_arr] at hfuel ⊢
    rw [Reader.anyValue, Json.depth]
    apply ReadsValue.of_blanks (by decide)
    have hitems : List.Forall₂ (fun j v => ∀ fuel, (Json.pretty (ind ++ "  ") j).toList.length < fuel →
        Reads (Reader.anyValue fuel) (Json.depthItems items) Ends (Json.pretty (ind ++ "  ") j).toList v)
        items items := by
      refine List.forall₂_same.mpr fun j hj fuel hlt => ?_
      have hval := ih j hj (ind ++ "  ") fuel (blank_indent hind) hlt [] blank_nil
      exact (hval.mono (Json.depth_le_depthItems hj) fun _ h => h)
    have hloop : Reads (Reader.anyItems fuel true []) (Json.depthItems items) (fun r => r.head? = some ']')
        (itemsText ind true items) items := by
      rw [anyItems_eq_itemsLoop]
      simpa using reads_itemsLoop hind hitems true [] fuel (by simp at hfuel; omega)
    exact Reads.bracket_then '[' hloop reads_closeList (fun r _ => rfl) rfl
  | @obj ms hs h ih =>
    intro ind fuel hind hfuel
    obtain ⟨fuel, rfl⟩ : ∃ f, fuel = f + 1 := ⟨fuel - 1, by omega⟩
    rw [pretty_obj] at hfuel ⊢
    rw [Reader.anyValue, Json.depth]
    apply ReadsValue.of_blanks (by decide)
    have hms : List.Forall₂ (fun m p => p.1 = m.1 ∧ ∀ fuel, (Json.pretty (ind ++ "  ") m.2).toList.length < fuel →
        ReadsValue (Reader.anyValue fuel) (Json.depthMembers ms) (Json.pretty (ind ++ "  ") m.2).toList p.2)
        ms ms := by
      refine List.forall₂_same.mpr fun m hm => ⟨rfl, fun fuel hlt => ?_⟩
      exact (ih m hm (ind ++ "  ") fuel (blank_indent hind) hlt).mono (Json.depth_le_depthMembers hm)
    have hloop : Reads (Reader.anyMembers fuel true []) (Json.depthMembers ms) (fun r => r.head? = some '}')
        (membersText ind true ms) ms := by
      rw [anyMembers_eq_membersLoop]
      have := reads_membersLoop hind hms true [] fuel (by simp at hfuel; omega)
      rwa [foldl_insertSorted hs [] (by simp), List.nil_append] at this
    exact Reads.bracket_then '{' hloop reads_closeObject (fun r _ => rfl) rfl

/-- The value reader reads a value back from its text, when the value is one
its text can give back. -/
theorem reads_json {j : Json} (hj : j.Storable) {ind : String} (hind : Blank ind.toList) :
    ReadsValue Reader.json j.depth (Json.pretty ind j).toList j := by
  intro ws hws
  exact Reads.withFuel fun fuel hfuel =>
    reads_anyValue hj ind fuel hind (by simp at hfuel; omega) ws hws

end NotebookGuard.Proofs
