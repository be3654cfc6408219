import NotebookGuard.Proofs.ScalarText
/-!
# The writer's layout, read back

The writer lays out arrays and objects one item or member a line. The readers
are followed through that layout, from the separators to the loops
(`itemsLoop`, `membersLoop`) and to whole arrays, maps and records
(`reads_list`, `reads_strMap`, `reads_record`).
-/

namespace NotebookGuard.Proofs

variable {α : Type}

/-! ### Where a written value starts -/

/-- A text that starts a value: its first character is no blank and closes no
bracket. -/
def StartsValue (s : List Char) : Prop :=
  ∃ ch, s.head? = some ch ∧ isJsonBlank ch = false ∧ ch ≠ ']' ∧ ch ≠ '}'

lemma startsValue_of_head {s : List Char} {ch : Char} (hs : s.head? = some ch)
    (h : ch = '-' ∨ ch = 'n' ∨ ch.isDigit = true ∨ ch = 't' ∨ ch = 'f' ∨ ch = '"' ∨ ch = '[' ∨
      ch = '{') : StartsValue s := by
  refine ⟨ch, hs, ?_⟩
  rcases h with rfl | rfl | hd | rfl | rfl | rfl | rfl | rfl
  · decide
  · decide
  · refine ⟨isJsonBlank_of_isDigit hd, ?_, ?_⟩ <;> (intro heq; subst heq; exact absurd hd (by decide))
  all_goals decide

lemma head?_toDigits (n : Nat) : ∃ ch, (Nat.toDigits 10 n).head? = some ch ∧ ch.isDigit = true := by
  obtain ⟨ch, t, h, hd⟩ := toDigits_eq_cons n
  exact ⟨ch, by simp [h], hd⟩

lemma jsonText_start (d : Decimal) :
    ∃ ch, d.jsonText.toList.head? = some ch ∧ (ch = '-' ∨ ch.isDigit = true) := by
  by_cases hneg : d.neg
  · refine ⟨'-', ?_, .inl rfl⟩
    unfold Decimal.jsonText
    split_ifs <;> simp [Decimal.signText, hneg, String.toList_append]
  · obtain ⟨ch, hs, hdig⟩ := head?_toDigits d.digits
    unfold Decimal.jsonText
    simp only [Decimal.signText, hneg, Bool.false_eq_true, ↓reduceIte, String.empty_append]
    split_ifs with h0 h1 h2 h3 h4
    · exact ⟨'0', by decide, .inr rfl⟩
    · exact ⟨ch, by simp [String.toList_append, Nat.toString_eq_repr, Nat.toList_repr, hs], .inr hdig⟩
    · refine ⟨ch, ?_, .inr hdig⟩
      simp only [String.toList_append, String.toList_ofList, List.head?_append, List.head?_take]
      rw [if_neg (by omega), Nat.toString_eq_repr, Nat.toList_repr, hs]
      rfl
    · exact ⟨'0', by simp [String.toList_append], .inr rfl⟩
    · exact ⟨ch, by simp [String.toList_append, Nat.toString_eq_repr, Nat.toList_repr, hs], .inr hdig⟩
    · exact ⟨ch, by simp [String.toList_append, Nat.toString_eq_repr, Nat.toList_repr, List.head?_take, hs],
        .inr hdig⟩

lemma floatText_start (f : Float) : StartsValue (FloatText.json f).toList := by
  unfold FloatText.json
  split
  · obtain ⟨ch, h, hch⟩ := jsonText_start (Binary.ofFloat f).shortest
    rcases hch with hch | hch
    · exact startsValue_of_head h (.inl hch)
    · exact startsValue_of_head h (.inr (.inr (.inl hch)))
  · exact @startsValue_of_head _ 'n' (by decide) (.inr (.inl rfl))

/-- Every written value starts a value. -/
lemma pretty_startsValue (ind : String) (j : Json) : StartsValue (Json.pretty ind j).toList := by
  cases j with
  | null => exact @startsValue_of_head _ 'n' (by simp [Json.pretty, Json.compact]) (by simp)
  | bool b =>
    cases b
    · exact @startsValue_of_head _ 'f' (by simp [Json.pretty, Json.compact]) (by simp)
    · exact @startsValue_of_head _ 't' (by simp [Json.pretty, Json.compact]) (by simp)
  | num n =>
    cases n with
    | nat n =>
      obtain ⟨ch, hs, hd⟩ := head?_toDigits n
      exact @startsValue_of_head _ ch
        (by simp [Json.pretty, Json.compact, Number.text, Nat.toString_eq_repr, Nat.toList_repr, hs])
        (.inr (.inr (.inl hd)))
    | neg n =>
      rcases Int.lt_or_le n 0 with hn | hn
      · obtain ⟨m, rfl⟩ := Int.eq_negSucc_of_lt_zero hn
        exact @startsValue_of_head _ '-'
          (by simp [Json.pretty, Json.compact, Number.text, toString, Int.repr]) (.inl rfl)
      · obtain ⟨m, rfl⟩ := Int.eq_ofNat_of_zero_le hn
        obtain ⟨ch, hs, hd⟩ := head?_toDigits m
        exact @startsValue_of_head _ ch
          (by simp [Json.pretty, Json.compact, Number.text, toString, Int.repr, Nat.toList_repr, hs])
          (.inr (.inr (.inl hd)))
    | float f => simpa [Json.pretty, Json.compact, Number.text] using floatText_start f
  | str s =>
    exact @startsValue_of_head _ '"' (by simp [Json.pretty, Json.compact, jsonQuote_toList]) (by simp)
  | arr items =>
    cases items
    · exact @startsValue_of_head _ '[' (by simp [Json.pretty]) (by simp)
    · exact @startsValue_of_head _ '[' (by simp [Json.pretty, String.toList_append]) (by simp)
  | obj ms =>
    cases ms
    · exact @startsValue_of_head _ '{' (by simp [Json.pretty]) (by simp)
    · exact @startsValue_of_head _ '{' (by simp [Json.pretty, String.toList_append]) (by simp)

/-! ### Separators -/

/-- What stands before an item or a member: a line break, after a comma unless it
is the first. -/
def sep (first : Bool) : List Char := if first then ['\n'] else [',', '\n']

lemma runOn_nextItem_first {c : Cursor} {ws t : List Char} {ch : Char} (hws : Blank ws)
    (h : ahead c = ws ++ ch :: t) (hch : isJsonBlank ch = false) (hclose : ch ≠ ']') :
    runOn (Reader.nextItem true) c = (.ok true, advance c ws.length) := by
  have hblanks := runOn_blanks hws h (by simp [StartsUnblank, hch])
  simp only [Reader.nextItem, runOn_bind, hblanks, List.head?_cons]
  split
  · rename_i heq; cases heq; exact absurd rfl hclose
  · rename_i heq; cases heq; rfl
  · rename_i heq; cases heq
    simp only [↓reduceIte, runOn_bind, runOn_pure]
  · rename_i heq; cases heq

lemma runOn_nextItem_next {c : Cursor} {ws t : List Char} {ch : Char} (hws : Blank ws)
    (h : ahead c = ',' :: (ws ++ ch :: t)) (hch : isJsonBlank ch = false) (hclose : ch ≠ ']') :
    runOn (Reader.nextItem false) c = (.ok true, advance c (ws.length + 1)) := by
  have hcomma := runOn_blanks_head h (by decide)
  have hblanks := runOn_blanks hws (ahead_advance_cons h) (by simp [StartsUnblank, hch])
  simp [Reader.nextItem, runOn_bind, hcomma, hblanks, Nat.add_comm]

/-- Before an item: the separator and the line's blanks are passed over. -/
lemma runOn_nextItem_item (first : Bool) {c : Cursor} {ws t : List Char} {ch : Char} (hws : Blank ws)
    (h : ahead c = sep first ++ ws ++ ch :: t) (hch : isJsonBlank ch = false) (hclose : ch ≠ ']') :
    runOn (Reader.nextItem first) c = (.ok true, advance c (sep first ++ ws).length) := by
  cases first
  · simp only [sep, Bool.false_eq_true, ↓reduceIte, List.cons_append] at h ⊢
    rw [@runOn_nextItem_next _ ('\n' :: ws) _ _ (by simp [hws, isJsonBlank]) h hch hclose]
    simp
  · simp only [sep, ↓reduceIte, List.singleton_append] at h ⊢
    exact @runOn_nextItem_first _ ('\n' :: ws) _ _ (by simp [hws, isJsonBlank]) h hch hclose

lemma runOn_nextItem_end (first : Bool) {c : Cursor} {ws t : List Char} (hws : Blank ws)
    (h : ahead c = ws ++ ']' :: t) :
    runOn (Reader.nextItem first) c = (.ok false, advance c ws.length) := by
  have hblanks := runOn_blanks hws h (by simp [StartsUnblank, isJsonBlank])
  simp only [Reader.nextItem, runOn_bind, hblanks, List.head?_cons]
  rfl

section Separators

variable {d : Nat} {P : List Char → Prop} {ws : List Char}

lemma reads_nextItem_item (first : Bool) (hws : Blank ws) :
    Reads (Reader.nextItem first) d StartsValue (sep first ++ ws) true := by
  intro c rest h hr _ _
  obtain ⟨ch, hch, hblank, hclose, -⟩ := hr
  obtain ⟨t, rfl⟩ := eq_cons_of_head? hch
  exact runOn_nextItem_item first hws (by simpa using h) hblank hclose

lemma reads_nextItem_end (first : Bool) (hws : Blank ws) :
    Reads (Reader.nextItem first) d (fun r => r.head? = some ']') ws false := by
  intro c rest h hr _ _
  obtain ⟨t, rfl⟩ := eq_cons_of_head? hr
  exact runOn_nextItem_end first hws h

lemma reads_key (k : String) :
    Reads (do Reader.bump; let s ← Reader.stringBody; pure (some s)) d P (jsonQuote k).toList (some k) := by
  rw [jsonQuote_toList]
  exact (reads_bump '"').seq ((reads_stringBody k).bind_pure rfl)

/-- Before a member: the separator and the line's blanks are passed over, and
the key is read. -/
lemma reads_nextKey_key (first : Bool) (hws : Blank ws) (k : String) :
    Reads (Reader.nextKey first) d P (sep first ++ ws ++ (jsonQuote k).toList) (some k) := by
  have hquote : (jsonQuote k).toList = '"' :: (escaped k.toList ++ ['"']) := jsonQuote_toList k
  have hline : Blank ('\n' :: ws) := by simp [hws, isJsonBlank]
  cases first
  · have htext : sep false ++ ws ++ (jsonQuote k).toList = [','] ++ (('\n' :: ws) ++ (jsonQuote k).toList) := by
      simp [sep]
    rw [htext]
    unfold Reader.nextKey
    refine (@reads_blanks [] ',' _ (by simp) (by decide)).bind ?_ (fun r _ => by simp)
    refine (reads_bump ',').seq ?_
    refine (@reads_blanks _ '"' _ hline (by decide)).bind (reads_key k) (fun r _ => by simp [hquote])
  · have htext : sep true ++ ws ++ (jsonQuote k).toList = ('\n' :: ws) ++ (jsonQuote k).toList := by
      simp [sep]
    rw [htext]
    unfold Reader.nextKey
    refine (@reads_blanks _ '"' _ hline (by decide)).bind ?_ (fun r _ => by simp [hquote])
    exact Reads.pure_bind (reads_key k)

lemma reads_nextKey_end (first : Bool) (hws : Blank ws) :
    Reads (Reader.nextKey first) d (fun r => r.head? = some '}') ws none := by
  unfold Reader.nextKey
  exact (reads_blanks hws (by decide)).bind_pure rfl

lemma reads_colon : Reads Reader.colon d P [':'] () := by
  unfold Reader.colon
  exact (@reads_blanks [] ':' _ (by simp) (by decide)).bind (reads_bump ':') (fun r _ => by simp)

lemma reads_closeList : Reads Reader.closeList d P [']'] () := by
  unfold Reader.closeList
  exact (@reads_blanks [] ']' _ (by simp) (by decide)).bind (reads_bump ']') (fun r _ => by simp)

lemma reads_closeObject : Reads Reader.closeObject d P ['}'] () := by
  unfold Reader.closeObject
  exact (@reads_blanks [] '}' _ (by simp) (by decide)).bind (reads_bump '}') (fun r _ => by simp)

end Separators

/-! ### The layout of arrays and objects -/

/-- The text between an array's brackets as the writer lays it out at indent
`ind`, one item a line at `ind ++ "  "`; `first` tells that no item came
before. -/
def itemsText (ind : String) (first : Bool) : List Json → List Char
  | [] => if first then [] else '\n' :: ind.toList
  | j :: rest => sep first ++ (ind ++ "  ").toList ++ (Json.pretty (ind ++ "  ") j).toList ++
      itemsText ind false rest

/-- The text between an object's braces, laid out as `itemsText` lays out items. -/
def membersText (ind : String) (first : Bool) : List (String × Json) → List Char
  | [] => if first then [] else '\n' :: ind.toList
  | (k, j) :: rest => sep first ++ (ind ++ "  ").toList ++ (jsonQuote k).toList ++ [':', ' '] ++
      (Json.pretty (ind ++ "  ") j).toList ++ membersText ind false rest

lemma sep_prettyItems (ind : String) (j : Json) (rest : List Json) : ∀ first,
    sep first ++ (Json.prettyItems (ind ++ "  ") (j :: rest)).toList ++ '\n' :: ind.toList =
      itemsText ind first (j :: rest) := by
  induction rest generalizing j with
  | nil => intro first; simp [Json.prettyItems, itemsText, String.toList_append]
  | cons j' rest ih =>
    intro first
    rw [itemsText, ← ih j' false]
    simp [Json.prettyItems, String.toList_append, sep]

lemma sep_prettyMembers (ind : String) (m : String × Json) (rest : List (String × Json)) : ∀ first,
    sep first ++ (Json.prettyMembers (ind ++ "  ") (m :: rest)).toList ++ '\n' :: ind.toList =
      membersText ind first (m :: rest) := by
  induction rest generalizing m with
  | nil => intro first; simp [Json.prettyMembers, membersText, String.toList_append]
  | cons m' rest ih =>
    intro first
    rw [membersText, ← ih m' false]
    simp [Json.prettyMembers, String.toList_append, sep]

lemma pretty_arr (ind : String) (items : List Json) :
    (Json.pretty ind (.arr items)).toList = '[' :: (itemsText ind true items ++ [']']) := by
  cases items with
  | nil => simp [Json.pretty, itemsText]
  | cons j rest =>
    rw [← sep_prettyItems ind j rest true]
    simp [Json.pretty, String.toList_append, sep]

lemma pretty_obj (ind : String) (ms : List (String × Json)) :
    (Json.pretty ind (.obj ms)).toList = '{' :: (membersText ind true ms ++ ['}']) := by
  cases ms with
  | nil => simp [Json.pretty, membersText]
  | cons m rest =>
    rw [← sep_prettyMembers ind m rest true]
    simp [Json.pretty, String.toList_append, sep]

lemma blank_indent {ind : String} (h : Blank ind.toList) : Blank (ind ++ "  ").toList := by
  simp [String.toList_append, h, isJsonBlank]

lemma startsValue_append {s : List Char} (t : List Char) (h : StartsValue s) : StartsValue (s ++ t) := by
  obtain ⟨ch, hs, hch⟩ := h
  obtain ⟨u, rfl⟩ := eq_cons_of_head? hs
  exact ⟨ch, by simp, hch⟩

lemma ends_itemsText (ind : String) (items : List Json) (r : List Char) : Ends (itemsText ind false items ++ r) := by
  cases items <;> exact ends_cons (by decide)

lemma ends_membersText (ind : String) (ms : List (String × Json)) (r : List Char) :
    Ends (membersText ind false ms ++ r) := by
  cases ms <;> exact ends_cons (by decide)

lemma sep_length_pos (first : Bool) : 0 < (sep first).length := by
  cases first <;> simp [sep]

/-! ### Reading items and members one by one -/

/-- The loop of the array readers, given the reader of an item for the fuel left. -/
def itemsLoop (x : Nat → Reader α) : Nat → Bool → List α → Reader (List α)
  | 0, _, acc => pure acc.reverse
  | fuel + 1, first, acc => do
    if ← Reader.nextItem first then
      let v ← x fuel
      itemsLoop x fuel false (v :: acc)
    else pure acc.reverse

lemma itemsOf_eq_itemsLoop (x : Reader α) (fuel : Nat) :
    ∀ first acc, Reader.itemsOf x fuel first acc = itemsLoop (fun _ => x) fuel first acc := by
  induction fuel with
  | zero => intro _ _; rfl
  | succ fuel ih => intro first acc; simp only [Reader.itemsOf, itemsLoop, ih]

lemma anyItems_eq_itemsLoop (fuel : Nat) :
    ∀ first acc, Reader.anyItems fuel first acc = itemsLoop Reader.anyValue fuel first acc := by
  induction fuel with
  | zero => intro _ _; rw [Reader.anyItems, itemsLoop]
  | succ fuel ih => intro first acc; rw [Reader.anyItems, itemsLoop]; simp only [ih]

/-- The items of an array, laid out by the writer, are read one by one: each by
its reader, the separators and blanks between them passed over. -/
lemma reads_itemsLoop {x : Nat → Reader α} {D : Nat} {ind : String} (hind : Blank ind.toList)
    {items : List Json} {vs : List α}
    (hitems : List.Forall₂ (fun j v => ∀ fuel, (Json.pretty (ind ++ "  ") j).toList.length < fuel →
      Reads (x fuel) D Ends (Json.pretty (ind ++ "  ") j).toList v) items vs) :
    ∀ first acc fuel, (itemsText ind first items).length < fuel →
      Reads (itemsLoop x fuel first acc) D (fun r => r.head? = some ']') (itemsText ind first items)
        (acc.reverse ++ vs) := by
  induction hitems with
  | nil =>
    intro first acc fuel hfuel
    obtain ⟨fuel, rfl⟩ : ∃ f, fuel = f + 1 := ⟨fuel - 1, by omega⟩
    have hend : Blank (itemsText ind first []) := by cases first <;> simp [itemsText, hind, isJsonBlank]
    rw [List.append_nil]
    exact (reads_nextItem_end first hend).bind_pure rfl
  | @cons j v items vs hjv _ ih =>
    intro first acc fuel hfuel
    obtain ⟨fuel, rfl⟩ : ∃ f, fuel = f + 1 := ⟨fuel - 1, by omega⟩
    have hlen : (itemsText ind first (j :: items)).length = (sep first).length +
        (ind ++ "  ").toList.length + (Json.pretty (ind ++ "  ") j).toList.length +
        (itemsText ind false items).length := by
      simp [itemsText]
      omega
    have hsep := sep_length_pos first
    have htext : itemsText ind first (j :: items) = (sep first ++ (ind ++ "  ").toList) ++
        ((Json.pretty (ind ++ "  ") j).toList ++ itemsText ind false items) := by
      simp [itemsText]
    have hvalue : acc.reverse ++ v :: vs = (v :: acc).reverse ++ vs := by simp
    rw [htext, hvalue]
    refine (reads_nextItem_item first (blank_indent hind)).bind ?_
      (fun r _ => by rw [List.append_assoc]; exact startsValue_append _ (pretty_startsValue _ j))
    exact (hjv fuel (by omega)).bind (ih false (v :: acc) fuel (by omega))
      (fun r _ => ends_itemsText ind items r)

/-- The loop of the object readers, given the reader of a value for the fuel
left; members are kept sorted by key. -/
def membersLoop (x : Nat → Reader α) : Nat → Bool → List (String × α) → Reader (List (String × α))
  | 0, _, acc => pure acc
  | fuel + 1, first, acc => do
    match ← Reader.nextKey first with
    | none => pure acc
    | some k => do
      Reader.colon
      let v ← x fuel
      membersLoop x fuel false (Reader.insertSorted k v acc)

lemma membersOf_eq_membersLoop (x : Reader α) (fuel : Nat) :
    ∀ first acc, Reader.membersOf x fuel first acc = membersLoop (fun _ => x) fuel first acc := by
  induction fuel with
  | zero => intro _ _; rfl
  | succ fuel ih =>
    intro first acc
    rw [Reader.membersOf, membersLoop]
    -- both loops match on the key read, each with a matcher of its own
    congr 1
    funext key
    cases key <;> simp [ih]

lemma insertMember_eq_insertSorted (k : String) (v : Json) (l : List (String × Json)) :
    Json.insertMember k v l = Reader.insertSorted k v l := by
  induction l with
  | nil => rfl
  | cons m l ih => simp [Json.insertMember, Reader.insertSorted, ih]

lemma anyMembers_eq_membersLoop (fuel : Nat) :
    ∀ first acc, Reader.anyMembers fuel first acc = membersLoop Reader.anyValue fuel first acc := by
  induction fuel with
  | zero => intro _ _; rw [Reader.anyMembers, membersLoop]
  | succ fuel ih =>
    intro first acc
    rw [Reader.anyMembers, membersLoop]
    congr 1
    funext key
    cases key <;> simp [ih, insertMember_eq_insertSorted]

/-- The members of an object, laid out by the writer, are read one by one: key,
colon and value, each put into the members read so far. -/
lemma reads_membersLoop {x : Nat → Reader α} {D : Nat} {ind : String} (hind : Blank ind.toList)
    {ms : List (String × Json)} {ps : List (String × α)}
    (hms : List.Forall₂ (fun m p => p.1 = m.1 ∧ ∀ fuel, (Json.pretty (ind ++ "  ") m.2).toList.length < fuel →
      ReadsValue (x fuel) D (Json.pretty (ind ++ "  ") m.2).toList p.2) ms ps) :
    ∀ first acc fuel, (membersText ind first ms).length < fuel →
      Reads (membersLoop x fuel first acc) D (fun r => r.head? = some '}') (membersText ind first ms)
        (ps.foldl (fun acc p => Reader.insertSorted p.1 p.2 acc) acc) := by
  induction hms with
  | nil =>
    intro first acc fuel hfuel
    obtain ⟨fuel, rfl⟩ : ∃ f, fuel = f + 1 := ⟨fuel - 1, by omega⟩
    have hend : Blank (membersText ind first []) := by
      cases first <;> simp [membersText, hind, isJsonBlank]
    exact (reads_nextKey_end first hend).bind_pure rfl
  | @cons m p ms ps hmp _ ih =>
    obtain ⟨k, j⟩ := m
    obtain ⟨k', v⟩ := p
    obtain ⟨hk, hv⟩ := hmp
    simp only at hk hv
    subst hk
    intro first acc fuel hfuel
    obtain ⟨fuel, rfl⟩ : ∃ f, fuel = f + 1 := ⟨fuel - 1, by omega⟩
    have hlen : (membersText ind first ((k', j) :: ms)).length = (sep first).length +
        (ind ++ "  ").toList.length + (jsonQuote k').toList.length + 2 +
        (Json.pretty (ind ++ "  ") j).toList.length + (membersText ind false ms).length := by
      simp [membersText]
      omega
    have htext : membersText ind first ((k', j) :: ms) = (sep first ++ (ind ++ "  ").toList ++
        (jsonQuote k').toList) ++ ([':'] ++ (([' '] ++ (Json.pretty (ind ++ "  ") j).toList) ++
        membersText ind false ms)) := by
      simp [membersText]
    rw [htext]
    refine (reads_nextKey_key first (blank_indent hind) k').bind (P := fun _ => True) ?_ (fun _ _ => trivial)
    refine reads_colon.seq ?_
    exact (hv fuel (by omega) [' '] (by simp [isJsonBlank])).bind
      (ih false _ fuel (by omega)) (fun r _ => ends_membersText ind ms r)

/-- The members of a record, laid out by the writer, are read one by one into
the record: each key names a field that is read once, and every required field
is among them or already read. -/
lemma reads_recordMembers {fields : List (Field α)} {D : Nat} {ind : String} (hind : Blank ind.toList)
    (upd : String × Json → α → α) {ms : List (String × Json)}
    (hfields : ∀ m ∈ ms, ∃ f, fields.find? (·.name == m.1) = some f ∧
      ∀ acc, ReadsValue (f.read acc) D (Json.pretty (ind ++ "  ") m.2).toList (upd m acc))
    (hkeys : (ms.map Prod.fst).Nodup) :
    ∀ first seen acc fuel, (∀ m ∈ ms, m.1 ∉ seen) →
      (∀ f ∈ fields, f.required = true → f.name ∈ seen ∨ f.name ∈ ms.map Prod.fst) →
      (membersText ind first ms).length < fuel →
      Reads (Reader.recordMembers fields fuel first seen acc) D (fun r => r.head? = some '}')
        (membersText ind first ms) (ms.foldl (fun acc m => upd m acc) acc) := by
  induction ms with
  | nil =>
    intro first seen acc fuel _ hreq hfuel
    obtain ⟨fuel, rfl⟩ : ∃ f, fuel = f + 1 := ⟨fuel - 1, by omega⟩
    have hend : Blank (membersText ind first []) := by
      cases first <;> simp [membersText, hind, isJsonBlank]
    have hnone : fields.find? (fun f => f.required && !seen.contains f.name) = none := by
      rw [List.find?_eq_none]
      intro f hf
      have := hreq f hf
      by_cases hr : f.required = true
      · simp_all
      · simp_all
    refine (reads_nextKey_end first hend).bind_pure ?_
    simp only [hnone]
    rfl
  | cons m ms ih =>
    obtain ⟨k, j⟩ := m
    intro first seen acc fuel hseen hreq hfuel
    obtain ⟨fuel, rfl⟩ : ∃ f, fuel = f + 1 := ⟨fuel - 1, by omega⟩
    obtain ⟨f, hfind, hread⟩ := hfields (k, j) (by simp)
    simp only [List.map_cons, List.nodup_cons] at hkeys
    have hnew : seen.contains k = false := by simpa using hseen (k, j) (by simp)
    have hlen : (membersText ind first ((k, j) :: ms)).length = (sep first).length +
        (ind ++ "  ").toList.length + (jsonQuote k).toList.length + 2 +
        (Json.pretty (ind ++ "  ") j).toList.length + (membersText ind false ms).length := by
      simp [membersText]
      omega
    have htext : membersText ind first ((k, j) :: ms) = (sep first ++ (ind ++ "  ").toList ++
        (jsonQuote k).toList) ++ ([':'] ++ (([' '] ++ (Json.pretty (ind ++ "  ") j).toList) ++
        membersText ind false ms)) := by
      simp [membersText]
    have hrest := ih (fun m hm => hfields m (by simp [hm])) hkeys.2 false (k :: seen) (upd (k, j) acc) fuel
      (fun m hm => by
        simp only [List.mem_cons, not_or]
        exact ⟨fun h => hkeys.1 (h ▸ List.mem_map_of_mem hm), hseen m (by simp [hm])⟩)
      (fun f hf hr => by
        rcases hreq f hf hr with h | h
        · exact .inl (List.mem_cons_of_mem _ h)
        · simp only [List.map_cons, List.mem_cons] at h
          rcases h with h | h
          · exact .inl (by simp [h])
          · exact .inr h)
      (by omega)
    rw [htext, List.foldl_cons]
    refine (reads_nextKey_key first (blank_indent hind) k).bind (P := fun _ => True) ?_ (fun _ _ => trivial)
    simp only [hfind, hnew]
    refine reads_colon.seq ?_
    exact (hread acc [' '] (by simp [isJsonBlank])).bind hrest (fun r _ => ends_membersText ind ms r)

/-! ### Whole arrays, maps and records -/


/-- An array, laid out by the writer, is read item by item. -/
theorem reads_list {x : Reader α} {D : Nat} {ind : String} (hind : Blank ind.toList)
    {items : List Json} {vs : List α}
    (hitems : List.Forall₂ (fun j v => Reads x D Ends (Json.pretty (ind ++ "  ") j).toList v) items vs) :
    ReadsValue (Reader.list x) (D + 1) (Json.pretty ind (.arr items)).toList vs := by
  rw [pretty_arr]
  apply ReadsValue.of_blanks (by decide)
  have hloop : Reads (do Reader.itemsOf x (← Reader.fuel) true []) D (fun r => r.head? = some ']')
      (itemsText ind true items) vs := by
    refine Reads.withFuel fun fuel hfuel => ?_
    rw [itemsOf_eq_itemsLoop]
    simpa using reads_itemsLoop hind (x := fun _ => x) (hitems.imp fun _ _ h _ _ => h) true [] fuel hfuel
  exact Reads.bracket '[' hloop reads_closeList fun r _ => rfl

/-- A map with string keys, laid out by the writer, is read member by member,
each put in its place by key. -/
theorem reads_strMap {x : Reader α} {D : Nat} {ind : String} (hind : Blank ind.toList)
    {ms : List (String × Json)} {ps : List (String × α)}
    (hms : List.Forall₂ (fun m p => p.1 = m.1 ∧
      ReadsValue x D (Json.pretty (ind ++ "  ") m.2).toList p.2) ms ps) :
    ReadsValue (Reader.strMap x) (D + 1) (Json.pretty ind (.obj ms)).toList
      (ps.foldl (fun acc p => Reader.insertSorted p.1 p.2 acc) []) := by
  rw [pretty_obj]
  apply ReadsValue.of_blanks (by decide)
  have hloop : Reads (do Reader.membersOf x (← Reader.fuel) true []) D (fun r => r.head? = some '}')
      (membersText ind true ms) (ps.foldl (fun acc p => Reader.insertSorted p.1 p.2 acc) []) := by
    refine Reads.withFuel fun fuel hfuel => ?_
    rw [membersOf_eq_membersLoop]
    exact reads_membersLoop hind (x := fun _ => x) (hms.imp fun _ _ h => ⟨h.1, fun _ _ => h.2⟩) true [] fuel
      hfuel
  exact Reads.bracket '{' hloop reads_closeObject fun r _ => rfl

/-- A record, laid out by the writer as an object, is read member by member
into the record. -/
theorem reads_record {name : String} {init : α} {fields : List (Field α)} {D : Nat} {ind : String}
    (hind : Blank ind.toList) (upd : String × Json → α → α) {ms : List (String × Json)}
    (hfields : ∀ m ∈ ms, ∃ f, fields.find? (·.name == m.1) = some f ∧
      ∀ acc, ReadsValue (f.read acc) D (Json.pretty (ind ++ "  ") m.2).toList (upd m acc))
    (hkeys : (ms.map Prod.fst).Nodup)
    (hreq : ∀ f ∈ fields, f.required = true → f.name ∈ ms.map Prod.fst) :
    ReadsValue (Reader.record name init fields) (D + 1) (Json.pretty ind (.obj ms)).toList
      (ms.foldl (fun acc m => upd m acc) init) := by
  rw [pretty_obj]
  apply ReadsValue.of_blanks (by decide)
  have hloop : Reads (do Reader.recordMembers fields (← Reader.fuel) true [] init) D
      (fun r => r.head? = some '}') (membersText ind true ms) (ms.foldl (fun acc m => upd m acc) init) :=
    Reads.withFuel fun fuel hfuel => reads_recordMembers hind upd hfields hkeys true [] init fuel
      (by simp) (fun f hf hr => .inr (hreq f hf hr)) hfuel
  exact Reads.bracket '{' hloop reads_closeObject fun r _ => rfl

/-! ### Members in the order of their keys -/

/-- Members sorted by key, no key twice. -/
def SortedKeys {β : Type} (ms : List (String × β)) : Prop := (ms.map Prod.fst).Pairwise (· < ·)

lemma insertSorted_of_lt {β : Type} {k : String} (v : β) {acc : List (String × β)}
    (h : ∀ p ∈ acc, p.1 < k) : Reader.insertSorted k v acc = acc ++ [(k, v)] := by
  induction acc with
  | nil => rfl
  | cons p acc ih =>
    obtain ⟨k', v'⟩ := p
    have hp : k' < k := h (k', v') (by simp)
    have hrest := ih fun q hq => h q (by simp [hq])
    simp [Reader.insertSorted, lt_asymm hp, ne_of_gt hp, hrest]

lemma foldl_insertSorted {β : Type} {ps : List (String × β)} (hs : SortedKeys ps) :
    ∀ acc : List (String × β), (∀ p ∈ acc, ∀ q ∈ ps, p.1 < q.1) →
      ps.foldl (fun acc p => Reader.insertSorted p.1 p.2 acc) acc = acc ++ ps := by
  induction ps with
  | nil => intro acc _; simp
  | cons q ps ih =>
    intro acc hacc
    simp only [SortedKeys, List.map_cons, List.pairwise_cons, List.mem_map] at hs
    have hstep : Reader.insertSorted q.1 q.2 acc = acc ++ [q] :=
      insertSorted_of_lt q.2 fun p hp => hacc p hp q (by simp)
    rw [List.foldl_cons, hstep, ih hs.2 (acc ++ [q])]
    · simp
    · intro p hp r hr
      rcases List.mem_append.mp hp with hp | hp
      · exact hacc p hp r (by simp [hr])
      · rw [List.mem_singleton.mp hp]
        exact hs.1 r.1 ⟨r, hr, rfl⟩

end NotebookGuard.Proofs
