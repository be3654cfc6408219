import NotebookGuard.Proofs.ReaderRoom
import NotebookGuard.Proofs.ReportText
/-!
# What the readers give

The reader of any value gives one the writer gives back once its doubles read
back (`Json.Decoded`); the typed readers give integers within their width and
maps with their keys in order, and a record's reader keeps what each field's
reader keeps.
-/

open Std.Do

set_option mvcgen.warning false

namespace NotebookGuard.Proofs

/-- A map as the readers give it: its keys in order, every value with `P`. -/
structure SortedWith {β : Type} (P : β → Prop) (ms : List (String × β)) : Prop where
  sorted : SortedKeys ms
  values : ∀ m ∈ ms, P m.2

lemma SortedWith.nil {β : Type} (P : β → Prop) : SortedWith P [] :=
  ⟨List.Pairwise.nil, fun _ h => by cases h⟩

/-- A value with `P` put into a map keeps it sorted, every value with `P`. -/
lemma SortedWith.putSorted {β : Type} {P : β → Prop} {acc : List (String × β)} (h : SortedWith P acc)
    (k : String) {v : β} (hv : P v) : SortedWith P (putSorted k v acc) := by
  refine ⟨putSorted_sorted k v h.sorted, fun m hm => ?_⟩
  rcases mem_putSorted hm with rfl | hm
  · exact hv
  · exact h.values m hm

end NotebookGuard.Proofs

namespace NotebookGuard.Json

mutual

/-- The doubles in a value, in the order they are written. -/
def floats : Json → List Float
  | .num (.float f) => [f]
  | .arr items => floatsItems items
  | .obj members => floatsMembers members
  | _ => []

def floatsItems : List Json → List Float
  | [] => []
  | j :: rest => j.floats ++ floatsItems rest

def floatsMembers : List (String × Json) → List Float
  | [] => []
  | (_, j) :: rest => j.floats ++ floatsMembers rest

end

lemma floats_subset_floatsItems {j : Json} {items : List Json} (h : j ∈ items) :
    j.floats ⊆ floatsItems items := by
  induction items with
  | nil => cases h
  | cons j' items ih =>
    rw [floatsItems]
    rcases List.mem_cons.mp h with rfl | h
    · exact List.subset_append_left _ _
    · exact List.Subset.trans (ih h) (List.subset_append_right _ _)

lemma floats_subset_floatsMembers {m : String × Json} {ms : List (String × Json)} (h : m ∈ ms) :
    m.2.floats ⊆ floatsMembers ms := by
  induction ms with
  | nil => cases h
  | cons m' ms ih =>
    obtain ⟨k', j'⟩ := m'
    rw [floatsMembers]
    rcases List.mem_cons.mp h with rfl | h
    · exact List.subset_append_left _ _
    · exact List.Subset.trans (ih h) (List.subset_append_right _ _)

lemma depthItems_le {n : Nat} {items : List Json} (h : ∀ j ∈ items, j.depth ≤ n) : depthItems items ≤ n := by
  induction items with
  | nil => exact Nat.zero_le n
  | cons j items ih =>
    rw [depthItems]
    exact max_le (h j List.mem_cons_self) (ih fun j' hj' => h j' (List.mem_cons_of_mem _ hj'))

lemma depthMembers_le {n : Nat} {ms : List (String × Json)} (h : ∀ m ∈ ms, m.2.depth ≤ n) :
    depthMembers ms ≤ n := by
  induction ms with
  | nil => exact Nat.zero_le n
  | cons m ms ih =>
    obtain ⟨k, j⟩ := m
    rw [depthMembers]
    exact max_le (h (k, j) List.mem_cons_self) (ih fun m' hm' => h m' (List.mem_cons_of_mem _ hm'))

/-- A value as the reader of any value gives it with `room` levels of room: it
nests no deeper, and its text reads back as it once its doubles do. -/
structure Decoded (room : Nat) (j : Json) : Prop where
  depth_le : j.depth ≤ room - 1
  storable : (∀ f ∈ j.floats, Proofs.FloatReadsBack f) → j.Storable

lemma Decoded.null (room : Nat) : Json.null.Decoded room := ⟨by simp [depth], fun _ => .null⟩

lemma Decoded.bool (room : Nat) (b : Bool) : (Json.bool b).Decoded room := ⟨by simp [depth], fun _ => .bool b⟩

lemma Decoded.str (room : Nat) (s : String) : (Json.str s).Decoded room := ⟨by simp [depth], fun _ => .str s⟩

lemma Decoded.num (room : Nat) {n : Number} (hn : n.InRange) : (Json.num n).Decoded room := by
  refine ⟨by simp [depth], fun hf => ?_⟩
  cases n with
  | nat n => exact .nat hn
  | neg n => exact .neg hn.1 hn.2
  | float f => exact .float (hf f (by simp [floats]))

lemma Decoded.arr {room : Nat} {items : List Json} (hroom : 1 < room)
    (h : ∀ j ∈ items, j.Decoded (room - 1)) : (Json.arr items).Decoded room := by
  refine ⟨?_, fun hf => .arr fun j hj => (h j hj).storable fun f hfj => ?_⟩
  · have hle := depthItems_le fun j hj => (h j hj).depth_le
    rw [depth]
    omega
  · exact hf f (by rw [floats]; exact floats_subset_floatsItems hj hfj)

lemma Decoded.obj {room : Nat} {ms : List (String × Json)} (hroom : 1 < room)
    (h : Proofs.SortedWith (Decoded (room - 1)) ms) : (Json.obj ms).Decoded room := by
  refine ⟨?_, fun hf => .obj h.sorted fun m hm => (h.values m hm).storable fun f hfm => ?_⟩
  · have hle := depthMembers_le fun m hm => (h.values m hm).depth_le
    rw [depth]
    omega
  · exact hf f (by rw [floats]; exact floats_subset_floatsMembers hm hfm)

end NotebookGuard.Json

namespace NotebookGuard.Proofs

/-! ### Any value -/

/-- The reader of any value, of the items of an array and of the members of an
object, by induction on their fuel together. -/
theorem anyValue_decoded_all (fuel : Nat) :
    (∀ R, ⦃fun c => ⌜c.room = R⌝⦄ Reader.anyValue fuel ⦃RoomPost R (Json.Decoded R)⦄) ∧
    (∀ R first acc, (∀ j ∈ acc, j.Decoded R) →
      ⦃fun c => ⌜c.room = R⌝⦄ Reader.anyItems fuel first acc
      ⦃RoomPost R fun items => ∀ j ∈ items, j.Decoded R⦄) ∧
    (∀ R first acc, SortedWith (Json.Decoded R) acc →
      ⦃fun c => ⌜c.room = R⌝⦄ Reader.anyMembers fuel first acc ⦃RoomPost R (SortedWith (Json.Decoded R))⦄) := by
  induction fuel with
  | zero =>
    refine ⟨fun R => ?_, fun R first acc hacc => ?_, fun R first acc hacc => ?_⟩
    · mvcgen [Reader.anyValue] <;> simp_all
    · mvcgen [Reader.anyItems]
      simp_all
    · mvcgen [Reader.anyMembers]
  | succ fuel ih =>
    obtain ⟨ihValue, ihItems, ihMembers⟩ := ih
    refine ⟨fun R => ?_, fun R first acc hacc => ?_, fun R first acc hacc => ?_⟩
    · -- the brackets' contents are read with one level less
      have harr := nest_spec R fun _ => ihItems (R - 1) true [] (by simp)
      have hobj := nest_spec R fun _ => ihMembers (R - 1) true [] (SortedWith.nil _)
      clear ihValue ihItems ihMembers
      mvcgen [Reader.anyValue, Reader.placed, Reader.attempt, Reader.firstFailure, harr, hobj]
      all_goals clear harr hobj
      all_goals simp_all [Json.Decoded.null, Json.Decoded.bool, Json.Decoded.str, Json.Decoded.num,
        Json.Decoded.arr, Json.Decoded.obj]
    · have hvalue := ihValue R
      clear ihValue ihMembers
      mvcgen [Reader.anyItems, hvalue, ihItems]
      all_goals clear ihItems hvalue
      all_goals simp_all
    · have hvalue := ihValue R
      clear ihValue ihItems
      mvcgen [Reader.anyMembers, hvalue, ihMembers]
      all_goals clear ihMembers hvalue
      all_goals simp_all
      -- the member read joins the others, replacing one of its key
      exact fun _ _ hv => insertMember_eq_putSorted .. ▸ hacc.putSorted _ hv

section Readers

variable {α : Type} (R : Nat)

@[spec] theorem anyValue_decoded (fuel : Nat) :
    ⦃fun c => ⌜c.room = R⌝⦄ Reader.anyValue fuel ⦃RoomPost R (Json.Decoded R)⦄ :=
  (anyValue_decoded_all fuel).1 R

@[spec] theorem json_decoded : ⦃fun c => ⌜c.room = R⌝⦄ Reader.json ⦃RoomPost R (Json.Decoded R)⦄ := by
  mvcgen [Reader.json]
  simp_all

/-! ### Typed values -/

@[spec] theorem string_keepsRoom (expected : String) :
    ⦃fun c => ⌜c.room = R⌝⦄ Reader.string expected ⦃RoomPost R fun _ => True⦄ := by
  mvcgen [Reader.string, Reader.placed] <;> simp_all

@[spec] theorem boolean_keepsRoom : ⦃fun c => ⌜c.room = R⌝⦄ Reader.boolean ⦃RoomPost R fun _ => True⦄ := by
  mvcgen [Reader.boolean, Reader.placed] <;> simp_all

@[spec] theorem number_inRange (expected : String) :
    ⦃fun c => ⌜c.room = R⌝⦄ Reader.number expected ⦃RoomPost R Number.InRange⦄ := by
  mvcgen [Reader.number, Reader.placed] <;> simp_all

@[spec] theorem unsigned_lt (bits : Nat) :
    ⦃fun c => ⌜c.room = R⌝⦄ Reader.unsigned bits ⦃RoomPost R fun n => n < 2 ^ bits⦄ := by
  mvcgen [Reader.unsigned, Reader.placed] <;> simp_all

@[spec] theorem double_keepsRoom : ⦃fun c => ⌜c.room = R⌝⦄ Reader.double ⦃RoomPost R fun _ => True⦄ := by
  mvcgen [Reader.double, Reader.placed] <;> simp_all

@[spec] theorem optional_keepsRoom {d : Reader α} (hd : ⦃fun c => ⌜c.room = R⌝⦄ d ⦃RoomPost R fun _ => True⦄) :
    ⦃fun c => ⌜c.room = R⌝⦄ Reader.optional d ⦃RoomPost R fun _ => True⦄ := by
  mvcgen [Reader.optional, hd] <;> simp_all

theorem itemsOf_spec {d : Reader α} {P : α → Prop} (hd : ⦃fun c => ⌜c.room = R⌝⦄ d ⦃RoomPost R P⦄)
    (fuel : Nat) (first : Bool) (acc : List α) (hacc : ∀ a ∈ acc, P a) :
    ⦃fun c => ⌜c.room = R⌝⦄ Reader.itemsOf d fuel first acc ⦃RoomPost R fun xs => ∀ a ∈ xs, P a⦄ := by
  induction fuel generalizing first acc with
  | zero => mvcgen [Reader.itemsOf]; simp_all
  | succ fuel ih => mvcgen [Reader.itemsOf, hd, ih] <;> simp_all

/-- A list's items are read with one level less. -/
theorem list_spec {d : Reader α} {P : α → Prop} (hd : ⦃fun c => ⌜c.room = R - 1⌝⦄ d ⦃RoomPost (R - 1) P⦄) :
    ⦃fun c => ⌜c.room = R⌝⦄ Reader.list d ⦃RoomPost R fun xs => ∀ a ∈ xs, P a⦄ := by
  have hitems : ⦃fun c => ⌜c.room = R - 1⌝⦄ (do Reader.itemsOf d (← Reader.fuel) true [])
      ⦃RoomPost (R - 1) fun xs => ∀ a ∈ xs, P a⦄ := by
    have hloop := itemsOf_spec (R - 1) hd
    mvcgen [hloop] <;> simp_all
  have hnest := nest_spec R fun _ => hitems
  mvcgen [Reader.list, Reader.placed, Reader.attempt, Reader.firstFailure, hnest] <;> simp_all

lemma insertSorted_eq_putSorted (k : String) (v : α) (l : List (String × α)) :
    Reader.insertSorted k v l = putSorted k v l := by
  induction l with
  | nil => rfl
  | cons m l ih => simp [Reader.insertSorted, putSorted, ih]

theorem membersOf_spec {d : Reader α} {P : α → Prop} (hd : ⦃fun c => ⌜c.room = R⌝⦄ d ⦃RoomPost R P⦄)
    (fuel : Nat) (first : Bool) (acc : List (String × α)) (hacc : SortedWith P acc) :
    ⦃fun c => ⌜c.room = R⌝⦄ Reader.membersOf d fuel first acc ⦃RoomPost R (SortedWith P)⦄ := by
  induction fuel generalizing first acc with
  | zero => mvcgen [Reader.membersOf]
  | succ fuel ih =>
    mvcgen [Reader.membersOf, hd, ih]
    all_goals clear ih
    all_goals simp_all
    exact fun _ _ hv => insertSorted_eq_putSorted .. ▸ hacc.putSorted _ hv

/-- A map's values are read with one level less, and its keys come out in order. -/
theorem strMap_spec {d : Reader α} {P : α → Prop} (hd : ⦃fun c => ⌜c.room = R - 1⌝⦄ d ⦃RoomPost (R - 1) P⦄) :
    ⦃fun c => ⌜c.room = R⌝⦄ Reader.strMap d ⦃RoomPost R (SortedWith P)⦄ := by
  have hmembers : ⦃fun c => ⌜c.room = R - 1⌝⦄ (do Reader.membersOf d (← Reader.fuel) true [])
      ⦃RoomPost (R - 1) (SortedWith P)⦄ := by
    have hloop := membersOf_spec (R - 1) hd
    mvcgen [hloop] <;> simp_all [SortedWith.nil]
  have hnest := nest_spec R fun _ => hmembers
  mvcgen [Reader.strMap, Reader.placed, Reader.attempt, Reader.firstFailure, hnest] <;> simp_all

@[spec] theorem variantName_keepsRoom (variants : List (String × α)) :
    ⦃fun c => ⌜c.room = R⌝⦄ Reader.variantName variants ⦃RoomPost R fun _ => True⦄ := by
  mvcgen [Reader.variantName, Reader.placed] <;> simp_all

/-- A bracket whose contents keep any room keeps the room. -/
theorem nest_keepsRoom {x : Reader α} (hx : ∀ R', ⦃fun c => ⌜c.room = R'⌝⦄ x ⦃RoomPost R' fun _ => True⦄) :
    ⦃fun c => ⌜c.room = R⌝⦄ Reader.nest x ⦃RoomPost R fun _ => True⦄ := by
  have hnest := nest_spec R fun _ => hx (R - 1)
  mvcgen [hnest]
  simp_all

@[spec] theorem unitVariant_keepsRoom (variants : List (String × α)) :
    ⦃fun c => ⌜c.room = R⌝⦄ Reader.unitVariant variants ⦃RoomPost R fun _ => True⦄ := by
  mvcgen [Reader.unitVariant, Reader.placed, nest_keepsRoom] <;> simp_all

/-! ### Records -/

@[spec] theorem countRest_keepsRoom (fuel : Nat) (first : Bool) (n : Nat) :
    ⦃fun c => ⌜c.room = R⌝⦄ Reader.countRest fuel first n ⦃RoomPost R fun _ => True⦄ := by
  induction fuel generalizing first n with
  | zero => mvcgen [Reader.countRest]
  | succ fuel ih => mvcgen [Reader.countRest, ih] <;> simp_all

section Fields

variable {fields : List (Field α)} {I : α → Prop}
  (hfields : ∀ f ∈ fields, ∀ a, I a → ⦃fun c => ⌜c.room = R⌝⦄ f.read a ⦃RoomPost R I⦄)
include hfields

theorem recordMembers_spec (fuel : Nat) (first : Bool) (seen : List String) (acc : α) (hacc : I acc) :
    ⦃fun c => ⌜c.room = R⌝⦄ Reader.recordMembers fields fuel first seen acc ⦃RoomPost R I⦄ := by
  induction fuel generalizing first seen acc with
  | zero => mvcgen [Reader.recordMembers]
  | succ fuel ih =>
    mvcgen [Reader.recordMembers, ih, hfields] <;> simp_all
    -- the field read is the one its key names
    exact List.mem_of_find?_eq_some ‹_›

theorem recordItems_spec (expecting : String) (fs : List (Field α)) (hfs : fs ⊆ fields) (i : Nat) (first : Bool)
    (acc : α) (hacc : I acc) :
    ⦃fun c => ⌜c.room = R⌝⦄ Reader.recordItems expecting fs i first acc ⦃RoomPost R I⦄ := by
  induction fs generalizing i first acc with
  | nil => mvcgen [Reader.recordItems]
  | cons f fs ih =>
    have hf := hfields f (hfs List.mem_cons_self)
    have hrest := ih (List.Subset.trans (List.subset_cons_self f fs) hfs)
    mvcgen [Reader.recordItems, hf, hrest] <;> simp_all

end Fields

/-- A record's fields are read with one level less, and a property of its
initial value that each field's reader keeps holds of what it gives. -/
theorem record_spec {name : String} {init : α} {fields : List (Field α)} {I : α → Prop}
    (hinit : 1 < R → I init)
    (hfields : 1 < R → ∀ f ∈ fields, ∀ a, I a →
      ⦃fun c => ⌜c.room = R - 1⌝⦄ f.read a ⦃RoomPost (R - 1) I⦄) :
    ⦃fun c => ⌜c.room = R⌝⦄ Reader.record name init fields ⦃RoomPost R I⦄ := by
  have hitems := fun expecting => nest_spec R fun h =>
    recordItems_spec (R - 1) (hfields h) expecting fields (List.Subset.refl _) 0 true init (hinit h)
  have hmembers := nest_spec R fun h => by
    have hloop := recordMembers_spec (R - 1) (hfields h)
    show ⦃fun c => ⌜c.room = R - 1⌝⦄ (do Reader.recordMembers fields (← Reader.fuel) true [] init)
      ⦃RoomPost (R - 1) I⦄
    mvcgen [hloop] <;> simp_all
  mvcgen [Reader.record, Reader.placed, Reader.attempt, Reader.firstFailure, hitems, hmembers] <;> simp_all

end Readers

end NotebookGuard.Proofs
