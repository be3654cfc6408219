import NotebookGuard.Imports
import Mathlib

/-!
# The local modules a notebook imports

Read as a whole, the walk of `localImports` is a pipeline: each line's
requests (`lineRequests`), their files (`moduleFile`), those that exist other
than the notebook, each path at its first request (`firstPaths`). From it: no
path twice, and the file of every module a read line names, when it exists.
-/

namespace NotebookGuard

namespace Proofs

/-! ### The first path of each -/

/-- The paths of `cs` in order, each dropped when it is the same path as one
kept before it or as one of `seen`. -/
def firstPathsAfter (seen : List String) : List String → List String
  | [] => []
  | c :: cs =>
    if seen.any (Path.same c) then firstPathsAfter seen cs
    else c :: firstPathsAfter (seen ++ [c]) cs

/-- The paths of `cs` in order, each kept at its first occurrence. -/
def firstPaths (cs : List String) : List String := firstPathsAfter [] cs

theorem firstPathsAfter_sublist (seen cs : List String) :
    (firstPathsAfter seen cs).Sublist cs := by
  induction cs generalizing seen with
  | nil => exact List.Sublist.slnil
  | cons c cs ih =>
    unfold firstPathsAfter
    split
    · exact (ih seen).cons c
    · exact (ih (seen ++ [c])).cons_cons c

/-- A kept path is none of `seen`, and no two kept paths are the same. -/
theorem firstPathsAfter_fresh (seen cs : List String) :
    (∀ d ∈ firstPathsAfter seen cs, seen.any (Path.same d) = false) ∧
      (firstPathsAfter seen cs).Pairwise fun a b => Path.same a b = false := by
  induction cs generalizing seen with
  | nil => simp [firstPathsAfter]
  | cons c cs ih =>
    unfold firstPathsAfter
    split
    · exact ih seen
    · rename_i hc
      obtain ⟨hfresh, hpair⟩ := ih (seen ++ [c])
      have hafter : ∀ d ∈ firstPathsAfter (seen ++ [c]) cs,
          seen.any (Path.same d) = false ∧ Path.same d c = false := by
        intro d hd
        simpa using hfresh d hd
      refine ⟨?_, List.Pairwise.cons (fun d hd => ?_) hpair⟩
      · intro d hd
        rcases List.mem_cons.mp hd with rfl | hd
        · simpa using hc
        · exact (hafter d hd).1
      · rw [Path.same_comm]
        exact (hafter d hd).2

/-- Every path of `cs` is the same as one of `seen` or one kept. -/
theorem exists_same_of_mem {c : String} (seen : List String) {cs : List String} (h : c ∈ cs) :
    (∃ d ∈ seen, Path.same c d = true) ∨ ∃ d ∈ firstPathsAfter seen cs, Path.same c d = true := by
  induction cs generalizing seen with
  | nil => cases h
  | cons c' cs ih =>
    unfold firstPathsAfter
    split
    · rename_i hc'
      rcases List.mem_cons.mp h with rfl | h
      · exact Or.inl (List.any_eq_true.mp hc')
      · exact ih seen h
    · rcases List.mem_cons.mp h with rfl | h
      · exact Or.inr ⟨c, List.mem_cons_self, Path.same_self c⟩
      · rcases ih (seen ++ [c']) h with ⟨d, hd, hsame⟩ | ⟨d, hd, hsame⟩
        · rcases List.mem_append.mp hd with hd | hd
          · exact Or.inl ⟨d, hd, hsame⟩
          · obtain rfl := List.mem_singleton.mp hd
            exact Or.inr ⟨d, List.mem_cons_self, hsame⟩
        · exact Or.inr ⟨d, List.mem_cons_of_mem _ hd, hsame⟩

/-- One file offered to the found list: kept when `ok` holds of it and no path
found so far is the same. -/
def keepNew (ok : String → Bool) (found : List String) (c : String) : List String :=
  if ok c && !found.any (Path.same c) then found ++ [c] else found

/-- Offering files one at a time keeps, after what was found, the first of each
path among the new files that pass `ok`. -/
theorem foldl_keepNew (ok : String → Bool) (found cs : List String) :
    cs.foldl (keepNew ok) found = found ++ firstPathsAfter found (cs.filter ok) := by
  induction cs generalizing found with
  | nil => simp [firstPathsAfter]
  | cons c cs ih =>
    rw [List.foldl_cons, ih, List.filter_cons]
    by_cases hok : ok c = true
    · by_cases hold : found.any (Path.same c) = true <;>
        simp [keepNew, hok, hold, firstPathsAfter]
    · simp [keepNew, hok]

/-! ### The walk as a pipeline -/

/-- The modules a line asks for, each with the directory it is looked up in:
`dir` for a plain import, and for a `from` line the directory its dots climb
to. -/
def lineRequests (dir line : String) : List (String × String) :=
  match ImportLine.ofLine line with
  | some (.plain names) => (moduleNames names).map (dir, ·)
  | some (.fromModule dots (some m) _) => [(climb dir (dots - 1), m)]
  | some (.fromModule dots none names) =>
    if dots = 0 then [] else (moduleNames names).map (climb dir (dots - 1), ·)
  | none => []

/-- The file of a module looked up in `base`: its first dotted part with `.py`
added, when that part is not empty. -/
def moduleFile (base module : String) : Option String :=
  match module.splitOn "." with
  | head :: _ => if head.isEmpty then none else some (Path.join base (head ++ ".py"))
  | [] => none

/-- The lines of the notebook, none when it cannot be read as text. -/
def notebookLines (files : Workspace) (notebook : String) : List String :=
  match files.readText notebook with
  | .ok source => source.splitOn "\n"
  | .error _ => []

/-- A requested module offered to the found list: its file, when it has one. -/
def offer (ok : String → Bool) (found : List String) (r : String × String) : List String :=
  match moduleFile r.1 r.2 with
  | some c => keepNew ok found c
  | none => found

theorem offer_eq (files : Workspace) (notebook : String) (found : List String) (base m : String) :
    offer (fun c => files.isFile c && !Path.same c notebook) found (base, m) =
      addImport files notebook found base m := by
  unfold offer moduleFile addImport
  rcases m.splitOn "." with _ | ⟨head, tail⟩
  · rfl
  · by_cases h : head.isEmpty <;> simp [h, keepNew, Bool.and_assoc]

theorem foldl_offer (ok : String → Bool) (found : List String) (rs : List (String × String)) :
    (rs.filterMap fun r => moduleFile r.1 r.2).foldl (keepNew ok) found = rs.foldl (offer ok) found := by
  induction rs generalizing found with
  | nil => rfl
  | cons r rs ih =>
    simp only [List.filterMap_cons, List.foldl_cons, offer]
    cases moduleFile r.1 r.2 <;> simp [ih]

/-- The files the lines ask for, in the order asked. -/
def requestedFiles (dir : String) (lines : List String) : List String :=
  (lines.flatMap (lineRequests dir)).filterMap fun r => moduleFile r.1 r.2

/-- The walk over the notebook is the pipeline: the requested files that exist
and are not the notebook, each path kept at its first request. -/
theorem localImports_eq_firstPaths (files : Workspace) (notebook : String) :
    localImports files notebook =
      firstPaths ((requestedFiles ((Path.parent? notebook).getD ".")
        (notebookLines files notebook)).filter
          fun c => files.isFile c && !Path.same c notebook) := by
  unfold localImports notebookLines
  cases files.readText notebook with
  | error => rfl
  | ok source =>
    rw [firstPaths, ← List.nil_append (firstPathsAfter [] _), ← foldl_keepNew, requestedFiles,
      List.filterMap_flatMap, List.foldl_flatMap]
    dsimp only
    congr 1
    funext found line
    unfold lineRequests
    generalize ImportLine.ofLine line = l
    rw [foldl_offer]
    rcases l with _ | ⟨names⟩ | ⟨dots, _ | m, names⟩
    · rfl
    · simp only [List.foldl_map, offer_eq]
    · by_cases hd : dots = 0
      · simp [hd]
      · simp only [hd, if_false, List.foldl_map, offer_eq]
    · simp only [List.foldl_cons, List.foldl_nil, offer_eq]

/-- Climbing from a directory without a parent stays there. -/
theorem climb_of_parent_none {dir : String} (h : Path.parent? dir = none) (n : Nat) :
    climb dir n = dir := by
  induction n with
  | zero => rfl
  | succ n ih => simp [climb, h, ih]

/-! ### The shapes of an import line -/

def Blanks (ws : List Char) : Prop := ∀ c ∈ ws, c = ' ' ∨ c = '\t'

/-- Empty, or starting with something other than a space or a tab. -/
def StartsSolid (xs : List Char) : Prop := ∀ c ∈ xs.head?, c ≠ ' ' ∧ c ≠ '\t'

theorem spacesAhead_append {ws rest : List Char} (hws : Blanks ws) (hrest : StartsSolid rest) :
    spacesAhead (ws ++ rest) = ws.length := by
  unfold spacesAhead
  rw [List.takeWhile_append_of_pos (by simpa [Blanks] using hws)]
  cases rest with
  | nil => simp
  | cons c rest =>
    simp only [StartsSolid, List.head?_cons, Option.mem_def, Option.some.injEq, forall_eq'] at hrest
    simp [hrest]

theorem startsSolid_import (rest : List Char) : StartsSolid ("import".toList ++ rest) := by
  simp [StartsSolid]

/-- A line `import <names>` reads as a plain import of the names up to the
comment. -/
theorem ofLine_plain {line : String} {ws sp list rest : List Char}
    (hline : line.toList = ws ++ "import".toList ++ sp ++ list ++ rest)
    (hws : Blanks ws) (hsp : Blanks sp) (hsp0 : sp ≠ []) (hlist : StartsSolid list)
    (hhash : '#' ∉ list) (hrest : ∀ c ∈ rest.head?, c = '#') :
    ImportLine.ofLine line = some (.plain (String.ofList list)) := by
  have hsolid : StartsSolid (list ++ rest) := by
    cases list with
    | nil => cases rest <;> simp_all [StartsSolid]
    | cons c list => simpa [StartsSolid] using hlist
  have hcut : (list ++ rest).takeWhile (· != '#') = list := by
    rw [List.takeWhile_append_of_pos fun c hc => by simpa using ne_of_mem_of_not_mem hc hhash]
    cases rest <;> simp_all
  unfold ImportLine.ofLine
  simp only [hline, List.append_assoc]
  rw [spacesAhead_append hws (startsSolid_import _), List.drop_left,
    List.take_left' (by simp), beq_self_eq_true, if_pos rfl, List.drop_left' (by simp),
    spacesAhead_append hsp hsolid, List.drop_left, hcut]
  simp [List.length_eq_zero_iff, hsp0]

theorem ofLine_from {line : String} {ws tail : List Char}
    (hline : line.toList = ws ++ "from".toList ++ tail) (hws : Blanks ws) :
    ImportLine.ofLine line = fromLine tail := by
  have hfrom : StartsSolid ("from".toList ++ tail) := by simp [StartsSolid]
  have himport : (("from".toList ++ tail).take 6 == "import".toList) = false := by
    simp [show "from".toList = ['f', 'r', 'o', 'm'] from rfl,
      show "import".toList = ['i', 'm', 'p', 'o', 'r', 't'] from rfl]
  unfold ImportLine.ofLine
  simp only [hline, List.append_assoc]
  rw [spacesAhead_append hws hfrom, List.drop_left, himport, if_neg Bool.false_ne_true,
    List.take_left' (by simp), beq_self_eq_true, if_pos rfl, List.drop_left' (by simp)]

/-- A module named after `from`: a letter of the ASCII alphabet or an
underscore, then word characters and dots. -/
def ModuleWord (m : List Char) : Prop :=
  ∃ c tl, m = c :: tl ∧ (c.isAlpha || c = '_') = true ∧ ∀ x ∈ tl, (isWordChar x || x = '.') = true

theorem takeWhile_dots (k : Nat) (rest : List Char) (h : ∀ c ∈ rest.head?, c ≠ '.') :
    (List.replicate k '.' ++ rest).takeWhile (· = '.') = List.replicate k '.' := by
  rw [List.takeWhile_append_of_pos (by simp)]
  cases rest with
  | nil => simp
  | cons c rest => simp_all

theorem importedNames_isSome (n : Nat) {rest : List Char} (hrest : rest ≠ [])
    (h : ∀ c ∈ rest.head?, c ≠ '#' ∧ c ≠ ')') : (importedNames n rest).isSome := by
  obtain ⟨c, rest, rfl⟩ := List.exists_cons_of_ne_nil hrest
  simp only [List.head?_cons, Option.mem_def, Option.some.injEq, forall_eq'] at h
  have hbody : ((c :: rest).takeWhile fun x => x != '#' && x != ')').isEmpty = false := by
    simp [h.1, h.2]
  -- an opened list that is empty falls back to the names read from the start
  unfold importedNames
  dsimp only
  split
  · rfl
  · simp [hbody]

/-- `from <k dots><module> import ...` reads as an import from that module. -/
theorem fromLine_module {w1 w2 w3 rest : List Char} {k : Nat} {m : String}
    (h1 : Blanks w1) (h10 : w1 ≠ []) (h2 : Blanks w2) (h20 : w2 ≠ []) (h3 : Blanks w3)
    (h30 : w3 ≠ []) (hm : ModuleWord m.toList) (hrest : rest ≠ [])
    (hstart : ∀ c ∈ rest.head?, c ≠ ' ' ∧ c ≠ '\t' ∧ c ≠ '#' ∧ c ≠ ')') :
    ∃ names, fromLine (w1 ++ List.replicate k '.' ++ m.toList ++ w2 ++ "import".toList ++ w3 ++ rest) =
      some (.fromModule k (some m) names) := by
  obtain ⟨c, tl, hct, hc, htl⟩ := hm
  obtain ⟨names, hnames⟩ := Option.isSome_iff_exists.mp
    (importedNames_isSome w3.length hrest fun x hx => ⟨(hstart x hx).2.2.1, (hstart x hx).2.2.2⟩)
  refine ⟨names, ?_⟩
  have hcsolid : c ≠ ' ' ∧ c ≠ '\t' ∧ c ≠ '.' := by
    refine ⟨?_, ?_, ?_⟩ <;> rintro rfl <;> simp at hc
  -- the module's word ends at the blank before `import`
  have hword : (tl ++ (w2 ++ ("import".toList ++ (w3 ++ rest)))).takeWhile
      (fun x => isWordChar x || x = '.') = tl := by
    rw [List.takeWhile_append_of_pos htl]
    obtain ⟨b, w2, rfl⟩ := List.exists_cons_of_ne_nil h20
    rcases h2 b List.mem_cons_self with rfl | rfl <;> simp [List.takeWhile_cons] <;> decide
  have hsolid1 : StartsSolid (List.replicate k '.' ++ c :: (tl ++ (w2 ++
      ("import".toList ++ (w3 ++ rest))))) := by
    cases k <;> simp [StartsSolid, List.replicate_succ, hcsolid]
  have hdots := takeWhile_dots k (c :: (tl ++ (w2 ++ ("import".toList ++ (w3 ++ rest)))))
    (by simpa using hcsolid.2.2)
  have hsolid3 : StartsSolid rest := fun x hx => ⟨(hstart x hx).1, (hstart x hx).2.1⟩
  unfold fromLine
  simp only [hct, List.append_assoc, List.cons_append]
  rw [spacesAhead_append h1 hsolid1]
  have hlen : "import".toList.length = 6 := rfl
  simp only [hdots, List.length_replicate, List.drop_left', hc, if_true, hword,
    spacesAhead_append h2 (startsSolid_import _), List.take_left' hlen, List.drop_left' hlen,
    bne_self_eq_false, spacesAhead_append h3 hsolid3, List.length_eq_zero_iff, h10, h20, h30,
    if_false, Bool.false_eq_true, hnames, ← hct, String.ofList_toList]
  rfl

theorem importedNames_list (n : Nat) {paren list rest : List Char}
    (hparen : paren = [] ∨ paren = ['(']) (hopen : paren = [] → list.head? ≠ some '(')
    (hlist : ∀ c ∈ list, c ≠ '#' ∧ c ≠ ')') (hlist0 : list ≠ [])
    (hrest : ∀ c ∈ rest.head?, c = '#' ∨ c = ')') :
    importedNames n (paren ++ list ++ rest) = some (String.ofList list) := by
  have hbody : (list ++ rest).takeWhile (fun c => c != '#' && c != ')') = list := by
    rw [List.takeWhile_append_of_pos fun c hc => by simpa using hlist c hc]
    cases rest with
    | nil => simp
    | cons c rest =>
      rcases hrest c rfl with rfl | rfl <;> simp
  have hempty : list.isEmpty = false := by simpa using hlist0
  unfold importedNames
  rcases hparen with rfl | rfl
  · obtain ⟨c, list', rfl⟩ := List.exists_cons_of_ne_nil hlist0
    have hc : c ≠ '(' := fun h => hopen rfl (by simp [h])
    simp only [List.nil_append, List.cons_append] at hbody ⊢
    simp [hc, hbody]
  · simp only [List.cons_append, List.nil_append, hbody, hempty]
    rfl

/-- `from <k dots> import <names>` with at least one dot reads as an import of
the names; without a dot the blanks around the missing module run together and
`import` is read as the module. -/
theorem fromLine_names {w1 w2 w3 paren list rest : List Char} {k : Nat} (hk : 0 < k)
    (h1 : Blanks w1) (h10 : w1 ≠ []) (h2 : Blanks w2) (h20 : w2 ≠ []) (h3 : Blanks w3)
    (h30 : w3 ≠ []) (hparen : paren = [] ∨ paren = ['(']) (hstart : StartsSolid (paren ++ list))
    (hopen : paren = [] → list.head? ≠ some '(') (hlist : ∀ c ∈ list, c ≠ '#' ∧ c ≠ ')')
    (hlist0 : list ≠ []) (hrest : ∀ c ∈ rest.head?, c = '#' ∨ c = ')') :
    fromLine (w1 ++ List.replicate k '.' ++ w2 ++ "import".toList ++ w3 ++ paren ++ list ++ rest) =
      some (.fromModule k none (String.ofList list)) := by
  obtain ⟨b, w2', rfl⟩ := List.exists_cons_of_ne_nil h20
  have hb : b = ' ' ∨ b = '\t' := h2 b List.mem_cons_self
  have hsolid1 : StartsSolid (List.replicate k '.' ++ b :: (w2' ++ ("import".toList ++
      (w3 ++ (paren ++ (list ++ rest)))))) := by
    obtain ⟨k, rfl⟩ := Nat.exists_eq_add_of_lt hk
    simp [StartsSolid, List.replicate_succ]
  have hdots := takeWhile_dots k (b :: (w2' ++ ("import".toList ++
      (w3 ++ (paren ++ (list ++ rest)))))) (by rcases hb with rfl | rfl <;> simp)
  have hmodule : (b.isAlpha || b = '_') = false := by rcases hb with rfl | rfl <;> decide
  have hsolid3 : StartsSolid (paren ++ (list ++ rest)) := by
    rw [← List.append_assoc]
    cases hpl : paren ++ list with
    | nil => simp_all
    | cons c cs => simpa [StartsSolid, hpl] using hstart
  have hsp2 : spacesAhead (b :: (w2' ++ ("import".toList ++ (w3 ++ (paren ++ (list ++ rest)))))) =
      w2'.length + 1 := by
    simpa using spacesAhead_append h2 (startsSolid_import (w3 ++ (paren ++ (list ++ rest))))
  have hnames := importedNames_list w3.length hparen hopen hlist hlist0 hrest
  rw [List.append_assoc] at hnames
  have hlen : "import".toList.length = 6 := rfl
  unfold fromLine
  simp only [List.append_assoc, List.cons_append]
  rw [spacesAhead_append h1 hsolid1]
  simp only [hdots, List.length_replicate, List.drop_left', hmodule,
    Bool.false_eq_true, if_false, hsp2, List.drop_succ_cons, List.take_left' hlen,
    List.drop_left' hlen, bne_self_eq_false, spacesAhead_append h3 hsolid3,
    List.length_eq_zero_iff, h10, h30, Nat.add_one_ne_zero, hnames]
  rfl

/-- `line` asks, in one of the shapes the watcher reads, for the module `m`
looked up in `base`; `dir` is the notebook's directory. Blanks are spaces and
tabs, and every run of them in a shape is taken whole. -/
inductive LineImports (dir line : String) : String → String → Prop
  /-- `import a, b as c`, up to a comment. -/
  | plain (ws sp list rest : List Char) (m : String)
      (hline : line.toList = ws ++ "import".toList ++ sp ++ list ++ rest)
      (hws : Blanks ws) (hsp : Blanks sp) (hsp0 : sp ≠ []) (hlist : StartsSolid list)
      (hhash : '#' ∉ list) (hrest : ∀ c ∈ rest.head?, c = '#')
      (hm : m ∈ moduleNames (String.ofList list)) :
      LineImports dir line dir m
  /-- `from <k dots><module> import ...`, climbing `k - 1` directories. -/
  | fromModule (ws w1 w2 w3 rest : List Char) (k : Nat) (m : String)
      (hline : line.toList =
        ws ++ "from".toList ++ w1 ++ List.replicate k '.' ++ m.toList ++ w2 ++ "import".toList ++
          w3 ++ rest)
      (hws : Blanks ws) (h1 : Blanks w1) (h10 : w1 ≠ []) (h2 : Blanks w2) (h20 : w2 ≠ [])
      (h3 : Blanks w3) (h30 : w3 ≠ []) (hm : ModuleWord m.toList) (hrest : rest ≠ [])
      (hstart : ∀ c ∈ rest.head?, c ≠ ' ' ∧ c ≠ '\t' ∧ c ≠ '#' ∧ c ≠ ')') :
      LineImports dir line (climb dir (k - 1)) m
  /-- `from <k dots> import a, b` with at least one dot, the names perhaps in
  parentheses and up to a comment or a closing parenthesis. -/
  | fromNames (ws w1 w2 w3 paren list rest : List Char) (k : Nat) (m : String)
      (hline : line.toList =
        ws ++ "from".toList ++ w1 ++ List.replicate k '.' ++ w2 ++ "import".toList ++ w3 ++
          paren ++ list ++ rest)
      (hk : 0 < k) (hws : Blanks ws) (h1 : Blanks w1) (h10 : w1 ≠ []) (h2 : Blanks w2)
      (h20 : w2 ≠ []) (h3 : Blanks w3) (h30 : w3 ≠ []) (hparen : paren = [] ∨ paren = ['('])
      (hstart : StartsSolid (paren ++ list)) (hopen : paren = [] → list.head? ≠ some '(')
      (hlist : ∀ c ∈ list, c ≠ '#' ∧ c ≠ ')') (hlist0 : list ≠ [])
      (hrest : ∀ c ∈ rest.head?, c = '#' ∨ c = ')') (hm : m ∈ moduleNames (String.ofList list)) :
      LineImports dir line (climb dir (k - 1)) m

/-- Every module a line of the read shapes names is requested, in the
directory the shape says. -/
theorem mem_lineRequests {dir line base m : String} (h : LineImports dir line base m) :
    (base, m) ∈ lineRequests dir line := by
  cases h with
  | plain ws sp list rest m hline hws hsp hsp0 hlist hhash hrest hm =>
    rw [lineRequests, ofLine_plain hline hws hsp hsp0 hlist hhash hrest]
    exact List.mem_map_of_mem hm
  | fromModule ws w1 w2 w3 rest k m hline hws h1 h10 h2 h20 h3 h30 hm hrest hstart =>
    obtain ⟨names, hnames⟩ := fromLine_module (k := k) h1 h10 h2 h20 h3 h30 hm hrest hstart
    rw [lineRequests, ofLine_from (by simpa only [List.append_assoc] using hline) hws]
    simp only [List.append_assoc] at hnames
    rw [hnames]
    exact List.mem_singleton_self _
  | fromNames ws w1 w2 w3 paren list rest k m hline hk hws h1 h10 h2 h20 h3 h30 hparen hstart
      hopen hlist hlist0 hrest hm =>
    have hnames := fromLine_names hk h1 h10 h2 h20 h3 h30 hparen hstart hopen hlist hlist0 hrest
    rw [lineRequests, ofLine_from (by simpa only [List.append_assoc] using hline) hws]
    simp only [List.append_assoc] at hnames
    rw [hnames]
    simpa [Nat.pos_iff_ne_zero.mp hk] using hm

/-! ### The characters of a requested module -/

/-- A name an `import` list keeps: not empty, with only letters, digits,
underscores and dots. -/
def ListedName (m : String) : Prop :=
  m ≠ "" ∧ ∀ c ∈ m.toList, (isLetterOrDigit c || c = '_' || c = '.') = true

/-- A name listed after `import` is kept only when it is a `ListedName`. -/
theorem mem_moduleNames {list m : String} (h : m ∈ moduleNames list) : ListedName m := by
  unfold moduleNames at h
  obtain ⟨item, -, hitem⟩ := List.mem_filterMap.mp h
  dsimp only at hitem
  split_ifs at hitem with hempty hall
  cases hitem
  refine ⟨fun hm => ?_, fun c hc => ?_⟩
  · have := congrArg String.toList hm
    simp_all
  · rw [String.toList_ofList] at hc
    exact List.all_eq_true.mp hall c hc

/-- The module a `from` line names is a `ModuleWord`. -/
theorem fromLine_module_word {cs : List Char} {dots : Nat} {m names : String}
    (h : fromLine cs = some (.fromModule dots (some m) names)) : ModuleWord m.toList := by
  unfold fromLine at h
  dsimp only at h
  generalize List.drop (spacesAhead cs) cs = r1 at h
  generalize List.drop (List.takeWhile (fun x => decide (x = '.')) r1).length r1 = r2 at h
  rcases r2 with _ | ⟨c, rest⟩
  · split_ifs at h <;> simp [Option.bind_eq_some_iff] at h
  · by_cases hc : (c.isAlpha || c = '_') = true
    · simp only [hc, if_true] at h
      split_ifs at h <;> simp [Option.bind_eq_some_iff] at h
      obtain ⟨-, -, rfl⟩ := h
      refine ⟨c, rest.takeWhile fun x => isWordChar x || x = '.', by simp, hc, fun x hx => ?_⟩
      exact List.mem_takeWhile_imp (p := fun x => isWordChar x || decide (x = '.')) hx
    · simp only [hc, Bool.false_eq_true, if_false] at h
      split_ifs at h <;> simp [Option.bind_eq_some_iff] at h

theorem ofLine_fromModule {line : String} {dots : Nat} {module : Option String} {names : String}
    (h : ImportLine.ofLine line = some (.fromModule dots module names)) :
    ∃ cs, fromLine cs = some (.fromModule dots module names) := by
  unfold ImportLine.ofLine at h
  dsimp only at h
  split_ifs at h
  · simp at h
  · exact ⟨_, h⟩

theorem lineRequests_names {dir line : String} :
    ∀ r ∈ lineRequests dir line, ListedName r.2 ∨ ModuleWord r.2.toList := by
  -- the names of an `import` list, looked up in any directory
  have hlisted : ∀ base names : String, ∀ r ∈ (moduleNames names).map (base, ·),
      ListedName r.2 ∨ ModuleWord r.2.toList :=
    fun _ _ r hr => by
      obtain ⟨m, hm, rfl⟩ := List.mem_map.mp hr
      exact .inl (mem_moduleNames hm)
  unfold lineRequests
  split
  · exact hlisted _ _
  · rename_i heq
    obtain ⟨cs, hcs⟩ := ofLine_fromModule heq
    intro r hr
    rw [List.mem_singleton.mp hr]
    exact .inr (fromLine_module_word hcs)
  · split
    · simp
    · exact hlisted _ _
  · simp

/-! ### What the watcher is handed -/

/-- The local modules of a notebook are the files its lines request that exist
and are not the notebook, each path once and at its first request; every
module a read line names is there when its file exists, and each is a
`ListedName` or a `ModuleWord`. -/
theorem localImports_finds_requested_files (files : Workspace) (notebook : String) :
    localImports files notebook =
        firstPaths ((requestedFiles ((Path.parent? notebook).getD ".")
          (notebookLines files notebook)).filter fun c => files.isFile c && !Path.same c notebook) ∧
      (localImports files notebook).Pairwise (fun a b => Path.same a b = false) ∧
      (∀ c ∈ localImports files notebook, files.isFile c = true ∧ Path.same c notebook = false ∧
        c ∈ requestedFiles ((Path.parent? notebook).getD ".") (notebookLines files notebook)) ∧
      (∀ line ∈ notebookLines files notebook, ∀ base m c,
        LineImports ((Path.parent? notebook).getD ".") line base m → moduleFile base m = some c →
        files.isFile c = true → Path.same c notebook = false →
        ∃ d ∈ localImports files notebook, Path.same c d = true) ∧
      ∀ line ∈ notebookLines files notebook, ∀ r ∈ lineRequests ((Path.parent? notebook).getD ".") line,
        ListedName r.2 ∨ ModuleWord r.2.toList := by
  have heq := localImports_eq_firstPaths files notebook
  refine ⟨heq, ?_, ?_, ?_, fun line _ => lineRequests_names⟩
  · rw [heq]
    exact (firstPathsAfter_fresh [] _).2
  · intro c hc
    rw [heq] at hc
    have hkept := List.mem_filter.mp ((firstPathsAfter_sublist [] _).subset hc)
    simp only [Bool.and_eq_true, Bool.not_eq_true'] at hkept
    exact ⟨hkept.2.1, hkept.2.2, hkept.1⟩
  · intro line hline base m c hl hfile hexists hnb
    have hreq : c ∈ requestedFiles ((Path.parent? notebook).getD ".") (notebookLines files notebook) :=
      List.mem_filterMap.mpr ⟨(base, m), List.mem_flatMap.mpr ⟨line, hline, mem_lineRequests hl⟩, hfile⟩
    have hkept : c ∈ (requestedFiles ((Path.parent? notebook).getD ".")
        (notebookLines files notebook)).filter fun c => files.isFile c && !Path.same c notebook :=
      List.mem_filter.mpr ⟨hreq, by simp [hexists, hnb]⟩
    rw [heq]
    rcases exists_same_of_mem [] hkept with ⟨d, hd, _⟩ | hfound
    · cases hd
    · exact hfound

end Proofs

end NotebookGuard
