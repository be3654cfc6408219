/-!
# Shell patterns

A `case` arm and the `==` of a conditional expression match a text against a
pattern: `*` matches any run of characters, `?` any one, and `[...]` one of a
set (`!` or `^` first negates it; `a-z` is a range; `[:alpha:]` and the like are
classes). Characters that were quoted match only themselves.
-/

namespace NotebookGuard

/-- One item of a compiled pattern. -/
inductive PatternItem where
  /-- Any run of characters. -/
  | anyRun
  /-- Any one character. -/
  | anyOne
  | literal (c : Char)
  /-- One character of a set, given by ranges and named classes. -/
  | oneOf (negated : Bool) (ranges : List (Char × Char)) (classes : List String)

namespace PatternItem

/-- Whether a character belongs to a named class. -/
def inClass (name : String) (c : Char) : Bool :=
  match name with
  | "alpha" => c.isAlpha
  | "digit" => c.isDigit
  | "alnum" => c.isAlphanum
  | "upper" => c.isUpper
  | "lower" => c.isLower
  | "space" => c = ' ' || c = '\t' || c = '\n' || c = '\r' || c.toNat = 11 || c.toNat = 12
  | "blank" => c = ' ' || c = '\t'
  | "punct" => c.toNat > 32 && c.toNat < 127 && !c.isAlphanum
  | "xdigit" => c.isDigit || ('a' ≤ c && c ≤ 'f') || ('A' ≤ c && c ≤ 'F')
  | _ => false

/-- Whether the item takes the character `c` as its one character. -/
def takes (item : PatternItem) (c : Char) : Bool :=
  match item with
  | .anyRun | .anyOne => true
  | .literal d => c == d
  | .oneOf negated ranges classes =>
    let hit := ranges.any (fun (lo, hi) => lo ≤ c && c ≤ hi) || classes.any (inClass · c)
    hit != negated

end PatternItem

/-- Whether a text matches a compiled pattern. -/
def patternMatches : List PatternItem → List Char → Bool
  | [], s => s.isEmpty
  | .anyRun :: ps, s => (List.range (s.length + 1)).any fun k => patternMatches ps (s.drop k)
  | p :: ps, c :: s => p.takes c && patternMatches ps s
  | _ :: _, [] => false

/-- The set of a bracket expression, read after its `[`: the negation, ranges
and classes, and what follows the closing `]`; `none` when it is not closed.
Each character comes with whether it is active (unquoted). -/
def bracketSet (cs : List (Char × Bool)) : Option (Bool × List (Char × Char) × List String × List (Char × Bool)) :=
  let (negated, body) := match cs with
    | ('!', true) :: rest | ('^', true) :: rest => (true, rest)
    | _ => (false, cs)
  -- a `]` right at the start belongs to the set
  let (first, body) := match body with
    | (']', true) :: rest => ([(']', ']')], rest)
    | _ => ([], body)
  let rec go (fuel : Nat) (rs : List (Char × Char)) (cls : List String) :
      List (Char × Bool) → Option (List (Char × Char) × List String × List (Char × Bool))
    | [] => none
    | (']', true) :: rest => some (rs, cls, rest)
    | ('[', true) :: (':', true) :: rest =>
      let name := rest.takeWhile (·.1 != ':')
      match rest.drop name.length, fuel with
      | (':', _) :: (']', _) :: after, fuel + 1 => go fuel rs (cls ++ [String.ofList (name.map (·.1))]) after
      | _, fuel + 1 => go fuel (rs ++ [('[', '[')]) cls ((':', true) :: rest)
      | _, 0 => none
    | (lo, _) :: ('-', true) :: (hi, hiActive) :: rest =>
      if hi = ']' && hiActive then
        match fuel with
        | fuel + 1 => go fuel (rs ++ [(lo, lo), ('-', '-')]) cls rest
        | 0 => none
      else
        match fuel with
        | fuel + 1 => go fuel (rs ++ [(lo, hi)]) cls rest
        | 0 => none
    | (c, _) :: rest =>
      match fuel with
      | fuel + 1 => go fuel (rs ++ [(c, c)]) cls rest
      | 0 => none
  (go (body.length + 1) first [] body).map fun (rs, cls, rest) => (negated, rs, cls, rest)

/-- Compiles a pattern given as characters, each with whether it is active. -/
def compilePattern (cs : List (Char × Bool)) : List PatternItem :=
  let rec go (fuel : Nat) : List (Char × Bool) → List PatternItem
    | [] => []
    | (c, active) :: rest =>
      match fuel with
      | 0 => []
      | fuel + 1 =>
        if !active then .literal c :: go fuel rest
        else if c = '*' then
          let rest := rest.dropWhile (· == ('*', true))
          .anyRun :: go fuel rest
        else if c = '?' then .anyOne :: go fuel rest
        else if c = '[' then
          match bracketSet rest with
          | some (negated, ranges, classes, after) => .oneOf negated ranges classes :: go fuel after
          | none => .literal '[' :: go fuel rest
        else .literal c :: go fuel rest
  go (cs.length + 1) cs

/-- Whether a text matches a pattern given as characters with their activity. -/
def globMatches (pattern : List (Char × Bool)) (text : String) : Bool :=
  patternMatches (compilePattern pattern) text.toList

end NotebookGuard
