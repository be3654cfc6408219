import NotebookGuard.Shell.Test
import NotebookGuard.Shell.Arith

/-!
# Text of `echo` and `printf`

`echo` writes its arguments joined by single spaces and ends the line; `-n`
leaves the line open and `-e` reads backslash escapes, of which `\c` stops
the output. `printf` writes its format, each conversion taking the next
argument (an empty text or zero when they run out), and uses the format again
while arguments are left. A number that cannot be read counts as what could be
read of it and makes the status 1.
-/

namespace NotebookGuard

/-- A character given by its code. -/
def codeChar (n : Nat) : Char := Char.ofNat n

/-- The value of up to `most` digits of a base at the front, and what follows. -/
def leadingDigits (base most : Nat) (cs : List Char) : Option Nat × List Char :=
  let ds := (cs.take most).takeWhile fun c => (radixDigit c).any (· < base)
  if ds.isEmpty then (none, cs) else (radixValue base ds, cs.drop ds.length)

/-- Reads the escape after a backslash: its text, what follows, and whether it
stops the output. `zeroOctal` says an octal escape starts with `0` (as in
`echo`), else it is up to three octal digits. -/
def readEscape (zeroOctal : Bool) (cs : List Char) : String × List Char × Bool :=
  match cs with
  | 'a' :: rest => ((codeChar 7).toString, rest, false)
  | 'b' :: rest => ((codeChar 8).toString, rest, false)
  | 'c' :: rest => ("", rest, true)
  | 'e' :: rest | 'E' :: rest => ((codeChar 27).toString, rest, false)
  | 'f' :: rest => ((codeChar 12).toString, rest, false)
  | 'n' :: rest => ("\n", rest, false)
  | 'r' :: rest => ("\r", rest, false)
  | 't' :: rest => ("\t", rest, false)
  | 'v' :: rest => ((codeChar 11).toString, rest, false)
  | '\\' :: rest => ("\\", rest, false)
  | 'x' :: rest =>
    match leadingDigits 16 2 rest with
    | (some n, rest) => ((codeChar n).toString, rest, false)
    | (none, _) => ("\\x", rest, false)
  | 'u' :: rest =>
    match leadingDigits 16 4 rest with
    | (some n, rest) => ((codeChar n).toString, rest, false)
    | (none, _) => ("\\u", rest, false)
  | 'U' :: rest =>
    match leadingDigits 16 8 rest with
    | (some n, rest) => ((codeChar n).toString, rest, false)
    | (none, _) => ("\\U", rest, false)
  | '0' :: rest =>
    if zeroOctal then
      match leadingDigits 8 3 rest with
      | (some n, rest) => ((codeChar (n % 256)).toString, rest, false)
      | (none, _) => ((codeChar 0).toString, rest, false)
    else
      match leadingDigits 8 3 ('0' :: rest) with
      | (some n, rest) => ((codeChar (n % 256)).toString, rest, false)
      | (none, _) => ("\\0", rest, false)
  | c :: rest =>
    if !zeroOctal && c.isDigit && c.toNat < '8'.toNat then
      match leadingDigits 8 3 (c :: rest) with
      | (some n, rest) => ((codeChar (n % 256)).toString, rest, false)
      | (none, _) => ("\\" ++ c.toString, rest, false)
    else if !zeroOctal && (c = '"' || c = '\'' || c = '?') then (c.toString, rest, false)
    else ("\\" ++ c.toString, rest, false)
  | [] => ("\\", [], false)

/-- A text with its backslash escapes read, and whether `\c` stopped it. -/
def unescape (zeroOctal : Bool) (s : String) : String × Bool :=
  let rec go (fuel : Nat) (cs : List Char) (acc : String) : String × Bool :=
    match fuel, cs with
    | 0, _ => (acc, false)
    | _, [] => (acc, false)
    | fuel + 1, '\\' :: rest =>
      let (t, rest, stop) := readEscape zeroOctal rest
      if stop then (acc ++ t, true) else go fuel rest (acc ++ t)
    | fuel + 1, c :: rest => go fuel rest (acc.push c)
  go (s.length + 1) s.toList ""

/-- What `echo` writes for its arguments. -/
def echoText (args : List String) : String :=
  let isOption (a : String) : Bool :=
    a.length ≥ 2 && a.startsWith "-" && (a.toList.drop 1).all fun c => c = 'n' || c = 'e' || c = 'E'
  let options := args.takeWhile isOption
  let words := args.drop options.length
  let flags := options.foldl (fun (newline, escapes) o =>
    (o.toList.drop 1).foldl (fun (newline, escapes) c =>
      match c with
      | 'n' => (false, escapes)
      | 'e' => (newline, true)
      | _ => (newline, false)) (newline, escapes)) (true, false)
  let body := " ".intercalate words
  if flags.2 then
    let (t, stopped) := unescape true body
    if stopped then t else if flags.1 then t ++ "\n" else t
  else if flags.1 then body ++ "\n" else body

/-- A conversion of a `printf` format. -/
structure Conversion where
  leftAlign : Bool := false
  plusSign : Bool := false
  spaceSign : Bool := false
  zeroPad : Bool := false
  width : Option Nat := none
  precision : Option Nat := none
  kind : Char

/-- A text padded to a width, on the left unless aligned left. -/
def padTo (c : Conversion) (s : String) (fill : Char := ' ') : String :=
  match c.width with
  | some w =>
    if s.length ≥ w then s
    else
      let pad := String.ofList (List.replicate (w - s.length) (if c.leftAlign then ' ' else fill))
      if c.leftAlign then s ++ pad else pad ++ s
  | none => s

/-- The number an argument of a numeric conversion stands for: blanks, a sign,
and decimal, `0x` hexadecimal or `0` octal digits, or a quote and a character.
`false` when not all of it could be read. -/
def printfNumber (arg : String) : Int × Bool :=
  let cs := (trimFieldBlanks arg).toList
  match cs with
  | [] => (0, true)
  | '\'' :: c :: _ | '"' :: c :: _ => (c.toNat, true)
  | _ =>
    let (negative, body) := match cs with
      | '-' :: rest => (true, rest)
      | '+' :: rest => (false, rest)
      | _ => (false, cs)
    let (base, digits) := match body with
      | '0' :: 'x' :: rest | '0' :: 'X' :: rest => (16, rest)
      | '0' :: _ => (8, body)
      | _ => (10, body)
    let good := digits.takeWhile fun c => (radixDigit c).any (· < base)
    let n : Int := (radixValue base good).getD 0
    ((if negative then -n else n), !good.isEmpty && good.length == digits.length)

/-- The digits of a natural number in a base, lower or upper case. -/
def natDigits (base : Nat) (upper : Bool) (n : Nat) : String :=
  let ds := Nat.toDigits base n
  String.ofList (if upper then ds.map Char.toUpper else ds)

/-- The text of an integer conversion. -/
def integerText (c : Conversion) (n : Int) : String :=
  let magnitude := match c.kind with
    | 'd' | 'i' => n.natAbs
    | _ => if n < 0 then (Int.pow 2 64 + n).toNat else n.toNat
  let digits := match c.kind with
    | 'o' => natDigits 8 false magnitude
    | 'x' => natDigits 16 false magnitude
    | 'X' => natDigits 16 true magnitude
    | _ => natDigits 10 false magnitude
  let digits := match c.precision with
    | some p => String.ofList (List.replicate (p - digits.length) '0') ++ digits
    | none => digits
  let sign := if (c.kind == 'd' || c.kind == 'i') then
      (if n < 0 then "-" else if c.plusSign then "+" else if c.spaceSign then " " else "")
    else ""
  if c.zeroPad && !c.leftAlign && c.precision.isNone then
    match c.width with
    | some w =>
      let len := sign.length + digits.length
      sign ++ String.ofList (List.replicate (w - len) '0') ++ digits
    | none => sign ++ digits
  else padTo c (sign ++ digits)

/-- A text quoted so that the shell reads it back as one word. -/
def shellEscaped (s : String) : String :=
  if s.isEmpty then "''"
  else
    let safe (c : Char) : Bool := c.isAlphanum || "_-./,:+@%=".toList.contains c || c.toNat > 127
    String.join (s.toList.map fun c => if safe c then c.toString else "\\" ++ c.toString)

/-- Reads a conversion after its `%`: the conversion and what follows; the
widths given by `*` take arguments, returned as the arguments left. -/
def readConversion (cs : List Char) (args : List String) :
    Option (Conversion × List Char × List String) :=
  let flagChars := cs.takeWhile fun c => c = '-' || c = '+' || c = ' ' || c = '#' || c = '0'
  let cs := cs.drop flagChars.length
  let (width, cs, args) := match cs with
    | '*' :: rest =>
      match args with
      | a :: more => (some (printfNumber a).1.toNat, rest, more)
      | [] => (some 0, rest, [])
    | _ =>
      let ds := cs.takeWhile Char.isDigit
      ((if ds.isEmpty then none else some (String.ofList ds).toNat!), cs.drop ds.length, args)
  let (precision, cs, args) := match cs with
    | '.' :: '*' :: rest =>
      match args with
      | a :: more => (some (printfNumber a).1.toNat, rest, more)
      | [] => (some 0, rest, [])
    | '.' :: rest =>
      let ds := rest.takeWhile Char.isDigit
      (some (if ds.isEmpty then 0 else (String.ofList ds).toNat!), rest.drop ds.length, args)
    | _ => (none, cs, args)
  let cs := cs.dropWhile fun c => c = 'h' || c = 'l' || c = 'L' || c = 'q' || c = 'j' || c = 'z' || c = 't'
  match cs with
  | k :: rest =>
    some ({ leftAlign := flagChars.contains '-', plusSign := flagChars.contains '+',
            spaceSign := flagChars.contains ' ', zeroPad := flagChars.contains '0',
            width, precision, kind := k }, rest, args)
  | [] => none

/-- What one pass over a `printf` format gives. -/
structure FormatPass where
  text : String := ""
  rest : List String
  /-- Whether the pass took any argument. -/
  took : Bool := false
  failed : Bool := false
  /-- Whether the output stopped, by `\c` or a bad conversion. -/
  stopped : Bool := false

/-- One pass over a format with the arguments given. -/
def formatPass (fmt : String) (args : List String) : FormatPass :=
  let rec go (fuel : Nat) (cs : List Char) (p : FormatPass) : FormatPass :=
    match fuel, cs with
    | 0, _ => p
    | _, [] => p
    | fuel + 1, '\\' :: rest =>
      let (t, rest, stop) := readEscape false rest
      if stop then { p with text := p.text ++ t, stopped := true }
      else go fuel rest { p with text := p.text ++ t }
    | fuel + 1, '%' :: '%' :: rest => go fuel rest { p with text := p.text.push '%' }
    | fuel + 1, '%' :: rest =>
      match readConversion rest p.rest with
      | none => { p with text := p.text.push '%', failed := true, stopped := true }
      | some (c, rest, args) =>
        let (arg, args, took) := match args with
          | a :: more => (a, more, true)
          | [] => ("", [], p.took)
        let p := { p with rest := args, took := p.took || took }
        match c.kind with
        | 's' =>
          let s := match c.precision with
            | some k => String.ofList (arg.toList.take k)
            | none => arg
          go fuel rest { p with text := p.text ++ padTo c s }
        | 'q' => go fuel rest { p with text := p.text ++ padTo c (shellEscaped arg) }
        | 'b' =>
          let (t, stop) := unescape true arg
          if stop then { p with text := p.text ++ padTo c t, stopped := true }
          else go fuel rest { p with text := p.text ++ padTo c t }
        | 'c' => go fuel rest { p with text := p.text ++ padTo c (String.ofList (arg.toList.take 1)) }
        | 'd' | 'i' | 'u' | 'o' | 'x' | 'X' =>
          let (n, ok) := printfNumber arg
          go fuel rest { p with text := p.text ++ integerText c n, failed := p.failed || !ok }
        | _ => { p with failed := true, stopped := true }
    | fuel + 1, c :: rest => go fuel rest { p with text := p.text.push c }
  go (fmt.length + 1) fmt.toList { rest := args }

/-- What `printf` writes for a format and its arguments, and whether it failed. -/
def printfText (fmt : String) (args : List String) : String × Bool :=
  let rec go (fuel : Nat) (args : List String) (acc : String) (failed : Bool) : String × Bool :=
    match fuel with
    | 0 => (acc, failed)
    | fuel + 1 =>
      let p := formatPass fmt args
      let acc := acc ++ p.text
      let failed := failed || p.failed
      if p.stopped || !p.took || p.rest.isEmpty then (acc, failed)
      else go fuel p.rest acc failed
  go (args.length + 1) args "" false

end NotebookGuard
