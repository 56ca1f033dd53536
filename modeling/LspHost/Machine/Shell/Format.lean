import LspHost.Machine.Octets

/-!
# Shell scripts: formats

What `echo` and `printf` write: texts in which escapes are replaced, and formats that take up
arguments and are used again as long as there are any.
-/

namespace LspHost.Machine.Shell

/-! ## Escapes -/

/-- Takes octal digits from the front, so many at most, on top of a value. -/
def takeOctal (most value : Nat) (text : Octets) : Nat × Octets :=
  match most, text with
  | most + 1, c :: rest =>
    if '0' ≤ c ∧ c ≤ '7' then takeOctal most (value * 8 + (c.toNat - 48)) rest
    else (value, c :: rest)
  | _, text => (value, text)

/-- The character that a letter after a backslash stands for. -/
def escapeOf? : Char → Option Char
  | 'a' => some '\x07'
  | 'b' => some '\x08'
  | 'e' => some '\x1b'
  | 'f' => some '\x0c'
  | 'n' => some '\n'
  | 'r' => some '\r'
  | 't' => some '\t'
  | 'v' => some '\x0b'
  | '\\' => some '\\'
  | _ => none

/-- Reads an escape after its backslash. -/
def takeEscape : Octets → Octets × Octets
  | [] => (['\\'], [])
  | c :: rest =>
    if '0' ≤ c ∧ c ≤ '7' then
      let (value, rest) := takeOctal 3 0 (c :: rest)
      ([Char.ofNat (value % 256)], rest)
    else
      match escapeOf? c with
      | some plain => ([plain], rest)
      | none => (['\\', c], rest)

/-- Replaces the escapes of an argument, where digits may follow a zero and `\c` ends all output.
Gives what is replaced so far, the last octet first, and whether `\c` was met. `fuel` bounds the
length. -/
def unescapeFrom (done : Octets) : (fuel : Nat) → Octets → Octets × Bool
  | 0, _ | _, [] => (done, false)
  | _, '\\' :: 'c' :: _ => (done, true)
  | fuel + 1, '\\' :: '0' :: rest =>
    let (value, rest) := takeOctal 3 0 rest
    unescapeFrom (Char.ofNat (value % 256) :: done) fuel rest
  | fuel + 1, '\\' :: rest =>
    let (octets, rest) := takeEscape rest
    unescapeFrom (octets.reverse ++ done) fuel rest
  | fuel + 1, c :: rest => unescapeFrom (c :: done) fuel rest

/-- Replaces the escapes of an argument; gives also whether all output ends there. -/
def unescape (text : Octets) : Octets × Bool :=
  let (done, ends) := unescapeFrom [] (text.length + 1) text
  (done.reverse, ends)

/-- What `echo` writes. -/
def echoText (arguments : List Octets) : Octets :=
  let (arguments, newline) := match arguments with
    | ['-', 'n'] :: rest => (rest, [])
    | arguments => (arguments, ['\n'])
  let (text, ends) := unescape ([' '].intercalate arguments)
  if ends then text else text ++ newline

/-! ## Numbers -/

/-- The value of a digit in a base. -/
def digitIn? (base : Nat) (c : Char) : Option Nat :=
  let value :=
    if c.isDigit then c.toNat - '0'.toNat
    else if 'a' ≤ c ∧ c ≤ 'z' then c.toNat - 'a'.toNat + 10
    else if 'A' ≤ c ∧ c ≤ 'Z' then c.toNat - 'A'.toNat + 10
    else base
  if value < base then some value else none

/-- The number that a text begins with, in a base, and what comes after it. -/
def takeDigits (base value : Nat) : Octets → Nat × Octets
  | [] => (value, [])
  | c :: rest =>
    match digitIn? base c with
    | some digit => takeDigits base (value * base + digit) rest
    | none => (value, c :: rest)

/-- The number that a text begins with, which may be octal or hexadecimal, and what comes after it;
no answer if there is none. -/
def takeMagnitude : Octets → Option (Nat × Octets)
  | '0' :: x :: d :: rest =>
    if (x == 'x' || x == 'X') && (digitIn? 16 d).isSome then some (takeDigits 16 0 (d :: rest))
    else some (takeDigits 8 0 (x :: d :: rest))
  | '0' :: rest => some (takeDigits 8 0 rest)
  | c :: rest => if c.isDigit then some (takeDigits 10 0 (c :: rest)) else none
  | [] => none

/-- A number as the argument of a format: its value and what is wrong with it. -/
def numberOf (text : Octets) : Int × Option String :=
  match text with
  | '\'' :: c :: _ | '"' :: c :: _ => (c.toNat, none)
  | _ =>
    let trimmedText := text.dropWhile fun c => c == ' ' || ('\t' ≤ c && c ≤ '\x0d')
    let (isNegative, digits) := match trimmedText with
      | '-' :: rest => (true, rest)
      | '+' :: rest => (false, rest)
      | rest => (false, rest)
    match takeMagnitude digits with
    | none => (0, if text.isEmpty then none else some (textOf text ++ ": expected numeric value"))
    | some (n, rest) =>
      let limit := 9223372036854775807
      let value : Int := if isNegative then -(min n (limit + 1) : Nat) else (min n limit : Nat)
      if (if isNegative then limit + 1 else limit) < n then
        (value, some (textOf text ++ ": Numerical result out of range"))
      else if rest.isEmpty then (value, none)
      else (value, some (textOf text ++ ": not completely converted"))

/-! ## Formats -/

/-- How a value is laid out. -/
structure Layout where
  /-- the flags -/
  flags : Octets := []
  /-- the least width -/
  width : Nat := 0
  /-- the precision -/
  precision : Option Nat := none

/-- The arguments of a format as far as they are used up, with what is written and complained about.
-/
structure Printing where
  /-- what is written, the last octet first -/
  written : Octets := []
  /-- the arguments that are left -/
  arguments : List Octets
  /-- whether any argument was asked for -/
  asked : Bool := false
  /-- whether all output ends -/
  ends : Bool := false
  /-- what is wrong with the arguments or the format, the last complaint first -/
  complaints : List String := []
  /-- whether the format itself is wrong -/
  isBad : Bool := false

namespace Printing

/-- Writes octets. -/
def write (p : Printing) (octets : Octets) : Printing :=
  { p with written := octets.reverse ++ p.written }

/-- Complains about something. -/
def complain (p : Printing) (complaint : Option String) : Printing :=
  { p with complaints := complaint.toList ++ p.complaints }

/-- Takes the next argument. -/
def take (p : Printing) : Octets × Printing :=
  (p.arguments.headD [], { p with arguments := p.arguments.drop 1, asked := true })

/-- Takes the next argument as a number. -/
def takeNumber (p : Printing) : Int × Printing :=
  let (text, p) := p.take
  let (value, complaint) := numberOf text
  (value, p.complain complaint)

end Printing

/-- Octets filled up to the least width. -/
def Layout.fill (layout : Layout) (octets : Octets) : Octets :=
  let missing := List.replicate (layout.width - octets.length) ' '
  if layout.flags.contains '-' then octets ++ missing else missing ++ octets

/-- A text laid out. -/
def Layout.text (layout : Layout) (octets : Octets) : Octets :=
  layout.fill (match layout.precision with
    | some n => octets.take n
    | none => octets)

/-- A number laid out, given its sign and its digits. -/
def Layout.number (layout : Layout) (sign digits : Octets) : Octets :=
  let digits := if layout.precision == some 0 && digits == ['0'] then [] else digits
  let zeros (n : Nat) : Octets := List.replicate (n - digits.length) '0'
  match layout.precision with
  | some n => layout.fill (sign ++ zeros n ++ digits)
  | none =>
    if layout.flags.contains '0' && !layout.flags.contains '-' then
      sign ++ zeros (layout.width - sign.length) ++ digits
    else layout.fill (sign ++ digits)

/-- A value as an unsigned number of 64 bits. -/
def unsigned (value : Int) : Nat := (value % 18446744073709551616).toNat

/-- Writes one value in a conversion. -/
def convert (layout : Layout) (kind : Char) (p : Printing) : Printing :=
  let inBase (base : Nat) (sign : Octets) (isUpper : Bool) : Printing :=
    let (value, p) := p.takeNumber
    let digits := Nat.toDigits base (unsigned value)
    let digits := if isUpper then digits.map Char.toUpper else digits
    p.write (layout.number (if layout.flags.contains '#' && value != 0 then sign else []) digits)
  match kind with
  | 's' =>
    let (text, p) := p.take
    p.write (layout.text text)
  | 'b' =>
    let (text, p) := p.take
    let (octets, ends) := unescape text
    { p.write (layout.text octets) with ends }
  | 'c' =>
    let (text, p) := p.take
    p.write (layout.fill (text.headD '\x00' :: []))
  | 'd' | 'i' =>
    let (value, p) := p.takeNumber
    let sign :=
      if value < 0 then ['-']
      else if layout.flags.contains '+' then ['+']
      else if layout.flags.contains ' ' then [' ']
      else []
    p.write (layout.number sign (toString value.natAbs).toList)
  | 'u' => inBase 10 [] false
  | 'o' => inBase 8 ['0'] false
  | 'x' => inBase 16 ['0', 'x'] false
  | 'X' => inBase 16 ['0', 'X'] true
  | _ =>
    { p.complain (some ("%" ++ String.singleton kind ++ ": invalid directive")) with isBad := true }

/-- Reads a width or a precision, which may be an argument. -/
def takeWidth (p : Printing) : Octets → Option Int × Octets × Printing
  | '*' :: rest =>
    let (value, p) := p.takeNumber
    (some value, rest, p)
  | text =>
    let digits := text.takeWhile Char.isDigit
    if digits.isEmpty then (none, text, p)
    else (some (takeDigits 10 0 digits).1, text.drop digits.length, p)

/-- Writes a value in the conversion after a percent sign; gives what comes after it. -/
def takeConversion (p : Printing) (text : Octets) : Printing × Octets :=
  let flags := text.takeWhile "#-+ 0".toList.contains
  let (width, rest, p) := takeWidth p (text.drop flags.length)
  let flags := if width.any (· < 0) then '-' :: flags else flags
  let (precision, rest, p) := match rest with
    | '.' :: rest =>
      let (precision, rest, p) := takeWidth p rest
      (some (precision.getD 0), rest, p)
    | rest => (none, rest, p)
  let precision := precision.bind fun n => if n < 0 then none else some n.toNat
  let layout : Layout := { flags, width := (width.getD 0).natAbs, precision }
  match rest with
  | [] => ({ p.complain (some "missing format character") with isBad := true }, [])
  | kind :: rest => (convert layout kind p, rest)

/-- Writes a format once; `fuel` bounds its length. -/
def formatOnce (p : Printing) : (fuel : Nat) → Octets → Printing
  | 0, _ | _, [] => p
  | fuel + 1, '\\' :: rest =>
    let (octets, rest) := takeEscape rest
    formatOnce (p.write octets) fuel rest
  | fuel + 1, '%' :: '%' :: rest => formatOnce (p.write ['%']) fuel rest
  | fuel + 1, '%' :: rest =>
    let (p, rest) := takeConversion p rest
    if p.ends || p.isBad then p else formatOnce p fuel rest
  | fuel + 1, c :: rest => formatOnce (p.write [c]) fuel rest

/-- Writes a format as long as it takes up arguments and there are some; `fuel` bounds their number.
-/
def formatAll (format : Octets) : (fuel : Nat) → Printing → Printing
  | 0, p => p
  | fuel + 1, p =>
    let p := formatOnce { p with asked := false } (format.length + 1) format
    if p.ends || p.isBad || !p.asked || p.arguments.isEmpty then p else formatAll format fuel p

end LspHost.Machine.Shell
