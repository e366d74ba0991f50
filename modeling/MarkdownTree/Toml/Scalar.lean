import MarkdownTree.Toml.Value

/-!
# TOML scalars

Numbers, dates and texts. Numbers and dates are words: runs of letters, digits and a few marks,
which are taken in whole and then looked at.

* `word?` — the value of a word
* `text?` — reads a text in any of its four forms
-/

namespace MarkdownTree.Toml

/-! ## Words -/

/-- Whether a character may be part of a bare key. -/
def isBareKey (c : Char) : Bool :=
  c.isAlphanum || c == '_' || c == '-'

/-- Whether a character may be part of a number or date. -/
def isWordChar (c : Char) : Bool :=
  isBareKey c || c == '+' || c == '.' || c == ':'

/-- The value of a digit of any base up to sixteen. -/
def digit? (c : Char) : Option Nat :=
  if c.isDigit then some (c.toNat - '0'.toNat)
  else if 'a' ≤ c && c ≤ 'f' then some (c.toNat - 'a'.toNat + 10)
  else if 'A' ≤ c && c ≤ 'F' then some (c.toNat - 'A'.toNat + 10)
  else none

/-- The number that digits stand for. A single underscore may stand between two digits. -/
def digits? (base : Nat) (after : Option Nat) : List Char → Option Nat
  | [] => after
  | '_' :: c :: s =>
    match after, digit? c with
    | some n, some d => if d < base then digits? base (some (n * base + d)) s else none
    | _, _ => none
  | c :: s =>
    match digit? c with
    | some d => if d < base then digits? base (some (after.getD 0 * base + d)) s else none
    | none => none

/-- A decimal number without leading zeros. -/
def decimal? (s : List Char) : Option Nat :=
  match s with
  | '0' :: _ :: _ => none
  | _ => digits? 10 none s

/-- An integer with its sign, or without one in another base. -/
def integer? : List Char → Option Int
  | '0' :: 'x' :: s => (digits? 16 none s).map Int.ofNat
  | '0' :: 'o' :: s => (digits? 8 none s).map Int.ofNat
  | '0' :: 'b' :: s => (digits? 2 none s).map Int.ofNat
  | '+' :: s => (decimal? s).map Int.ofNat
  | '-' :: s => (decimal? s).map fun n => -Int.ofNat n
  | s => (decimal? s).map Int.ofNat

/-- Integers have 128 bits at most. -/
def inRange (n : Int) : Bool :=
  -Int.ofNat (Nat.pow 2 127) ≤ n && n < Int.ofNat (Nat.pow 2 128)

/-- A text without its sign. -/
def unsigned : List Char → List Char
  | '+' :: s => s
  | '-' :: s => s
  | s => s

/-- Whether digits with a sign stand here. -/
def isExponent (s : List Char) : Bool :=
  (digits? 10 none (unsigned s)).isSome

/-- Whether a word is a float. -/
def isFloat (s : List Char) : Bool :=
  let s := unsigned s
  if s == ['i', 'n', 'f'] || s == ['n', 'a', 'n'] then true
  else
    let whole := s.takeWhile fun c => c.isDigit || c == '_'
    (decimal? whole).isSome &&
      match s.drop whole.length with
      | '.' :: t =>
        let places := t.takeWhile fun c => c.isDigit || c == '_'
        (digits? 10 none places).isSome &&
          match t.drop places.length with
          | [] => true
          | e :: u => (e == 'e' || e == 'E') && isExponent u
      | e :: t => (e == 'e' || e == 'E') && isExponent t
      | [] => false

/-! ## Dates -/

/-- A number of exactly two digits. -/
def pair? : List Char → Option (Nat × List Char)
  | a :: b :: s =>
    if a.isDigit && b.isDigit then
      some ((a.toNat - '0'.toNat) * 10 + (b.toNat - '0'.toNat), s)
    else none
  | _ => none

/-- The number of days of a month. -/
def daysIn (year month : Nat) : Nat :=
  if month == 2 then
    if year % 4 == 0 && (year % 100 != 0 || year % 400 == 0) then 29 else 28
  else if month == 4 || month == 6 || month == 9 || month == 11 then 30
  else 31

/-- Reads a date. -/
def date? (s : List Char) : Option (List Char) := do
  let (century, s) ← pair? s
  let (years, s) ← pair? s
  let year := century * 100 + years
  match s with
  | '-' :: s =>
    let (month, s) ← pair? s
    match s with
    | '-' :: s =>
      let (day, s) ← pair? s
      if 1 ≤ month && month ≤ 12 && 1 ≤ day && day ≤ daysIn year month then some s else none
    | _ => none
  | _ => none

/-- Reads the fraction of a second, if there is one. -/
def fraction? : List Char → Option (List Char)
  | '.' :: s =>
    let places := s.takeWhile Char.isDigit
    if places.isEmpty then none else some (s.drop places.length)
  | s => some s

/-- Reads a time of day. Seconds may be absent. -/
def time? (s : List Char) : Option (List Char) := do
  let (hour, s) ← pair? s
  match s with
  | ':' :: s =>
    let (minute, s) ← pair? s
    if hour > 23 || minute > 59 then none
    else
      match s with
      | ':' :: s =>
        let (second, s) ← pair? s
        if second > 60 then none else fraction? s
      | s => some s
  | _ => none

/-- Whether the offset of a time stands here, or nothing. -/
def isOffset : List Char → Bool
  | [] => true
  | ['Z'] => true
  | ['z'] => true
  | c :: s =>
    (c == '+' || c == '-') &&
      match pair? s with
      | some (hours, ':' :: s) =>
        match pair? s with
        | some (minutes, []) => hours ≤ 24 && minutes ≤ 59
        | _ => false
      | _ => false

/-- Whether a word is a date, a time, or both. -/
def isDate (s : List Char) : Bool :=
  match date? s with
  | some [] => true
  | some (c :: t) =>
    (c == 'T' || c == 't' || c == ' ') &&
      match time? t with
      | some offset => isOffset offset
      | none => false
  | none => time? s == some []

/-- The value of a word. -/
def word? (s : List Char) : Option Value :=
  if s == "true".toList then some (.boolean true)
  else if s == "false".toList then some (.boolean false)
  else
    match integer? s with
    | some n => if inRange n then some (.integer n) else none
    | none => if isFloat s then some .float else if isDate s then some .date else none

/-- The word at the head of a text. A blank may stand between a date and a time. -/
def wordAt (s : List Char) : List Char :=
  let word := s.takeWhile isWordChar
  match s.drop word.length with
  | ' ' :: t =>
    let rest := t.takeWhile isWordChar
    if (date? word) == some [] && (pair? rest).isSome then word ++ ' ' :: rest else word
  | _ => word

/-! ## Texts -/

/-- Whether a character may stand in a text as it is. -/
def isTextChar (c : Char) : Bool :=
  c == '\t' || (c.toNat ≥ 0x20 && c.toNat != 0x7F)

/-- The character with a code, written in a certain number of hexadecimal digits. -/
def codePoint? (length : Nat) (s : List Char) : Option (Char × List Char) :=
  let digits := s.take length
  if digits.length != length then none
  else
    (digits.foldl (fun n c => n.bind fun n => (digit? c).map (16 * n + ·)) (some 0)).bind fun n =>
      let c := Char.ofNat n
      if c.toNat == n then some (c, s.drop length) else none

/-- Reads an escape after its backslash. -/
def escape? : List Char → Option (Char × List Char)
  | 'b' :: s => some ('\x08', s)
  | 't' :: s => some ('\t', s)
  | 'n' :: s => some ('\n', s)
  | 'f' :: s => some ('\x0c', s)
  | 'r' :: s => some ('\r', s)
  | 'e' :: s => some ('\x1b', s)
  | '"' :: s => some ('"', s)
  | '\\' :: s => some ('\\', s)
  | 'x' :: s => codePoint? 2 s
  | 'u' :: s => codePoint? 4 s
  | 'U' :: s => codePoint? 8 s
  | _ => none

/-- Reads a text on one line after its first quote; the text so far is in reverse. The bound is more
than the number of characters ahead. -/
def lineText? (literal : Bool) (quote : Char) : Nat → List Char → List Char →
    Option (String × List Char)
  | 0, _, _ => none
  | _, _, [] => none
  | bound + 1, text, c :: s =>
    if c == quote then some (String.ofList text.reverse, s)
    else if c == '\\' && !literal then
      (escape? s).bind fun (d, s) => lineText? literal quote bound (d :: text) s
    else if isTextChar c then lineText? literal quote bound (c :: text) s
    else none

/-- What follows a line end. -/
def afterNewLine? : List Char → Option (List Char)
  | '\n' :: s => some s
  | '\r' :: '\n' :: s => some s
  | _ => none

/-- What follows the blanks and line ends at the head of a text. -/
def skipLines : Nat → List Char → List Char
  | 0, s => s
  | bound + 1, s =>
    match s with
    | ' ' :: t => skipLines bound t
    | '\t' :: t => skipLines bound t
    | _ =>
      match afterNewLine? s with
      | some t => skipLines bound t
      | none => s

/-- Reads a text of several lines after its first quotes; the text so far is in reverse. One or two
quotes may stand before the last three. The bound is more than the number of characters ahead. -/
def longText? (literal : Bool) (quote : Char) : Nat → List Char → List Char →
    Option (String × List Char)
  | 0, _, _ => none
  | _, _, [] => none
  | bound + 1, text, c :: s =>
    if c == quote then
      let quotes := (c :: s).takeWhile (· == quote)
      if quotes.length < 3 then longText? literal quote bound (c :: text) s
      else if quotes.length > 5 then none
      else
        some (String.ofList ((quotes.drop 3) ++ text).reverse, (c :: s).drop quotes.length)
    else if c == '\\' && !literal then
      let t := s.dropWhile fun d => d == ' ' || d == '\t'
      if (afterNewLine? t).isSome then longText? literal quote bound text (skipLines bound t)
      else (escape? s).bind fun (d, s) => longText? literal quote bound (d :: text) s
    else
      match afterNewLine? (c :: s) with
      | some t => longText? literal quote bound ('\n' :: text) t
      | none => if isTextChar c then longText? literal quote bound (c :: text) s else none

/-- Reads a text of several lines after its first quotes. A line end right behind them does not
belong to it. -/
def longTextAt? (literal : Bool) (quote : Char) (s : List Char) : Option (String × List Char) :=
  let s := (afterNewLine? s).getD s
  longText? literal quote (s.length + 1) [] s

/-- Reads a text on one line at its first quote. -/
def shortText? : List Char → Option (String × List Char)
  | '"' :: s => lineText? false '"' (s.length + 1) [] s
  | '\'' :: s => lineText? true '\'' (s.length + 1) [] s
  | _ => none

/-- Reads a text at its first quote. -/
def text? : List Char → Option (String × List Char)
  | '"' :: '"' :: '"' :: s => longTextAt? false '"' s
  | '\'' :: '\'' :: '\'' :: s => longTextAt? true '\'' s
  | s => shortText? s

end MarkdownTree.Toml
