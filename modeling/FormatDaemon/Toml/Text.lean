import FormatDaemon.Json.Reader

/-!
# Texts in TOML

A text stands in double quotes, with escapes, or in single quotes, without. Tripled
quotes let it run over several lines.

* `basic`, `literal`: a text on one line, behind its opening quote.
* `basicLines`, `literalLines`: a text on several lines, behind its opening quotes.

Each returns the text and what follows its closing quotes.
-/

namespace FormatDaemon.Toml

/-- Puts a character before a text that was read. -/
def consChar (c : Char) : Option (List Char × List Char) → Option (List Char × List Char) :=
  Option.map fun (cs, rest) => (c :: cs, rest)

/-- Puts a character before a text that was read, if there is one. -/
def consFound (c? : Option Char) (reading : Option (List Char × List Char)) :
    Option (List Char × List Char) :=
  c?.bind (consChar · reading)

/-- Whether a character may stand in a text or a comment: no control but the tab. -/
def isVisible (c : Char) : Bool := c = '\t' || (0x20 ≤ c.toNat && c.toNat != 0x7F)

/-- The character of a one-letter escape. -/
def escape? : Char → Option Char
  | 'b' => some (Char.ofNat 0x8)
  | 't' => some '\t'
  | 'n' => some '\n'
  | 'f' => some (Char.ofNat 0xC)
  | 'r' => some '\r'
  | '"' => some '"'
  | '\\' => some '\\'
  | _ => none

/-- The character with a number in hexadecimal digits. -/
def numbered? (digits : List Char) : Option Char := do
  let values ← digits.mapM Json.Reader.hexValue?
  let n := values.foldl (16 * · + ·) 0
  if n.isValidChar then return Char.ofNat n else none

/-- A text in double quotes. -/
def basic : List Char → Option (List Char × List Char)
  | [] => none
  | '"' :: rest => some ([], rest)
  | '\\' :: 'u' :: a :: b :: c :: d :: rest => consFound (numbered? [a, b, c, d]) (basic rest)
  | '\\' :: 'U' :: a :: b :: c :: d :: e :: f :: g :: h :: rest =>
    consFound (numbered? [a, b, c, d, e, f, g, h]) (basic rest)
  | '\\' :: e :: rest => consFound (escape? e) (basic rest)
  | c :: rest => if c != '\\' && isVisible c then consChar c (basic rest) else none

/-- A text in single quotes. -/
def literal : List Char → Option (List Char × List Char)
  | [] => none
  | '\'' :: rest => some ([], rest)
  | c :: rest => if isVisible c then consChar c (literal rest) else none

/-- Where a reader of lines stands with respect to an escaped line end. -/
inductive Fold where
  | outside
  /-- Behind the backslash, before the line end. -/
  | before
  /-- Behind the line end, before the next visible character. -/
  | behind
  deriving DecidableEq

/-- A text in tripled double quotes. Up to two quotes may stand before the closing
ones; a backslash at the end of a line hides the blanks up to the next character. -/
def basicLines : Fold → List Char → Option (List Char × List Char)
  | _, [] => none
  | .before, '\n' :: rest => basicLines .behind rest
  | .before, '\r' :: '\n' :: rest => basicLines .behind rest
  | .before, c :: rest => if c = ' ' || c = '\t' then basicLines .before rest else none
  | .behind, '\n' :: rest => basicLines .behind rest
  | .behind, '\r' :: '\n' :: rest => basicLines .behind rest
  | .behind, ' ' :: rest => basicLines .behind rest
  | .behind, '\t' :: rest => basicLines .behind rest
  | _, '"' :: '"' :: '"' :: '"' :: '"' :: rest => some (['"', '"'], rest)
  | _, '"' :: '"' :: '"' :: '"' :: rest => some (['"'], rest)
  | _, '"' :: '"' :: '"' :: rest => some ([], rest)
  | _, '\n' :: rest => consChar '\n' (basicLines .outside rest)
  | _, '\r' :: '\n' :: rest => consChar '\n' (basicLines .outside rest)
  | _, '\\' :: 'u' :: a :: b :: c :: d :: rest =>
    consFound (numbered? [a, b, c, d]) (basicLines .outside rest)
  | _, '\\' :: 'U' :: a :: b :: c :: d :: e :: f :: g :: h :: rest =>
    consFound (numbered? [a, b, c, d, e, f, g, h]) (basicLines .outside rest)
  | _, '\\' :: e :: rest =>
    match escape? e with
    | some x => consChar x (basicLines .outside rest)
    | none =>
      if e = '\n' then basicLines .behind rest
      else if e = ' ' || e = '\t' || e = '\r' then
        if e = '\r' && rest.head? != some '\n' then none else basicLines .before rest
      else none
  | _, c :: rest => if c != '\\' && isVisible c then consChar c (basicLines .outside rest) else none

/-- A text in tripled single quotes. -/
def literalLines : List Char → Option (List Char × List Char)
  | [] => none
  | '\'' :: '\'' :: '\'' :: '\'' :: '\'' :: rest => some (['\'', '\''], rest)
  | '\'' :: '\'' :: '\'' :: '\'' :: rest => some (['\''], rest)
  | '\'' :: '\'' :: '\'' :: rest => some ([], rest)
  | '\n' :: rest => consChar '\n' (literalLines rest)
  | '\r' :: '\n' :: rest => consChar '\n' (literalLines rest)
  | c :: rest => if isVisible c then consChar c (literalLines rest) else none

/-- Behind a line end that follows opening quotes. -/
def skipLineEnd : List Char → List Char
  | '\n' :: rest => rest
  | '\r' :: '\n' :: rest => rest
  | cs => cs

/-- A text behind its first double quote. -/
def doubleQuoted : List Char → Option (List Char × List Char)
  | '"' :: '"' :: rest => basicLines .outside (skipLineEnd rest)
  | cs => basic cs

/-- A text behind its first single quote. -/
def singleQuoted : List Char → Option (List Char × List Char)
  | '\'' :: '\'' :: rest => literalLines (skipLineEnd rest)
  | cs => literal cs

end FormatDaemon.Toml
