import ScriptVet.Text.Half
import ScriptVet.Text.Hex
import ScriptVet.Text.Lines
import ScriptVet.Text.Search

/-!
# Literal values

The parameters that are handed to an action are literal values: numbers, text, octets, the three
constants, and groups, sets and tables of such values. Here it is only decided whether a text writes
such a value. The text is cut into tokens first, and the tokens are then read by a grammar in which
the sole sums are those of a real and an imaginary number.
-/

namespace ScriptVet.Console.Literal

/-- The tokens of a literal value. Brackets are told apart by their kind: those of tables and sets
are braces. -/
inductive Token where
  | real
  | imaginary
  | text
  | octets
  | constant
  /-- The word that makes an empty set when it is called. -/
  | setMaker
  | sign
  | comma
  | colon
  | opening (isBrace : Bool)
  | closing (isBrace : Bool)
  | lineEnd
  deriving Repr, DecidableEq

/-! ## Numbers -/

/-- How many digits a run has, with single underscores between them, and what follows it. -/
def digitRun (isDigit : Char → Bool) : List Char → Option (Nat × List Char)
  | [] => none
  | [c] => if isDigit c then some (1, []) else none
  | c :: '_' :: rest =>
    if isDigit c then (digitRun isDigit rest).map fun (n, rest) => (n + 1, rest) else none
  | c :: next :: rest =>
    if !isDigit c then none
    else if isDigit next then
      (digitRun isDigit (next :: rest)).map fun (n, rest) => (n + 1, rest)
    else some (1, next :: rest)

/-- A run of digits, if there is one. -/
def optionalRun (cs : List Char) : Option (Nat × List Char) :=
  match cs with
  | c :: _ => if c.isDigit then digitRun Char.isDigit cs else some (0, cs)
  | [] => some (0, [])

/-- The digits of the numbers that begin with a zero and a letter. -/
def radixDigits? (letter : Char) : Option (Char → Bool) :=
  if letter.toLower = 'x' then some fun c => (Text.hexValue? c).isSome
  else if letter.toLower = 'o' then some fun c => '0' ≤ c && c ≤ '7'
  else if letter.toLower = 'b' then some fun c => c == '0' || c == '1'
  else none

/-- What follows the exponent of a number, if it has one; with it, whether it has one. -/
def exponent (cs : List Char) : Option (Bool × List Char) :=
  match cs with
  | c :: rest =>
    if c.toLower ≠ 'e' then some (false, cs)
    else
      let unsigned := match rest with
        | '+' :: rest => rest
        | '-' :: rest => rest
        | rest => rest
      (digitRun Char.isDigit unsigned).map fun (_, rest) => (true, rest)
  | [] => some (false, [])

/-- Characters that may not follow a number. -/
def continuesWord (c : Char) : Bool :=
  c.isAlphanum || c == '_' || 0x80 ≤ c.toNat

/-- What follows has to be apart from the number before it. -/
def apart (token : Token) (rest : List Char) : Option (Token × List Char) :=
  if rest.head?.any continuesWord then none else some (token, rest)

/-- The digits that an integer may have. -/
def digitLimit : Nat := 4300

/-- The digits of an integer: zeros in front stand only before zeros. -/
def isInteger (digits : List Char) (count : Nat) : Bool :=
  count ≤ digitLimit &&
    (digits.head? != some '0' || digits.all fun c => c == '0' || c == '_')

/-- A number in decimal digits. -/
def decimal (cs : List Char) : Option (Token × List Char) := do
  let (count, rest) ← optionalRun cs
  let (hasPoint, rest) ←
    match rest with
    | '.' :: rest => (optionalRun rest).map fun (_, rest) => (true, rest)
    | rest => some (false, rest)
  let (hasExponent, rest) ← exponent rest
  match rest with
  | c :: after =>
    if c.toLower = 'j' then apart .imaginary after
    else if hasPoint || hasExponent || isInteger (cs.take (cs.length - rest.length)) count then
      apart .real rest
    else none
  | [] =>
    if hasPoint || hasExponent || isInteger cs count then some (.real, []) else none

/-- A number. -/
def number (cs : List Char) : Option (Token × List Char) :=
  match cs with
  | '0' :: letter :: rest =>
    match radixDigits? letter with
    | none => decimal cs
    | some isDigit =>
      let digits := match rest with
        | '_' :: rest => rest
        | rest => rest
      (digitRun isDigit digits).bind fun (_, rest) => apart .real rest
  | cs => decimal cs

/-! ## Text and octets -/

/-- How text is written: the characters that end it, whether backslashes stand for themselves, and
whether it is octets. -/
structure TextForm where
  ending : List Char
  isRaw : Bool
  isOctets : Bool
  deriving Repr, DecidableEq

namespace TextForm

/-- The forms by the letters in front of the quote. -/
def letters : List (String × Bool × Bool) := [
  ("", false, false), ("u", false, false), ("r", true, false), ("b", false, true),
  ("br", true, true), ("rb", true, true)]

/-- The form of a text that begins with some letters and a quote, and the text behind the quote. -/
def ofOpening? (letters : String) (quote : Char) (rest : List Char) :
    Option (TextForm × List Char) :=
  (TextForm.letters.lookup letters).map fun (isRaw, isOctets) =>
    match Text.dropStart? [quote, quote] rest with
    | some rest => (⟨[quote, quote, quote], isRaw, isOctets⟩, rest)
    | none => (⟨[quote], isRaw, isOctets⟩, rest)

/-- So many hexadecimal digits write a code point. -/
def hasPoint (places : Nat) (cs : List Char) : Bool :=
  let digits := cs.take places
  digits.length = places && (Text.hexNumber? digits).any (· ≤ 0x10FFFF)

/-- A name in braces. -/
def hasName (cs : List Char) : Bool :=
  match cs with
  | '\x7b' :: rest =>
    let name := rest.takeWhile (· != '\x7d')
    !name.isEmpty && name.length < rest.length
  | _ => false

/-- What follows a backslash and a character fits them. -/
def fits (form : TextForm) (c : Char) (rest : List Char) : Bool :=
  form.isRaw ||
    (if c = 'x' then hasPoint 2 rest
    else if form.isOctets then true
    else if c = 'u' then hasPoint 4 rest
    else if c = 'U' then hasPoint 8 rest
    else c != 'N' || hasName rest)

/-- A character that the text may hold. -/
def allows (form : TextForm) (c : Char) : Bool :=
  !form.isOctets || c.toNat < 0x80

/-- What follows the text. -/
def close (form : TextForm) : List Char → Option (List Char)
  | [] => none
  | '\\' :: c :: rest =>
    if form.allows c && form.fits c rest then form.close rest else none
  | c :: rest =>
    match Text.dropStart? form.ending (c :: rest) with
    | some rest => some rest
    | none =>
      if form.allows c && (c != '\n' || 1 < form.ending.length) then form.close rest else none

/-- The token of a text. -/
def token (form : TextForm) : Token :=
  if form.isOctets then .octets else .text

end TextForm

/-! ## Tokens -/

/-- The words that are values, and the word that makes an empty set. -/
def words : List (String × Token) := [
  ("None", .constant), ("True", .constant), ("False", .constant), ("set", .setMaker)]

/-- A word, or a text that letters stand in front of. -/
def wordOrText (cs : List Char) : Option (Token × List Char) :=
  let word := String.ofList (cs.takeWhile continuesWord)
  match cs.dropWhile continuesWord with
  | c :: rest =>
    if c = '\'' || c = '"' then do
      let letters := String.ofList (word.toList.map Char.toLower)
      let (form, rest) ← TextForm.ofOpening? letters c rest
      return (form.token, ← form.close rest)
    else (words.lookup word).map (·, c :: rest)
  | [] => (words.lookup word).map (·, [])

/-- The tokens of one character. -/
def singles : List (Char × Token) := [
  ('+', .sign), ('-', .sign), (',', .comma), (':', .colon), ('(', .opening false),
  (')', .closing false), ('\x7b', .opening true), ('\x7d', .closing true), ('\n', .lineEnd)]

/-- The token at the front of a text. -/
def token (cs : List Char) : Option (Token × List Char) :=
  match cs with
  | [] => none
  | '.' :: '.' :: '.' :: rest => some (.constant, rest)
  | c :: rest =>
    if c.isDigit || (c == '.' && rest.head?.any Char.isDigit) then number cs
    else if continuesWord c || c == '\'' || c == '"' then wordOrText cs
    else (singles.lookup c).map (·, rest)

/-- Characters between tokens. -/
def isGap (c : Char) : Bool :=
  c == ' ' || c == '\t' || c == '\x0c'

/-- How deep brackets may be nested. -/
def depthLimit : Nat := 200

/-- The depth after a token. -/
def depthAfter (depth : Nat) : Token → Nat
  | .opening _ => depth + 1
  | .closing _ => depth - 1
  | _ => depth

/-- Reads tokens; there are fewer of them than characters. Lines end only outside of brackets. -/
def tokensFrom : Nat → Nat → List Char → Option (List Token)
  | _, _, [] => some []
  | 0, _, _ => none
  | fuel + 1, depth, c :: rest =>
    if isGap c then tokensFrom fuel depth rest
    else if c = '#' then tokensFrom fuel depth (rest.dropWhile (· != '\n'))
    else if c = '\\' && rest.head? == some '\n' then tokensFrom fuel depth rest.tail
    else do
      let (token, rest) ← token (c :: rest)
      let inner := depthAfter depth token
      if depthLimit < inner then none
      else
        let tokens ← tokensFrom fuel inner rest
        if token = .lineEnd && 0 < depth then return tokens else return token :: tokens

/-- The tokens of a text, which must be whole. -/
def tokens (cs : List Char) : Option (List Token) :=
  let cs := Text.readNewlines cs
  if cs.any fun c => Text.isHalf c || c == '\x00' then none else tokensFrom (cs.length + 1) 0 cs

/-! ## Values -/

/-- What matters about a value that has been read. -/
inductive Kind where
  | real
  | imaginary
  | signedReal
  | signedImaginary
  /-- A value that may be a member of a set or a key of a table. -/
  | fixed
  | changing
  /-- Not a value yet: the word that makes an empty set. -/
  | setMaker
  deriving Repr, DecidableEq

namespace Kind

/-- The kind of a number behind a sign. -/
def signed? : Kind → Option Kind
  | real => some signedReal
  | imaginary => some signedImaginary
  | _ => none

/-- The kind of a sum. -/
def sum? : Kind → Kind → Option Kind
  | real, imaginary | signedReal, imaginary => some fixed
  | _, _ => none

/-- The kind of several values as one. -/
def group? (kinds : List Kind) : Option Kind :=
  if kinds.contains setMaker then none
  else if kinds.contains changing then some changing
  else some fixed

/-- The kind may be that of a member of a set. -/
def isMember (kind : Kind) : Bool :=
  kind != changing && kind != setMaker

end Kind

mutual

/-- A value: a number or a sum of numbers, or anything else that stands alone. -/
def value : Nat → List Token → Option (Kind × List Token)
  | 0, _ => none
  | fuel + 1, tokens => do
    let (kind, rest) ← signedValue fuel tokens
    sumFrom fuel kind rest

/-- The sum of a value and those that follow. -/
def sumFrom : Nat → Kind → List Token → Option (Kind × List Token)
  | 0, _, _ => none
  | fuel + 1, kind, tokens =>
    match tokens with
    | .sign :: rest => do
      let (other, rest) ← signedValue fuel rest
      sumFrom fuel (← kind.sum? other) rest
    | rest => some (kind, rest)

/-- A value with signs in front. -/
def signedValue : Nat → List Token → Option (Kind × List Token)
  | 0, _ => none
  | fuel + 1, tokens =>
    match tokens with
    | .sign :: rest => do
      let (kind, rest) ← signedValue fuel rest
      return (← kind.signed?, rest)
    | rest => do
      let (kind, rest) ← single fuel rest
      match kind, rest with
      | .setMaker, .opening false :: .closing false :: rest => return (.changing, rest)
      | _, rest => return (kind, rest)

/-- A value without signs. -/
def single : Nat → List Token → Option (Kind × List Token)
  | 0, _ => none
  | fuel + 1, tokens =>
    match tokens with
    | .real :: rest => some (.real, rest)
    | .imaginary :: rest => some (.imaginary, rest)
    | .constant :: rest => some (.fixed, rest)
    | .setMaker :: rest => some (.setMaker, rest)
    | .text :: rest => some (.fixed, rest.dropWhile (· = .text))
    | .octets :: rest => some (.fixed, rest.dropWhile (· = .octets))
    | .opening false :: .closing false :: rest => some (.fixed, rest)
    | .opening true :: .closing true :: rest => some (.changing, rest)
    | .opening false :: rest => do
      let (kind, rest) ← values fuel rest
      match rest with
      | .closing false :: rest => return (kind, rest)
      | _ => none
    | .opening true :: rest => do
      let (kind, rest) ← value fuel rest
      if !kind.isMember then none
      else
        match rest with
        | .colon :: rest => entryValue fuel rest
        | rest => membersAfter fuel rest
    | _ => none

/-- Values between commas, as one value. -/
def values : Nat → List Token → Option (Kind × List Token)
  | 0, _ => none
  | fuel + 1, tokens => do
    let (kind, rest) ← value fuel tokens
    match rest with
    | .comma :: _ => do
      let (kinds, rest) ← valuesAfter fuel rest
      return (← Kind.group? (kind :: kinds), rest)
    | rest => return (kind, rest)

/-- The values that follow, each behind a comma; there may be one more comma. -/
def valuesAfter : Nat → List Token → Option (List Kind × List Token)
  | 0, _ => none
  | fuel + 1, tokens =>
    match tokens with
    | .comma :: rest =>
      match rest with
      | [] | .closing _ :: _ | .lineEnd :: _ => some ([], rest)
      | rest => do
        let (kind, rest) ← value fuel rest
        let (kinds, rest) ← valuesAfter fuel rest
        return (kind :: kinds, rest)
    | rest => some ([], rest)

/-- The members of a set that follow, up to the brace that closes it. -/
def membersAfter : Nat → List Token → Option (Kind × List Token)
  | 0, _ => none
  | fuel + 1, tokens => do
    let (kinds, rest) ← valuesAfter fuel tokens
    match rest with
    | .closing true :: rest => if kinds.all Kind.isMember then return (.changing, rest) else none
    | _ => none

/-- The value of an entry of a table and the entries that follow. -/
def entryValue : Nat → List Token → Option (Kind × List Token)
  | 0, _ => none
  | fuel + 1, tokens => do
    let (kind, rest) ← value fuel tokens
    if kind = .setMaker then none
    else
      match rest with
      | .closing true :: rest => return (.changing, rest)
      | .comma :: .closing true :: rest => return (.changing, rest)
      | .comma :: rest => entry fuel rest
      | _ => none

/-- An entry of a table and the entries that follow. -/
def entry : Nat → List Token → Option (Kind × List Token)
  | 0, _ => none
  | fuel + 1, tokens => do
    let (kind, rest) ← value fuel tokens
    match rest with
    | .colon :: rest => if kind.isMember then entryValue fuel rest else none
    | _ => none

end

/-- The deepest calls for one token. -/
def callsPerToken : Nat := 8

/-- A text writes a literal value, or several between commas. -/
def isLiteral (cs : List Char) : Bool :=
  match tokens cs with
  | none => false
  | some tokens =>
    let tokens := tokens.dropWhile (· = .lineEnd)
    match values (callsPerToken * (tokens.length + 1)) tokens with
    | some (kind, rest) => kind != .setMaker && rest.all (· = .lineEnd)
    | none => false

end ScriptVet.Console.Literal
