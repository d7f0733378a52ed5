import PriorityGateway.Framework.Bytes
import PriorityGateway.Framework.Table

/-! # JSON Texts

    JSON as a decoder that keeps values undecoded sees it: a text is cut into
    tokens, a pushdown automaton over the tokens accepts one value, and an
    object is the list of its members, each a key as it is spelled and the
    tokens of its value.

    * Both passes go through their input once, so there is no fuel: what is
      not accepted is not JSON.
    * White space is dropped by the first pass.  A value is written out again
      without white space anyway.
    * Bytes of 128 and above are kept in strings as they are; texts are taken
      to be valid UTF-8. -/

namespace Json

open Bytes (ofText)

/-! ## Tokens -/

inductive Token where
  | openObject
  | closeObject
  | openArray
  | closeArray
  | comma
  | colon
  /-- a string as it is spelled, without its quotes -/
  | text (raw : Bytes)
  /-- a number or one of `true`, `false` and `null` -/
  | word (raw : Bytes)
  deriving DecidableEq, Repr

def isSpace (c : UInt8) : Bool := c = 32 || c = 9 || c = 10 || c = 13

def isDigit (c : UInt8) : Bool := 48 ≤ c && c ≤ 57

def hexVal (c : UInt8) : Option Nat :=
  if isDigit c then some (c.toNat - 48)
  else if 97 ≤ c && c ≤ 102 then some (c.toNat - 87)
  else if 65 ≤ c && c ≤ 70 then some (c.toNat - 55)
  else none

def punctuation (c : UInt8) : Option Token :=
  if c = 123 then some .openObject
  else if c = 125 then some .closeObject
  else if c = 91 then some .openArray
  else if c = 93 then some .closeArray
  else if c = 44 then some .comma
  else if c = 58 then some .colon
  else none

/-- `"`, `\`, `/`, `b`, `f`, `n`, `r`, `t` after a backslash -/
def isEscape (c : UInt8) : Bool := [34, 92, 47, 98, 102, 110, 114, 116].contains c

/-- One or more digits at the front are read. -/
def skipDigits : Bytes → Option Bytes
  | c :: rest => if isDigit c then some (rest.dropWhile isDigit) else none
  | [] => none

/-- The integer part: no leading zero. -/
def skipInteger : Bytes → Option Bytes
  | c :: rest => if c = 48 then some rest else skipDigits (c :: rest)
  | [] => none

def skipFraction : Bytes → Option Bytes
  | c :: rest => if c = 46 then skipDigits rest else some (c :: rest)
  | [] => some []

def skipExponent : Bytes → Option Bytes
  | c :: rest =>
    if c = 101 || c = 69 then
      match rest with
      | sign :: digits => if sign = 43 || sign = 45 then skipDigits digits else skipDigits rest
      | [] => none
    else some (c :: rest)
  | [] => some []

def isNumber (s : Bytes) : Bool :=
  let s := if s.head? = some 45 then s.tail else s
  ((skipInteger s).bind fun s => (skipFraction s).bind skipExponent) = some []

def isWord (s : Bytes) : Bool :=
  s = ofText "true" || s = ofText "false" || s = ofText "null" || isNumber s

/-- Where in a token the text is being read; what was read of it is kept in reverse. -/
inductive Place where
  | between
  | word (read : Bytes)
  | text (read : Bytes)
  /-- after a backslash -/
  | escape (read : Bytes)
  /-- inside `\uXXXX`, with that many digits to come -/
  | hex (left : Nat) (read : Bytes)
  deriving DecidableEq, Repr

/-- What a word gives when it ends. -/
def endWord : Place → Option (List Token)
  | .between => some []
  | .word read => if isWord read.reverse then some [.word read.reverse] else none
  | .text _ | .escape _ | .hex _ _ => none

/-- A byte between tokens, or the one that ends a word. -/
def outside (c : UInt8) : List Token × Place :=
  if isSpace c then ([], .between)
  else
    match punctuation c with
    | some token => ([token], .between)
    | none => if c = 34 then ([], .text []) else ([], .word [c])

/-- One byte of the text: the tokens it ends, and the place after it. -/
def lexByte (place : Place) (c : UInt8) : Option (List Token × Place) :=
  match place with
  | .between => some (outside c)
  | .word read =>
    if isSpace c || (punctuation c).isSome || c = 34 then
      (endWord place).map fun tokens => (tokens ++ (outside c).1, (outside c).2)
    else some ([], .word (c :: read))
  | .text read =>
    if c = 34 then some ([.text read.reverse], .between)
    else if c = 92 then some ([], .escape (c :: read))
    else if c < 32 then none
    else some ([], .text (c :: read))
  | .escape read =>
    if isEscape c then some ([], .text (c :: read))
    else if c = 117 then some ([], .hex 4 (c :: read))
    else none
  | .hex left read =>
    if (hexVal c).isNone then none
    else if left ≤ 1 then some ([], .text (c :: read))
    else some ([], .hex (left - 1) (c :: read))

/-- The tokens of a text. -/
def tokens (place : Place) : Bytes → Option (List Token)
  | [] => endWord place
  | c :: rest => do
    let (ended, place) ← lexByte place c
    let more ← tokens place rest
    some (ended ++ more)

/-! ## Values -/

inductive Container where
  | object
  | array
  deriving DecidableEq, Repr

/-- What may come next. -/
inductive Expect where
  | value
  | valueOrClose
  | key
  | keyOrClose
  | colon
  /-- a value has ended -/
  | next
  deriving DecidableEq, Repr

/-- How deep containers may be nested. -/
def maxNestingDepth : Nat := 10000

structure Position where
  expect : Expect
  /-- the open containers, the innermost first -/
  containers : List Container
  deriving DecidableEq, Repr

/-- A container is opened, if that is not too deep. -/
def Position.open (p : Position) (c : Container) (expect : Expect) : Option Position :=
  if p.containers.length < maxNestingDepth then some ⟨expect, c :: p.containers⟩ else none

/-- The start of a value. -/
def Position.value (p : Position) : Token → Option Position
  | .text _ | .word _ => some { p with expect := .next }
  | .openObject => p.open .object .keyOrClose
  | .openArray => p.open .array .valueOrClose
  | _ => none

/-- One token. -/
def Position.step (p : Position) (token : Token) : Option Position :=
  match p.expect, token with
  | .value, token => p.value token
  | .valueOrClose, .closeArray => some ⟨.next, p.containers.tail⟩
  | .valueOrClose, token => p.value token
  | .key, .text _ => some { p with expect := .colon }
  | .keyOrClose, .text _ => some { p with expect := .colon }
  | .keyOrClose, .closeObject => some ⟨.next, p.containers.tail⟩
  | .colon, .colon => some { p with expect := .value }
  | .next, token =>
    match p.containers, token with
    | .object :: _, .comma => some { p with expect := .key }
    | .object :: outer, .closeObject => some ⟨.next, outer⟩
    | .array :: _, .comma => some { p with expect := .value }
    | .array :: outer, .closeArray => some ⟨.next, outer⟩
    | _, _ => none
  | _, _ => none

/-- The tokens are one value. -/
def isValue (value : List Token) : Bool :=
  value.foldlM Position.step ⟨.value, []⟩ = some ⟨.next, []⟩

/-- One value with nothing but white space around it. -/
def parse (s : Bytes) : Option (List Token) := do
  let value ← tokens .between s
  if isValue value then some value else none

/-! ## Objects -/

/-- A member of an object: the key as it is spelled, and the value. -/
structure Member where
  key : Bytes
  value : List Token
  deriving DecidableEq, Repr

/-- One more token for the value of the last member. -/
def extendLast : List Member → Token → List Member
  | [], _ => []
  | [m], token => [{ m with value := m.value ++ [token] }]
  | m :: ms, token => m :: extendLast ms token

/-- What a token adds to the members of the outermost object. -/
def collect (p : Position) (ms : List Member) (token : Token) : List Member :=
  match p.containers, p.expect, token with
  | [_], .key, .text raw => ms ++ [⟨raw, []⟩]
  | [_], .keyOrClose, .text raw => ms ++ [⟨raw, []⟩]
  | [_], .value, token => extendLast ms token
  | _ :: _ :: _, _, token => extendLast ms token
  | _, _, _ => ms

/-- The members found from one position on. -/
def collectFrom (p : Position) (ms : List Member) : List Token → List Member
  | [] => ms
  | token :: rest =>
    match p.step token with
    | none => ms
    | some p' => collectFrom p' (collect p ms token) rest

/-- The members of an object in their order; nothing for any other value. -/
def members : List Token → Option (List Member)
  | .openObject :: rest => some (collectFrom ⟨.value, []⟩ [] (.openObject :: rest))
  | _ => none

/-! ## Strings -/

/-- The UTF-8 encoding of a code point. -/
def encodeRune (r : Nat) : Bytes :=
  if r < 0x80 then [UInt8.ofNat r]
  else if r < 0x800 then [UInt8.ofNat (0xC0 + r / 64), UInt8.ofNat (0x80 + r % 64)]
  else if r < 0x10000 then
    [UInt8.ofNat (0xE0 + r / 4096), UInt8.ofNat (0x80 + r / 64 % 64), UInt8.ofNat (0x80 + r % 64)]
  else
    [UInt8.ofNat (0xF0 + r / 262144), UInt8.ofNat (0x80 + r / 4096 % 64),
      UInt8.ofNat (0x80 + r / 64 % 64), UInt8.ofNat (0x80 + r % 64)]

/-- What stands for half a surrogate pair. -/
def replacement : Bytes := encodeRune 0xFFFD

def hex4 (a b c d : UInt8) : Nat :=
  [a, b, c, d].foldl (fun acc digit => acc * 16 + (hexVal digit).getD 0) 0

/-- The byte that a backslash and this byte stand for. -/
def unescape (c : UInt8) : UInt8 :=
  if c = 98 then 8 else if c = 102 then 12 else if c = 110 then 10
  else if c = 114 then 13 else if c = 116 then 9 else c

/-- A code point, or half a surrogate pair alone. -/
def runeOf (r : Nat) : Bytes := if 0xD800 ≤ r ∧ r < 0xE000 then replacement else encodeRune r

/-- The first half of a surrogate pair that the second has not followed. -/
def lost : Option Nat → Bytes
  | none => []
  | some _ => replacement

/-- The string that is spelled so, after the first half of a surrogate pair or not. -/
def unquoteFrom : Option Nat → Bytes → Bytes
  | high, 92 :: 117 :: a :: b :: c :: d :: rest =>
    let r := hex4 a b c d
    match high with
    | some h =>
      if 0xDC00 ≤ r ∧ r < 0xE000 then
        encodeRune (0x10000 + (h - 0xD800) * 0x400 + (r - 0xDC00)) ++ unquoteFrom none rest
      else if 0xD800 ≤ r ∧ r < 0xDC00 then replacement ++ unquoteFrom (some r) rest
      else replacement ++ runeOf r ++ unquoteFrom none rest
    | none =>
      if 0xD800 ≤ r ∧ r < 0xDC00 then unquoteFrom (some r) rest
      else runeOf r ++ unquoteFrom none rest
  | high, 92 :: c :: rest => lost high ++ unescape c :: unquoteFrom none rest
  | high, c :: rest => lost high ++ c :: unquoteFrom none rest
  | high, [] => lost high

/-- The string that is spelled so. -/
def unquote (raw : Bytes) : Bytes := unquoteFrom none raw

def hexDigit (n : Nat) : UInt8 := if n < 10 then UInt8.ofNat (48 + n) else UInt8.ofNat (87 + n)

/-- `\u00XX` -/
def unicodeEscape (c : UInt8) : Bytes :=
  [92, 117, 48, 48, hexDigit (c.toNat / 16), hexDigit (c.toNat % 16)]

/-- `<`, `>` and `&` -/
def isHTML (c : UInt8) : Bool := c = 60 || c = 62 || c = 38

/-- A spelled string as it is written out again: what HTML would read is escaped. -/
def escapeHTML : Bytes → Bytes
  | 0xE2 :: 0x80 :: 0xA8 :: rest => ofText "\\u2028" ++ escapeHTML rest
  | 0xE2 :: 0x80 :: 0xA9 :: rest => ofText "\\u2029" ++ escapeHTML rest
  | c :: rest => (if isHTML c then unicodeEscape c else [c]) ++ escapeHTML rest
  | [] => []

/-- How one byte of a string is spelled. -/
def escapeByte (c : UInt8) : Bytes :=
  if c = 34 || c = 92 then [92, c]
  else if c = 8 then [92, 98]
  else if c = 12 then [92, 102]
  else if c = 10 then [92, 110]
  else if c = 13 then [92, 114]
  else if c = 9 then [92, 116]
  else if c < 32 || isHTML c then unicodeEscape c
  else [c]

/-- How a string is spelled. -/
def quote : Bytes → Bytes
  | 0xE2 :: 0x80 :: 0xA8 :: rest => ofText "\\u2028" ++ quote rest
  | 0xE2 :: 0x80 :: 0xA9 :: rest => ofText "\\u2029" ++ quote rest
  | c :: rest => escapeByte c ++ quote rest
  | [] => []

/-! ## Decoding and encoding -/

/-- An object whose values are kept undecoded, by decoded key. -/
abbrev Object : Type := Table Bytes (List Token)

/-- One member is stored; a later one of the same key replaces it. -/
def store (o : Object) (m : Member) : Object := o.insert (unquote m.key) m.value

/-- Decodes into an object: nothing if the text is not JSON or another kind of value, and an
    absent object for `null`. -/
def unmarshalObject (s : Bytes) : Option (Option Object) := do
  let value ← parse s
  if value = [.word (ofText "null")] then some none
  else (members value).map fun ms => some (ms.foldl store ∅)

/-- A value is decoded into a string that was empty. -/
def unmarshalString : List Token → Option Bytes
  | [.text raw] => some (unquote raw)
  | [.word raw] => if raw = ofText "null" then some [] else none
  | _ => none

/-- A value is decoded into a truth value that was false. -/
def unmarshalBool : List Token → Option Bool
  | [.word raw] =>
    if raw = ofText "true" then some true
    else if raw = ofText "false" || raw = ofText "null" then some false
    else none
  | _ => none

/-- A value that is kept undecoded is decoded into an object. -/
def unmarshalObjectValue (value : List Token) : Option (Option Object) :=
  if value = [.word (ofText "null")] then some none
  else (members value).map fun ms => some (ms.foldl store ∅)

def Token.render : Token → Bytes
  | .openObject => [123]
  | .closeObject => [125]
  | .openArray => [91]
  | .closeArray => [93]
  | .comma => [44]
  | .colon => [58]
  | .text raw => 34 :: escapeHTML raw ++ [34]
  | .word raw => raw

def render (value : List Token) : Bytes := value.flatMap Token.render

/-- An object as it is written: the members in the order of their keys. -/
def objectTokens (o : Object) : List Token :=
  .openObject :: List.intercalate [.comma]
    ((Bytes.sort o.keys).map fun key =>
      .text (quote key) :: .colon :: (o.lookup key).getD []) ++ [.closeObject]

/-- Writing a token escapes what HTML would read; a quoted string has none of that left. -/
def marshalObject (o : Object) : Bytes := render (objectTokens o)

/-! ## Objects without a key -/

/-- Storing a member and forgetting a key. -/
theorem erase_store (o : Object) (m : Member) (key : Bytes) :
    (store o m).erase key
      = if unquote m.key = key then o.erase key else store (o.erase key) m := by
  unfold store
  split
  · next hkey =>
    subst hkey
    apply AList.ext
    show List.kerase (unquote m.key)
        (⟨unquote m.key, m.value⟩ :: List.kerase (unquote m.key) o.entries)
      = List.kerase (unquote m.key) o.entries
    exact List.kerase_cons_eq rfl
  · next hkey =>
    apply AList.ext
    show List.kerase key (⟨unquote m.key, m.value⟩ :: List.kerase (unquote m.key) o.entries)
      = ⟨unquote m.key, m.value⟩ :: List.kerase (unquote m.key) (List.kerase key o.entries)
    rw [List.kerase_cons_ne (Ne.symm hkey), List.kerase_comm]

/-- An object that forgets a key does not know which members of that key there were. -/
theorem erase_foldl_store (ms : List Member) (o : Object) (key : Bytes) :
    (ms.foldl store o).erase key
      = (ms.filter fun m => unquote m.key ≠ key).foldl store (o.erase key) := by
  induction ms generalizing o with
  | nil => rfl
  | cons m ms ih =>
    rw [List.foldl_cons, ih, erase_store]
    by_cases hkey : unquote m.key = key
    · rw [if_pos hkey, List.filter_cons_of_neg (by simpa using hkey)]
    · rw [if_neg hkey, List.filter_cons_of_pos (by simpa using hkey), List.foldl_cons]

end Json
