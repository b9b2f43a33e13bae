import ConfidentialIoT.Lib.Bytes

/-!
# `Server/Text.lean` — the part of Python's library the server's code rests on

`str`, the values of `json.loads`, `base64`, `struct`, and the exceptions all of these raise.
Each definition follows the documented behaviour where the server depends on it: `b64decode`
without `validate` skips what is not in its alphabet and stops at a padding that closes a quad;
`splitlines` knows ten line breaks; `\d` and `int` know every decimal digit of Unicode.

A Python string is a list of characters. Lone surrogates, which Python's strings may hold and
Lean's characters may not, are left out: no registered id and no field that parses contains one.
-/

set_option autoImplicit false

namespace ConfidentialIoT

/-- A Python `str`. -/
abbrev Text : Type := List Char

/-- What `json.loads` returns. A number with a fraction or an exponent is a double, by its bits. -/
inductive JsonValue where
  | null
  | bool (b : Bool)
  | int (n : Int)
  | float (bits : UInt64)
  | str (t : Text)
  | arr (items : List JsonValue)
  | obj (fields : List (Text × JsonValue))
deriving Repr, Inhabited

/-- The exceptions of the standard library and of `cryptography` the code can meet. A
`UnicodeEncodeError` and a `binascii.Error` are `ValueError`s. -/
inductive StdError where
  | valueError | typeError | attributeError
  | keyError (key : Text)
  | structError
  | invalidTag
  | overflowError
  | recursionError
deriving DecidableEq, Repr

/-! ## Code that raises -/

theorem bind_eq_ok {ε α β : Type} {x : Except ε α} {f : α → Except ε β} {b : β} :
    (x >>= f) = .ok b ↔ ∃ a, x = .ok a ∧ f a = .ok b := by
  cases x with
  | ok a => exact ⟨fun h => ⟨a, rfl, h⟩, fun ⟨_, ha, h⟩ => Except.ok.inj ha ▸ h⟩
  | error e => exact ⟨nofun, fun ⟨_, ha, _⟩ => nomatch ha⟩

theorem ok_bind {ε α β : Type} {a : α} {f : α → Except ε β} : (.ok a >>= f) = f a := rfl

theorem pure_eq_ok {ε α : Type} {a b : α} : (pure a : Except ε α) = .ok b ↔ a = b :=
  ⟨Except.ok.inj, congrArg _⟩

theorem ite_throw_eq_ok {ε α : Type} {p : Prop} [Decidable p] {x : Except ε α} {e : ε} {b : α} :
    (if p then throw e >>= fun (_ : PUnit) => x else x) = .ok b ↔ ¬ p ∧ x = .ok b := by
  by_cases hp : p
  · simp only [hp, if_true, not_true, false_and, iff_false]
    exact nofun
  · simp [hp]

namespace JsonValue

/-- The entry of a dict: of equal keys of a JSON object the last one counts. -/
def field? (fields : List (Text × JsonValue)) (key : Text) : Option JsonValue :=
  fields.reverse.lookup key

/-- `value.get(key)` -/
def get : JsonValue → Text → Except StdError (Option JsonValue)
  | .obj fields, key => .ok (field? fields key)
  | _, _ => .error .attributeError

/-- `value[key]` with a string key. -/
def subscript : JsonValue → Text → Except StdError JsonValue
  | .obj fields, key =>
    match field? fields key with | some v => .ok v | none => .error (.keyError key)
  | _, _ => .error .typeError

/-- `bool(value)` -/
def truthy : JsonValue → Bool
  | .null => false
  | .bool b => b
  | .int n => n ≠ 0
  | .float bits => bits <<< 1 ≠ 0
  | .str t => !t.isEmpty
  | .arr items => !items.isEmpty
  | .obj fields => !fields.isEmpty

end JsonValue

/-! ## `base64` -/

namespace Base64

def value? (c : Char) : Option Nat :=
  if 'A' ≤ c ∧ c ≤ 'Z' then some (c.toNat - 'A'.toNat)
  else if 'a' ≤ c ∧ c ≤ 'z' then some (c.toNat - 'a'.toNat + 26)
  else if '0' ≤ c ∧ c ≤ '9' then some (c.toNat - '0'.toNat + 52)
  else if c = '+' then some 62
  else if c = '/' then some 63
  else none

/-- `binascii.a2b_base64` in its lenient mode. `quad` are the values of the open quad and
`pads` the padding characters seen since its last one. -/
def decodeFrom : Text → (quad : List Nat) → (pads : Nat) → Except StdError Bytes
  | [], [], _ => .ok []
  | [], _ :: _, _ => .error .valueError
  | c :: cs, quad, pads =>
    if c = '=' then
      if 2 ≤ quad.length then
        -- a closed quad ends the input, whatever follows
        if 4 ≤ quad.length + (pads + 1) then .ok [] else decodeFrom cs quad (pads + 1)
      else decodeFrom cs quad pads
    else
      match value? c with
      | none => decodeFrom cs quad pads
      | some v =>
        match quad with
        | [] => decodeFrom cs [v] 0
        | [p] => (UInt8.ofNat (p * 4 + v / 16) :: ·) <$> decodeFrom cs [p, v] 0
        | [p, q] => (UInt8.ofNat (q % 16 * 16 + v / 4) :: ·) <$> decodeFrom cs [p, q, v] 0
        | _ :: _ :: q :: _ => (UInt8.ofNat (q % 4 * 64 + v) :: ·) <$> decodeFrom cs [] 0

/-- The alphabet. -/
def digit (v : Nat) : Char :=
  if v < 26 then Char.ofNat ('A'.toNat + v)
  else if v < 52 then Char.ofNat ('a'.toNat + (v - 26))
  else if v < 62 then Char.ofNat ('0'.toNat + (v - 52))
  else if v = 62 then '+'
  else '/'

/-- `base64.b64encode` -/
def encode : Bytes → Text
  | [] => []
  | [a] => [digit (a.toNat / 4), digit (a.toNat % 4 * 16), '=', '=']
  | [a, b] => [digit (a.toNat / 4), digit (a.toNat % 4 * 16 + b.toNat / 16),
      digit (b.toNat % 16 * 4), '=']
  | a :: b :: c :: rest => digit (a.toNat / 4) :: digit (a.toNat % 4 * 16 + b.toNat / 16) ::
      digit (b.toNat % 16 * 4 + c.toNat / 64) :: digit (c.toNat % 64) :: encode rest

end Base64

/-- `crypto.b64d`: encode to ASCII, then decode. -/
def b64d : JsonValue → Except StdError Bytes
  | .str t => if t.all fun c => c.toNat < 128 then Base64.decodeFrom t [] 0 else .error .valueError
  | _ => .error .attributeError

/-- `crypto.b64e` -/
def b64e (data : Bytes) : Text := Base64.encode data

/-- `text.encode("utf-8")` -/
def Text.utf8 (t : Text) : Bytes := t.flatMap String.utf8EncodeChar

/-! ## Lines, digits, spaces -/

namespace Text

/-- `str.isspace`, and `\s` of a regular expression. -/
def isSpace (c : Char) : Bool :=
  (0x9 ≤ c.toNat ∧ c.toNat ≤ 0xd) ∨ (0x1c ≤ c.toNat ∧ c.toNat ≤ 0x20) ∨ c.toNat = 0x85 ∨
  c.toNat = 0xa0 ∨ c.toNat = 0x1680 ∨ (0x2000 ≤ c.toNat ∧ c.toNat ≤ 0x200a) ∨
  c.toNat = 0x2028 ∨ c.toNat = 0x2029 ∨ c.toNat = 0x202f ∨ c.toNat = 0x205f ∨ c.toNat = 0x3000

/-- The zeros of Unicode's decimal digits; each is followed by its one to nine. -/
def decimalZeros : List Nat := [
  0x30, 0x660, 0x6f0, 0x7c0, 0x966, 0x9e6, 0xa66, 0xae6, 0xb66, 0xbe6, 0xc66, 0xce6, 0xd66, 0xde6,
  0xe50, 0xed0, 0xf20, 0x1040, 0x1090, 0x17e0, 0x1810, 0x1946, 0x19d0, 0x1a80, 0x1a90, 0x1b50,
  0x1bb0, 0x1c40, 0x1c50, 0xa620, 0xa8d0, 0xa900, 0xa9d0, 0xa9f0, 0xaa50, 0xabf0, 0xff10, 0x104a0,
  0x10d30, 0x11066, 0x110f0, 0x11136, 0x111d0, 0x112f0, 0x11450, 0x114d0, 0x11650, 0x116c0,
  0x11730, 0x118e0, 0x11950, 0x11c50, 0x11d50, 0x11da0, 0x11f50, 0x16a60, 0x16ac0, 0x16b50,
  0x1d7ce, 0x1d7d8, 0x1d7e2, 0x1d7ec, 0x1d7f6, 0x1e140, 0x1e2f0, 0x1e4f0, 0x1e950, 0x1fbf0]

/-- The value of a decimal digit: `\d`, and what `int` makes of it. -/
def decimal? (c : Char) : Option Nat :=
  (decimalZeros.find? fun z => z ≤ c.toNat ∧ c.toNat < z + 10).map fun z => c.toNat - z

/-- The value of a character of `[0-9A-Fa-f]`. -/
def hex? (c : Char) : Option Nat :=
  if '0' ≤ c ∧ c ≤ '9' then some (c.toNat - '0'.toNat)
  else if 'a' ≤ c ∧ c ≤ 'f' then some (c.toNat - 'a'.toNat + 10)
  else if 'A' ≤ c ∧ c ≤ 'F' then some (c.toNat - 'A'.toNat + 10)
  else none

/-- The line breaks of `str.splitlines`. -/
def isLineBreak (c : Char) : Bool :=
  (0xa ≤ c.toNat ∧ c.toNat ≤ 0xd) ∨ (0x1c ≤ c.toNat ∧ c.toNat ≤ 0x1e) ∨ c.toNat = 0x85 ∨
  c.toNat = 0x2028 ∨ c.toNat = 0x2029

/-- `str.splitlines`, with the line read so far, reversed. A carriage return and a line feed
are one break, and a final break opens no line. -/
def splitlinesFrom : (line : Text) → Text → List Text
  | line, [] => if line.isEmpty then [] else [line.reverse]
  | line, [c] => if isLineBreak c then [line.reverse] else [(c :: line).reverse]
  | line, c :: d :: rest =>
    if c.toNat = 0xd ∧ d.toNat = 0xa then line.reverse :: splitlinesFrom [] rest
    else if isLineBreak c then line.reverse :: splitlinesFrom [] (d :: rest)
    else splitlinesFrom (c :: line) (d :: rest)

def splitlines (t : Text) : List Text := splitlinesFrom [] t

/-- `bytes.fromhex` of a string of hex digits: an odd one is a `ValueError`. -/
def fromHex : List Nat → Except StdError Bytes
  | [] => .ok []
  | [_] => .error .valueError
  | a :: b :: rest => (UInt8.ofNat (a * 16 + b) :: ·) <$> fromHex rest

end Text

/-! ## `struct` and slices -/

/-- `struct.unpack_from` of one unsigned big-endian field of `width` bytes. -/
def unpackFrom (width : Nat) (buffer : Bytes) (off : Nat) : Except StdError Nat :=
  if off + width ≤ buffer.length then .ok (Bytes.ofBE (buffer.slice off width))
  else .error .structError

end ConfidentialIoT
