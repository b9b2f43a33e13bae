import Mathlib.Data.List.TakeDrop
import ConfidentialIoT.Server.Text

/-!
# `Server/Json.lean` — `json.loads`

The scanner of Python's `json` package, of `str` and of the bytes that `detect_encoding` takes for
UTF-8. An error says no more than that there is one: `JSONDecodeError` and `UnicodeDecodeError`
are both `ValueError`s. The limits on the length of an integer and on the depth of a document are
left out.

What a Python value is that this model has none for is a parameter (`Foreign`): the double that a
number with a fraction or an exponent is, and the lone surrogate that an escape or `surrogatepass`
makes. Each call of the scanner is given the number of calls it may make: `scanString_total` and
`decode_iff` say that strings and documents are given enough. `Value` is the grammar that the
scanner goes by.
-/

set_option autoImplicit false

namespace ConfidentialIoT

namespace Json

inductive Fail where
  | malformed
  /-- not UTF-8 -/
  | encoding
  /-- no calls left -/
  | fuel
deriving DecidableEq, Repr

/-- The values that are Python's alone. A lone surrogate has no `Char`: in a `Text` some character
stands for it, any that is not ASCII. -/
structure Foreign where
  float : Text → UInt64
  surrogate : Nat → Char
  beyondAscii : ∀ n, 0x80 ≤ (surrogate n).toNat

/-- The character of a code point. -/
def Foreign.char (py : Foreign) (point : Nat) : Char :=
  if 0xD800 ≤ point ∧ point ≤ 0xDFFF then py.surrogate point else Char.ofNat point

/-! ## Strings -/

def hexDigit (c : Char) : Option Nat :=
  if '0' ≤ c ∧ c ≤ '9' then some (c.toNat - '0'.toNat)
  else if 'a' ≤ c ∧ c ≤ 'f' then some (c.toNat - 'a'.toNat + 10)
  else if 'A' ≤ c ∧ c ≤ 'F' then some (c.toNat - 'A'.toNat + 10)
  else none

/-- `\uXXXX` -/
def hex4 (a b c d : Char) : Option Nat := do
  return ((← hexDigit a) * 16 + (← hexDigit b)) * 256 + (← hexDigit c) * 16 + (← hexDigit d)

/-- `BACKSLASH` -/
def backslash : Char → Option Char
  | '"' => some '"'
  | '\\' => some '\\'
  | '/' => some '/'
  | 'b' => some '\x08'
  | 'f' => some '\x0c'
  | 'n' => some '\n'
  | 'r' => some '\r'
  | 't' => some '\t'
  | _ => none

section

variable (py : Foreign)

/-- What follows the escape of a high surrogate: its other half, or the high one stands alone. -/
def joinSurrogates (high : Nat) (s : Text) : Except Fail (Char × Text) :=
  match s with
  | '\\' :: 'u' :: a :: b :: c :: d :: rest =>
    match hex4 a b c d with
    | none => .error .malformed
    | some low =>
      if 0xDC00 ≤ low ∧ low ≤ 0xDFFF then
        .ok (Char.ofNat (0x10000 + (high - 0xD800) * 0x400 + (low - 0xDC00)), rest)
      else .ok (py.char high, s)
  | _ => .ok (py.char high, s)

/-- What follows `\u`. -/
def unicodeEscape : Text → Except Fail (Char × Text)
  | a :: b :: c :: d :: rest =>
    match hex4 a b c d with
    | none => .error .malformed
    | some unit =>
      if 0xD800 ≤ unit ∧ unit ≤ 0xDBFF then joinSurrogates py unit rest
      else .ok (py.char unit, rest)
  | _ => .error .malformed

/-- What follows a backslash. -/
def escape : Text → Except Fail (Char × Text)
  | [] => .error .malformed
  | c :: rest =>
    if c = 'u' then unicodeEscape py rest
    else
      match backslash c with
      | some x => .ok (x, rest)
      | none => .error .malformed

/-- `py_scanstring`, after the opening quote: the string, and what follows the closing one. -/
def scanChars : Nat → Text → Except Fail (Text × Text)
  | 0, _ => .error .fuel
  | _ + 1, [] => .error .malformed
  | n + 1, c :: rest =>
    if c = '"' then .ok ([], rest)
    else if c = '\\' then do
      let (x, rest) ← escape py rest
      let (t, rest) ← scanChars n rest
      return (x :: t, rest)
    else if c.toNat < 0x20 then .error .malformed
    else do
      let (t, rest) ← scanChars n rest
      return (c :: t, rest)

def scanString (s : Text) : Except Fail (Text × Text) := scanChars py (s.length + 1) s

end

/-! ## Numbers -/

/-- The digits a text begins with, and the rest. -/
def digits (s : Text) : Text × Text := s.span Char.isDigit

/-- `0`, or digits that do not begin with it. -/
def integerPart : Text → Option (Text × Text)
  | [] => none
  | c :: rest =>
    if c = '0' then some (['0'], rest)
    else if c.isDigit then some (c :: (digits rest).1, (digits rest).2)
    else none

/-- A point and digits, or nothing. -/
def fractionPart (s : Text) : Text × Text :=
  match s with
  | '.' :: rest =>
    if (digits rest).1 = [] then ([], s) else ('.' :: (digits rest).1, (digits rest).2)
  | _ => ([], s)

def signPart : Text → Text × Text
  | '+' :: rest => (['+'], rest)
  | '-' :: rest => (['-'], rest)
  | s => ([], s)

/-- An exponent, or nothing. -/
def exponentPart (s : Text) : Text × Text :=
  match s with
  | [] => ([], s)
  | c :: rest =>
    let sign := signPart rest
    let ds := digits sign.2
    if (c = 'e' ∨ c = 'E') ∧ ds.1 ≠ [] then (c :: sign.1 ++ ds.1, ds.2) else ([], s)

section

variable (py : Foreign)

/-- `_match_number_unicode`, of a number whose minus sign was read if there is one. -/
def matchNumber (negative : Bool) (s : Text) : Option (JsonValue × Text) := do
  let (whole, rest) ← integerPart s
  let fraction := fractionPart rest
  let exponent := exponentPart fraction.2
  let sign := if negative then ['-'] else []
  if fraction.1 = [] ∧ exponent.1 = [] then
    let n : Int := Nat.ofDigitChars 10 whole 0
    return (.int (if negative then -n else n), rest)
  return (.float (py.float (sign ++ whole ++ fraction.1 ++ exponent.1)), exponent.2)

/-- `NaN`, `Infinity`, `-Infinity` -/
def constants : List (Text × JsonValue) := [
  ("null".toList, .null), ("true".toList, .bool true), ("false".toList, .bool false),
  ("NaN".toList, .float 0x7FF8000000000000), ("Infinity".toList, .float 0x7FF0000000000000),
  ("-Infinity".toList, .float 0xFFF0000000000000)]

/-- A word, or a number. -/
def scanAtom (s : Text) : Except Fail (JsonValue × Text) :=
  match constants.find? fun word => word.1.isPrefixOf s with
  | some word => .ok (word.2, s.drop word.1.length)
  | none =>
    let number := match s with
      | '-' :: rest => matchNumber py true rest
      | _ => matchNumber py false s
    match number with
    | some found => .ok found
    | none => .error .malformed

/-! ## Values -/

def isSpace (c : Char) : Bool := c = ' ' ∨ c = '\t' ∨ c = '\n' ∨ c = '\r'

def skipSpace (s : Text) : Text := s.dropWhile isSpace

mutual

/-- `scan_once` -/
def scanOnce : Nat → Text → Except Fail (JsonValue × Text)
  | 0, _ => .error .fuel
  | n + 1, s =>
    match s with
    | '"' :: rest => do
      let (t, rest) ← scanString py rest
      return (.str t, rest)
    | '\x7b' :: rest =>
      match skipSpace rest with
      | '\x7d' :: rest => .ok (.obj [], rest)
      | rest => do
        let (fields, rest) ← members n rest
        return (.obj fields, rest)
    | '[' :: rest =>
      match skipSpace rest with
      | ']' :: rest => .ok (.arr [], rest)
      | rest => do
        let (items, rest) ← elements n rest
        return (.arr items, rest)
    | s => scanAtom py s

/-- The fields of an object that has some. -/
def members : Nat → Text → Except Fail (List (Text × JsonValue) × Text)
  | 0, _ => .error .fuel
  | n + 1, s =>
    match s with
    | '"' :: rest => do
      let (key, rest) ← scanString py rest
      match skipSpace rest with
      | ':' :: rest =>
        let (v, rest) ← scanOnce n (skipSpace rest)
        match skipSpace rest with
        | '\x7d' :: rest => return ([(key, v)], rest)
        | ',' :: rest =>
          let (more, rest) ← members n (skipSpace rest)
          return ((key, v) :: more, rest)
        | _ => .error .malformed
      | _ => .error .malformed
    | _ => .error .malformed

/-- The items of an array that has some. -/
def elements : Nat → Text → Except Fail (List JsonValue × Text)
  | 0, _ => .error .fuel
  | n + 1, s => do
    let (v, rest) ← scanOnce n s
    match skipSpace rest with
    | ']' :: rest => return ([v], rest)
    | ',' :: rest =>
      let (more, rest) ← elements n (skipSpace rest)
      return (v :: more, rest)
    | _ => .error .malformed

end

/-- `JSONDecoder.decode` -/
def decode (s : Text) : Except Fail JsonValue := do
  let (v, rest) ← scanOnce py (2 * s.length + 1) (skipSpace s)
  if skipSpace rest = [] then return v else .error .malformed

end

/-- `detect_encoding(b) == "utf-8"` -/
def isUtf8 : Bytes → Bool
  | [] => true
  | [_] => true
  | [a, b] => a ≠ 0 ∧ b ≠ 0 ∧ ¬ (a = 0xFE ∧ b = 0xFF) ∧ ¬ (a = 0xFF ∧ b = 0xFE)
  | a :: b :: c :: rest => ¬ (a = 0xFE ∧ b = 0xFF) ∧ ¬ (a = 0xFF ∧ b = 0xFE) ∧
      ¬ (a = 0xEF ∧ b = 0xBB ∧ c = 0xBF) ∧ (rest ≠ [] → a ≠ 0 ∧ b ≠ 0)

/-- The bytes of a code point that are read: so many are still to come after the next one, which
makes a code point of that many bytes if it is not less than `least`. -/
structure Begun where
  more : Nat
  point : Nat
  least : Nat
deriving Repr

/-- A byte of UTF-8, after those of a code point that was begun: the code point that it ends, and
the one that it leaves begun. -/
def utf8Step : Option Begun → UInt8 → Option (Option Nat × Option Begun)
  | none, x =>
    if x < 0x80 then some (some x.toNat, none)
    else if x < 0xC0 then none
    else if x < 0xE0 then some (none, some ⟨0, x.toNat - 0xC0, 0x80⟩)
    else if x < 0xF0 then some (none, some ⟨1, x.toNat - 0xE0, 0x800⟩)
    else if x < 0xF8 then some (none, some ⟨2, x.toNat - 0xF0, 0x10000⟩)
    else none
  | some begun, x =>
    let point := begun.point * 64 + (x.toNat - 0x80)
    if x < 0x80 ∨ 0xC0 ≤ x then none
    else if begun.more ≠ 0 then some (none, some ⟨begun.more - 1, point, begun.least⟩)
    -- surrogates pass
    else if begun.least ≤ point ∧ point ≤ 0x10FFFF then some (some point, none)
    else none

def utf8From : Option Begun → Bytes → Option (List Nat)
  | none, [] => some []
  | some _, [] => none
  | begun, x :: b => do
    let (point, begun) ← utf8Step begun x
    return point.toList ++ (← utf8From begun b)

/-- `bytes.decode("utf-8", "surrogatepass")`, as the code points of the string. -/
def utf8Points (b : Bytes) : Option (List Nat) := utf8From none b

def utf8Decode (py : Foreign) (b : Bytes) : Option Text := (utf8Points b).map (·.map py.char)

/-- `json.loads` -/
def loads (py : Foreign) (b : Bytes) : Except Fail JsonValue :=
  if isUtf8 b then
    match utf8Decode py b with
    | some s => decode py s
    | none => .error .encoding
  else .error .encoding

/-! ## What a scan leaves -/

section

variable {py : Foreign}

theorem joinSurrogates_le {high : Nat} {s rest : Text} {x : Char}
    (h : joinSurrogates py high s = .ok (x, rest)) : rest.length ≤ s.length := by
  unfold joinSurrogates at h
  split at h
  · split at h
    · cases h
    · split at h
      · obtain ⟨-, rfl⟩ := Prod.mk.inj (Except.ok.inj h)
        simp only [List.length_cons]
        omega
      · cases h
        exact Nat.le_refl _
  · cases h
    exact Nat.le_refl _

theorem unicodeEscape_shorter {s rest : Text} {x : Char}
    (h : unicodeEscape py s = .ok (x, rest)) : rest.length < s.length := by
  unfold unicodeEscape at h
  split at h
  · split at h
    · cases h
    · split at h
      · have hjoin := joinSurrogates_le h
        simp only [List.length_cons]
        omega
      · cases h
        simp only [List.length_cons]
        omega
  · cases h

theorem escape_shorter {s rest : Text} {x : Char} (h : escape py s = .ok (x, rest)) :
    rest.length < s.length := by
  cases s with
  | nil => cases h
  | cons c s =>
    rw [escape] at h
    split at h
    · exact (unicodeEscape_shorter h).trans (Nat.lt_succ_self _)
    · split at h
      · cases h
        exact Nat.lt_succ_self _
      · cases h

/-- A character that stands for itself in a string. -/
def Plain (c : Char) : Prop := c ≠ '"' ∧ c ≠ '\\' ∧ 0x20 ≤ c.toNat

instance (c : Char) : Decidable (Plain c) := inferInstanceAs (Decidable (_ ∧ _))

/-- Each character of the string takes one of the text or more, and the quote takes one. -/
theorem scanChars_length {n : Nat} {s t rest : Text} (h : scanChars py n s = .ok (t, rest)) :
    t.length + rest.length + 1 ≤ s.length := by
  induction n generalizing s t with
  | zero => cases h
  | succ n ih =>
    cases s with
    | nil => cases h
    | cons c s =>
      unfold scanChars at h
      split at h
      · cases h
        simp
      · split at h
        · obtain ⟨⟨x, s'⟩, hescape, h⟩ := bind_eq_ok.mp h
          obtain ⟨⟨t', rest'⟩, hscan, h⟩ := bind_eq_ok.mp h
          cases h
          have hshorter := escape_shorter hescape
          have hlength := ih hscan
          simp only [List.length_cons]
          omega
        · split at h
          · cases h
          · obtain ⟨⟨t', rest'⟩, hscan, h⟩ := bind_eq_ok.mp h
            cases h
            have hlength := ih hscan
            simp only [List.length_cons]
            omega

/-- If it takes no more than that, the string is as it was written. -/
theorem scanChars_plain {n : Nat} {s t rest : Text} (h : scanChars py n s = .ok (t, rest))
    (htight : s.length ≤ t.length + rest.length + 1) : ∀ c ∈ t, Plain c := by
  induction n generalizing s t with
  | zero => cases h
  | succ n ih =>
    cases s with
    | nil => cases h
    | cons c s =>
      unfold scanChars at h
      split at h
      · cases h
        simp
      next hquote =>
        split at h
        · obtain ⟨⟨x, s'⟩, hescape, h⟩ := bind_eq_ok.mp h
          obtain ⟨⟨t', rest'⟩, hscan, h⟩ := bind_eq_ok.mp h
          cases h
          have hshorter := escape_shorter hescape
          have hlength := scanChars_length hscan
          simp only [List.length_cons] at htight
          omega
        next hbackslash =>
          split at h
          · cases h
          next hcontrol =>
            obtain ⟨⟨t', rest'⟩, hscan, h⟩ := bind_eq_ok.mp h
            cases h
            simp only [List.length_cons] at htight
            have hmore := ih hscan (by omega)
            intro d hd
            rcases List.mem_cons.mp hd with rfl | hd
            · exact ⟨hquote, hbackslash, Nat.not_lt.mp hcontrol⟩
            · exact hmore d hd

theorem escape_total (s : Text) : escape py s ≠ .error .fuel := by
  intro h
  cases s with
  | nil => cases h
  | cons c s =>
    simp only [escape, unicodeEscape, joinSurrogates] at h
    repeat' split at h
    all_goals cases h

/-- A string has no more characters than the calls that it is given. -/
theorem scanString_total (s : Text) : scanString py s ≠ .error .fuel := by
  have hscan : ∀ n (s : Text), s.length < n → scanChars py n s ≠ .error .fuel := by
    intro n
    induction n with
    | zero => exact fun s h => absurd h (Nat.not_lt_zero _)
    | succ n ih =>
      intro s hn h
      cases s with
      | nil => cases h
      | cons c s =>
        simp only [List.length_cons] at hn
        unfold scanChars at h
        split at h
        · cases h
        · split at h
          · cases hescape : escape py s with
            | error e =>
              rw [hescape] at h
              cases h
              exact escape_total s hescape
            | ok found =>
              have hshorter := escape_shorter hescape
              rw [hescape, ok_bind] at h
              cases hmore : scanChars py n found.2 with
              | error e =>
                simp only [hmore] at h
                cases h
                exact ih found.2 (by omega) hmore
              | ok more =>
                simp only [hmore] at h
                cases h
          · split at h
            · cases h
            · cases hmore : scanChars py n s with
              | error e =>
                rw [hmore] at h
                cases h
                exact ih s (by omega) hmore
              | ok more =>
                rw [hmore] at h
                cases h
  exact hscan _ s (Nat.lt_succ_self _)

theorem scanString_of_plain {t : Text} (rest : Text) (h : ∀ c ∈ t, Plain c) :
    scanString py (t ++ '"' :: rest) = .ok (t, rest) := by
  have hscan : ∀ n, t.length < n → scanChars py n (t ++ '"' :: rest) = .ok (t, rest) := by
    induction t with
    | nil =>
      intro n hn
      obtain ⟨n, rfl⟩ := Nat.exists_eq_succ_of_ne_zero (Nat.ne_of_gt hn)
      rfl
    | cons c t ih =>
      intro n hn
      obtain ⟨n, rfl⟩ := Nat.exists_eq_succ_of_ne_zero (Nat.ne_of_gt (Nat.zero_lt_of_lt hn))
      obtain ⟨hquote, hbackslash, hcontrol⟩ := h c List.mem_cons_self
      have hmore := ih (fun d hd => h d (List.mem_cons_of_mem c hd)) n (Nat.lt_of_succ_lt_succ hn)
      rw [List.cons_append, scanChars, if_neg hquote, if_neg hbackslash,
        if_neg (Nat.not_lt.mpr hcontrol), hmore]
      rfl
  refine hscan _ ?_
  rw [List.length_append, List.length_cons]
  omega

end

theorem digits_le (s : Text) : (digits s).2.length ≤ s.length := by
  unfold digits
  rw [List.span_eq_takeWhile_dropWhile]
  exact (List.dropWhile_suffix _).length_le

theorem integerPart_shorter {s whole rest : Text} (h : integerPart s = some (whole, rest)) :
    rest.length < s.length := by
  cases s with
  | nil => cases h
  | cons c s =>
    rw [integerPart] at h
    split at h
    · cases h
      exact Nat.lt_succ_self _
    · split at h
      · cases h
        exact Nat.lt_succ_of_le (digits_le s)
      · cases h

theorem fractionPart_le (s : Text) : (fractionPart s).2.length ≤ s.length := by
  unfold fractionPart
  split
  next rest =>
    split
    · exact Nat.le_refl _
    · exact (digits_le rest).trans (Nat.le_succ _)
  · exact Nat.le_refl _

theorem signPart_le (s : Text) : (signPart s).2.length ≤ s.length := by
  unfold signPart
  split
  · exact Nat.le_succ _
  · exact Nat.le_succ _
  · exact Nat.le_refl _

theorem exponentPart_le (s : Text) : (exponentPart s).2.length ≤ s.length := by
  unfold exponentPart
  split
  · exact Nat.le_refl _
  next c rest =>
    dsimp only
    split
    · exact ((digits_le _).trans (signPart_le rest)).trans (Nat.le_succ _)
    · exact Nat.le_refl _

theorem skipSpace_le (s : Text) : (skipSpace s).length ≤ s.length :=
  (List.dropWhile_suffix _).length_le

theorem skipSpace_cons {s rest : Text} {c : Char} (h : skipSpace s = c :: rest) :
    rest.length < s.length := by
  have hle := skipSpace_le s
  rw [h] at hle
  exact hle

/-- Neither a string nor a list nor a dict. -/
def Flat : JsonValue → Prop
  | .str _ => False
  | .arr _ => False
  | .obj _ => False
  | _ => True

section

variable {py : Foreign}

theorem matchNumber_shorter {negative : Bool} {s rest : Text} {v : JsonValue}
    (h : matchNumber py negative s = some (v, rest)) : Flat v ∧ rest.length < s.length := by
  unfold matchNumber at h
  obtain ⟨⟨whole, s'⟩, hwhole, h⟩ := Option.bind_eq_some_iff.mp h
  have hshorter := integerPart_shorter hwhole
  dsimp only at h
  split at h
  · cases h
    exact ⟨trivial, hshorter⟩
  · cases h
    exact ⟨trivial, ((exponentPart_le _).trans (fractionPart_le _)).trans_lt hshorter⟩

theorem scanAtom_shorter {s rest : Text} {v : JsonValue} (h : scanAtom py s = .ok (v, rest)) :
    Flat v ∧ rest.length < s.length := by
  unfold scanAtom at h
  split at h
  next word hword =>
    cases h
    have hflat : ∀ word ∈ constants, Flat word.2 ∧ 0 < word.1.length := by
      simp [constants, Flat]
    obtain ⟨hvalue, hpositive⟩ := hflat word (List.mem_of_find?_eq_some hword)
    have hprefix : word.1.isPrefixOf s := by
      simpa only using List.find?_some hword
    have hfits := (List.isPrefixOf_iff_prefix.mp hprefix).length_le
    refine ⟨hvalue, ?_⟩
    rw [List.length_drop]
    omega
  · dsimp only at h
    split at h
    next found hfound =>
      cases h
      split at hfound
      · have hnumber := matchNumber_shorter hfound
        exact ⟨hnumber.1, hnumber.2.trans (Nat.lt_succ_self _)⟩
      · exact matchNumber_shorter hfound
    · cases h

/-! ## The documents there are -/

variable (py) in
mutual

/-- A text that begins with a value, and what follows it. -/
inductive Value : Text → JsonValue → Text → Prop
  | str {s t rest : Text} (h : scanString py s = .ok (t, rest)) : Value ('"' :: s) (.str t) rest
  | emptyObj {s rest : Text} (h : skipSpace s = '\x7d' :: rest) : Value ('\x7b' :: s) (.obj []) rest
  | obj {s rest : Text} {fields : List (Text × JsonValue)} (h : Members (skipSpace s) fields rest) :
      Value ('\x7b' :: s) (.obj fields) rest
  | emptyArr {s rest : Text} (h : skipSpace s = ']' :: rest) : Value ('[' :: s) (.arr []) rest
  | arr {s rest : Text} {items : List JsonValue} (h : Elements (skipSpace s) items rest) :
      Value ('[' :: s) (.arr items) rest
  | atom {s rest : Text} {v : JsonValue} (h : scanAtom py s = .ok (v, rest)) : Value s v rest

inductive Members : Text → List (Text × JsonValue) → Text → Prop
  | last {s key s₁ s₂ s₃ rest : Text} {v : JsonValue} (hkey : scanString py s = .ok (key, s₁))
      (hcolon : skipSpace s₁ = ':' :: s₂) (hv : Value (skipSpace s₂) v s₃)
      (hclose : skipSpace s₃ = '\x7d' :: rest) : Members ('"' :: s) [(key, v)] rest
  | more {s key s₁ s₂ s₃ s₄ rest : Text} {v : JsonValue} {fields : List (Text × JsonValue)}
      (hkey : scanString py s = .ok (key, s₁)) (hcolon : skipSpace s₁ = ':' :: s₂)
      (hv : Value (skipSpace s₂) v s₃) (hcomma : skipSpace s₃ = ',' :: s₄)
      (hmore : Members (skipSpace s₄) fields rest) : Members ('"' :: s) ((key, v) :: fields) rest

inductive Elements : Text → List JsonValue → Text → Prop
  | last {s s₁ rest : Text} {v : JsonValue} (hv : Value s v s₁)
      (hclose : skipSpace s₁ = ']' :: rest) : Elements s [v] rest
  | more {s s₁ s₂ rest : Text} {v : JsonValue} {items : List JsonValue} (hv : Value s v s₁)
      (hcomma : skipSpace s₁ = ',' :: s₂) (hmore : Elements (skipSpace s₂) items rest) :
      Elements s (v :: items) rest

end

/-- What the scanner returns is there. -/
theorem scans_sound (n : Nat) :
    (∀ s v rest, scanOnce py n s = .ok (v, rest) → Value py s v rest) ∧
    (∀ s fields rest, members py n s = .ok (fields, rest) → Members py s fields rest) ∧
    (∀ s items rest, elements py n s = .ok (items, rest) → Elements py s items rest) := by
  induction n with
  | zero => exact ⟨nofun, nofun, nofun⟩
  | succ n ih =>
    obtain ⟨hvalue, hmembers, helements⟩ := ih
    refine ⟨?_, ?_, ?_⟩
    · intro s v rest h
      unfold scanOnce at h
      split at h
      · obtain ⟨⟨t, rest'⟩, hscan, h⟩ := bind_eq_ok.mp h
        cases h
        exact .str hscan
      · split at h
        next hclose =>
          cases h
          exact .emptyObj hclose
        · obtain ⟨⟨fields, rest'⟩, hscan, h⟩ := bind_eq_ok.mp h
          cases h
          exact .obj (hmembers _ _ _ hscan)
      · split at h
        next hclose =>
          cases h
          exact .emptyArr hclose
        · obtain ⟨⟨items, rest'⟩, hscan, h⟩ := bind_eq_ok.mp h
          cases h
          exact .arr (helements _ _ _ hscan)
      · exact .atom h
    · intro s fields rest h
      unfold members at h
      split at h
      · obtain ⟨⟨key, s₁⟩, hkey, h⟩ := bind_eq_ok.mp h
        dsimp only at h
        split at h
        next hcolon =>
          obtain ⟨⟨v, s₃⟩, hv, h⟩ := bind_eq_ok.mp h
          dsimp only at h
          split at h
          next hclose =>
            cases h
            exact .last hkey hcolon (hvalue _ _ _ hv) hclose
          next hcomma =>
            obtain ⟨⟨more, rest'⟩, hmore, h⟩ := bind_eq_ok.mp h
            cases h
            exact .more hkey hcolon (hvalue _ _ _ hv) hcomma (hmembers _ _ _ hmore)
          · cases h
        · cases h
      · cases h
    · intro s items rest h
      unfold elements at h
      obtain ⟨⟨v, s₁⟩, hv, h⟩ := bind_eq_ok.mp h
      dsimp only at h
      split at h
      next hclose =>
        cases h
        exact .last (hvalue _ _ _ hv) hclose
      next hcomma =>
        obtain ⟨⟨more, rest'⟩, hmore, h⟩ := bind_eq_ok.mp h
        cases h
        exact .more (hvalue _ _ _ hv) hcomma (helements _ _ _ hmore)
      · cases h

mutual

theorem Value.shorter {s rest : Text} {v : JsonValue} (h : Value py s v rest) :
    rest.length < s.length := by
  cases h with
  | str h =>
    have hscan := scanChars_length h
    simp only [List.length_cons]
    omega
  | emptyObj h => exact (skipSpace_cons h).trans (Nat.lt_succ_self _)
  | obj h => exact (h.shorter.trans_le (skipSpace_le _)).trans (Nat.lt_succ_self _)
  | emptyArr h => exact (skipSpace_cons h).trans (Nat.lt_succ_self _)
  | arr h => exact (h.shorter.trans_le (skipSpace_le _)).trans (Nat.lt_succ_self _)
  | atom h => exact (scanAtom_shorter h).2

theorem Members.shorter {s rest : Text} {fields : List (Text × JsonValue)}
    (h : Members py s fields rest) : rest.length < s.length := by
  cases h with
  | @last s key s₁ s₂ s₃ rest v hkey hcolon hv hclose =>
    calc rest.length < s₃.length := skipSpace_cons hclose
      _ < (skipSpace s₂).length := hv.shorter
      _ ≤ s₂.length := skipSpace_le s₂
      _ < s₁.length := skipSpace_cons hcolon
      _ ≤ s.length + 1 := by have hscan := scanChars_length hkey; omega
  | @more s key s₁ s₂ s₃ s₄ rest v fields hkey hcolon hv hcomma hmore =>
    calc rest.length < (skipSpace s₄).length := hmore.shorter
      _ ≤ s₄.length := skipSpace_le s₄
      _ < s₃.length := skipSpace_cons hcomma
      _ < (skipSpace s₂).length := hv.shorter
      _ ≤ s₂.length := skipSpace_le s₂
      _ < s₁.length := skipSpace_cons hcolon
      _ ≤ s.length + 1 := by have hscan := scanChars_length hkey; omega

theorem Elements.shorter {s rest : Text} {items : List JsonValue}
    (h : Elements py s items rest) : rest.length < s.length := by
  cases h with
  | last hv hclose => exact (skipSpace_cons hclose).trans hv.shorter
  | more hv hcomma hmore =>
    exact ((hmore.shorter.trans_le (skipSpace_le _)).trans (skipSpace_cons hcomma)).trans hv.shorter

end

theorem Elements.value {s rest : Text} {items : List JsonValue} (h : Elements py s items rest) :
    ∃ v s₁, Value py s v s₁ := by
  cases h with
  | last hv => exact ⟨_, _, hv⟩
  | more hv => exact ⟨_, _, hv⟩

theorem not_value_close (s : Text) : ¬ ∃ v s₁, Value py (']' :: s) v s₁ := by
  rintro ⟨v, s₁, h⟩
  cases h with
  | atom h =>
    have hscan : scanAtom py (']' :: s) = .error .malformed := rfl
    cases hscan.symm.trans h

mutual

/-- What is there is returned, if there are more calls than twice the characters of the text. -/
theorem Value.scanned {s rest : Text} {v : JsonValue} (h : Value py s v rest) {n : Nat}
    (hn : 2 * s.length < n) : scanOnce py n s = .ok (v, rest) := by
  obtain ⟨n, rfl⟩ := Nat.exists_eq_succ_of_ne_zero (Nat.ne_of_gt (Nat.zero_lt_of_lt hn))
  cases h with
  | str h => rw [scanOnce, h]; rfl
  | emptyObj h => simp only [scanOnce, h]
  | @obj s' rest fields h =>
    have hle := skipSpace_le s'
    simp only [List.length_cons] at hn
    have hscan := Members.scanned h (show 2 * (skipSpace s').length + 1 < n by omega)
    rw [scanOnce]
    split
    next hclose =>
      rw [hclose] at h
      cases h
    · rw [hscan]
      rfl
  | emptyArr h => simp only [scanOnce, h]
  | @arr s' rest items h =>
    have hle := skipSpace_le s'
    simp only [List.length_cons] at hn
    have hscan := Elements.scanned h (show 2 * (skipSpace s').length + 1 < n by omega)
    rw [scanOnce]
    split
    next hclose =>
      rw [hclose] at h
      exact absurd h.value (not_value_close _)
    · rw [hscan]
      rfl
  | atom h =>
    rw [scanOnce]
    · exact h
    all_goals
      rintro rest rfl
      cases h

theorem Members.scanned {s rest : Text} {fields : List (Text × JsonValue)}
    (h : Members py s fields rest) {n : Nat} (hn : 2 * s.length + 1 < n) :
    members py n s = .ok (fields, rest) := by
  obtain ⟨n, rfl⟩ := Nat.exists_eq_succ_of_ne_zero (Nat.ne_of_gt (Nat.zero_lt_of_lt hn))
  cases h with
  | @last s' key s₁ s₂ s₃ rest v hkey hcolon hv hclose =>
    have hshorter := scanChars_length hkey
    have hcons := skipSpace_cons hcolon
    have hle := skipSpace_le s₂
    simp only [List.length_cons] at hn
    have hscan := Value.scanned hv (show 2 * (skipSpace s₂).length < n by omega)
    rw [members, hkey, ok_bind]
    simp only [hcolon, hscan, ok_bind, hclose]
    rfl
  | @more s' key s₁ s₂ s₃ s₄ rest v fields hkey hcolon hv hcomma hmore =>
    have hshorter := scanChars_length hkey
    have hcons := skipSpace_cons hcolon
    have hle := skipSpace_le s₂
    have hleft := hv.shorter
    have hcons' := skipSpace_cons hcomma
    have hle' := skipSpace_le s₄
    simp only [List.length_cons] at hn
    have hscan := Value.scanned hv (show 2 * (skipSpace s₂).length < n by omega)
    have hscan' := Members.scanned hmore (show 2 * (skipSpace s₄).length + 1 < n by omega)
    rw [members, hkey, ok_bind]
    simp only [hcolon, hscan, ok_bind, hcomma, hscan']
    rfl

theorem Elements.scanned {s rest : Text} {items : List JsonValue}
    (h : Elements py s items rest) {n : Nat} (hn : 2 * s.length + 1 < n) :
    elements py n s = .ok (items, rest) := by
  obtain ⟨n, rfl⟩ := Nat.exists_eq_succ_of_ne_zero (Nat.ne_of_gt (Nat.zero_lt_of_lt hn))
  cases h with
  | last hv hclose =>
    have hscan := Value.scanned hv (show 2 * s.length < n by omega)
    simp only [elements, hscan, ok_bind, hclose]
    rfl
  | @more _ s₁ s₂ rest v items hv hcomma hmore =>
    have hleft := hv.shorter
    have hcons := skipSpace_cons hcomma
    have hle := skipSpace_le s₂
    have hscan := Value.scanned hv (show 2 * s.length < n by omega)
    have hscan' := Elements.scanned hmore (show 2 * (skipSpace s₂).length + 1 < n by omega)
    simp only [elements, hscan, ok_bind, hcomma, hscan']
    rfl

end

theorem Value.unique {s rest rest' : Text} {v v' : JsonValue} (h : Value py s v rest)
    (h' : Value py s v' rest') : v = v' ∧ rest = rest' := by
  have hscan := h.scanned (Nat.lt_succ_self _)
  have hscan' := h'.scanned (Nat.lt_succ_self _)
  exact Prod.mk.inj (Except.ok.inj (hscan.symm.trans hscan'))

/-- `decode` reads a text that is one value, and no other: it is given calls enough. -/
theorem decode_iff {s : Text} {v : JsonValue} :
    decode py s = .ok v ↔ ∃ rest, Value py (skipSpace s) v rest ∧ skipSpace rest = [] := by
  unfold decode
  constructor
  · intro h
    obtain ⟨⟨v', rest⟩, hscan, h⟩ := bind_eq_ok.mp h
    dsimp only at h
    split at h
    next hend =>
      cases h
      exact ⟨rest, (scans_sound _).1 _ _ _ hscan, hend⟩
    · cases h
  · rintro ⟨rest, hvalue, hend⟩
    have hle := skipSpace_le s
    rw [hvalue.scanned (show 2 * (skipSpace s).length < 2 * s.length + 1 by omega), ok_bind]
    simp only [hend, if_true]
    rfl

/-! ## The strings of a document -/

/-- Somewhere in a value there is a dict with this field. -/
inductive HasField (key t : Text) : JsonValue → Prop
  | here {fields : List (Text × JsonValue)} (h : (key, .str t) ∈ fields) :
      HasField key t (.obj fields)
  | field {fields : List (Text × JsonValue)} {name : Text} {v : JsonValue} (h : (name, v) ∈ fields)
      (hv : HasField key t v) : HasField key t (.obj fields)
  | item {items : List JsonValue} {v : JsonValue} (h : v ∈ items) (hv : HasField key t v) :
      HasField key t (.arr items)

section

variable {key t : Text}

theorem hasField_fields_cons {name : Text} {v : JsonValue} {fields : List (Text × JsonValue)}
    (h : HasField key t (.obj ((name, v) :: fields))) :
    (key = name ∧ v = .str t) ∨ HasField key t v ∨ HasField key t (.obj fields) := by
  cases h with
  | here h =>
    rcases List.mem_cons.mp h with h | h
    · obtain ⟨rfl, rfl⟩ := Prod.mk.inj h
      exact .inl ⟨rfl, rfl⟩
    · exact .inr (.inr (.here h))
  | field h hv =>
    rcases List.mem_cons.mp h with h | h
    · obtain ⟨rfl, rfl⟩ := Prod.mk.inj h
      exact .inr (.inl hv)
    · exact .inr (.inr (.field h hv))

theorem hasField_items_cons {v : JsonValue} {items : List JsonValue}
    (h : HasField key t (.arr (v :: items))) : HasField key t v ∨ HasField key t (.arr items) := by
  cases h with
  | item h hv =>
    rcases List.mem_cons.mp h with rfl | h
    · exact .inl hv
    · exact .inr (.item h hv)

theorem not_hasField_noFields : ¬ HasField key t (.obj []) := by
  rintro (h | h)
  · cases h
  · cases h

theorem not_hasField_noItems : ¬ HasField key t (.arr []) := by
  rintro (_ | _ | h)
  cases h

theorem not_hasField_flat {v : JsonValue} (hv : Flat v) : ¬ HasField key t v := by
  rintro (_ | _ | _) <;> exact hv

/-- The text of a string is longer than the string. -/
theorem Value.str_fits {s rest : Text} (h : Value py s (.str t) rest) :
    t.length + 2 + rest.length ≤ s.length := by
  cases h with
  | str h =>
    have hscan := scanChars_length h
    simp only [List.length_cons]
    omega
  | atom h => exact absurd (scanAtom_shorter h).1 id

mutual

/-- A field takes five characters more than its key and its string are. -/
theorem Value.field_fits {s rest : Text} {v : JsonValue} (h : Value py s v rest)
    (hfield : HasField key t v) : key.length + t.length + 5 + rest.length ≤ s.length := by
  cases h with
  | str h => cases hfield
  | emptyObj h => exact absurd hfield not_hasField_noFields
  | @obj s rest fields h =>
    have hfits := h.field_fits hfield
    have hle := skipSpace_le s
    simp only [List.length_cons]
    omega
  | emptyArr h => exact absurd hfield not_hasField_noItems
  | @arr s rest items h =>
    have hfits := h.field_fits hfield
    have hle := skipSpace_le s
    simp only [List.length_cons]
    omega
  | atom h => exact absurd hfield (not_hasField_flat (scanAtom_shorter h).1)

theorem Members.field_fits {s rest : Text} {fields : List (Text × JsonValue)}
    (h : Members py s fields rest) (hfield : HasField key t (.obj fields)) :
    key.length + t.length + 5 + rest.length ≤ s.length := by
  cases h with
  | @last s name s₁ s₂ s₃ rest v hkey hcolon hv hclose =>
    have hscan := scanChars_length hkey
    have hcons := skipSpace_cons hcolon
    have hle := skipSpace_le s₂
    have hcons' := skipSpace_cons hclose
    simp only [List.length_cons]
    rcases hasField_fields_cons hfield with ⟨rfl, rfl⟩ | hfield | hfield
    · have hfits := hv.str_fits
      omega
    · have hfits := hv.field_fits hfield
      omega
    · exact absurd hfield not_hasField_noFields
  | @more s name s₁ s₂ s₃ s₄ rest v fields hkey hcolon hv hcomma hmore =>
    have hscan := scanChars_length hkey
    have hcons := skipSpace_cons hcolon
    have hle := skipSpace_le s₂
    have hcons' := skipSpace_cons hcomma
    have hle' := skipSpace_le s₄
    have hshorter := hv.shorter
    have hshorter' := hmore.shorter
    simp only [List.length_cons]
    rcases hasField_fields_cons hfield with ⟨rfl, rfl⟩ | hfield | hfield
    · have hfits := hv.str_fits
      omega
    · have hfits := hv.field_fits hfield
      omega
    · have hfits := hmore.field_fits hfield
      omega

theorem Elements.field_fits {s rest : Text} {items : List JsonValue}
    (h : Elements py s items rest) (hfield : HasField key t (.arr items)) :
    key.length + t.length + 5 + rest.length ≤ s.length := by
  cases h with
  | @last s s₁ rest v hv hclose =>
    have hcons := skipSpace_cons hclose
    rcases hasField_items_cons hfield with hfield | hfield
    · have hfits := hv.field_fits hfield
      omega
    · exact absurd hfield not_hasField_noItems
  | @more s s₁ s₂ rest v items hv hcomma hmore =>
    have hcons := skipSpace_cons hcomma
    have hle := skipSpace_le s₂
    have hshorter := hv.shorter
    have hshorter' := hmore.shorter
    rcases hasField_items_cons hfield with hfield | hfield
    · have hfits := hv.field_fits hfield
      omega
    · have hfits := hmore.field_fits hfield
      omega

end

end

end

/-! ## Characters and their bytes -/

theorem Foreign.char_toNat (py : Foreign) (c : Char) : py.char c.toNat = c := by
  have hvalid := c.valid
  have hpoint : ¬ (0xD800 ≤ c.toNat ∧ c.toNat ≤ 0xDFFF) := by
    rcases hvalid with hlow | hhigh
    · exact fun h => absurd h.1 (Nat.not_le.mpr hlow)
    · exact fun h => absurd h.2 (Nat.not_le.mpr hhigh.1)
  rw [Foreign.char, if_neg hpoint, Char.ofNat_toNat]

theorem Foreign.map_char_toNat (py : Foreign) (t : Text) : (t.map Char.toNat).map py.char = t := by
  rw [List.map_map]
  exact List.map_id'' (fun c => py.char_toNat c) t

/-- A code point that stands for itself in a string. -/
def PlainPoint (n : Nat) : Prop := n ≠ '"'.toNat ∧ n ≠ '\\'.toNat ∧ 0x20 ≤ n

instance (n : Nat) : Decidable (PlainPoint n) := inferInstanceAs (Decidable (_ ∧ _))

theorem Foreign.plain_char_iff (py : Foreign) {n : Nat} (hn : n ≤ 0x10FFFF) :
    Plain (py.char n) ↔ PlainPoint n := by
  by_cases hsurrogate : 0xD800 ≤ n ∧ n ≤ 0xDFFF
  · have hbeyond := py.beyondAscii n
    have hother : ∀ c : Char, c.toNat < 0x80 → py.surrogate n ≠ c := by
      rintro c hc rfl
      exact absurd hc (Nat.not_lt.mpr hbeyond)
    rw [Foreign.char, if_pos hsurrogate]
    refine iff_of_true ⟨hother _ (by decide), hother _ (by decide), ?_⟩ ⟨?_, ?_, ?_⟩
    · exact (show 0x20 ≤ 0x80 by decide).trans hbeyond
    · exact Nat.ne_of_gt ((show '"'.toNat < 0xD800 by decide).trans_le hsurrogate.1)
    · exact Nat.ne_of_gt ((show '\\'.toNat < 0xD800 by decide).trans_le hsurrogate.1)
    · exact (show 0x20 ≤ 0xD800 by decide).trans hsurrogate.1
  · have hvalid : n.isValidChar := by
      unfold Nat.isValidChar
      omega
    have htoNat : (Char.ofNat n).toNat = n := by
      rw [Char.ofNat, dif_pos hvalid]
      rfl
    have hne : ∀ c : Char, Char.ofNat n ≠ c ↔ n ≠ c.toNat := by
      intro c
      rw [ne_eq, ne_eq, not_iff_not]
      constructor
      · rintro rfl
        exact htoNat.symm
      · rintro rfl
        exact Char.ofNat_toNat c
    rw [Foreign.char, if_neg hsurrogate, Plain, PlainPoint, hne, hne, htoNat]

theorem utf8From_cons (begun : Option Begun) (x : UInt8) (b : Bytes) :
    utf8From begun (x :: b) = (do
      let (point, begun) ← utf8Step begun x
      return point.toList ++ (← utf8From begun b)) := by
  cases begun <;> rfl

theorem utf8From_cons_iff {begun : Option Begun} {x : UInt8} {b : Bytes} {points : List Nat} :
    utf8From begun (x :: b) = some points ↔ ∃ point begun' more,
      utf8Step begun x = some (point, begun') ∧ utf8From begun' b = some more ∧
        points = point.toList ++ more := by
  rw [utf8From_cons]
  constructor
  · intro h
    obtain ⟨⟨point, begun'⟩, hstep, h⟩ := Option.bind_eq_some_iff.mp h
    obtain ⟨more, hmore, h⟩ := Option.bind_eq_some_iff.mp h
    exact ⟨point, begun', more, hstep, hmore, (Option.some.inj h).symm⟩
  · rintro ⟨point, begun', more, hstep, hmore, rfl⟩
    simp only [hstep, hmore, Option.bind_eq_bind, Option.bind_some]
    rfl

/-- What is whole code points is read the same whatever follows. -/
theorem utf8From_append {begun : Option Begun} {a b : Bytes} {points more : List Nat}
    (ha : utf8From begun a = some points) (hb : utf8Points b = some more) :
    utf8From begun (a ++ b) = some (points ++ more) := by
  induction a generalizing begun points with
  | nil =>
    cases begun with
    | none =>
      cases ha
      exact hb
    | some begun => cases ha
  | cons x a ih =>
    obtain ⟨point, begun', rest, hstep, hrest, rfl⟩ := utf8From_cons_iff.mp ha
    rw [List.cons_append, utf8From_cons_iff]
    exact ⟨point, begun', rest ++ more, hstep, ih hrest, List.append_assoc _ _ _⟩

theorem utf8Step_le {begun begun' : Option Begun} {x : UInt8} {n : Nat}
    (h : utf8Step begun x = some (some n, begun')) : n ≤ 0x10FFFF := by
  cases begun with
  | none =>
    simp only [utf8Step] at h
    split at h
    · cases h
      exact (Nat.le_of_lt x.toNat_lt).trans (by decide)
    · repeat' split at h
      all_goals cases h
  | some begun =>
    simp only [utf8Step] at h
    split at h
    · cases h
    · split at h
      · cases h
      · split at h
        next hpoint =>
          obtain ⟨hend, -⟩ := Prod.mk.inj (Option.some.inj h)
          exact Option.some.inj hend ▸ hpoint.2
        · cases h

theorem utf8From_le {begun : Option Begun} {b : Bytes} {points : List Nat}
    (h : utf8From begun b = some points) : ∀ n ∈ points, n ≤ 0x10FFFF := by
  induction b generalizing begun points with
  | nil =>
    cases begun with
    | none =>
      cases h
      exact fun n hn => absurd hn List.not_mem_nil
    | some begun => cases h
  | cons x b ih =>
    obtain ⟨point, begun', more, hstep, hmore, rfl⟩ := utf8From_cons_iff.mp h
    intro n hn
    rcases List.mem_append.mp hn with hn | hn
    · cases Option.mem_toList.mp hn
      exact utf8Step_le hstep
    · exact ih hmore n hn

theorem toNat_byte {n : Nat} (hn : n < 256) : (UInt8.ofNat n).toNat = n := by
  rw [UInt8.toNat_ofNat']
  exact Nat.mod_eq_of_lt hn

/-- The first byte of a code point of two bytes or more. -/
theorem utf8Step_first {n : Nat} (hn : n < 256) (hfirst : 0xC0 ≤ n) :
    utf8Step none (UInt8.ofNat n) =
      if n < 0xE0 then some (none, some ⟨0, n - 0xC0, 0x80⟩)
      else if n < 0xF0 then some (none, some ⟨1, n - 0xE0, 0x800⟩)
      else if n < 0xF8 then some (none, some ⟨2, n - 0xF0, 0x10000⟩)
      else none := by
  have hlong : ¬ n < 0x80 := by omega
  have hlead : ¬ n < 0xC0 := by omega
  simp [utf8Step, UInt8.lt_iff_toNat_lt, toNat_byte hn, hlong, hlead]

/-- A byte that goes on with a code point. -/
theorem utf8Step_next (begun : Begun) {k : Nat} (hk : k < 0x40) :
    utf8Step (some begun) (UInt8.ofNat (k + 0x80)) =
      if begun.more ≠ 0 then some (none, some ⟨begun.more - 1, begun.point * 64 + k, begun.least⟩)
      else if begun.least ≤ begun.point * 64 + k ∧ begun.point * 64 + k ≤ 0x10FFFF then
        some (some (begun.point * 64 + k), none)
      else none := by
  have hbyte : (UInt8.ofNat (k + 0x80)).toNat = k + 0x80 := toNat_byte (by omega)
  have hin : ¬ (k + 0x80 < 0x80 ∨ 0xC0 ≤ k + 0x80) := by omega
  have hlow : (0x80 : UInt8).toNat = 0x80 := rfl
  have hhigh : (0xC0 : UInt8).toNat = 0xC0 := rfl
  simp only [utf8Step, UInt8.lt_iff_toNat_lt, UInt8.le_iff_toNat_le, hbyte, hlow, hhigh,
    Nat.add_sub_cancel, if_neg hin]

theorem utf8From_silent {begun begun' : Option Begun} {x : UInt8} (b : Bytes)
    (h : utf8Step begun x = some (none, begun')) : utf8From begun (x :: b) = utf8From begun' b := by
  simp [utf8From_cons, h]

theorem utf8From_next (more point least : Nat) {k : Nat} (hk : k < 0x40) (b : Bytes) :
    utf8From (some ⟨more + 1, point, least⟩) (UInt8.ofNat (k + 0x80) :: b) =
      utf8From (some ⟨more, point * 64 + k, least⟩) b :=
  utf8From_silent b (utf8Step_next _ hk)

theorem utf8From_last {point least k n : Nat} (hk : k < 0x40) (hn : point * 64 + k = n)
    (hleast : least ≤ n) (hmax : n ≤ 0x10FFFF) :
    utf8From (some ⟨0, point, least⟩) [UInt8.ofNat (k + 0x80)] = some [n] := by
  subst hn
  have hstep := utf8Step_next ⟨0, point, least⟩ hk
  rw [if_neg (not_not_intro rfl), if_pos ⟨hleast, hmax⟩] at hstep
  exact utf8From_cons_iff.mpr ⟨_, _, _, hstep, rfl, rfl⟩

/-- What `encode` writes of a character is read as its code point. -/
theorem utf8Points_encodeChar (c : Char) :
    utf8Points (String.utf8EncodeChar c) = some [c.toNat] := by
  have hmax : c.val.toNat ≤ 0x10FFFF := by
    rcases c.valid with h | h
    · exact (Nat.le_of_lt h).trans (by decide)
    · exact Nat.le_of_lt_succ h.2
  have hval : c.toNat = c.val.toNat := rfl
  rw [hval]
  unfold String.utf8EncodeChar
  generalize c.val.toNat = v at hmax
  have hlast : v % 0x40 < 0x40 := Nat.mod_lt _ (by decide)
  have hnext : v / 64 % 0x40 < 0x40 := Nat.mod_lt _ (by decide)
  have hthird : v / 4096 % 0x40 < 0x40 := Nat.mod_lt _ (by decide)
  dsimp only [utf8Points]
  split
  next hone =>
    have hstep : utf8Step none (UInt8.ofNat v) = some (some v, none) := by
      have hbyte := toNat_byte (show v < 256 by omega)
      have hsmall : v < 0x80 := by omega
      simp [utf8Step, UInt8.lt_iff_toNat_lt, hbyte, hsmall]
    exact utf8From_cons_iff.mpr ⟨_, _, _, hstep, rfl, rfl⟩
  next hone =>
    split
    next htwo =>
      have hstep := utf8Step_first (n := v / 64 % 0x20 + 0xC0) (by omega) (by omega)
      rw [if_pos (by omega), Nat.add_sub_cancel] at hstep
      rw [utf8From_silent _ hstep]
      exact utf8From_last hlast (by omega) (by omega) hmax
    next htwo =>
      split
      next hthree =>
        have hstep := utf8Step_first (n := v / 4096 % 0x10 + 0xE0) (by omega) (by omega)
        rw [if_neg (by omega), if_pos (by omega), Nat.add_sub_cancel] at hstep
        rw [utf8From_silent _ hstep, utf8From_next _ _ _ hnext]
        exact utf8From_last hlast (by omega) (by omega) hmax
      next hthree =>
        have hstep := utf8Step_first (n := v / 262144 % 0x08 + 0xF0) (by omega) (by omega)
        rw [if_neg (by omega), if_neg (by omega), if_pos (by omega), Nat.add_sub_cancel] at hstep
        rw [utf8From_silent _ hstep, utf8From_next _ _ _ hthird, utf8From_next _ _ _ hnext]
        exact utf8From_last hlast (by omega) (by omega) hmax

theorem utf8Points_utf8 (t : Text) : utf8Points (Text.utf8 t) = some (t.map Char.toNat) := by
  induction t with
  | nil => rfl
  | cons c t ih => exact utf8From_append (utf8Points_encodeChar c) ih

end Json

end ConfidentialIoT
