import Mathlib.Data.List.TakeWhile
import ConfidentialIoT.Lib.Embed
import ConfidentialIoT.Server.Json
import ConfidentialIoT.Server.Link
import ConfidentialIoT.TrustedApp.Reading

/-!
# `Server/SealedSample.lean` — the text of a reading, read back

`snprintf` in the Trusted Application writes what `json.loads` and the loop over the samples read
on the server. The unit goes into the text as it is, up to its first NUL: a unit without a control
character, a quote or a backslash comes back as it was (`decode_docText`), and with any other unit
no field `unit` of the document can hold it. That is a matter of lengths: `decode` finds the
string of the first such field in what the unit and the four characters after it are, three of
which it needs for the brackets, and any other field in less than that (`UnitRead`).
-/

set_option autoImplicit false

namespace ConfidentialIoT

open Effects

/-! ## The text of a reading -/

namespace Json

/-- `%d` -/
def decimalText (v : Int) : Text := (if v < 0 then ['-'] else []) ++ Nat.toDigits 10 v.natAbs

def samplesKey : Text := ['s', 'a', 'm', 'p', 'l', 'e', 's']

def valueKey : Text := ['v', 'a', 'l', 'u', 'e']

def unitKey : Text := ['u', 'n', 'i', 't']

/-- The unit and what is printed after it. -/
def afterUnit (u : Text) : Text := u ++ '"' :: ['\x7d', ']', '\x7d']

def unitText (u : Text) : Text := '"' :: (unitKey ++ '"' :: ':' :: '"' :: afterUnit u)

def itemText (v : Int) (u : Text) : Text :=
  '\x7b' :: '"' :: (valueKey ++ '"' :: ':' :: (decimalText v ++ ',' :: unitText u))

def docText (v : Int) (u : Text) : Text :=
  '\x7b' :: '"' :: (samplesKey ++ '"' :: ':' :: '[' :: itemText v u)

/-- What is meant. -/
def sampleOf (v : Int) (u : Text) : JsonValue := .obj [(valueKey, .int v), (unitKey, .str u)]

def documentOf (v : Int) (u : Text) : JsonValue := .obj [(samplesKey, .arr [sampleOf v u])]

/-! ## The number -/

theorem toDigits_head {n : Nat} (hn : 0 < n) : ∃ c ds, Nat.toDigits 10 n = c :: ds ∧ c ≠ '0' := by
  induction n using Nat.strongRecOn with
  | ind n ih =>
    by_cases hsmall : n < 10
    · refine ⟨n.digitChar, [], Nat.toDigits_of_lt_base hsmall, ?_⟩
      rw [ne_eq, Nat.digitChar_eq_zero]
      exact Nat.ne_of_gt hn
    · obtain ⟨c, ds, hdigits, hc⟩ := ih (n / 10) (by omega) (by omega)
      refine ⟨c, ds ++ [(n % 10).digitChar], ?_, hc⟩
      rw [Nat.toDigits_of_base_le (by decide) (Nat.not_lt.mp hsmall), hdigits]
      rfl

theorem digits_comma {ds : Text} (rest : Text) (h : ∀ c ∈ ds, c.isDigit = true) :
    digits (ds ++ ',' :: rest) = (ds, ',' :: rest) := by
  have hcomma : Char.isDigit ',' = false := rfl
  unfold digits
  rw [List.span_eq_takeWhile_dropWhile, List.takeWhile_append_of_pos h,
    List.dropWhile_append_of_pos h]
  simp [hcomma]

theorem integerPart_toDigits (n : Nat) (rest : Text) :
    integerPart (Nat.toDigits 10 n ++ ',' :: rest) = some (Nat.toDigits 10 n, ',' :: rest) := by
  by_cases hn : n = 0
  · subst hn
    rfl
  · obtain ⟨c, ds, hdigits, hc⟩ := toDigits_head (Nat.pos_of_ne_zero hn)
    have hall : ∀ d ∈ c :: ds, d.isDigit = true := fun d hd =>
      Nat.isDigit_of_mem_toDigits (by decide) (by decide) (hdigits ▸ hd)
    rw [hdigits, List.cons_append, integerPart, if_neg hc, if_pos (hall c List.mem_cons_self),
      digits_comma rest fun d hd => hall d (List.mem_cons_of_mem c hd)]

section

variable {py : Foreign}

theorem matchNumber_toDigits (negative : Bool) (n : Nat) (rest : Text) :
    matchNumber py negative (Nat.toDigits 10 n ++ ',' :: rest) =
      some (.int (if negative then -n else n), ',' :: rest) := by
  have hvalue : Nat.ofDigitChars 10 (Nat.toDigits 10 n) 0 = n := Nat.ofDigitChars_ten_toDigits
  unfold matchNumber
  rw [integerPart_toDigits]
  have hfraction : fractionPart (',' :: rest) = ([], ',' :: rest) := rfl
  have hexponent : exponentPart (',' :: rest) = ([], ',' :: rest) := by
    simp [exponentPart]
  simp [hfraction, hexponent, hvalue]

theorem toDigits_cons (n : Nat) : ∃ c ds, Nat.toDigits 10 n = c :: ds ∧ c.isDigit = true := by
  obtain ⟨c, ds, hdigits⟩ := List.exists_cons_of_ne_nil (Nat.toDigits_ne_nil (n := n) (b := 10))
  have hc : c ∈ Nat.toDigits 10 n := hdigits ▸ List.mem_cons_self
  exact ⟨c, ds, hdigits, Nat.isDigit_of_mem_toDigits (by decide) (by decide) hc⟩

theorem digit_ne {c d : Char} (hc : c.isDigit = true) (hd : d.isDigit = false) :
    (d == c) = false := by
  rw [beq_eq_false_iff_ne]
  rintro rfl
  cases hc.symm.trans hd

/-- No constant begins like a number. -/
theorem constants_find_digits {c : Char} (hc : c.isDigit = true) (s : Text) :
    constants.find? (fun word => word.1.isPrefixOf (c :: s)) = none ∧
      constants.find? (fun word => word.1.isPrefixOf ('-' :: c :: s)) = none := by
  have hn := digit_ne hc (d := 'n') rfl
  have ht := digit_ne hc (d := 't') rfl
  have hf := digit_ne hc (d := 'f') rfl
  have hN := digit_ne hc (d := 'N') rfl
  have hI := digit_ne hc (d := 'I') rfl
  have hminus := digit_ne hc (d := '-') rfl
  simp [constants, List.isPrefixOf, hn, ht, hf, hN, hI, hminus]

theorem scanAtom_decimalText (v : Int) (rest : Text) :
    scanAtom py (decimalText v ++ ',' :: rest) = .ok (.int v, ',' :: rest) := by
  obtain ⟨c, ds, hdigits, hc⟩ := toDigits_cons v.natAbs
  obtain ⟨hplus, hminus⟩ := constants_find_digits hc (ds ++ ',' :: rest)
  have hnumber : ∀ negative, matchNumber py negative (c :: (ds ++ ',' :: rest)) =
      some (.int (if negative then -v.natAbs else v.natAbs), ',' :: rest) := by
    intro negative
    rw [← List.cons_append, ← hdigits]
    exact matchNumber_toDigits negative v.natAbs rest
  unfold decimalText scanAtom
  rw [hdigits]
  by_cases hv : v < 0
  · have habs : -(v.natAbs : Int) = v := by omega
    rw [if_pos hv, List.append_assoc, List.singleton_append, List.cons_append, hminus]
    simp only [hnumber, if_true, habs]
  · have habs : (v.natAbs : Int) = v := by omega
    rw [if_neg hv, List.nil_append, List.cons_append, hplus]
    dsimp only
    split
    next found hfound =>
      split at hfound
      next hsign =>
        cases (List.cons.inj hsign).1
        cases hc
      · cases hfound.symm.trans (hnumber false)
        rw [if_neg (by decide), habs]
    next hnone =>
      split at hnone
      next hsign =>
        cases (List.cons.inj hsign).1
        cases hc
      · cases hnone.symm.trans (hnumber false)

theorem skipSpace_of_not {c : Char} (s : Text) (hc : isSpace c = false) :
    skipSpace (c :: s) = c :: s := by
  rw [skipSpace, List.dropWhile_cons, if_neg (by rw [hc]; decide)]

theorem skipSpace_decimalText (v : Int) (rest : Text) :
    skipSpace (decimalText v ++ rest) = decimalText v ++ rest := by
  obtain ⟨c, ds, hdigits, hc⟩ := toDigits_cons v.natAbs
  unfold decimalText
  rw [hdigits]
  by_cases hv : v < 0
  · rw [if_pos hv]
    rfl
  · have hspace : isSpace c = false := by
      have hblank := beq_eq_false_iff_ne.mp (digit_ne hc (d := ' ') rfl)
      have htab := beq_eq_false_iff_ne.mp (digit_ne hc (d := '\t') rfl)
      have hline := beq_eq_false_iff_ne.mp (digit_ne hc (d := '\n') rfl)
      have hreturn := beq_eq_false_iff_ne.mp (digit_ne hc (d := '\r') rfl)
      simp [isSpace, hblank.symm, htab.symm, hline.symm, hreturn.symm]
    rw [if_neg hv]
    exact skipSpace_of_not _ hspace

/-! ## What the unit is read as -/

theorem value_str_iff {s rest : Text} {x : JsonValue} :
    Value py ('"' :: s) x rest ↔ ∃ t, x = .str t ∧ scanString py s = .ok (t, rest) := by
  constructor
  · intro h
    cases h with
    | str h => exact ⟨_, rfl, h⟩
    | atom h => cases h
  · rintro ⟨t, rfl, h⟩
    exact .str h

theorem value_obj_iff {s rest : Text} {x : JsonValue} :
    Value py ('\x7b' :: '"' :: s) x rest ↔
      ∃ fields, x = .obj fields ∧ Members py ('"' :: s) fields rest := by
  have hskip : skipSpace ('"' :: s) = '"' :: s := rfl
  constructor
  · intro h
    cases h with
    | emptyObj h => cases h
    | obj h => exact ⟨_, rfl, h⟩
    | atom h => cases h
  · rintro ⟨fields, rfl, h⟩
    exact .obj h

theorem value_arr_iff {s rest : Text} {x : JsonValue} :
    Value py ('[' :: '\x7b' :: s) x rest ↔
      ∃ items, x = .arr items ∧ Elements py ('\x7b' :: s) items rest := by
  constructor
  · intro h
    cases h with
    | emptyArr h => cases h
    | arr h => exact ⟨_, rfl, h⟩
    | atom h => cases h
  · rintro ⟨items, rfl, h⟩
    exact .arr h

theorem plain_of_all {t : Text} (h : t.all (fun c => decide (Plain c)) = true) :
    ∀ c ∈ t, Plain c := fun c hc => of_decide_eq_true (List.all_eq_true.mp h c hc)

/-- A field whose key is plain, its value, and what can follow. -/
theorem members_cases {key s rest : Text} {fields : List (Text × JsonValue)}
    (hkey : ∀ c ∈ key, Plain c) (h : Members py ('"' :: (key ++ '"' :: ':' :: s)) fields rest) :
    ∃ v s₁, Value py (skipSpace s) v s₁ ∧
      ((fields = [(key, v)] ∧ skipSpace s₁ = '\x7d' :: rest) ∨
        ∃ s₂ more, fields = (key, v) :: more ∧ skipSpace s₁ = ',' :: s₂ ∧
          Members py (skipSpace s₂) more rest) := by
  have hscan : scanString py (key ++ '"' :: ':' :: s) = .ok (key, ':' :: s) :=
    scanString_of_plain _ hkey
  cases h with
  | last hname hcolon hv hclose =>
    cases hscan.symm.trans hname
    cases hcolon
    exact ⟨_, _, hv, .inl ⟨rfl, hclose⟩⟩
  | more hname hcolon hv hcomma hmore =>
    cases hscan.symm.trans hname
    cases hcolon
    exact ⟨_, _, hv, .inr ⟨_, _, rfl, hcomma, hmore⟩⟩

theorem elements_cases {s rest : Text} {items : List JsonValue} (h : Elements py s items rest) :
    ∃ v s₁, Value py s v s₁ ∧
      ((items = [v] ∧ skipSpace s₁ = ']' :: rest) ∨
        ∃ s₂ more, items = v :: more ∧ skipSpace s₁ = ',' :: s₂ ∧
          Elements py (skipSpace s₂) more rest) := by
  cases h with
  | last hv hclose => exact ⟨_, _, hv, .inl ⟨rfl, hclose⟩⟩
  | more hv hcomma hmore => exact ⟨_, _, hv, .inr ⟨_, _, rfl, hcomma, hmore⟩⟩

/-- Of the string that is read where the unit was written, and of a value around it that is left
with `k` closing brackets before `rest`: what a field `unit` in the value can hold. -/
def UnitRead (py : Foreign) (u : Text) (k : Nat) (v : JsonValue) (rest : Text) : Prop :=
  ∃ w r, scanString py (afterUnit u) = .ok (w, r) ∧ rest.length + k ≤ r.length ∧
    ∀ t, HasField unitKey t v → t = w ∨ t.length < u.length

theorem afterUnit_scanned {u w r : Text} (h : scanString py (afterUnit u) = .ok (w, r)) :
    w.length + r.length ≤ u.length + 3 := by
  have hlength := scanChars_length h
  rw [afterUnit, List.length_append] at hlength
  simp only [List.length_cons, List.length_nil] at hlength
  omega

/-- A field that is read from what is left is shorter. -/
theorem field_short {u w r t s rest : Text} (hscan : scanString py (afterUnit u) = .ok (w, r))
    (hleft : s.length ≤ r.length) (hfits : unitKey.length + t.length + 5 + rest.length ≤ s.length) :
    t.length < u.length := by
  have hlength := afterUnit_scanned hscan
  have hkey : unitKey.length = 4 := rfl
  omega

theorem unitText_read {u rest : Text} {fields : List (Text × JsonValue)}
    (h : Members py (unitText u) fields rest) : UnitRead py u 1 (.obj fields) rest := by
  obtain ⟨v, s₁, hv, hthen⟩ := members_cases (plain_of_all rfl) h
  obtain ⟨w, rfl, hscan⟩ := value_str_iff.mp hv
  refine ⟨w, s₁, hscan, ?_⟩
  rcases hthen with ⟨rfl, hclose⟩ | ⟨s₂, more, rfl, hcomma, hmore⟩
  · refine ⟨skipSpace_cons hclose, ?_⟩
    intro t hfield
    rcases hasField_fields_cons hfield with ⟨-, heq⟩ | hfield | hfield
    · cases heq
      exact .inl rfl
    · cases hfield
    · exact absurd hfield not_hasField_noFields
  · have hcons := skipSpace_cons hcomma
    have hle := skipSpace_le s₂
    have hshorter := hmore.shorter
    refine ⟨by omega, ?_⟩
    intro t hfield
    rcases hasField_fields_cons hfield with ⟨-, heq⟩ | hfield | hfield
    · cases heq
      exact .inl rfl
    · cases hfield
    · exact .inr (field_short hscan (by omega) (hmore.field_fits hfield))

theorem itemText_read {v : Int} {u rest : Text} {x : JsonValue}
    (h : Value py (itemText v u) x rest) : UnitRead py u 1 x rest := by
  obtain ⟨fields, rfl, hmembers⟩ := value_obj_iff.mp h
  obtain ⟨n, s₁, hn, hthen⟩ := members_cases (plain_of_all rfl) hmembers
  rw [skipSpace_decimalText] at hn
  obtain ⟨rfl, rfl⟩ := hn.unique (.atom (scanAtom_decimalText v (unitText u)))
  rcases hthen with ⟨-, hclose⟩ | ⟨s₂, more, rfl, hcomma, hmore⟩
  · cases hclose
  · cases hcomma
    obtain ⟨w, r, hscan, hleft, hfield⟩ := unitText_read hmore
    refine ⟨w, r, hscan, hleft, ?_⟩
    intro t ht
    rcases hasField_fields_cons ht with ⟨-, heq⟩ | ht | ht
    · cases heq
    · cases ht
    · exact hfield t ht

theorem items_read {v : Int} {u rest : Text} {items : List JsonValue}
    (h : Elements py (itemText v u) items rest) : UnitRead py u 2 (.arr items) rest := by
  obtain ⟨item, s₁, hitem, hthen⟩ := elements_cases h
  obtain ⟨w, r, hscan, hleft, hfield⟩ := itemText_read hitem
  rcases hthen with ⟨rfl, hclose⟩ | ⟨s₂, more, rfl, hcomma, hmore⟩
  · have hcons := skipSpace_cons hclose
    refine ⟨w, r, hscan, by omega, ?_⟩
    intro t ht
    rcases hasField_items_cons ht with ht | ht
    · exact hfield t ht
    · exact absurd ht not_hasField_noItems
  · have hcons := skipSpace_cons hcomma
    have hle := skipSpace_le s₂
    have hshorter := hmore.shorter
    refine ⟨w, r, hscan, by omega, ?_⟩
    intro t ht
    rcases hasField_items_cons ht with ht | ht
    · exact hfield t ht
    · exact .inr (field_short hscan (by omega) (hmore.field_fits ht))

theorem docText_read {v : Int} {u rest : Text} {x : JsonValue}
    (h : Value py (docText v u) x rest) : UnitRead py u 3 x rest := by
  obtain ⟨fields, rfl, hmembers⟩ := value_obj_iff.mp h
  obtain ⟨samples, s₁, hsamples, hthen⟩ := members_cases (plain_of_all rfl) hmembers
  obtain ⟨items, rfl, hitems⟩ := value_arr_iff.mp hsamples
  obtain ⟨w, r, hscan, hleft, hfield⟩ := items_read hitems
  rcases hthen with ⟨rfl, hclose⟩ | ⟨s₂, more, rfl, hcomma, hmore⟩
  · have hcons := skipSpace_cons hclose
    refine ⟨w, r, hscan, by omega, ?_⟩
    intro t ht
    rcases hasField_fields_cons ht with ⟨-, heq⟩ | ht | ht
    · cases heq
    · exact hfield t ht
    · exact absurd ht not_hasField_noFields
  · have hcons := skipSpace_cons hcomma
    have hle := skipSpace_le s₂
    have hshorter := hmore.shorter
    refine ⟨w, r, hscan, by omega, ?_⟩
    intro t ht
    rcases hasField_fields_cons ht with ⟨-, heq⟩ | ht | ht
    · cases heq
    · exact hfield t ht
    · exact .inr (field_short hscan (by omega) (hmore.field_fits ht))

/-- **What a field `unit` holds is no longer than what was written there**, and as long only if
that was plain. -/
theorem docText_plain {v : Int} {u t : Text} {x : JsonValue}
    (h : decode py (docText v u) = .ok x) (hfield : HasField unitKey t x) (hlen : u.length ≤ t.length) :
    u.length = t.length ∧ ∀ c ∈ t, Plain c := by
  obtain ⟨rest, hvalue, -⟩ := decode_iff.mp h
  obtain ⟨w, r, hscan, hleft, hfits⟩ := docText_read hvalue
  have hlength := afterUnit_scanned hscan
  rcases hfits t hfield with rfl | hshort
  · refine ⟨by omega, ?_⟩
    apply scanChars_plain hscan
    rw [afterUnit, List.length_append]
    simp only [List.length_cons, List.length_nil]
    omega
  · exact absurd hlen (Nat.not_le.mpr hshort)

/-- **A plain unit comes back**, in the one sample that was meant. -/
theorem decode_docText {v : Int} {u : Text} (hu : ∀ c ∈ u, Plain c) :
    decode py (docText v u) = .ok (documentOf v u) := by
  have hunit : Members py (unitText u) [(unitKey, .str u)] [']', '\x7d'] :=
    .last (scanString_of_plain _ (plain_of_all rfl)) rfl (.str (scanString_of_plain _ hu)) rfl
  have hitem : Value py (itemText v u) (sampleOf v u) [']', '\x7d'] := by
    have hnumber : Value py (skipSpace (decimalText v ++ ',' :: unitText u)) (.int v)
        (',' :: unitText u) := by
      rw [skipSpace_decimalText]
      exact .atom (scanAtom_decimalText v _)
    have hcomma : skipSpace (',' :: unitText u) = ',' :: unitText u := rfl
    have hquote : skipSpace (unitText u) = unitText u := rfl
    exact .obj (.more (scanString_of_plain _ (plain_of_all rfl)) rfl hnumber hcomma
      (hquote.symm ▸ hunit))
  have hdoc : Value py (docText v u) (documentOf v u) [] :=
    .obj (.last (scanString_of_plain _ (plain_of_all rfl)) rfl (.arr (.last hitem rfl)) rfl)
  exact decode_iff.mpr ⟨[], hdoc, rfl⟩

end

/-! ## Its bytes -/

theorem utf8_ascii {s : Text} (h : ∀ c ∈ s, c.toNat < 128) : Text.utf8 s = Bytes.ascii s := by
  unfold Text.utf8 Bytes.ascii
  rw [List.map_eq_flatMap]
  refine List.flatMap_congr fun c hc => ?_
  exact if_pos (Nat.le_of_lt_succ (h c hc))

/-- Only the byte 0 is the code point 0: nothing is written with more bytes than it needs. -/
theorem utf8Step_ne_zero {begun begun' : Option Begun} {x : UInt8} {point : Option Nat}
    (hx : x ≠ 0) (hbegun : ∀ g ∈ begun, 0 < g.least) (h : utf8Step begun x = some (point, begun')) :
    (∀ n ∈ point, n ≠ 0) ∧ ∀ g ∈ begun', 0 < g.least := by
  have hpositive : x.toNat ≠ 0 := fun hzero => hx (UInt8.toNat_inj.mp hzero)
  cases begun with
  | none =>
    simp only [utf8Step] at h
    repeat' split at h
    all_goals cases h
    all_goals simp [hpositive]
  | some begun =>
    have hleast := hbegun begun rfl
    simp only [utf8Step] at h
    split at h
    · cases h
    · split at h
      · cases h
        simpa using hleast
      · split at h
        next hpoint =>
          obtain ⟨rfl, rfl⟩ := Prod.mk.inj (Option.some.inj h)
          simpa using Nat.ne_of_gt (hleast.trans_le hpoint.1)
        · cases h

/-- The string ends where its bytes do. -/
theorem utf8From_cString {begun : Option Begun} {b : Bytes} {points : List Nat}
    (hbegun : ∀ g ∈ begun, 0 < g.least) (h : utf8From begun b = some points) :
    utf8From begun (cString b) = some (points.takeWhile (· ≠ 0)) := by
  unfold cString
  induction b generalizing begun points with
  | nil =>
    cases begun with
    | none =>
      cases h
      rfl
    | some begun => cases h
  | cons x b ih =>
    obtain ⟨point, begun', more, hstep, hmore, rfl⟩ := utf8From_cons_iff.mp h
    by_cases hx : x = 0
    · subst hx
      cases begun with
      | none =>
        cases hstep
        rfl
      | some begun => cases hstep
    · obtain ⟨hpoint, hbegun'⟩ := utf8Step_ne_zero hx hbegun hstep
      have hkept : ∀ n ∈ point.toList, decide (n ≠ 0) = true := fun n hn =>
        decide_eq_true (hpoint n (Option.mem_toList.mp hn))
      rw [List.takeWhile_cons, if_pos (decide_eq_true hx), utf8From_cons_iff,
        List.takeWhile_append_of_pos hkept]
      exact ⟨point, begun', _, hstep, ih hbegun' hmore, rfl⟩

theorem decimalText_ascii (v : Int) : ∀ c ∈ decimalText v, c.toNat < 128 := by
  intro c hc
  rcases List.mem_append.mp hc with hc | hc
  · split at hc
    · rw [List.mem_singleton.mp hc]
      decide
    · cases hc
  · have hdigit := Nat.isDigit_of_mem_toDigits (by decide) (by decide) hc
    have hlast : c.toNat ≤ '9'.toNat := (Char.isDigit_iff_toNat.mp hdigit).2
    exact hlast.trans_lt (by decide)

theorem utf8Points_ascii {s : Text} (h : s.all (fun c => decide (c.toNat < 128)) = true) :
    utf8Points (Bytes.ascii s) = some (s.map Char.toNat) := by
  rw [← utf8_ascii fun c hc => of_decide_eq_true (List.all_eq_true.mp h c hc), utf8Points_utf8]

/-- What the Trusted Application writes, as a string. -/
theorem utf8Decode_formatReading (py : Foreign) (v : Int) {unit : Bytes} {points : List Nat}
    (h : utf8Points unit = some points) :
    utf8Decode py (formatReading v unit) =
      some (docText v ((points.takeWhile (· ≠ 0)).map py.char)) := by
  have hunit : utf8Points (cString unit) = some (points.takeWhile (· ≠ 0)) :=
    utf8From_cString nofun h
  have hend : utf8Points (Bytes.ascii ['"', '\x7d', ']', '\x7d']) =
      some (['"', '\x7d', ']', '\x7d'].map Char.toNat) := rfl
  have hnumber : utf8Points (decimal v) = some ((decimalText v).map Char.toNat) :=
    utf8Points_ascii (List.all_eq_true.mpr fun c hc => decide_eq_true (decimalText_ascii v c hc))
  unfold formatReading utf8Decode
  simp only [List.append_assoc]
  rw [utf8Points, utf8From_append (utf8Points_ascii rfl) (utf8From_append hnumber
    (utf8From_append (utf8Points_ascii rfl) (utf8From_append hunit hend)))]
  simp only [Option.map_some, List.map_append, py.map_char_toNat]
  rfl

theorem loads_formatReading (py : Foreign) (v : Int) {unit : Bytes} {points : List Nat}
    (h : utf8Points unit = some points) :
    loads py (formatReading v unit) =
      decode py (docText v ((points.takeWhile (· ≠ 0)).map py.char)) := by
  have hutf8 : isUtf8 (formatReading v unit) = true := by
    -- the three bytes it looks at are `{"s`
    have hfirst : ∃ rest, formatReading v unit = 0x7B :: 0x22 :: 0x73 :: rest := ⟨_, rfl⟩
    obtain ⟨rest, hrest⟩ := hfirst
    rw [hrest]
    simp [isUtf8]
  unfold loads
  rw [if_pos hutf8, utf8Decode_formatReading py v h]

end Json

/-! ## The sample -/

/-- Python's own `json.loads`. -/
def Runtime.withJson (rt : Runtime) (py : Json.Foreign) : Runtime :=
  { rt with loads := fun b => (Json.loads py b).mapError fun _ => .valueError }

/-- The server reads a plaintext as one sample, with this value and the string that this unit is. -/
def OneSample (rt : Runtime) (py : Json.Foreign) (deviceId : Text) (now : Time) (plaintext : Bytes)
    (value : Int) (unit : Bytes) : Prop :=
  ∃ text payload item, Json.utf8Decode py unit = some text ∧
    (rt.withJson py).loads plaintext = .ok payload ∧
    payload.get "samples".toList = .ok (some (.arr [item])) ∧
    item.subscript "value".toList = .ok (.int value) ∧
    item.get "unit".toList = .ok (some (.str text)) ∧
    ∀ bits, rt.float (.int value) = .ok bits → payloadSamples (rt.withJson py) deviceId now payload =
      .ok [⟨rt.ofTime now, bits, deviceId ++ ":sensor".toList, text⟩]

/-- UTF-8, lone surrogates included, without control characters, quotes and backslashes. -/
def PlainUnit (unit : Bytes) : Prop :=
  ∃ points, Json.utf8Points unit = some points ∧ ∀ n ∈ points, Json.PlainPoint n

theorem takeWhile_plain {points : List Nat} (h : ∀ n ∈ points, Json.PlainPoint n) :
    points.takeWhile (· ≠ 0) = points := by
  refine List.takeWhile_eq_self_iff.mpr fun n hn => decide_eq_true ?_
  exact Nat.ne_of_gt (Nat.lt_of_lt_of_le (by decide) (h n hn).2.2)

theorem mem_of_get {payload v : JsonValue} {key : Text} (h : payload.get key = .ok (some v)) :
    ∃ fields, payload = .obj fields ∧ (key, v) ∈ fields := by
  cases payload with
  | obj fields =>
    obtain ⟨before, after, heq, -⟩ := List.lookup_eq_some_iff.mp (Except.ok.inj h)
    refine ⟨fields, rfl, List.mem_reverse.mp ?_⟩
    rw [heq]
    exact List.mem_append_right _ List.mem_cons_self
  | _ => cases h

section

variable {rt : Runtime} {py : Json.Foreign} {deviceId : Text} {now : Time} {value : Int}
  {unit : Bytes}

theorem oneSample_of_plain (h : PlainUnit unit) :
    OneSample rt py deviceId now (formatReading value unit) value unit := by
  obtain ⟨points, hpoints, hplain⟩ := h
  have htext : ∀ c ∈ points.map py.char, Json.Plain c := by
    intro c hc
    obtain ⟨n, hn, rfl⟩ := List.mem_map.mp hc
    exact (py.plain_char_iff (Json.utf8From_le hpoints n hn)).mpr (hplain n hn)
  have hdecode : Json.utf8Decode py unit = some (points.map py.char) := by
    rw [Json.utf8Decode, hpoints, Option.map_some]
  have hloads : (rt.withJson py).loads (formatReading value unit) =
      .ok (Json.documentOf value (points.map py.char)) := by
    show (Json.loads py _).mapError _ = _
    rw [Json.loads_formatReading py value hpoints, takeWhile_plain hplain,
      Json.decode_docText htext]
    rfl
  generalize points.map py.char = text at htext hdecode hloads
  refine ⟨text, Json.documentOf value text, Json.sampleOf value text, hdecode, hloads, rfl, rfl, rfl,
    ?_⟩
  intro bits hbits
  have hsample : readSample (rt.withJson py) deviceId now (Json.sampleOf value text) =
      .ok ⟨rt.ofTime now, bits, deviceId ++ ":sensor".toList, text⟩ := by
    have hfloat : readSample (rt.withJson py) deviceId now (Json.sampleOf value text) =
        rt.float (.int value) >>= fun v =>
          .ok ⟨rt.ofTime now, v, deviceId ++ ":sensor".toList, text⟩ := rfl
    rw [hfloat, hbits, ok_bind]
  show readSamples (rt.withJson py) deviceId now [Json.sampleOf value text] = _
  rw [readSamples, hsample]
  rfl

theorem plain_of_oneSample
    (h : OneSample rt py deviceId now (formatReading value unit) value unit) : PlainUnit unit := by
  obtain ⟨text, payload, item, htext, hloads, hsamples, -, hunit, -⟩ := h
  obtain ⟨points, hpoints, rfl⟩ := Option.map_eq_some_iff.mp htext
  have hdecode : Json.decode py (Json.docText value ((points.takeWhile (· ≠ 0)).map py.char)) =
      .ok payload := by
    have hjson : (Json.loads py (formatReading value unit)).mapError
        (fun _ => StdError.valueError) = .ok payload := hloads
    rw [Json.loads_formatReading py value hpoints] at hjson
    generalize Json.decode py _ = decoded at hjson ⊢
    cases decoded with
    | error e => cases hjson
    | ok v =>
      cases hjson
      rfl
  have hfield : Json.HasField Json.unitKey (points.map py.char) payload := by
    obtain ⟨fields, rfl, hmem⟩ := mem_of_get hsamples
    obtain ⟨sample, rfl, hstr⟩ := mem_of_get hunit
    exact .field hmem (.item List.mem_cons_self (.here hstr))
  have hle : ((points.takeWhile (· ≠ 0)).map py.char).length ≤ (points.map py.char).length := by
    rw [List.length_map, List.length_map]
    exact (List.takeWhile_prefix _).length_le
  have hplain := (Json.docText_plain hdecode hfield hle).2
  refine ⟨points, hpoints, fun n hn => ?_⟩
  exact (py.plain_char_iff (Json.utf8From_le hpoints n hn)).mp (hplain _ (List.mem_map_of_mem hn))

theorem oneSample_iff :
    OneSample rt py deviceId now (formatReading value unit) value unit ↔ PlainUnit unit :=
  ⟨plain_of_oneSample, oneSample_of_plain⟩

/-- Every reading there can be is taken, if the session to the PTA is open. -/
theorem readSensorReading_accepts {s : Frame} {answer : BytesN sensorLinkReadingMax × Nat}
    {taken : BitVec 32} (hopen : s.sess.sensorPtaOpen = true)
    (hdecode : decodeReading answer = some (taken, unit)) :
    Runs (readSensorReading.go s) [ptaAnswered answer]
      (.ok (), s.onSess fun sess => { sess with reading := formatReading taken.toInt unit }) := by
  have hpta : openSensorPta.go s = .ret (.ok (), s) := by
    unfold openSensorPta
    rw [Proc.go_bind, Proc.go_get]
    simp only [Prog.ret_bind, hopen, not_true, if_false]
    rfl
  rw [readSensorReading_decodes, Proc.go_bind, hpta, Prog.ret_bind]
  refine Steps.call (S := Tee) (c := .req (.invokeTACommand .read [] sensorLinkReadingMax))
    (.ok answer) ?_
  simp only [Prog.bind, ExceptT.bindCont, hdecode]
  exact .refl _

/-- **What the server makes of a reading.** Of every payload that `read_sensor_reading` takes, the
text that it stores is one sample with the payload's value and the payload's unit, exactly if the
unit is plain. -/
theorem reading_sample_iff (rt : Runtime) (py : Json.Foreign) (deviceId : Text) (now : Time)
    {s s' : Frame} {tr : List (Event Tee)} {answer : BytesN sensorLinkReadingMax × Nat}
    (hrun : Runs (readSensorReading.go s) tr (.ok (), s')) (hanswer : ptaAnswered answer ∈ tr) :
    ∃ value unit, decodeReading answer = some (value, unit) ∧
      (OneSample rt py deviceId now s'.sess.reading value.toInt unit ↔ PlainUnit unit) := by
  have htaken := readSensorReading_taken hrun hanswer
  cases hdecode : decodeReading answer with
  | none => cases (htaken.refused hdecode).1
  | some reading =>
    obtain ⟨value, unit⟩ := reading
    refine ⟨value, unit, rfl, ?_⟩
    rw [(htaken.decoded value unit hdecode).2]
    exact oneSample_iff

end

/-- A buffer of the PTA's that begins with a reading. -/
def readingAnswer (value : BitVec 32) (unit : Bytes) (h : unit.length ≤ sensorLinkReadingUnitMax) :
    BytesN sensorLinkReadingMax × Nat :=
  (⟨readingLayout value unit ++ List.replicate (251 - unit.length) 0, by
    have hmax : unit.length ≤ 32 := h
    rw [List.length_append, length_readingLayout, List.length_replicate]
    show 4 + 1 + unit.length + (251 - unit.length) = 256
    omega⟩, (readingLayout value unit).length)

theorem decodeReading_answer (value : BitVec 32) (unit : Bytes)
    (h : unit.length ≤ sensorLinkReadingUnitMax) :
    decodeReading (readingAnswer value unit h) = some (value, unit) :=
  decodeReading_iff.mpr ⟨h, rfl, List.take_left⟩

/-- A session that has its session to the PTA. -/
def linked : Frame := ⟨{ Session.fresh with sensorPtaOpen := true }, fun _ => ⟨0, 0, 0⟩⟩

/-- `C"},{"value":9,"unit":"V` -/
def twoUnits : Text := ['C', '"', '\x7d', ',', '\x7b', '"', 'v', 'a', 'l', 'u', 'e', '"', ':', '9',
  ',', '"', 'u', 'n', 'i', 't', '"', ':', '"', 'V']

/-- Doubles are all 0, and U+FFFD stands for a lone surrogate. -/
def Vectors.foreign : Json.Foreign := ⟨fun _ => 0, fun _ => '\uFFFD', fun _ => by decide⟩

example : ((Json.decode Vectors.foreign (Json.docText 23 twoUnits)).toOption.bind fun payload =>
    (payloadSamples { Vectors.python with float := fun _ => .ok 0 } [] 0 payload).toOption).map
      (·.map fun sample => sample.unit) = some [['C'], ['V']] := by decide +kernel

theorem not_plain_twoUnits : ¬ PlainUnit (Text.utf8 twoUnits) := by
  rintro ⟨points, hpoints, hplain⟩
  cases (Json.utf8Points_utf8 twoUnits).symm.trans hpoints
  exact absurd rfl (hplain '"'.toNat (by decide)).1

/-- The unit of a reading can add a sample of its own. -/
theorem unit_adds_sample : ¬ ∀ (rt : Runtime) (py : Json.Foreign) (deviceId : Text) (now : Time)
    (s s' : Frame) (tr : List (Event Tee)) (answer : BytesN sensorLinkReadingMax × Nat)
    (value : BitVec 32) (unit : Bytes), Runs (readSensorReading.go s) tr (.ok (), s') →
    ptaAnswered answer ∈ tr → decodeReading answer = some (value, unit) →
    OneSample rt py deviceId now s'.sess.reading value.toInt unit := by
  intro h
  have hdecode := decodeReading_answer 23 (Text.utf8 twoUnits) (by decide)
  have hrun := readSensorReading_accepts (s := linked) rfl hdecode
  have hone := h Vectors.python Vectors.foreign "edge".toList 0 _ _ _ _ 23 _ hrun
    List.mem_cons_self hdecode
  exact not_plain_twoUnits (plain_of_oneSample hone)

/-- 23 °C, and 23 of a unit that is half a character -/
theorem reading_sample_celsius :
    OneSample Vectors.python Vectors.foreign "edge".toList 0
      (formatReading (BitVec.toInt 23#32) (Text.utf8 ['°', 'C'])) (BitVec.toInt 23#32)
      (Text.utf8 ['°', 'C']) ∧
    OneSample Vectors.python Vectors.foreign "edge".toList 0
      (formatReading (BitVec.toInt 23#32) [0xED, 0xA0, 0x80]) (BitVec.toInt 23#32)
      [0xED, 0xA0, 0x80] := by
  have hread : ∀ unit (h : unit.length ≤ sensorLinkReadingUnitMax), PlainUnit unit →
      OneSample Vectors.python Vectors.foreign "edge".toList 0
        (formatReading (BitVec.toInt 23#32) unit) (BitVec.toInt 23#32) unit := by
    intro unit h hplain
    have hdecode := decodeReading_answer 23 unit h
    have hrun := readSensorReading_accepts (s := linked) rfl hdecode
    obtain ⟨value, unit', hdecode', hiff⟩ := reading_sample_iff Vectors.python Vectors.foreign
      "edge".toList 0 hrun List.mem_cons_self
    obtain ⟨rfl, rfl⟩ := Prod.mk.inj (Option.some.inj (hdecode.symm.trans hdecode'))
    exact hiff.mpr hplain
  refine ⟨hread _ (by decide) ⟨_, Json.utf8Points_utf8 _, by decide⟩, ?_⟩
  exact hread _ (by decide) ⟨[0xD800], rfl, by decide⟩

end ConfidentialIoT
