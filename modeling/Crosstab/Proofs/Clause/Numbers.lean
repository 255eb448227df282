import Crosstab.Clause.Parser
import Crosstab.Proofs.Binary64.Numeral
import Crosstab.Proofs.Cell.Written
import Crosstab.Proofs.Clause.Layout
import Crosstab.Proofs.Clause.Soundness

/-!
# What numbers convert to

The text of a number has parts (`NumberSource`): digits, possibly a fraction and possibly an
exponent, with a digit in front of the exponent.  A text with such parts is always a numeral
(`NumberSource.isNumeral`), so its conversion never meets the NaN that stands for other texts.

It converts to a whole number if it has neither fraction nor exponent and fits 64 bits with its sign
(`numberCell_eq_int`).  The sign counts for whether it fits, so the least number that fits is
reached.  Otherwise it converts to a float (`numberCell_eq_float`), which takes on the sign after it
is read and is no NaN.

`numberCell_of_lexemes` says so of every number of every text that is split.
-/

namespace Crosstab.Clause

open Binary64 (isDigits ofNumeral ofNumeral?)
open Text (AllDigits)

variable {s numeral : String} {cs whole fraction exponent : List Char} {ls : List Lexeme}
  {l : Lexeme} {negative : Bool}

/-! ## Parts -/

/-- The text of a number in parts, with a digit in front of the exponent. -/
structure NumberSource (cs whole fraction exponent : List Char) : Prop where
  text : cs = whole ++ fraction ++ exponent
  allDigits_whole : AllDigits whole
  fractionSource : FractionSource fraction
  exponentSource : ExponentSource exponent
  exists_digit : ∃ d ∈ whole ++ fraction, d.isDigit = true

theorem NumberSource.source (h : NumberSource cs whole fraction exponent) :
    Source cs (.number (String.ofList cs)) := by
  rw [h.text]
  exact .number h.allDigits_whole h.fractionSource h.exponentSource h.exists_digit

/-- The text of a number is the one that the number keeps, and has parts. -/
theorem Source.exists_numberSource (h : Source cs (.number numeral)) : numeral = String.ofList cs ∧
    ∃ whole fraction exponent, NumberSource cs whole fraction exponent := by
  generalize hkind : LexemeKind.number numeral = kind at h
  cases h with
  | number hwhole hfraction hexponent hdigit =>
    cases hkind
    exact ⟨rfl, _, _, _, rfl, hwhole, hfraction, hexponent, hdigit⟩
  | word _ _ _ =>
    unfold wordKind at hkind
    split at hkind <;> cases hkind
  | _ => cases hkind

/-- A number in a text that is split is its own text, which has parts. -/
theorem exists_numberSource_of_lexemes (h : lexemes s = .ok ls) (hl : l ∈ ls)
    (hkind : l.kind = .number numeral) : numeral = l.source ∧
      ∃ whole fraction exponent, NumberSource l.source.toList whole fraction exponent := by
  have hsource := (lexemes_eq_ok_iff.mp h).source l hl
  rw [hkind] at hsource
  obtain ⟨hnumeral, hparts⟩ := hsource.exists_numberSource
  rw [String.ofList_toList] at hnumeral
  exact ⟨hnumeral, hparts⟩

/-! ## Numerals -/

theorem isDigits_iff : isDigits cs = true ↔ cs ≠ [] ∧ AllDigits cs := by
  rw [isDigits, Bool.and_eq_true, Bool.not_eq_true', List.isEmpty_eq_false_iff, List.all_eq_true,
    AllDigits]

theorem ExponentSource.isExponent (h : ExponentSource exponent) :
    Binary64.isExponent exponent = true := by
  cases h with
  | none => rfl
  | @plain e d ds he hds =>
    have hdigits : isDigits (d :: ds) = true := isDigits_iff.mpr ⟨List.cons_ne_nil d ds, hds⟩
    have hd := hds d List.mem_cons_self
    unfold Binary64.isExponent
    split
    · next heq => cases heq
    · next heq =>
      cases heq
      cases hd
    · next heq =>
      cases heq
      cases hd
    · next heq =>
      cases heq
      rw [hdigits]
      rcases he with rfl | rfl <;> rfl
  | @signed e sign d ds he hsign hds =>
    have hdigits : isDigits (d :: ds) = true := isDigits_iff.mpr ⟨List.cons_ne_nil d ds, hds⟩
    rcases he with rfl | rfl <;> rcases hsign with rfl | rfl <;> exact hdigits

/-- What is read after a point is the fraction without the point. -/
theorem afterPoint_eq (cs : List Char) :
    Binary64.afterPoint cs = ((fractionPart cs).1.tail, (fractionPart cs).2) := by
  unfold fractionPart
  split
  · rfl
  · next hpoint =>
    rw [Binary64.afterPoint]
    · rfl
    · exact hpoint

theorem FractionSource.allDigits_tail (h : FractionSource fraction) : AllDigits fraction.tail := by
  cases h with
  | none => exact fun _ hd => nomatch hd
  | digits hds => exact hds

theorem FractionSource.mem_tail (h : FractionSource fraction) {d : Char} (hmem : d ∈ fraction)
    (hd : d.isDigit = true) : d ∈ fraction.tail := by
  cases h with
  | none => exact hmem
  | digits _ => exact List.mem_of_ne_of_mem (ne_of_isDigit hd rfl) hmem

namespace NumberSource

/-- **The text of a number is a numeral.** -/
theorem isNumeral (h : NumberSource cs whole fraction exponent) :
    Binary64.isNumeral cs = true := by
  obtain ⟨rfl, hwhole, hfraction, hexponent, d, hmem, hd⟩ := h
  have hrest := hfraction.noDigitAhead hexponent ends_nil
  have hpart := hfraction.fractionPart_eq hexponent ends_nil
  rw [List.append_nil] at hrest hpart
  have hdigits : isDigits (whole ++ fraction.tail) = true := by
    refine Clause.isDigits_iff.mpr ⟨List.ne_nil_of_mem (a := d) ?_,
      Text.allDigits_append hwhole hfraction.allDigits_tail⟩
    rcases List.mem_append.mp hmem with hmem | hmem
    · exact List.mem_append_left _ hmem
    · exact List.mem_append_right _ (hfraction.mem_tail hmem hd)
  unfold Binary64.isNumeral
  rw [List.append_assoc, Text.takeWhile_isDigit_append hwhole hrest,
    Text.dropWhile_isDigit_append hwhole hrest, afterPoint_eq, hpart]
  dsimp only
  rw [hdigits, hexponent.isExponent]
  rfl

/-- A number is nothing but digits if it has neither a fraction nor an exponent. -/
theorem isDigits_iff (h : NumberSource cs whole fraction exponent) :
    isDigits cs = true ↔ fraction = [] ∧ exponent = [] := by
  obtain ⟨rfl, hwhole, hfraction, hexponent, d, hmem, hd⟩ := h
  rw [Clause.isDigits_iff]
  constructor
  · rintro ⟨-, hall⟩
    refine ⟨?_, ?_⟩
    · cases hfraction with
      | none => rfl
      | digits _ => exact absurd (hall '.' (by simp)) (by decide)
    · cases hexponent with
      | none => rfl
      | @plain e _ _ he _ =>
        have hdigit := hall e (by simp)
        rcases he with rfl | rfl <;> cases hdigit
      | @signed e _ _ _ he _ _ =>
        have hdigit := hall e (by simp)
        rcases he with rfl | rfl <;> cases hdigit
  · rintro ⟨rfl, rfl⟩
    rw [List.append_nil] at hmem
    rw [List.append_nil, List.append_nil]
    exact ⟨List.ne_nil_of_mem hmem, hwhole⟩

theorem eq_whole (h : NumberSource cs whole fraction exponent) (hdigits : isDigits cs = true) :
    cs = whole := by
  obtain ⟨hfraction, hexponent⟩ := h.isDigits_iff.mp hdigits
  rw [h.text, hfraction, hexponent, List.append_nil, List.append_nil]

end NumberSource

theorem isNumeral_of_lexemes (h : lexemes s = .ok ls) :
    ∀ numeral, .number numeral ∈ kinds ls → Binary64.isNumeral numeral.toList = true := by
  intro numeral hmem
  obtain ⟨l, hl, hkind⟩ := List.mem_map.mp hmem
  obtain ⟨rfl, _, _, _, hsource⟩ := exists_numberSource_of_lexemes h hl hkind
  exact hsource.isNumeral

/-! ## Conversion -/

/-- The whole number that digits stand for, with a sign. -/
def signedValue (negative : Bool) (ds : List Char) : Int :=
  if negative then -(Nat.ofDigitChars 10 ds 0 : Int) else Nat.ofDigitChars 10 ds 0

/-- The range of 64 bits has one more number below zero than above. -/
theorem exists_toInt_eq_iff {n : Int} :
    (∃ m : Int64, m.toInt = n) ↔ -2 ^ 63 ≤ n ∧ n < 2 ^ 63 := by
  constructor
  · rintro ⟨m, rfl⟩
    exact ⟨m.le_toInt, m.toInt_lt⟩
  · rintro ⟨hlow, hhigh⟩
    exact ⟨Int64.ofInt n, Int64.toInt_ofInt_of_le hlow hhigh⟩

/-- Digits that fit with their sign convert to the whole number that they stand for. -/
theorem numberCell_eq_int {n : Int64} (hdigits : isDigits numeral.toList = true)
    (hn : n.toInt = signedValue negative numeral.toList) :
    numberCell numeral negative = .int n := by
  have hfits : int64? (if negative then -(Binary64.digitsValue numeral.toList : Int)
      else Binary64.digitsValue numeral.toList) = some n := by
    rw [int64?_eq_some_iff, hn, signedValue, Text.digitsValue_eq]
  rw [numberCell]
  dsimp only
  rw [if_pos hdigits, hfits]

/-- Any other numeral converts to the float that it spells, with its sign. -/
theorem numberCell_eq_float (hnumeral : Binary64.isNumeral numeral.toList = true)
    (hwhole : isDigits numeral.toList = true →
      ∀ n : Int64, n.toInt ≠ signedValue negative numeral.toList) :
    numberCell numeral negative = .float (ofNumeral negative numeral.toList) := by
  have hfloat : (if negative then -(ofNumeral? numeral.toList).getD .notANumber
      else (ofNumeral? numeral.toList).getD .notANumber) = ofNumeral negative numeral.toList := by
    rw [ofNumeral?, if_pos hnumeral, Option.getD_some, Binary64.signed_ofNumeral]
  rw [numberCell]
  dsimp only
  rw [hfloat]
  split
  · next hdigits =>
    split
    · next n hn =>
      rw [int64?_eq_some_iff, Text.digitsValue_eq] at hn
      exact absurd hn (hwhole hdigits n)
    · rfl
  · rfl

/-- A float that a numeral converts to is no NaN. -/
theorem isNaN_of_numberCell {x : Binary64} (hnumeral : Binary64.isNumeral numeral.toList = true)
    (h : numberCell numeral negative = .float x) : x.isNaN = false := by
  by_cases hfits : isDigits numeral.toList = true ∧
      ∃ n : Int64, n.toInt = signedValue negative numeral.toList
  · obtain ⟨hdigits, n, hn⟩ := hfits
    rw [numberCell_eq_int hdigits hn] at h
    cases h
  · rw [numberCell_eq_float hnumeral fun hdigits n hn => hfits ⟨hdigits, n, hn⟩] at h
    cases h
    exact Binary64.isNaN_ofNumeral _ _

/-- **Numbers always convert.**  The text of a number is digits, possibly with a fraction and an
exponent, and a numeral for floats.  With and without a minus sign it converts to the whole number
that it stands for, if it has neither fraction nor exponent and fits 64 bits, and otherwise to a
float that is no NaN. -/
theorem numberCell_of_lexemes (h : lexemes s = .ok ls) (hl : l ∈ ls)
    (hkind : l.kind = .number numeral) : numeral = l.source ∧ ∃ whole fraction exponent x,
      NumberSource l.source.toList whole fraction exponent ∧
      ofNumeral? numeral.toList = some x ∧ ∀ negative,
        let value := signedValue negative whole
        let fits := fraction = [] ∧ exponent = [] ∧ -2 ^ 63 ≤ value ∧ value < 2 ^ 63
        (fits → ∃ n : Int64, n.toInt = value ∧ numberCell numeral negative = .int n) ∧
        (¬fits → (if negative then -x else x).isNaN = false ∧
          numberCell numeral negative = .float (if negative then -x else x)) := by
  obtain ⟨rfl, whole, fraction, exponent, hsource⟩ := exists_numberSource_of_lexemes h hl hkind
  have hnumeral := hsource.isNumeral
  refine ⟨rfl, whole, fraction, exponent, ofNumeral false l.source.toList, hsource, if_pos hnumeral,
    fun negative => ⟨?_, ?_⟩⟩
  · rintro ⟨hfraction, hexponent, hrange⟩
    obtain ⟨n, hn⟩ := exists_toInt_eq_iff.mpr hrange
    have hdigits := hsource.isDigits_iff.mpr ⟨hfraction, hexponent⟩
    rw [← hsource.eq_whole hdigits] at hn ⊢
    exact ⟨n, hn, numberCell_eq_int hdigits hn⟩
  · intro hfits
    rw [Binary64.signed_ofNumeral]
    refine ⟨Binary64.isNaN_ofNumeral _ _, numberCell_eq_float hnumeral fun hdigits n hn => hfits ?_⟩
    obtain ⟨hfraction, hexponent⟩ := hsource.isDigits_iff.mp hdigits
    rw [hsource.eq_whole hdigits] at hn
    exact ⟨hfraction, hexponent, exists_toInt_eq_iff.mp ⟨n, hn⟩⟩

/-- The least number of 64 bits is reached by its sign, and without the sign it is a float. -/
theorem numberCell_of_lexemes_least : ∃ ls, lexemes "a > -9223372036854775808" = .ok ls ∧
    .number "9223372036854775808" ∈ kinds ls ∧
    numberCell "9223372036854775808" true = .int Int64.minValue ∧
    ∃ x, x.isNaN = false ∧ numberCell "9223372036854775808" false = .float x := by
  let number : Lexeme := ⟨.number "9223372036854775808", 5, 24, "9223372036854775808"⟩
  have hlexemes : lexemes "a > -9223372036854775808" = .ok
      [⟨.name "a", 0, 1, "a"⟩, ⟨.sign .greater, 2, 3, ">"⟩, ⟨.sign .minus, 4, 5, "-"⟩, number] :=
    rfl
  obtain ⟨-, whole, fraction, exponent, x, hsource, -, hcell⟩ :=
    numberCell_of_lexemes (l := number) hlexemes (by simp) rfl
  have hdigits : isDigits number.source.toList = true := by decide
  obtain ⟨hfraction, hexponent⟩ := hsource.isDigits_iff.mp hdigits
  have hwhole : whole = "9223372036854775808".toList := (hsource.eq_whole hdigits).symm
  have hnegative : signedValue true whole = -2 ^ 63 := by rw [hwhole]; decide
  have hpositive : signedValue false whole = 2 ^ 63 := by rw [hwhole]; decide
  refine ⟨_, hlexemes, by simp [number], ?_, x, ?_⟩
  · obtain ⟨n, hn, hint⟩ := (hcell true).1 ⟨hfraction, hexponent, by omega, by omega⟩
    rw [hnegative] at hn
    rw [hint, Int64.toInt_inj.mp (hn.trans Int64.toInt_minValue.symm)]
  · exact (hcell false).2 fun hfits => by omega

end Crosstab.Clause
