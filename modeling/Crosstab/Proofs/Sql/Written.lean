import Crosstab.Proofs.Cell.Written
import Crosstab.Proofs.Clause.Spelling
import Crosstab.Sql.Emit

/-!
# Statements as lexemes

`Writes d ts ks` says that the text of the tokens `ts` in the dialect `d` spells lexemes of the
kinds `ks`.  The forms of conditions write what their parts write, with words, operators and
parentheses around them; names write the names that they quote (`writes_column`), and literals
write values of the grammar (`writes_literal`).
-/

namespace Crosstab

open Clause (Spells LexemeKind Keyword Sign Ends)

/-! ## Forms -/

namespace Sql

variable {d : Dialect} {ts us : List Token} {op : Token} {ks ls ms : List LexemeKind}

/-- In a dialect, the text of some tokens spells lexemes of the given kinds. -/
def Writes (d : Dialect) (ts : List Token) (ks : List LexemeKind) : Prop :=
  Spells (render d ts).toList ks

theorem render_singleton (d : Dialect) (t : Token) : render d [t] = t.text d := by
  rw [render_cons, render, List.map_nil, String.join_nil, String.append_empty]

theorem writes_singleton {t : Token} (h : Spells (t.text d).toList ks) : Writes d [t] ks := by
  rw [Writes, render_singleton]
  exact h

theorem toList_text_space (d : Dialect) : (Token.text d .space).toList = [' '] := by
  rw [Token.text]
  rfl

theorem toList_text_mark (d : Dialect) (m : Mark) :
    (Token.text d (.mark m)).toList = m.text.toList := by
  rw [Token.text]

theorem Writes.append_space (ht : Writes d ts ks) (hu : Writes d us ls) :
    Writes d (ts ++ .space :: us) (ks ++ ls) := by
  rw [Writes, render_append, render_cons, String.toList_append, String.toList_append,
    toList_text_space]
  exact Clause.Spells.append_space ht hu

theorem Writes.append_comma (ht : Writes d ts ks) (hu : Writes d us ls) :
    Writes d (ts ++ .mark .comma :: .space :: us) (ks ++ .comma :: ls) := by
  rw [Writes, render_append, render_cons, render_cons, String.toList_append, String.toList_append,
    String.toList_append, toList_text_space, toList_text_mark]
  exact Clause.Spells.append_comma ht hu

theorem Writes.parens (h : Writes d ts ks) :
    Writes d (parens ts) (.leftParen :: ks ++ [.rightParen]) := by
  have hright : (render d [.mark .rightParen]).toList = [')'] := by
    rw [render_singleton, toList_text_mark]
    rfl
  rw [Writes, Sql.parens, List.cons_append, render_cons, render_append, String.toList_append,
    String.toList_append, toList_text_mark, hright]
  exact Clause.Spells.parens h

theorem Writes.between (ht : Writes d ts ks) (hop : Writes d [op] ms) (hu : Writes d us ls) :
    Writes d (between ts op us) (.leftParen :: (ks ++ (ms ++ ls)) ++ [.rightParen]) :=
  (ht.append_space (hop.append_space hu)).parens

/-! ## Words and marks -/

theorem spells_keyword (k : Keyword) : Spells k.word.toList [.keyword k] := by
  cases k <;> exact Clause.spells_word (by decide) (by decide) (List.all_eq_true.mp (by decide))

theorem writes_word {w : Word} {k : Keyword} (h : w.text = k.word) :
    Writes d [.word w] [.keyword k] := by
  refine writes_singleton ?_
  rw [Token.text, h]
  exact spells_keyword k

theorem writes_isNull : Writes d [.word .isNull] [.keyword .is, .keyword .null] := by
  refine writes_singleton ?_
  have htext : (Token.text d (.word .isNull)).toList
      = Keyword.is.word.toList ++ ' ' :: Keyword.null.word.toList := by
    rw [Token.text]
    rfl
  rw [htext]
  exact (spells_keyword .is).append_space (spells_keyword .null)

theorem writes_mark {m : Mark} {s : Sign} (h : m.text = s.symbol) :
    Writes d [.mark m] [.sign s] := by
  refine writes_singleton ?_
  rw [toList_text_mark, h]
  exact Clause.spells_symbol s

/-- The operator that a mark of a comparison is read as. -/
def signOf : Comparison → Sign
  | .eq => .equal
  | .ne => .lessGreater
  | .gt => .greater
  | .ge => .greaterEqual
  | .lt => .less
  | .le => .lessEqual

theorem comparison?_signOf (op : Comparison) : (signOf op).comparison? = some op := by
  cases op <;> rfl

theorem writes_comparisonMark (op : Comparison) :
    Writes d [.mark (comparisonMark op)] [.sign (signOf op)] := by
  cases op <;> exact writes_mark rfl

/-! ## Names -/

theorem intercalate_cons {α : Type} (a : α) (p : List α) (ps : List (List α)) :
    [a].intercalate (p :: ps) = p ++ ps.flatMap (a :: ·) := by
  induction ps generalizing p with
  | nil => simp
  | cons q ps ih => rw [List.intercalate_cons_cons, ih, List.flatMap_cons, List.append_assoc]; rfl

theorem quotesNames_nameQuote (d : Dialect) : Clause.quotesNames d.nameQuote = true := by
  cases d <;> rfl

theorem toList_quoteName (d : Dialect) (s : String) :
    (d.quoteName s).toList = Clause.quotedPart d.nameQuote s.toList := by
  rw [Dialect.quoteName, quote, String.toList_ofList]
  rfl

/-- A column is written as the quoted parts of its name with dots between them. -/
theorem toList_column (d : Dialect) (name : String) :
    ∃ p ps, p ++ ps.flatMap ('.' :: ·) = name.toList ∧ (render d (column name)).toList =
      Clause.quotedPart d.nameQuote p ++ Clause.furtherParts d.nameQuote ps := by
  obtain ⟨p, ps, hparts⟩ : ∃ p ps, Text.parts '.' name.toList = p :: ps :=
    List.exists_cons_of_ne_nil (Text.parts_ne_nil '.' name.toList)
  have hquoted : (fun part => (d.quoteName (String.ofList part)).toList) =
      Clause.quotedPart d.nameQuote := by
    funext part
    rw [toList_quoteName, String.toList_ofList]
  refine ⟨p, ps, ?_, ?_⟩
  · rw [← intercalate_cons, ← hparts, Text.intercalate_parts]
  · rw [column, render_singleton, Token.text, String.toList_intercalate, nameParts, hparts,
      List.map_map, List.map_map]
    change List.intercalate ['.'] (List.map
      (fun part => (d.quoteName (String.ofList part)).toList) (p :: ps)) = _
    rw [hquoted, List.map_cons, intercalate_cons, List.flatMap_map, Clause.furtherParts]

/-- **A column writes its name**, whatever dots and quotes are in it. -/
theorem writes_column (name : String) : Writes d (column name) [.name name] := by
  obtain ⟨p, ps, hname, htext⟩ := toList_column d name
  have hspells := Clause.spells_name (quotesNames_nameQuote d) p ps
  rw [hname, String.ofList_toList] at hspells
  rw [Writes, htext]
  exact hspells

/-! ## Literals -/

theorem toList_quoteString (d : Dialect) (s : String) :
    (d.quoteString s).toList = '\'' :: Clause.doubled '\'' s.toList ++ ['\''] := by
  rw [Dialect.quoteString, quote, String.toList_ofList]
  rfl

theorem spells_quoteString (d : Dialect) (s : String) :
    Spells (d.quoteString s).toList [.string s] := by
  have hspells := Clause.spells_string s.toList
  rw [String.ofList_toList] at hspells
  rw [toList_quoteString]
  exact hspells

theorem writes_string (s : String) : Writes d [.string s] [.string s] := by
  refine writes_singleton ?_
  rw [Token.text]
  exact spells_quoteString d s

theorem spells_signed {t : Binary64.Numeral} (ht : t.WellFormed) (negative : Bool) :
    ∃ ks, Spells ((if negative then ['-'] else []) ++ t.chars) ks ∧
      Clause.Grammar.Value ks (Clause.numberCell (String.ofList t.chars) negative) := by
  cases negative with
  | true =>
    exact ⟨_, Clause.spells_minus_numeral ht, .negative _⟩
  | false => exact ⟨_, Clause.spells_numeral ht, .literal (.number _)⟩

/-- A numeral with a point or an exponent is read as a float. -/
theorem numberCell_of_fractional {t : Binary64.Numeral} (ht : t.WellFormed)
    (hfractional : t.Fractional) (negative : Bool) :
    Clause.numberCell (String.ofList t.chars) negative
      = .float (Binary64.ofNumeral negative t.chars) := by
  have hdigits : Binary64.isDigits t.chars = false := by
    rw [Binary64.isDigits, hfractional.all_isDigit, Bool.and_false]
  have htext : (String.ofList t.chars).toList = t.chars := String.toList_ofList
  rw [Clause.numberCell_eq_float, htext]
  · rw [htext]
    exact (Clause.numberSource_chars ht).isNumeral
  · rw [htext, hdigits]
    rintro ⟨⟩

/-- Digits alone are read as the whole number that they spell, if it fits. -/
theorem numberCell_digits {n : Int64} {k : Nat} {negative : Bool}
    (h : (if negative then -(k : Int) else k) = n.toInt) :
    Clause.numberCell (String.ofList (Binary64.digitChars k)) negative = .int n := by
  have hdigits : Binary64.isDigits (Binary64.digitChars k) = true :=
    Clause.isDigits_iff.mpr ⟨Nat.toDigits_ne_nil, Text.allDigits_toDigits k⟩
  refine Clause.numberCell_eq_int ?_ ?_
  · rw [String.toList_ofList, hdigits]
  · rw [String.toList_ofList, ← h, Clause.signedValue, Binary64.digitChars,
      Nat.ofDigitChars_ten_toDigits]

theorem writes_int (n : Int64) :
    ∃ ks, Writes d [.int n] ks ∧ Clause.Grammar.Value ks (.int n) := by
  obtain ⟨ks, hspells, hvalue⟩ :=
    spells_signed (Binary64.Numeral.wellFormed_ofNat n.toInt.natAbs) (decide (n.toInt < 0))
  rw [Binary64.Numeral.chars_ofNat] at hspells hvalue
  by_cases hneg : n.toInt < 0
  · rw [decide_eq_true hneg] at hspells hvalue
    rw [numberCell_digits (n := n) (by rw [if_pos rfl]; omega)] at hvalue
    refine ⟨ks, writes_singleton ?_, hvalue⟩
    rw [Token.text, String.toList_ofList, Binary64.intChars, if_pos hneg]
    exact hspells
  · rw [decide_eq_false hneg] at hspells hvalue
    rw [numberCell_digits (n := n) (by rw [if_neg Bool.false_ne_true]; omega)] at hvalue
    refine ⟨ks, writes_singleton ?_, hvalue⟩
    rw [Token.text, String.toList_ofList, Binary64.intChars, if_neg hneg]
    exact hspells

/-- A finite float writes its shortest text, which is read as the float. -/
theorem writes_float {x : Binary64} (hx : x.isFinite = true) :
    ∃ ks, Writes d [.float x] ks ∧ Clause.Grammar.Value ks (.float x) := by
  obtain ⟨t, ht, hfractional, hchars, hread⟩ := Binary64.exists_numeral_of_isFinite hx
  obtain ⟨ks, hspells, hvalue⟩ := spells_signed ht x.negative
  rw [numberCell_of_fractional ht hfractional, hread] at hvalue
  refine ⟨ks, writes_singleton ?_, hvalue⟩
  rw [Token.text, Binary64.text, String.toList_ofList, hchars]
  exact hspells

end Sql

open Sql

/-- The comparison that the lower bound of a range stands for. -/
def Bounds.above (bounds : Bounds) : Comparison := if bounds.withLower then .ge else .gt

/-- The comparison that the upper bound of a range stands for. -/
def Bounds.below (bounds : Bounds) : Comparison := if bounds.withUpper then .le else .lt

theorem Bounds.comparisonMark_above (bounds : Bounds) : Sql.comparisonMark bounds.above
    = if bounds.withLower then .greaterEqual else .greater := by
  cases bounds <;> rfl

theorem Bounds.comparisonMark_below (bounds : Bounds) : Sql.comparisonMark bounds.below
    = if bounds.withUpper then .lessEqual else .less := by
  cases bounds <;> rfl

/-- **A literal writes a value of the grammar** that denotes its cell. -/
theorem writes_literal {d : Dialect} {c : Cell} (hc : c.Portable) :
    ∃ t ks, literal c = .ok t ∧ Writes d [t] ks ∧ Clause.Grammar.Value ks c := by
  cases c with
  | null =>
    exact ⟨.null, [.keyword .null], rfl, writes_singleton (spells_keyword .null), .literal .null⟩
  | bool b =>
    cases b with
    | true =>
      exact ⟨.bool true, [.keyword .true], rfl, writes_singleton (spells_keyword .true),
        .literal .isTrue⟩
    | false =>
      exact ⟨.bool false, [.keyword .false], rfl, writes_singleton (spells_keyword .false),
        .literal .isFalse⟩
  | int n =>
    obtain ⟨ks, hwrites, hvalue⟩ := writes_int (d := d) n
    exact ⟨.int n, ks, rfl, hwrites, hvalue⟩
  | float x =>
    have hx : x.isFinite = true := hc
    obtain ⟨ks, hwrites, hvalue⟩ := writes_float (d := d) hx
    refine ⟨.float x, ks, ?_, hwrites, hvalue⟩
    rw [literal, if_pos hx]
  | text s => exact ⟨.string s, [.string s], rfl, writes_string s, .literal (.string s)⟩
  | date _ => exact hc.elim
  | timestamp _ => exact hc.elim

end Crosstab
