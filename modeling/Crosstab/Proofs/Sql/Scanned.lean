import Crosstab.Proofs.Clause.Leading
import Crosstab.Proofs.Sql.Written

/-!
# Quoted texts are scanned back

Quoting a text and scanning it undo each other (`Clause.scans_quoted`).  Between quotes, what is
read is the text whose quoted form stands there, and reading stops right after it, unless a further
quote makes the last one a doubled one (`Clause.quoted_eq_ok_iff`).  A column, whose name is quoted
part by part, is read as one name (`Clause.piece_column`), and what follows it is split as it is on
its own (`Clause.lexemes_of_piece`).
-/

namespace Crosstab.Clause

open Sql (render column)

variable {mark : Char} {fault : ClauseFault} {fuel offset : Nat} {cs src rest : List Char}
  {kind : LexemeKind}

/-! ## Between quotes -/

/-- After its closing quote a quoted text does not go on with a quote. -/
theorem head?_of_untilQuote {body : List Char} (h : untilQuote mark cs = some (body, rest)) :
    rest.head? ≠ some mark := by
  fun_induction untilQuote mark cs generalizing body with
  | case1 => cases h
  | case2 =>
    cases h
    rintro ⟨⟩
  | case3 => cases h
  | case4 more ih =>
    obtain ⟨⟨body', rest'⟩, hmore, heq⟩ := Option.map_eq_some_iff.mp h
    cases heq
    exact ih hmore
  | case5 d more hd =>
    cases h
    exact fun heq => hd (Option.some.inj heq)
  | case6 c d more hc ih =>
    obtain ⟨⟨body', rest'⟩, hmore, heq⟩ := Option.map_eq_some_iff.mp h
    cases heq
    exact ih hmore

theorem ne_of_head? (h : rest.head? ≠ some mark) : ∀ c ∈ rest.head?, c ≠ mark := by
  rintro c hc rfl
  exact h hc

theorem toList_quote (mark : Char) (s : String) :
    (quote mark s).toList = quotedPart mark s.toList := by
  rw [quote, String.toList_ofList]
  rfl

/-- **What is read between quotes** is the text whose quoted form stands there. -/
theorem quoted_eq_ok_iff {s : String} : quoted fault mark offset cs = .ok (s.toList, rest) ↔
    mark :: cs = (quote mark s).toList ++ rest ∧ rest.head? ≠ some mark := by
  rw [toList_quote]
  constructor
  · intro h
    refine ⟨quoted_eq_ok h, ?_⟩
    unfold quoted at h
    split at h
    · next r hr =>
      cases h
      exact head?_of_untilQuote hr
    · cases h
  · rintro ⟨htext, hrest⟩
    obtain rfl : cs = doubled mark s.toList ++ mark :: rest := by
      simpa [quotedPart] using htext
    exact quoted_doubled s.toList (ne_of_head? hrest)

/-! ## Names in parts -/

theorem furtherParts_head_ne (hmark : quotesNames mark = true) (hrest : rest.head? ≠ some mark)
    (ps : List (List Char)) : ∀ c ∈ (furtherParts mark ps ++ rest).head?, c ≠ mark := by
  cases ps with
  | nil => exact ne_of_head? hrest
  | cons p ps =>
    rintro c ⟨⟩ rfl
    cases hmark

/-- Quoted parts of a name are read up to what is neither a dot nor a quote. -/
theorem nameParts_furtherParts (hmark : quotesNames mark = true) (hdot : rest.head? ≠ some '.')
    (hrest : rest.head? ≠ some mark) (ps : List (List Char)) (offset : Nat)
    (hfuel : (furtherParts mark ps).length ≤ fuel) :
    nameParts fuel offset (furtherParts mark ps ++ rest) = .ok (ps.flatMap ('.' :: ·), rest) := by
  induction ps generalizing fuel offset with
  | nil => exact nameParts_of_head fuel offset (ne_of_head? hdot)
  | cons p ps ih =>
    have htext : furtherParts mark (p :: ps) ++ rest =
        '.' :: mark :: (doubled mark p ++ mark :: (furtherParts mark ps ++ rest)) := by
      simp [furtherParts, quotedPart]
    have hlength : (furtherParts mark ps).length < fuel := by
      refine Nat.lt_of_lt_of_le ?_ hfuel
      rw [furtherParts, furtherParts, List.flatMap_cons, List.length_append, List.length_cons]
      omega
    obtain ⟨fuel, rfl⟩ : ∃ n, fuel = n + 1 := ⟨fuel - 1, by omega⟩
    rw [htext, nameParts, if_pos hmark, quoted_doubled p (furtherParts_head_ne hmark hrest ps),
      ok_bind]
    dsimp only
    rw [ih _ (Nat.le_of_lt_succ hlength), ok_bind]
    rfl

/-- **A column is read as its name**, in front of whatever goes on with neither a dot nor a
quote. -/
theorem piece_column (d : Dialect) (name : String) (hdot : rest.head? ≠ some '.')
    (hquote : rest.head? ≠ some d.nameQuote) (offset : Nat) :
    piece offset ((render d (column name)).toList ++ rest) = .ok (some (.name name), rest) := by
  have hmark := Sql.quotesNames_nameQuote d
  obtain ⟨p, ps, hname, htext⟩ := Sql.toList_column d name
  rw [htext, List.append_assoc,
    piece_quotedPart hmark (furtherParts_head_ne hmark hquote ps) (fun fuel offset hfuel => ?_),
    hname, String.ofList_toList]
  rw [List.length_append] at hfuel
  exact nameParts_furtherParts hmark hdot hquote ps offset (by omega)

/-! ## The text after a lexeme -/

/-- More fuel than there are characters changes nothing. -/
theorem lexemesFrom_eq_of_le {more : Nat} (hfuel : cs.length ≤ fuel) (hmore : cs.length ≤ more)
    (offset : Nat) : lexemesFrom fuel offset cs = lexemesFrom more offset cs := by
  induction fuel generalizing more cs offset with
  | zero =>
    obtain rfl : cs = [] := List.eq_nil_of_length_eq_zero (Nat.le_zero.mp hfuel)
    cases more <;> rfl
  | succ fuel ih =>
    cases cs with
    | nil => cases more <;> rfl
    | cons c cs =>
      obtain ⟨more, rfl⟩ : ∃ n, more = n + 1 := ⟨more - 1, by simp at hmore; omega⟩
      cases hpiece : piece offset (c :: cs) with
      | error e => rw [lexemesFrom, lexemesFrom, hpiece, error_bind, error_bind]
      | ok r =>
        obtain ⟨kind?, rest⟩ := r
        obtain ⟨src, hsrc, htext⟩ := exists_taken (List.cons_ne_nil c cs) hpiece
        have hlength := List.length_pos_iff.mpr hsrc
        rw [htext] at hpiece hfuel hmore ⊢
        rw [List.length_append] at hfuel hmore
        have hlater : lexemesFrom fuel (offset + byteLength src) rest =
            lexemesFrom more (offset + byteLength src) rest := ih (by omega) (by omega) _
        rw [lexemesFrom_of_piece hsrc hpiece, lexemesFrom_of_piece hsrc hpiece, hlater]

/-- Behind a lexeme, a text is split as it is on its own, with all offsets moved. -/
theorem lexemes_of_piece {s : String} (hs : s ≠ "") (t : String)
    (h : piece 0 (s.toList ++ t.toList) = .ok (some kind, t.toList)) :
    lexemes (s ++ t) = ((lexemes t).map fun ls =>
      ⟨kind, 0, s.utf8ByteSize, s⟩ :: ls.map (·.shift s.utf8ByteSize)).mapError
        (·.shift s.utf8ByteSize) := by
  have hsrc : s.toList ≠ [] := fun hnil => hs (String.toList_eq_nil_iff.mp hnil)
  have hlength := List.length_pos_iff.mpr hsrc
  obtain ⟨fuel, hfuel⟩ : ∃ n, (s.toList ++ t.toList).length = n + 1 :=
    ⟨(s.toList ++ t.toList).length - 1, by rw [List.length_append]; omega⟩
  have hrest : t.toList.length ≤ fuel := by
    rw [List.length_append] at hfuel
    omega
  rw [lexemes, lexemes, String.toList_append, hfuel, lexemesFrom_of_piece hsrc h,
    lexemesFrom_shift, lexemesFrom_eq_of_le hrest le_rfl, String.ofList_toList,
    ← utf8ByteSize_eq, Nat.zero_add]
  cases lexemesFrom t.toList.length 0 t.toList <;> rfl

/-- **Quoting and scanning are inverse.**  From an opening quote on, a text is read, up to some
rest, exactly where its quoted form stands in front of this rest, and the rest does not go on with
another quote.  In every dialect a column is read as one name, whatever dots and quotes are in it
and however many of its parts are empty, in front of whatever goes on with neither a dot nor the
quote; and the text behind it is split as it is on its own. -/
theorem scans_quoted :
    (∀ (fault : ClauseFault) (mark : Char) (offset : Nat) (cs : List Char) (s : String)
      (rest : List Char), quoted fault mark offset cs = .ok (s.toList, rest) ↔
        mark :: cs = (quote mark s).toList ++ rest ∧ rest.head? ≠ some mark) ∧
    (∀ (d : Dialect) (name : String) (offset : Nat) (rest : List Char), rest.head? ≠ some '.' →
      rest.head? ≠ some d.nameQuote →
        piece offset ((render d (column name)).toList ++ rest) = .ok (some (.name name), rest)) ∧
    ∀ (d : Dialect) (name t : String), t.toList.head? ≠ some '.' →
      t.toList.head? ≠ some d.nameQuote →
        let s := render d (column name)
        lexemes (s ++ t) = ((lexemes t).map fun ls =>
          ⟨.name name, 0, s.utf8ByteSize, s⟩ :: ls.map (·.shift s.utf8ByteSize)).mapError
            (·.shift s.utf8ByteSize) := by
  refine ⟨fun _ _ _ _ _ _ => quoted_eq_ok_iff, fun d name offset rest hdot hquote =>
    piece_column d name hdot hquote offset, fun d name t hdot hquote => ?_⟩
  have hne : render d (column name) ≠ "" := by
    intro hnil
    obtain ⟨p, ps, -, htext⟩ := Sql.toList_column d name
    rw [hnil] at htext
    cases htext
  exact lexemes_of_piece hne t (piece_column d name hdot hquote 0)

/-- A string of quotes alone; a column with a quote in its name and an empty part at its end; and a
column with quotes at both ends of its name and an empty part, in front of a comparison. -/
theorem scans_quoted_quotes :
    quoted .unterminatedString '\'' 7 "''''' = x".toList = .ok ("''".toList, " = x".toList) ∧
    piece 4 "\x60a\x60\x60b\x60.\x60\x60)".toList = .ok (some (.name "a\x60b."), [')']) ∧
    lexemes ("\"\"\"\".\"\".\"a\"\"\"" ++ "= 1") =
      .ok [⟨.name "\"..a\"", 0, 13, "\"\"\"\".\"\".\"a\"\"\""⟩, ⟨.sign .equal, 13, 14, "="⟩,
        ⟨.number "1", 15, 16, "1"⟩] := by
  obtain ⟨hquoted, hpiece, hcolumn⟩ := scans_quoted
  have hname := hpiece .bigquery "a\x60b." 4 [')'] (by decide) (by decide)
  have htext : render .duckdb (column "\"..a\"") = "\"\"\"\".\"\".\"a\"\"\"" := by decide
  have hread := hcolumn .duckdb "\"..a\"" "= 1" (by decide) (by decide)
  rw [htext] at hread
  exact ⟨(hquoted _ _ _ _ "''" _).mpr (by decide), hname, hread⟩

end Crosstab.Clause
