import Crosstab.Proofs.Clause.Located

/-!
# Leading keywords

A clause may open with `WHERE` or `HAVING`, in any mixture of case and behind any white space, and
reads as if they were not there: as the same predicate, or with the same fault, as many bytes
further on as stand in front (`Clause.parsed_prefixed`).

White space is skipped piece by piece, and the rest of the text is split as it is on its own, with
all offsets moved (`lexemesFrom_shift`).  Readers see kinds only (`predicateOf_uniform`), so moved
lexemes read as they do in place (`predicateOf_blanks`).
-/

namespace Crosstab

theorem ClauseError.shift_shift (e : ClauseError) (m n : Nat) :
    (e.shift m).shift n = e.shift (m + n) := by
  rw [shift, shift, shift, Nat.add_assoc]

namespace Clause

variable {fuel offset bytes : Nat} {cs blanks word rest : List Char} {s t : String}

/-! ## Texts that start further on -/

/-- The lexeme with its place counted from some bytes earlier. -/
def Lexeme.shift (l : Lexeme) (bytes : Nat) : Lexeme :=
  { l with start := l.start + bytes, stop := l.stop + bytes }

theorem quoted_shift (fault : ClauseFault) (mark : Char) (offset bytes : Nat) (cs : List Char) :
    quoted fault mark (offset + bytes) cs =
      (quoted fault mark offset cs).mapError (·.shift bytes) := by
  unfold quoted
  cases untilQuote mark cs <;> rfl

theorem nameParts_shift (fuel offset bytes : Nat) (cs : List Char) :
    nameParts fuel (offset + bytes) cs =
      (nameParts fuel offset cs).mapError (·.shift bytes) := by
  fun_induction nameParts fuel offset cs with
  | case1 fuel offset c rest hc ih =>
    rw [nameParts, if_pos hc, Nat.add_right_comm offset bytes]
    refine bind_eq_mapError (quoted_shift ..) ?_
    rintro ⟨part, after⟩
    dsimp only
    rw [Nat.add_right_comm offset bytes, Nat.add_right_comm _ bytes]
    exact bind_eq_mapError (ih after) fun _ => rfl
  | case2 fuel offset c rest hquote hname isPart part ih =>
    rw [nameParts, if_neg hquote, if_pos hname, Nat.add_right_comm offset bytes]
    rw [Nat.add_right_comm (offset + 1)] at ih
    exact bind_eq_mapError ih fun _ => rfl
  | case3 fuel offset c rest hquote hname =>
    rw [nameParts, if_neg hquote, if_neg hname]
    rfl
  | case4 fuel offset cs hnone =>
    rw [nameParts]
    · rfl
    · exact hnone

/-- What stands at the head of a text does not depend on where the text starts. -/
theorem piece_shift (offset bytes : Nat) (cs : List Char) :
    piece (offset + bytes) cs = (piece offset cs).mapError (·.shift bytes) := by
  unfold piece
  split
  · rfl
  · rfl
  · rfl
  · rfl
  · rfl
  · rfl
  · next c rest _ _ _ _ _ =>
    split
    · rfl
    · split
      · exact bind_eq_mapError (quoted_shift ..) fun _ => rfl
      · split
        · refine bind_eq_mapError (quoted_shift ..) ?_
          rintro ⟨first, after⟩
          dsimp only
          rw [Nat.add_right_comm offset bytes, Nat.add_right_comm _ bytes]
          exact bind_eq_mapError (nameParts_shift ..) fun _ => rfl
        · split
          · rfl
          · split
            · rfl
            · cases sign? (c :: rest) <;> rfl

/-- A text is split alike wherever it starts. -/
theorem lexemesFrom_shift (fuel offset bytes : Nat) (cs : List Char) :
    lexemesFrom fuel (offset + bytes) cs =
      ((lexemesFrom fuel offset cs).map (List.map (·.shift bytes))).mapError (·.shift bytes) := by
  induction fuel generalizing offset cs with
  | zero => rfl
  | succ fuel ih =>
    cases cs with
    | nil => rfl
    | cons c cs =>
      have hmoved := piece_shift offset bytes (c :: cs)
      cases hpiece : piece offset (c :: cs) with
      | error e =>
        rw [hpiece] at hmoved
        rw [lexemesFrom, lexemesFrom, hmoved, hpiece]
        rfl
      | ok r =>
        obtain ⟨kind?, rest⟩ := r
        obtain ⟨src, hsrc, htext⟩ := exists_taken (List.cons_ne_nil c cs) hpiece
        rw [hpiece] at hmoved
        rw [htext] at hmoved hpiece ⊢
        rw [lexemesFrom_of_piece hsrc hmoved, lexemesFrom_of_piece hsrc hpiece,
          Nat.add_right_comm offset bytes, ih]
        cases lexemesFrom fuel (offset + byteLength src) rest with
        | error e => rfl
        | ok later => cases kind? <;> rfl

/-! ## White space in front -/

/-- White space is skipped. -/
theorem lexemesFrom_blanks (h : ∀ c ∈ blanks, Text.isBlank c = true) (fuel offset : Nat)
    (cs : List Char) : lexemesFrom (blanks.length + fuel) offset (blanks ++ cs) =
      lexemesFrom fuel (offset + byteLength blanks) cs := by
  induction blanks generalizing offset with
  | nil => simp
  | cons c blanks ih =>
    obtain ⟨hc, hblanks⟩ := List.forall_mem_cons.mp h
    have hpiece : piece offset ([c] ++ (blanks ++ cs)) = .ok (none, blanks ++ cs) :=
      piece_of_blank hc offset _
    have hlength : (c :: blanks).length + fuel = blanks.length + fuel + 1 := by
      rw [List.length_cons, Nat.add_right_comm]
    rw [hlength, List.cons_append]
    refine (lexemesFrom_of_piece (List.cons_ne_nil c []) hpiece).trans ?_
    rw [ih hblanks, byteLength_cons, byteLength_cons, byteLength_nil, Nat.add_zero,
      ← Nat.add_assoc]
    cases lexemesFrom fuel (offset + c.utf8Size + byteLength blanks) cs <;> rfl

/-- A text that is nothing but white space. -/
def Blank (s : String) : Prop := ∀ c ∈ s.toList, Text.isBlank c = true

-- characters are finitely many, but only those of the text are to be tested
instance (s : String) : Decidable (Blank s) :=
  decidable_of_iff (s.toList.all Text.isBlank = true) List.all_eq_true

theorem lexemes_blanks (hs : Blank s) (t : String) : lexemes (s ++ t) =
    ((lexemes t).map (List.map (·.shift s.utf8ByteSize))).mapError (·.shift s.utf8ByteSize) := by
  rw [lexemes, lexemes, String.toList_append, List.length_append, lexemesFrom_blanks hs,
    lexemesFrom_shift, utf8ByteSize_eq]

theorem faultHere_shift (stop bytes : Nat) (fault : ClauseFault) (ls : List Lexeme) :
    faultHere (stop + bytes) fault (ls.map (·.shift bytes)) =
      (faultHere stop fault ls).shift bytes := by
  cases ls <;> rfl

/-- White space in front of a clause moves its errors. -/
theorem predicateOf_blanks (hs : Blank s) (t : String) :
    predicateOf (s ++ t) = (predicateOf t).mapError (·.shift s.utf8ByteSize) := by
  have hsplit := lexemes_blanks hs t
  cases hls : lexemes t with
  | error e =>
    rw [hls] at hsplit
    rw [predicateOf, predicateOf, hsplit, hls]
    rfl
  | ok ls =>
    rw [hls] at hsplit
    have hmoved : lexemes (s ++ t) = .ok (ls.map (·.shift s.utf8ByteSize)) := hsplit
    have hkinds : kinds ls = kinds (ls.map (·.shift s.utf8ByteSize)) := by
      rw [kinds, kinds, List.map_map]
      rfl
    rcases predicateOf_uniform hls hmoved
      ⟨hkinds, increasing_of_lexemes hls, increasing_of_lexemes hmoved⟩ with
      ⟨p, hp, hp'⟩ | ⟨f, n, he, he'⟩
    · rw [hp, hp']
      rfl
    · rw [he, he', ← List.map_drop, String.utf8ByteSize_append, Nat.add_comm, faultHere_shift]
      rfl

/-! ## Keywords -/

/-- The word is `WHERE` or `HAVING`, in any mixture of upper and lower case. -/
def IsLeadingKeyword (word : List Char) : Prop :=
  word.map Char.toUpper = "WHERE".toList ∨ word.map Char.toUpper = "HAVING".toList

instance (word : List Char) : Decidable (IsLeadingKeyword word) :=
  inferInstanceAs (Decidable (_ ∨ _))

/-- Behind its leading white space the text goes on with a keyword and more white space. -/
def StartsWithKeyword (s : String) : Prop :=
  ∃ word c rest, Text.dropBlanks s.toList = word ++ c :: rest ∧ IsLeadingKeyword word ∧
    Text.isBlank c = true

theorem afterKeyword_eq_some_iff {keyword : String} : afterKeyword keyword cs = some rest ↔
    ∃ word, cs = word ++ rest ∧ word.map Char.toUpper = keyword.toList ∧
      rest.head?.any Text.isBlank = true := by
  have hlength : keyword.length = keyword.toList.length := rfl
  unfold afterKeyword
  dsimp only
  constructor
  · intro h
    split at h
    · next hkeyword =>
      cases h
      rw [Bool.and_eq_true, beq_iff_eq] at hkeyword
      exact ⟨_, (List.take_append_drop _ _).symm, hkeyword⟩
    · cases h
  · rintro ⟨word, rfl, hword, hblank⟩
    have hwordLength : word.length = keyword.length := by
      rw [hlength, ← hword, List.length_map]
    rw [List.take_left' hwordLength, List.drop_left' hwordLength, if_pos]
    rw [hword, hblank]
    simp

/-- The keywords differ in their first letters. -/
theorem afterKeyword_where_of_having (h : word.map Char.toUpper = "HAVING".toList) :
    afterKeyword "WHERE" (word ++ rest) = none := by
  by_contra hsome
  obtain ⟨rest', hrest⟩ := Option.ne_none_iff_exists'.mp hsome
  obtain ⟨other, htext, hother, -⟩ := afterKeyword_eq_some_iff.mp hrest
  cases word with
  | nil => cases h
  | cons c word =>
    cases other with
    | nil => cases hother
    | cons d other =>
      obtain ⟨rfl, -⟩ := List.cons.inj htext
      have hfirst : c.toUpper = 'H' := (List.cons.inj h).1
      have hfirst' : c.toUpper = 'W' := (List.cons.inj hother).1
      rw [hfirst] at hfirst'
      exact absurd hfirst' (by decide)

theorem body_of_keyword {c : Char} (h : Text.dropBlanks s.toList = word ++ c :: rest)
    (hword : IsLeadingKeyword word) (hc : Text.isBlank c = true) : body s = c :: rest := by
  unfold body
  dsimp only
  rw [h]
  rcases hword with hword | hword
  · have hwhere : afterKeyword "WHERE" (word ++ c :: rest) = some (c :: rest) :=
      afterKeyword_eq_some_iff.mpr ⟨word, rfl, hword, hc⟩
    rw [hwhere]
    rfl
  · have hhaving : afterKeyword "HAVING" (word ++ c :: rest) = some (c :: rest) :=
      afterKeyword_eq_some_iff.mpr ⟨word, rfl, hword, hc⟩
    rw [afterKeyword_where_of_having hword, hhaving]
    rfl

theorem body_of_not_startsWithKeyword (h : ¬StartsWithKeyword s) :
    body s = Text.dropBlanks s.toList := by
  have hnone : ∀ {keyword : String}, keyword = "WHERE" ∨ keyword = "HAVING" →
      afterKeyword keyword (Text.dropBlanks s.toList) = none := by
    intro keyword hkeyword
    by_contra hsome
    obtain ⟨rest, hrest⟩ := Option.ne_none_iff_exists'.mp hsome
    obtain ⟨word, htext, hword, hblank⟩ := afterKeyword_eq_some_iff.mp hrest
    cases rest with
    | nil => cases hblank
    | cons c rest =>
      refine h ⟨word, c, rest, htext, ?_, hblank⟩
      rcases hkeyword with rfl | rfl
      · exact .inl hword
      · exact .inr hword
  unfold body
  dsimp only
  rw [hnone (.inl rfl), hnone (.inr rfl)]
  rfl

/-- A letter in either case is no white space. -/
theorem isBlank_of_toUpper {c : Char} (h : Text.isBlank c.toUpper = false) :
    Text.isBlank c = false := by
  unfold Char.toUpper at h
  split at h
  · next hlower =>
    obtain ⟨hlow, hhigh⟩ : 97 ≤ c.toNat ∧ c.toNat ≤ 122 := hlower
    simp only [Text.isBlank, Text.blankRuns, List.any_cons, List.any_nil, Text.Run.has,
      Bool.or_false, Bool.or_eq_false_iff, Bool.and_eq_false_iff, decide_eq_false_iff_not]
    omega
  · exact h

theorem IsLeadingKeyword.dropBlanks_append (h : IsLeadingKeyword word) (rest : List Char) :
    Text.dropBlanks (word ++ rest) = word ++ rest := by
  cases word with
  | nil => rcases h with h | h <;> cases h
  | cons c word =>
    have hfirst : c.toUpper = 'W' ∨ c.toUpper = 'H' :=
      h.imp (fun h => (List.cons.inj h).1) fun h => (List.cons.inj h).1
    have hc : Text.isBlank c = false := by
      refine isBlank_of_toUpper ?_
      rcases hfirst with hc | hc <;> rw [hc] <;> decide
    rw [List.cons_append, Text.dropBlanks, List.dropWhile_cons, hc]
    rfl

/-- A clause reads as its body does, with errors moved by what is in front of the body. -/
theorem parsed_of_body {skipped rest : String} (d : Dialect)
    (h : body (skipped ++ rest) = rest.toList) : Clause.parsed ⟨skipped ++ rest, d⟩ =
      (predicateOf rest).mapError fun e => .clause (e.shift skipped.utf8ByteSize) := by
  have hsize : (skipped ++ rest).utf8ByteSize - byteLength rest.toList = skipped.utf8ByteSize := by
    rw [String.utf8ByteSize_append, utf8ByteSize_eq rest, Nat.add_sub_cancel]
  rw [parsed, predicate]
  dsimp only
  rw [h, String.ofList_toList, hsize]
  cases predicateOf rest <;> rfl

/-- A text behind a keyword, with white space before and after it, is read on its own. -/
theorem parsed_of_keyword {before word between : String} (d : Dialect) (t : String)
    (hbefore : Blank before) (hword : IsLeadingKeyword word.toList) (hbetween : Blank between)
    (hne : between ≠ "") :
    Clause.parsed ⟨before ++ word ++ between ++ t, d⟩ = (predicateOf t).mapError fun e =>
      .clause (e.shift (before ++ word ++ between).utf8ByteSize) := by
  obtain ⟨c, cs, hcs⟩ : ∃ c cs, between.toList = c :: cs := by
    refine List.exists_cons_of_ne_nil fun hnil => hne ?_
    exact String.toList_eq_nil_iff.mp hnil
  have hc : Text.isBlank c = true := hbetween c (by rw [hcs]; exact List.mem_cons_self)
  have htext : (before ++ word ++ (between ++ t)).toList =
      before.toList ++ (word.toList ++ c :: (cs ++ t.toList)) := by
    simp [hcs]
  have hdrop : Text.dropBlanks (before ++ word ++ (between ++ t)).toList =
      word.toList ++ c :: (cs ++ t.toList) := by
    rw [htext, Text.dropBlanks, List.dropWhile_append_of_pos hbefore]
    exact hword.dropBlanks_append _
  -- the body starts with the white space behind the keyword, which is skipped in its turn
  have hbody : body (before ++ word ++ (between ++ t)) = (between ++ t).toList := by
    rw [body_of_keyword hdrop hword hc, String.toList_append, hcs, List.cons_append]
  have hassoc : before ++ word ++ between ++ t = before ++ word ++ (between ++ t) :=
    String.append_assoc
  have hsize : (before ++ word ++ between).utf8ByteSize =
      between.utf8ByteSize + (before ++ word).utf8ByteSize := by
    rw [String.utf8ByteSize_append, Nat.add_comm]
  rw [hassoc, parsed_of_body d hbody, predicateOf_blanks hbetween, hsize]
  cases predicateOf t with
  | ok p => rfl
  | error e =>
    show Except.error (ReportError.clause ((e.shift _).shift _)) = _
    rw [ClauseError.shift_shift]
    rfl

/-- A text that opens with no keyword is read as a whole. -/
theorem parsed_of_not_startsWithKeyword (d : Dialect) (h : ¬StartsWithKeyword s) :
    Clause.parsed ⟨s, d⟩ = (predicateOf s).mapError .clause := by
  have hsplit : String.ofList (s.toList.takeWhile Text.isBlank) ++
      String.ofList (Text.dropBlanks s.toList) = s := by
    rw [← String.ofList_append, Text.dropBlanks, List.takeWhile_append_dropWhile,
      String.ofList_toList]
  have hblank : Blank (String.ofList (s.toList.takeWhile Text.isBlank)) := by
    intro c hc
    rw [String.toList_ofList] at hc
    exact List.mem_takeWhile_imp hc
  have hbody := body_of_not_startsWithKeyword h
  generalize String.ofList (s.toList.takeWhile Text.isBlank) = skipped at hsplit hblank
  rw [← String.toList_ofList (l := Text.dropBlanks s.toList)] at hbody
  generalize String.ofList (Text.dropBlanks s.toList) = rest at hsplit hbody
  rw [← hsplit] at hbody ⊢
  rw [parsed_of_body d hbody, predicateOf_blanks hblank]
  cases predicateOf rest <;> rfl

end Clause

open Clause

/-- **A leading keyword is transparent.**  Behind any white space and `WHERE` or `HAVING`, in any
mixture of case and with more white space after it, a text reads as it does on its own: as the same
predicate, or with the same fault and the same text found, as many bytes further on as stand in
front.  A text that does not open with such a keyword reads as a whole. -/
theorem Clause.parsed_prefixed (d : Dialect) :
    (∀ before word between t : String, Blank before → IsLeadingKeyword word.toList →
      Blank between → between ≠ "" →
      Clause.parsed ⟨before ++ word ++ between ++ t, d⟩ = (predicateOf t).mapError fun e =>
        .clause (e.shift (before ++ word ++ between).utf8ByteSize)) ∧
    ∀ s : String, ¬StartsWithKeyword s →
      Clause.parsed ⟨s, d⟩ = (predicateOf s).mapError .clause := by
  constructor
  · intro before word between t hbefore hword hbetween hne
    exact parsed_of_keyword d t hbefore hword hbetween hne
  · intro s hs
    exact parsed_of_not_startsWithKeyword d hs

/-- A list with something in place of a comma, behind a keyword in mixed case and a blank of three
bytes, has its fault as far behind the keyword as it has without it. -/
theorem Clause.parsed_prefixed_joinedList :
    predicateOf "a IN (1 OR 2)" = .error ⟨.listDelimiterExpected, 8, some "OR"⟩ ∧
    Clause.parsed ⟨"\u2003hAvinG\n a IN (1 OR 2)", .ansi⟩ =
      .error (.clause ⟨.listDelimiterExpected, 19, some "OR"⟩) ∧
    ¬StartsWithKeyword "\u2003havings = 2" ∧
    Clause.parsed ⟨"\u2003havings = 2", .ansi⟩ =
      (predicateOf "\u2003havings = 2").mapError .clause := by
  obtain ⟨hprefixed, hwhole⟩ := parsed_prefixed .ansi
  have hlexemes : lexemes "a IN (1 OR 2)" =
      .ok [⟨.name "a", 0, 1, "a"⟩, ⟨.keyword .in, 2, 4, "IN"⟩, ⟨.leftParen, 5, 6, "("⟩,
        ⟨.number "1", 6, 7, "1"⟩, ⟨.keyword .or, 8, 10, "OR"⟩, ⟨.number "2", 11, 12, "2"⟩,
        ⟨.rightParen, 12, 13, ")"⟩] := rfl
  have hread : predicateOf "a IN (1 OR 2)" = .error ⟨.listDelimiterExpected, 8, some "OR"⟩ := by
    rw [predicateOf, hlexemes]
    rfl
  have hclause := hprefixed "\u2003" "hAvinG" "\n " "a IN (1 OR 2)" (by decide) (by decide)
    (by decide) (by decide)
  rw [hread] at hclause
  have hname : ¬StartsWithKeyword "\u2003havings = 2" := by
    rintro ⟨word, c, rest, htext, hword, hc⟩
    have hbody := body_of_keyword htext hword hc
    have hplain : body "\u2003havings = 2" = "havings = 2".toList := by decide +kernel
    rw [hplain] at hbody
    obtain ⟨rfl, -⟩ := List.cons.inj hbody
    exact absurd hc (by decide)
  exact ⟨hread, hclause, hname, hwhole _ hname⟩

end Crosstab
