import Crosstab.Expr.Eval
import Crosstab.Proofs.Clause.Layout
import Crosstab.Proofs.Clause.Uniform

/-!
# Errors point into the text

An error of a clause says how many bytes are in front of it and what was found there.  Both are
right (`Clause.parsed_error`): the text is divided at a character, and goes on with what was found;
nothing was found only at its end.  Faults in splitting the text are found where a piece is read
(`points_of_lexemesFrom`), all others at a lexeme or after the last one (`predicateOf_uniform`), and
a keyword in front moves both (`Points.shift`).
-/

namespace Crosstab

namespace Clause

variable {s : String} {cs src rest : List Char} {ls : List Lexeme} {mark : Char}
  {fault : ClauseFault} {offset fuel : Nat} {e : ClauseError}

/-! ## Offsets of lexemes -/

theorem Laid.increasing (h : Laid offset cs ls) : Increasing (offset + byteLength cs) ls := by
  induction h with
  | last => exact List.pairwise_singleton _ _
  | @next offset gap rest l ls _ _ hstart hstop hne _ hrest ih =>
    have hpos : 0 < byteLength l.source.toList :=
      byteLength_pos fun hnil => hne (String.toList_eq_nil_iff.mp hnil)
    have hend :
        offset + byteLength (gap ++ (l.source.toList ++ rest)) = l.stop + byteLength rest := by
      rw [byteLength_append, byteLength_append]
      omega
    rw [hend, Increasing, List.map_cons, List.cons_append, List.pairwise_cons]
    refine ⟨fun a ha => ?_, ih⟩
    rcases List.mem_append.mp ha with ha | ha
    · obtain ⟨m, hm, rfl⟩ := List.mem_map.mp ha
      have := hrest.offset_le m hm
      omega
    · rw [List.mem_singleton.mp ha]
      omega

theorem increasing_of_lexemes (h : lexemes s = .ok ls) : Increasing s.utf8ByteSize ls := by
  have hall := (lexemes_eq_ok_iff.mp h).laid.increasing
  rwa [Nat.zero_add, ← utf8ByteSize_eq] at hall

/-! ## Errors of pieces -/

/-- An error divides the text, which starts at an offset, at a character; what was found is what the
text goes on with, and nothing was found only at the end. -/
def Points (offset : Nat) (cs : List Char) (e : ClauseError) : Prop :=
  ∃ before after, cs = before ++ after ∧ e.offset = offset + byteLength before ∧
    (∀ f ∈ e.found, f ≠ "" ∧ f.toList <+: after) ∧ (e.found = none ↔ after = [])

theorem Points.append (h : Points (offset + byteLength src) rest e) :
    Points offset (src ++ rest) e := by
  obtain ⟨before, after, rfl, hoffset, hfound⟩ := h
  refine ⟨src ++ before, after, (List.append_assoc _ _ _).symm, ?_, hfound⟩
  rw [hoffset, byteLength_append, Nat.add_assoc]

/-- The same error in a longer text is as many bytes further on. -/
theorem Points.shift (h : Points 0 rest e) (src : List Char) :
    Points 0 (src ++ rest) (e.shift (byteLength src)) := by
  obtain ⟨before, after, rfl, hoffset, hfound⟩ := h
  refine ⟨src ++ before, after, (List.append_assoc _ _ _).symm, ?_, hfound⟩
  show e.offset + byteLength src = _
  rw [hoffset, byteLength_append, Nat.zero_add, Nat.zero_add, Nat.add_comm]

/-- A place as many bytes on as the text is long has nothing after it. -/
theorem byteLength_eq_append_iff (before after : List Char) :
    byteLength before = byteLength (before ++ after) ↔ after = [] := by
  rw [byteLength_append]
  constructor
  · intro heq
    by_contra hafter
    have := byteLength_pos hafter
    omega
  · rintro rfl
    rfl

/-- Where an error points, in strings and bytes. -/
theorem Points.exists_strings (h : Points 0 s.toList e) : ∃ before after : String,
    s = before ++ after ∧ e.offset = before.utf8ByteSize ∧
      (∀ f, e.found = some f → f ≠ "" ∧ ∃ more, after = f ++ more) ∧
      (e.found = none ↔ e.offset = s.utf8ByteSize) := by
  obtain ⟨before, after, htext, hoffset, hfound, hnone⟩ := h
  rw [Nat.zero_add] at hoffset
  refine ⟨String.ofList before, String.ofList after, ?_, ?_, fun f hf => ?_, ?_⟩
  · rw [← String.ofList_append, ← htext, String.ofList_toList]
  · rw [utf8ByteSize_ofList, hoffset]
  · obtain ⟨hne, more, hmore⟩ := hfound f hf
    refine ⟨hne, String.ofList more, ?_⟩
    rw [← hmore, String.ofList_append, String.ofList_toList]
  · rw [hoffset, utf8ByteSize_eq, htext, byteLength_eq_append_iff]
    exact hnone

theorem points_character (fault : ClauseFault) (offset : Nat) (c : Char) (cs : List Char) :
    Points offset (c :: cs) ⟨fault, offset, some (String.singleton c)⟩ := by
  refine ⟨[], c :: cs, rfl, rfl, ?_, iff_of_false nofun nofun⟩
  rintro f ⟨⟩
  refine ⟨fun hnil => ?_, ?_⟩
  · have := congrArg String.toList hnil
    simp at this
  · rw [String.toList_singleton]
    exact ⟨cs, rfl⟩

theorem quoted_eq_error (h : quoted fault mark offset cs = .error e) :
    e = ⟨fault, offset, some (String.singleton mark)⟩ := by
  unfold quoted at h
  split at h <;> cases h
  rfl

theorem utf8Size_of_quotesNames (h : quotesNames mark = true) : mark.utf8Size = 1 := by
  simp only [quotesNames, Bool.or_eq_true, decide_eq_true_eq] at h
  rcases h with rfl | rfl <;> rfl

/-- The bytes between a mark and the end of the text that it quotes. -/
theorem byteLength_quotedPart {part : List Char} (hmark : quotesNames mark = true)
    (h : mark :: cs = quotedPart mark part ++ rest) :
    byteLength (quotedPart mark part) = 1 + (byteLength cs - byteLength rest) := by
  have hlength := congrArg byteLength h
  rw [byteLength_cons, byteLength_append, utf8Size_of_quotesNames hmark] at hlength
  have hpos : 1 ≤ byteLength (quotedPart mark part) := byteLength_pos (List.cons_ne_nil _ _)
  omega

theorem points_of_nameParts (h : nameParts fuel offset cs = .error e) : Points offset cs e := by
  fun_induction nameParts fuel offset cs with
  | case1 fuel offset c more hc ih =>
    have hpoint : '.' :: c :: more = ['.'] ++ (c :: more) := rfl
    rcases bind_eq_error_iff.mp h with h | ⟨⟨part, after⟩, hpart, h⟩
    · rw [quoted_eq_error h, hpoint]
      exact .append (points_character _ _ c more)
    · rcases bind_eq_error_iff.mp h with h | ⟨_, _, h⟩
      · have htext := quoted_eq_ok hpart
        have hstop : offset + 2 + (byteLength more - byteLength after) =
            offset + byteLength ['.'] + byteLength (quotedPart c part) := by
          have hone : byteLength ['.'] = 1 := rfl
          rw [byteLength_quotedPart hc htext, hone]
          omega
        have hrest := ih after h
        rw [hstop] at hrest
        rw [hpoint, htext]
        exact hrest.append.append
      · cases h
  | case2 =>
    rename_i fuel offset c more hquote hname isPart part ih
    rcases bind_eq_error_iff.mp h with h | ⟨_, _, h⟩
    · have htext : '.' :: c :: more = ['.'] ++ (part ++ (c :: more).dropWhile isPart) :=
        congrArg ('.' :: ·) List.takeWhile_append_dropWhile.symm
      rw [htext]
      exact (ih h).append.append
    · cases h
  | case3 => cases h
  | case4 => cases h

theorem points_of_piece (h : piece offset cs = .error e) : Points offset cs e := by
  unfold piece at h
  split at h
  · cases h
  · cases h
  · cases h
  · cases h
  · cases h
  · cases h
  · next c more _ _ _ _ _ =>
    split at h
    · cases h
    · split at h
      · rcases bind_eq_error_iff.mp h with h | ⟨_, _, h⟩
        · rw [quoted_eq_error h]
          exact points_character _ _ c more
        · cases h
      · split at h
        · next hquote =>
          rcases bind_eq_error_iff.mp h with h | ⟨⟨part, after⟩, hpart, h⟩
          · rw [quoted_eq_error h]
            exact points_character _ _ c more
          · rcases bind_eq_error_iff.mp h with h | ⟨_, _, h⟩
            · have htext := quoted_eq_ok hpart
              have hrest := points_of_nameParts h
              rw [Nat.add_assoc, ← byteLength_quotedPart hquote htext] at hrest
              rw [htext]
              exact hrest.append
            · cases h
        · split at h
          · cases h
          · split at h
            · cases h
            · split at h
              · cases h
              · cases h
                exact points_character _ _ c more

/-- A text that cannot be split has an error where no piece can be read. -/
theorem points_of_lexemesFrom (h : lexemesFrom fuel offset cs = .error e) : Points offset cs e := by
  induction fuel generalizing offset cs with
  | zero => cases h
  | succ fuel ih =>
    cases cs with
    | nil => cases h
    | cons c cs =>
      cases hpiece : piece offset (c :: cs) with
      | error d =>
        rw [lexemesFrom, hpiece] at h
        cases h
        exact points_of_piece hpiece
      | ok r =>
        obtain ⟨kind?, rest⟩ := r
        obtain ⟨src, hsrc, htext⟩ := exists_taken (List.cons_ne_nil _ _) hpiece
        rw [htext] at hpiece h ⊢
        rw [lexemesFrom_of_piece hsrc hpiece] at h
        cases hlater : lexemesFrom fuel (offset + byteLength src) rest with
        | error d =>
          rw [hlater] at h
          cases h
          exact (ih hlater).append
        | ok later =>
          rw [hlater] at h
          cases h

/-! ## Errors of clauses -/

/-- A fault at a lexeme, or after the last one. -/
theorem Laid.points (h : Laid offset cs ls) (fault : ClauseFault) (n : Nat) :
    Points offset cs (faultHere (offset + byteLength cs) fault (ls.drop n)) := by
  cases hrest : ls.drop n with
  | nil =>
    exact ⟨cs, [], (List.append_nil _).symm, rfl, fun f hf => absurd hf (Option.not_mem_none f),
      iff_of_true rfl rfl⟩
  | cons l rest =>
    have hl : l ∈ ls := List.mem_of_mem_drop (hrest ▸ List.mem_cons_self)
    obtain ⟨before, after, htext, hstart, -, hne⟩ := h.exists_text hl
    refine ⟨before, l.source.toList ++ after, htext, hstart, ?_,
      iff_of_false (Option.some_ne_none _) ?_⟩
    · rintro f ⟨⟩
      exact ⟨hne, List.prefix_append _ _⟩
    · exact fun hnil => hne (String.toList_eq_nil_iff.mp (List.append_eq_nil_iff.mp hnil).1)

theorem points_of_predicateOf (h : predicateOf s = .error e) : Points 0 s.toList e := by
  cases hls : lexemes s with
  | error d =>
    rw [predicateOf, hls] at h
    cases h
    exact points_of_lexemesFrom hls
  | ok ls =>
    have hlaid := (lexemes_eq_ok_iff.mp hls).laid
    have hincreasing := increasing_of_lexemes hls
    rcases predicateOf_uniform hls hls ⟨rfl, hincreasing, hincreasing⟩ with
      ⟨p, hp, -⟩ | ⟨f, n, he, -⟩
    · rw [hp] at h
      cases h
    · have hpoints := hlaid.points f n
      rw [Nat.zero_add, ← utf8ByteSize_eq] at hpoints
      rw [he] at h
      cases h
      exact hpoints

/-- The body of a clause is the end of its text. -/
theorem body_suffix (s : String) : body s <:+ s.toList := by
  have hblanks : Text.dropBlanks s.toList <:+ s.toList := List.dropWhile_suffix _
  have hkeyword : ∀ {word : String} {cs rest : List Char},
      afterKeyword word cs = some rest → rest <:+ cs := by
    intro word cs rest h
    unfold afterKeyword at h
    dsimp only at h
    split at h
    · cases h
      exact List.drop_suffix _ _
    · cases h
  unfold body
  dsimp only
  cases hwhere : afterKeyword "WHERE" (Text.dropBlanks s.toList) with
  | some rest => exact (hkeyword hwhere).trans hblanks
  | none =>
    cases hhaving : afterKeyword "HAVING" (Text.dropBlanks s.toList) with
    | some rest => exact (hkeyword hhaving).trans hblanks
    | none => exact hblanks

end Clause

open Clause

/-- **Errors point into the text.**  A clause that does not read has a syntax error, whose offset
divides the text at a character.  What was found there is what the text goes on with, and nothing
was found only at the end of the text. -/
theorem Clause.parsed_error {c : Clause} {err : ReportError} (h : c.parsed = .error err) :
    ∃ (e : ClauseError) (before after : String), err = .clause e ∧ c.text = before ++ after ∧
      e.offset = before.utf8ByteSize ∧
      (∀ f, e.found = some f → f ≠ "" ∧ ∃ more, after = f ++ more) ∧
      (e.found = none ↔ e.offset = c.text.utf8ByteSize) := by
  obtain ⟨skipped, htext⟩ := body_suffix c.text
  cases hbody : predicateOf (String.ofList (body c.text)) with
  | ok p =>
    rw [parsed, predicate, hbody] at h
    cases h
  | error d =>
    rw [parsed, predicate, hbody] at h
    cases h
    have hskipped : c.text.utf8ByteSize - byteLength (body c.text) = byteLength skipped := by
      rw [utf8ByteSize_eq, ← htext, byteLength_append, Nat.add_sub_cancel]
    have hpoints := (points_of_predicateOf hbody).shift skipped
    rw [String.toList_ofList, htext, ← hskipped] at hpoints
    obtain ⟨before, after, hsplit, hplace⟩ := hpoints.exists_strings
    exact ⟨_, before, after, rfl, hsplit, hplace⟩

/-- A list with something in place of a comma, after a keyword and a character of two bytes. -/
def Clause.joinedList : Clause := ⟨"Having 'é' IN (1 OR 2)", .ansi⟩

theorem Clause.parsed_joinedList :
    joinedList.parsed = .error (.clause ⟨.listDelimiterExpected, 18, some "OR"⟩) := by
  have hbody : String.ofList (body "Having 'é' IN (1 OR 2)") = " 'é' IN (1 OR 2)" := by
    decide +kernel
  have hsize : "Having 'é' IN (1 OR 2)".utf8ByteSize -
      byteLength (body "Having 'é' IN (1 OR 2)") = 6 := by
    decide +kernel
  have hlexemes : lexemes " 'é' IN (1 OR 2)" =
      .ok [⟨.string "é", 1, 5, "'é'"⟩, ⟨.keyword .in, 6, 8, "IN"⟩, ⟨.leftParen, 9, 10, "("⟩,
        ⟨.number "1", 10, 11, "1"⟩, ⟨.keyword .or, 12, 14, "OR"⟩, ⟨.number "2", 15, 16, "2"⟩,
        ⟨.rightParen, 16, 17, ")"⟩] := rfl
  have hread : predicateOf " 'é' IN (1 OR 2)" =
      .error ⟨.listDelimiterExpected, 12, some "OR"⟩ := by
    rw [predicateOf, hlexemes]
    rfl
  rw [joinedList, parsed, predicate, hbody, hread, hsize]
  rfl

/-- The text goes on with what was found, as many bytes on as the error says. -/
theorem Clause.parsed_error_joinedList : ∃ before after : String,
    joinedList.text = before ++ after ∧ before.utf8ByteSize = 18 ∧
      ∃ more, after = "OR" ++ more := by
  obtain ⟨e, before, after, herr, htext, hoffset, hfound, -⟩ := parsed_error parsed_joinedList
  cases herr
  exact ⟨before, after, htext, hoffset.symm, (hfound "OR" rfl).2⟩

end Crosstab
