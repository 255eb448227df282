import Crosstab.Clause.Lexer
import Crosstab.Proofs.Outcome
import Crosstab.Proofs.Text.Digits
import Mathlib.Data.List.TakeWhile

/-!
# The text of a lexeme

`Source` is the lexical grammar: which texts stand for a lexeme.  Its rules speak of the text alone,
not of what stands before or after it.  Reading takes such a text from the head of another one
(`exists_source`), and takes it whole before whatever ends a word (`Source.piece_eq`).

There is one exception.  A quoted name whose last part is empty, as `"a".`, is only read in front of
a second point, where nothing else can be read (`Stuck`).  So it is no lexeme of a text that is
split to its end.
-/

namespace Crosstab.Clause

open Text (AllDigits NoDigitAhead)

variable {cs rest : List Char} {c mark : Char}

/-! ## What ends a word -/

/-- The text ends a word, a number or a quoted text in front of it. -/
def Ends (cs : List Char) : Prop := ∀ c ∈ cs.head?, c = ' ' ∨ c = ')' ∨ c = ','

theorem ends_nil : Ends [] := fun _ h => nomatch h

theorem ends_space : Ends (' ' :: cs) := by
  rintro c ⟨⟩
  exact .inl rfl

theorem ends_rightParen : Ends (')' :: cs) := by
  rintro c ⟨⟩
  exact .inr (.inl rfl)

theorem ends_comma : Ends (',' :: cs) := by
  rintro c ⟨⟩
  exact .inr (.inr rfl)

theorem Ends.head_ne {mark : Char} (h : Ends rest) (hmark : mark ≠ ' ' ∧ mark ≠ ')' ∧ mark ≠ ',') :
    ∀ c ∈ rest.head?, c ≠ mark := by
  rintro c hc rfl
  rcases h c hc with rfl | rfl | rfl
  · exact hmark.1 rfl
  · exact hmark.2.1 rfl
  · exact hmark.2.2 rfl

theorem takeWhile_of_head {p : Char → Bool} (hcs : ∀ c ∈ cs, p c = true)
    (hrest : ∀ c ∈ rest.head?, p c = false) :
    (cs ++ rest).takeWhile p = cs ∧ (cs ++ rest).dropWhile p = rest := by
  rw [List.takeWhile_append_of_pos hcs, List.dropWhile_append_of_pos hcs]
  cases rest with
  | nil => exact ⟨List.append_nil cs, rfl⟩
  | cons c rest =>
    rw [List.takeWhile_cons, List.dropWhile_cons, hrest c rfl]
    exact ⟨List.append_nil cs, rfl⟩

theorem Ends.takeWhile_eq {f : Char → Bool} (h : Ends rest)
    (hf : f ' ' = false ∧ f ')' = false ∧ f ',' = false) (hcs : ∀ c ∈ cs, f c = true) :
    (cs ++ rest).takeWhile f = cs ∧ (cs ++ rest).dropWhile f = rest := by
  refine takeWhile_of_head hcs fun c hc => ?_
  rcases h c hc with rfl | rfl | rfl
  · exact hf.1
  · exact hf.2.1
  · exact hf.2.2

theorem Ends.noDigitAhead (h : Ends rest) : NoDigitAhead rest := by
  intro c hc
  rcases h c hc with rfl | rfl | rfl <;> rfl

/-! ## What stands at the head -/

/-- The character neither blanks nor opens a comment nor is a lexeme of its own. -/
def Opens (c : Char) : Prop :=
  c ≠ '-' ∧ c ≠ '/' ∧ c ≠ '(' ∧ c ≠ ')' ∧ c ≠ ',' ∧ Text.isBlank c = false

instance (c : Char) : Decidable (Opens c) := inferInstanceAs (Decidable (_ ∧ _ ∧ _))

theorem piece_of_opens {c : Char} (hc : Opens c) (offset : Nat) (cs : List Char) :
    piece offset (c :: cs) =
      if c = '\'' then (do
        let (s, rest) ← quoted .unterminatedString c offset cs
        return (some (.string (String.ofList s)), rest))
      else if quotesNames c then (do
        let (first, after) ← quoted .unterminatedName c offset cs
        let stop := offset + 1 + (byteLength cs - byteLength after)
        let (parts, after) ← nameParts cs.length stop after
        return (some (.name (String.ofList (first ++ parts))), after))
      else if c.isDigit || (c = '.' && (cs.headD ' ').isDigit) then
        .ok (some (.number (String.ofList (numeral (c :: cs)).1)), (numeral (c :: cs)).2)
      else if startsName c then
        .ok (some (wordKind ((c :: cs).takeWhile isNameChar)), (c :: cs).dropWhile isNameChar)
      else match sign? (c :: cs) with
        | some (s, rest) => .ok (some (.sign s), rest)
        | none => .error ⟨.strayCharacter c, offset, some (String.singleton c)⟩ := by
  obtain ⟨hminus, hslash, hleft, hright, hcomma, hblank⟩ := hc
  unfold piece
  split
  · next heq => cases heq
  · next heq => exact absurd (List.cons.inj heq).1 hminus
  · next heq => exact absurd (List.cons.inj heq).1 hslash
  · next heq => exact absurd (List.cons.inj heq).1 hleft
  · next heq => exact absurd (List.cons.inj heq).1 hright
  · next heq => exact absurd (List.cons.inj heq).1 hcomma
  · next heq =>
    cases heq
    rw [hblank]
    rfl

/-- The character opens a word or an operator. -/
def OpensBare (c : Char) : Prop :=
  Opens c ∧ c ≠ '\'' ∧ quotesNames c = false ∧ c.isDigit = false ∧ c ≠ '.'

instance (c : Char) : Decidable (OpensBare c) := inferInstanceAs (Decidable (_ ∧ _ ∧ _))

theorem piece_of_opensBare {c : Char} (hc : OpensBare c) (offset : Nat) (cs : List Char) :
    piece offset (c :: cs) =
      if startsName c then
        .ok (some (wordKind ((c :: cs).takeWhile isNameChar)), (c :: cs).dropWhile isNameChar)
      else match sign? (c :: cs) with
        | some (s, rest) => .ok (some (.sign s), rest)
        | none => .error ⟨.strayCharacter c, offset, some (String.singleton c)⟩ := by
  obtain ⟨hopens, hstring, hname, hdigit, hpoint⟩ := hc
  rw [piece_of_opens hopens, if_neg hstring, hname, hdigit, decide_eq_false hpoint]
  rfl

theorem ne_of_isDigit {c d : Char} (hc : c.isDigit = true) (hd : d.isDigit = false) : c ≠ d := by
  rintro rfl
  rw [hc] at hd
  cases hd

theorem Opens.of_isDigit {c : Char} (h : c.isDigit = true) : Opens c :=
  ⟨ne_of_isDigit h rfl, ne_of_isDigit h rfl, ne_of_isDigit h rfl, ne_of_isDigit h rfl,
    ne_of_isDigit h rfl, Text.isBlank_of_isDigit h⟩

theorem piece_of_isDigit {c : Char} (h : c.isDigit = true) (offset : Nat) (cs : List Char) :
    piece offset (c :: cs) =
      .ok (some (.number (String.ofList (numeral (c :: cs)).1)), (numeral (c :: cs)).2) := by
  have hname : quotesNames c = false := by
    rw [quotesNames, Bool.or_eq_false_iff, decide_eq_false_iff_not, decide_eq_false_iff_not]
    exact ⟨ne_of_isDigit h rfl, ne_of_isDigit h rfl⟩
  rw [piece_of_opens (.of_isDigit h), if_neg (ne_of_isDigit h rfl), hname, h]
  rfl

/-! ## Quoted texts -/

/-- The characters of a text with every quote doubled. -/
def doubled (mark : Char) (cs : List Char) : List Char :=
  cs.flatMap fun c => if c = mark then [c, c] else [c]

theorem untilQuote_end {mark : Char} (h : ∀ c ∈ rest.head?, c ≠ mark) :
    untilQuote mark (mark :: rest) = some ([], rest) := by
  cases rest with
  | nil => rw [untilQuote, if_pos rfl]
  | cons d rest => rw [untilQuote, if_pos rfl, if_neg (h d rfl)]

theorem untilQuote_cons {mark c : Char} (hc : c ≠ mark) (hcs : cs ≠ []) :
    untilQuote mark (c :: cs) =
      (untilQuote mark cs).map fun (body, rest) => (c :: body, rest) := by
  cases cs with
  | nil => exact absurd rfl hcs
  | cons d cs => rw [untilQuote, if_neg hc]

/-- A doubled text is read up to its closing quote, and with every quote once. -/
theorem untilQuote_doubled {mark : Char} (cs : List Char) (h : ∀ c ∈ rest.head?, c ≠ mark) :
    untilQuote mark (doubled mark cs ++ mark :: rest) = some (cs, rest) := by
  induction cs with
  | nil => exact untilQuote_end h
  | cons c cs ih =>
    rw [doubled, List.flatMap_cons, ← doubled, List.append_assoc]
    by_cases hc : c = mark
    · rw [if_pos hc, hc, List.cons_append, List.cons_append, List.nil_append, untilQuote,
        if_pos rfl, if_pos rfl, ih, Option.map_some]
    · have hne : doubled mark cs ++ mark :: rest ≠ [] := by simp
      rw [if_neg hc, List.singleton_append, untilQuote_cons hc hne, ih, Option.map_some]

theorem quoted_doubled {fault : ClauseFault} {mark : Char} {offset : Nat} (cs : List Char)
    (h : ∀ c ∈ rest.head?, c ≠ mark) :
    quoted fault mark offset (doubled mark cs ++ mark :: rest) = .ok (cs, rest) := by
  rw [quoted, untilQuote_doubled cs h]

/-- A part of a name between quotes. -/
def quotedPart (mark : Char) (cs : List Char) : List Char := mark :: doubled mark cs ++ [mark]

/-! ## The lexical grammar -/

/-- The further parts of a quoted name, each after a dot, and what they add to the name.  A part
between dots may be empty. -/
inductive NameSource : List Char → List Char → Prop where
  | nil : NameSource [] []
  | quoted {mark : Char} {part src name : List Char} : quotesNames mark = true →
    NameSource src name → NameSource ('.' :: quotedPart mark part ++ src) ('.' :: part ++ name)
  | bare {c : Char} {part src name : List Char} :
    (∀ d ∈ c :: part, isNameChar d = true ∧ d ≠ '.') → NameSource src name →
    NameSource ('.' :: c :: part ++ src) ('.' :: c :: part ++ name)
  | empty {src name : List Char} : NameSource ('.' :: src) ('.' :: name) →
    NameSource ('.' :: '.' :: src) ('.' :: '.' :: name)

/-- The fraction of a number, possibly a lone point. -/
inductive FractionSource : List Char → Prop where
  | none : FractionSource []
  | digits {ds : List Char} : AllDigits ds → FractionSource ('.' :: ds)

/-- The exponent of a number. -/
inductive ExponentSource : List Char → Prop where
  | none : ExponentSource []
  | plain {e d : Char} {ds : List Char} : e = 'e' ∨ e = 'E' → AllDigits (d :: ds) →
    ExponentSource (e :: d :: ds)
  | signed {e sign d : Char} {ds : List Char} : e = 'e' ∨ e = 'E' → sign = '+' ∨ sign = '-' →
    AllDigits (d :: ds) → ExponentSource (e :: sign :: d :: ds)

/-- The text of a lexeme. -/
inductive Source : List Char → LexemeKind → Prop where
  | leftParen : Source ['('] .leftParen
  | rightParen : Source [')'] .rightParen
  | comma : Source [','] .comma
  | string (cs : List Char) : Source (quotedPart '\'' cs) (.string (String.ofList cs))
  | name {mark : Char} {part src name : List Char} : quotesNames mark = true →
    NameSource src name →
    Source (quotedPart mark part ++ src) (.name (String.ofList (part ++ name)))
  | number {whole fraction exponent : List Char} : AllDigits whole → FractionSource fraction →
    ExponentSource exponent → (∃ d ∈ whole ++ fraction, d.isDigit = true) →
    Source (whole ++ fraction ++ exponent) (.number (String.ofList (whole ++ fraction ++ exponent)))
  | word {c : Char} {cs : List Char} : OpensBare c → startsName c = true →
    (∀ d ∈ c :: cs, isNameChar d = true) → Source (c :: cs) (wordKind (c :: cs))
  | sign (s : Sign) : Source s.symbol.toList (.sign s)

variable {src tail name : List Char} {kind : LexemeKind} {offset fuel : Nat}

/-- No lexeme and nothing to skip stands at the head of a text. -/
def Stuck (cs : List Char) : Prop := ∀ offset r, piece offset cs ≠ .ok r

/-! ## Reading quoted texts -/

theorem doubled_cons (mark c : Char) (cs : List Char) :
    doubled mark (c :: cs) = (if c = mark then [c, c] else [c]) ++ doubled mark cs :=
  List.flatMap_cons

/-- What is read up to a closing quote is the doubled text. -/
theorem untilQuote_eq_some {body : List Char} (h : untilQuote mark cs = some (body, rest)) :
    cs = doubled mark body ++ mark :: rest := by
  fun_induction untilQuote mark cs generalizing body with
  | case1 => cases h
  | case2 =>
    cases h
    rfl
  | case3 => cases h
  | case4 more ih =>
    obtain ⟨⟨body', rest'⟩, hmore, heq⟩ := Option.map_eq_some_iff.mp h
    cases heq
    rw [doubled_cons, if_pos rfl, ih hmore]
    rfl
  | case5 =>
    cases h
    rfl
  | case6 c d more hc ih =>
    obtain ⟨⟨body', rest'⟩, hmore, heq⟩ := Option.map_eq_some_iff.mp h
    cases heq
    rw [doubled_cons, if_neg hc, ih hmore]
    rfl

theorem quoted_eq_ok {fault : ClauseFault} {body : List Char}
    (h : quoted fault mark offset cs = .ok (body, rest)) :
    mark :: cs = quotedPart mark body ++ rest := by
  unfold quoted at h
  split at h
  · next r hr =>
    cases h
    rw [untilQuote_eq_some hr, quotedPart]
    simp
  · cases h

/-! ## Names -/

/-- Where a name starts, its characters go on. -/
theorem isNameChar_of_startsName (h : startsName c = true) : isNameChar c = true := by
  simp only [startsName, Bool.or_eq_true, decide_eq_true_eq] at h
  rcases h with h | rfl
  · simp [isNameChar, Text.isAlphanumeric, h]
  · decide

theorem isNameChar_of_isDigit (h : c.isDigit = true) : isNameChar c = true := by
  have hascii : c.toNat < 128 := by
    have := (Text.toNat_of_isDigit h).2
    omega
  simp [isNameChar, Text.isAlphanumeric, Text.isNumeric, hascii, h]

/-- A point that is not followed by a digit starts no lexeme. -/
theorem stuck_point (h : NoDigitAhead rest) : Stuck ('.' :: rest) := by
  have hdigit : (rest.headD ' ').isDigit = false := by
    cases rest with
    | nil => rfl
    | cons c rest => exact h c rfl
  have hopens : Opens '.' := by decide
  intro offset r
  rw [piece_of_opens hopens, if_neg (by decide), if_neg (by decide), hdigit]
  exact nofun

/-- Further parts that add something start with a point. -/
theorem NameSource.eq_nil_or_cons (h : NameSource src name) :
    src = [] ∨ ∃ src' name', src = '.' :: src' ∧ name = '.' :: name' := by
  cases h with
  | nil => exact .inl rfl
  | quoted _ _ => exact .inr ⟨_, _, rfl, rfl⟩
  | bare _ _ => exact .inr ⟨_, _, rfl, rfl⟩
  | empty _ => exact .inr ⟨_, _, rfl, rfl⟩

/-- The further parts of a name are taken from the head of a text; nothing can be read after a part
that is empty. -/
theorem exists_nameSource (hfuel : cs.length ≤ fuel)
    (h : nameParts fuel offset cs = .ok (name, rest)) :
    ∃ src, cs = src ++ rest ∧ (¬Stuck rest → NameSource src name) := by
  -- What carries the induction: where no part is read, the text does not go on with a point.
  suffices hstop : ∃ src, cs = src ++ rest ∧ (¬Stuck rest → NameSource src name ∧
      (src = [] → ∀ c ∈ cs.head?, c ≠ '.')) by
    obtain ⟨src, hcs, hsrc⟩ := hstop
    exact ⟨src, hcs, fun hrest => (hsrc hrest).1⟩
  fun_induction nameParts fuel offset cs generalizing name with
  | case1 fuel offset c more hc ih =>
    obtain ⟨⟨part, after⟩, hpart, h⟩ := bind_eq_ok_iff.mp h
    obtain ⟨⟨name', rest'⟩, hmore, heq⟩ := bind_eq_ok_iff.mp h
    cases heq
    have htext := quoted_eq_ok hpart
    have hlength := congrArg List.length htext
    simp only [List.length_cons, List.length_append] at hfuel hlength
    obtain ⟨src, rfl, hsrc⟩ := ih after (by omega) hmore
    refine ⟨'.' :: quotedPart c part ++ src, by rw [htext]; simp, fun hrest => ⟨?_, nofun⟩⟩
    exact .quoted hc (hsrc hrest).1
  | case2 =>
    rename_i fuel offset c more hquote hname isPart part ih
    obtain ⟨⟨name', rest'⟩, hmore, heq⟩ := bind_eq_ok_iff.mp h
    cases heq
    have htext : part ++ (c :: more).dropWhile isPart = c :: more := List.takeWhile_append_dropWhile
    have hlength := congrArg List.length htext
    simp only [List.length_cons, List.length_append] at hfuel hlength
    obtain ⟨src, hafter, hsrc⟩ := ih (by omega) hmore
    refine ⟨'.' :: part ++ src, ?_, fun hrest => ⟨?_, nofun⟩⟩
    · rw [List.cons_append, List.cons_append, List.append_assoc, ← hafter, htext]
    · obtain ⟨hsource, hhead⟩ := hsrc hrest
      by_cases hpoint : c = '.'
      · -- The part is empty, so another one has to follow it.
        have hpart : part = [] := by
          show (c :: more).takeWhile isPart = []
          rw [hpoint]
          rfl
        rw [hpart, List.nil_append] at htext
        rw [htext, hpoint] at hhead
        rcases hsource.eq_nil_or_cons with hnil | ⟨src', name', rfl, rfl⟩
        · exact absurd rfl (hhead hnil '.' rfl)
        · rw [hpart]
          exact .empty hsource
      · have hkeep : isPart c = true := by
          show (isNameChar c && decide (c ≠ '.')) = true
          rw [hname, decide_eq_true hpoint]
          rfl
        have hpart : part = c :: more.takeWhile isPart := List.takeWhile_cons_of_pos hkeep
        rw [hpart]
        refine .bare (fun d hd => ?_) hsource
        rw [← hpart] at hd
        have hd := List.mem_takeWhile_imp hd
        rwa [Bool.and_eq_true, decide_eq_true_eq] at hd
  | case3 fuel offset c more hquote hname =>
    cases h
    refine ⟨[], rfl, fun hrest => absurd (stuck_point ?_) hrest⟩
    rintro d ⟨⟩
    exact Bool.eq_false_iff.mpr fun hdigit => hname (isNameChar_of_isDigit hdigit)
  | case4 fuel offset cs hnone =>
    cases h
    refine ⟨[], rfl, fun hrest => ⟨.nil, fun _ c hc hpoint => ?_⟩⟩
    match rest, hc with
    | [d], hd =>
      cases hd
      rw [hpoint] at hrest
      exact hrest (stuck_point Text.noDigitAhead_nil)
    | d :: e :: more, hd =>
      cases hd
      obtain ⟨fuel, rfl⟩ : ∃ n, fuel = n + 1 := ⟨fuel - 1, by simp at hfuel; omega⟩
      exact hnone fuel e more rfl (by rw [hpoint])

/-- A text that does not go on with a dot has no further parts. -/
theorem nameParts_of_head (fuel offset : Nat) (h : ∀ c ∈ rest.head?, c ≠ '.') :
    nameParts fuel offset rest = .ok ([], rest) := by
  unfold nameParts
  split
  · exact absurd rfl (h '.' rfl)
  · rfl

/-- What follows a part of a name does not go on with the part. -/
theorem NameSource.head_eq (h : NameSource src name) (htail : Ends tail) :
    ∀ c ∈ (src ++ tail).head?, c = '.' ∨ c = ' ' ∨ c = ')' ∨ c = ',' := by
  rcases h.eq_nil_or_cons with rfl | ⟨src', name', rfl, rfl⟩
  · exact fun c hc => .inr (htail c hc)
  · rintro c ⟨⟩
    exact .inl rfl

theorem NameSource.head_ne (h : NameSource src name) (htail : Ends tail)
    (hmark : quotesNames mark = true) : ∀ c ∈ (src ++ tail).head?, c ≠ mark := by
  rintro c hc rfl
  rcases h.head_eq htail c hc with rfl | rfl | rfl | rfl <;> cases hmark

/-- The further parts of a name are read to their end. -/
theorem NameSource.nameParts_eq (h : NameSource src name) (htail : Ends tail) (offset : Nat)
    (hfuel : src.length ≤ fuel) : nameParts fuel offset (src ++ tail) = .ok (name, tail) := by
  induction h generalizing fuel offset with
  | nil => exact nameParts_of_head fuel offset (htail.head_ne (by decide))
  | @quoted mark part src name hmark h ih =>
    obtain ⟨fuel, rfl⟩ : ∃ n, fuel = n + 1 := ⟨fuel - 1, by simp at hfuel; omega⟩
    have htext : '.' :: quotedPart mark part ++ src ++ tail =
        '.' :: mark :: (doubled mark part ++ mark :: (src ++ tail)) := by
      simp [quotedPart]
    simp only [List.length_cons, List.length_append] at hfuel
    rw [htext, nameParts, if_pos hmark, quoted_doubled part (h.head_ne htail hmark), ok_bind]
    dsimp only
    rw [ih _ (by omega), ok_bind]
    rfl
  | @bare c part src name hpart h ih =>
    obtain ⟨fuel, rfl⟩ : ∃ n, fuel = n + 1 := ⟨fuel - 1, by simp at hfuel; omega⟩
    have hchar := (hpart c List.mem_cons_self).1
    have hquote : ¬quotesNames c = true := by
      intro hquote
      simp only [quotesNames, Bool.or_eq_true, decide_eq_true_eq] at hquote
      rcases hquote with rfl | rfl <;> cases hchar
    have hkeep : ∀ d ∈ c :: part, (isNameChar d && decide (d ≠ '.')) = true := fun d hd => by
      simpa using hpart d hd
    have hafter : ∀ d ∈ (src ++ tail).head?, (isNameChar d && decide (d ≠ '.')) = false :=
      fun d hd => by rcases h.head_eq htail d hd with rfl | rfl | rfl | rfl <;> decide
    have hstop := takeWhile_of_head hkeep hafter
    have htext : '.' :: c :: part ++ src ++ tail = '.' :: c :: (part ++ (src ++ tail)) := by simp
    simp only [List.length_cons, List.length_append] at hfuel
    rw [List.cons_append] at hstop
    rw [htext, nameParts, if_neg hquote, if_pos hchar]
    dsimp only
    rw [hstop.1, hstop.2, ih _ (by omega), ok_bind]
    rfl
  | @empty src name h ih =>
    obtain ⟨fuel, rfl⟩ : ∃ n, fuel = n + 1 := ⟨fuel - 1, by simp at hfuel; omega⟩
    have hmore : ∀ p : Char → Bool, p '.' = false →
        ('.' :: (src ++ tail)).takeWhile p = [] ∧
          ('.' :: (src ++ tail)).dropWhile p = '.' :: (src ++ tail) := by
      intro p hp
      rw [List.takeWhile_cons, List.dropWhile_cons, hp]
      exact ⟨rfl, rfl⟩
    rw [List.length_cons] at hfuel
    rw [List.cons_append, List.cons_append, nameParts, if_neg (by decide), if_pos (by decide)]
    dsimp only
    rw [(hmore _ rfl).1, (hmore _ rfl).2, ← List.cons_append, ih _ (by omega), ok_bind]
    rfl

/-! ## Numbers -/

theorem exponentPart_of_ends (h : Ends rest) : exponentPart rest = ([], rest) := by
  cases rest with
  | nil => rfl
  | cons c cs =>
    have hc : ¬ (c = 'e' ∨ c = 'E') := by
      rcases h c rfl with rfl | rfl | rfl <;> decide
    unfold exponentPart
    simp only [Bool.or_eq_true, decide_eq_true_eq]
    split
    · next heq =>
      cases heq
      exact if_neg hc
    · next heq =>
      cases heq
      exact if_neg hc
    · next heq =>
      cases heq
      exact if_neg hc
    · next heq => cases heq

/-- Digits after the opening of an exponent are its digits. -/
theorem exponentDigits_eq {ds : List Char} (hds : AllDigits ds) (hne : ds ≠ [])
    (hrest : NoDigitAhead rest) (head cs : List Char) :
    (match (ds ++ rest).takeWhile Char.isDigit with
      | [] => ([], cs)
      | es => (head ++ es, (ds ++ rest).dropWhile Char.isDigit)) = (head ++ ds, rest) := by
  rw [Text.takeWhile_isDigit_append hds hrest]
  cases ds with
  | nil => exact absurd rfl hne
  | cons d ds =>
    dsimp only
    rw [Text.dropWhile_isDigit_append hds hrest]

theorem FractionSource.of_fractionPart {fraction : List Char}
    (h : fractionPart cs = (fraction, rest)) : FractionSource fraction ∧ cs = fraction ++ rest := by
  unfold fractionPart at h
  split at h
  · cases h
    exact ⟨.digits fun d hd => List.mem_takeWhile_imp hd,
      congrArg ('.' :: ·) List.takeWhile_append_dropWhile.symm⟩
  · cases h
    exact ⟨.none, rfl⟩

/-- The digits of an exponent are taken from the head of a text, or there are none. -/
theorem of_exponentDigits (head : List Char) {more cs src : List Char} (hcs : cs = head ++ more)
    (h : (match more.takeWhile Char.isDigit with
      | [] => ([], cs)
      | ds => (head ++ ds, more.dropWhile Char.isDigit)) = (src, rest)) :
    cs = src ++ rest ∧ (src = [] ∨ ∃ d ds, AllDigits (d :: ds) ∧ src = head ++ d :: ds) := by
  have hall : AllDigits (more.takeWhile Char.isDigit) := fun d hd => List.mem_takeWhile_imp hd
  have htext : more.takeWhile Char.isDigit ++ more.dropWhile Char.isDigit = more :=
    List.takeWhile_append_dropWhile
  cases hds : more.takeWhile Char.isDigit with
  | nil =>
    rw [hds] at h
    cases h
    exact ⟨rfl, .inl rfl⟩
  | cons d ds =>
    rw [hds] at h hall htext
    cases h
    exact ⟨by rw [hcs, List.append_assoc, htext], .inr ⟨d, ds, hall, rfl⟩⟩

theorem ExponentSource.of_exponentPart (h : exponentPart cs = (src, rest)) :
    ExponentSource src ∧ cs = src ++ rest := by
  have hnone : ([], cs) = (src, rest) → ExponentSource src ∧ cs = src ++ rest := by
    rintro ⟨⟩
    exact ⟨.none, rfl⟩
  unfold exponentPart at h
  simp only [Bool.or_eq_true, decide_eq_true_eq] at h
  split at h
  · next e more =>
    split at h
    · next he =>
      obtain ⟨htext, rfl | ⟨d, ds, hds, rfl⟩⟩ := of_exponentDigits [e, '+'] rfl h
      · exact ⟨.none, htext⟩
      · exact ⟨.signed he (.inl rfl) hds, htext⟩
    · exact hnone h
  · next e more =>
    split at h
    · next he =>
      obtain ⟨htext, rfl | ⟨d, ds, hds, rfl⟩⟩ := of_exponentDigits [e, '-'] rfl h
      · exact ⟨.none, htext⟩
      · exact ⟨.signed he (.inr rfl) hds, htext⟩
    · exact hnone h
  · next e more _ _ =>
    split at h
    · next he =>
      obtain ⟨htext, rfl | ⟨d, ds, hds, rfl⟩⟩ := of_exponentDigits [e] rfl h
      · exact ⟨.none, htext⟩
      · exact ⟨.plain he hds, htext⟩
    · exact hnone h
  · exact hnone h

theorem ExponentSource.exponentPart_eq (h : ExponentSource src) (htail : Ends tail) :
    exponentPart (src ++ tail) = (src, tail) := by
  cases h with
  | none => exact exponentPart_of_ends htail
  | @plain e d ds he hds =>
    have hdigits := exponentDigits_eq hds (List.cons_ne_nil d ds) htail.noDigitAhead [e]
    have hd := hds d List.mem_cons_self
    unfold exponentPart
    split
    · next heq =>
      cases heq
      cases hd
    · next heq =>
      cases heq
      cases hd
    · next heq =>
      cases heq
      rcases he with rfl | rfl <;> exact hdigits _
    · next heq => cases heq
  | @signed e sign d ds he hsign hds =>
    have hdigits := exponentDigits_eq hds (List.cons_ne_nil d ds) htail.noDigitAhead [e, sign]
    rcases he with rfl | rfl <;> rcases hsign with rfl | rfl <;> exact hdigits _

/-- An exponent, or what ends a number, is no part of its digits or its fraction. -/
theorem ExponentSource.head_eq (h : ExponentSource src) (htail : Ends tail) :
    ∀ c ∈ (src ++ tail).head?, c.isDigit = false ∧ c ≠ '.' := by
  intro c hc
  cases h with
  | none => rcases htail c hc with rfl | rfl | rfl <;> decide
  | plain he _ =>
    cases hc
    rcases he with rfl | rfl <;> decide
  | signed he _ _ =>
    cases hc
    rcases he with rfl | rfl <;> decide

theorem ExponentSource.noDigitAhead (h : ExponentSource src) (htail : Ends tail) :
    NoDigitAhead (src ++ tail) := fun c hc => (h.head_eq htail c hc).1

theorem FractionSource.fractionPart_eq {exponent : List Char} (h : FractionSource src)
    (hexponent : ExponentSource exponent) (htail : Ends tail) :
    fractionPart (src ++ (exponent ++ tail)) = (src, exponent ++ tail) := by
  have hdigit := hexponent.noDigitAhead htail
  cases h with
  | none =>
    rw [List.nil_append]
    unfold fractionPart
    split
    · next heq => exact absurd rfl (hexponent.head_eq htail '.' (by rw [heq]; rfl)).2
    · rfl
  | @digits ds hds =>
    rw [List.cons_append, fractionPart, Text.takeWhile_isDigit_append hds hdigit,
      Text.dropWhile_isDigit_append hds hdigit]

theorem FractionSource.noDigitAhead {exponent : List Char} (h : FractionSource src)
    (hexponent : ExponentSource exponent) (htail : Ends tail) :
    NoDigitAhead (src ++ (exponent ++ tail)) := by
  cases h with
  | none => exact hexponent.noDigitAhead htail
  | digits _ => exact Text.noDigitAhead_cons rfl

/-- A number is taken from the head of a text that starts with one. -/
theorem exists_numberSource
    (h : (c.isDigit || (c = '.' && (cs.headD ' ').isDigit)) = true) :
    ∃ src rest, numeral (c :: cs) = (src, rest) ∧ c :: cs = src ++ rest ∧
      Source src (.number (String.ofList src)) := by
  rcases hfraction : fractionPart ((c :: cs).dropWhile Char.isDigit) with ⟨fraction, more⟩
  rcases hexponent : exponentPart more with ⟨exponent, rest⟩
  obtain ⟨hfractionSource, hfractionText⟩ := FractionSource.of_fractionPart hfraction
  obtain ⟨hexponentSource, hexponentText⟩ := ExponentSource.of_exponentPart hexponent
  have hwhole : AllDigits ((c :: cs).takeWhile Char.isDigit) := fun d hd =>
    List.mem_takeWhile_imp hd
  refine ⟨(c :: cs).takeWhile Char.isDigit ++ fraction ++ exponent, rest, ?_, ?_, ?_⟩
  · rw [numeral, hfraction]
    dsimp only
    rw [hexponent]
  · rw [List.append_assoc, List.append_assoc, ← hexponentText, ← hfractionText,
      List.takeWhile_append_dropWhile]
  · refine .number hwhole hfractionSource hexponentSource ?_
    simp only [Bool.or_eq_true, Bool.and_eq_true, decide_eq_true_eq] at h
    rcases h with hc | ⟨rfl, hdigit⟩
    · exact ⟨c, by simp [hc], hc⟩
    · -- After a leading point, the first digit is one of the fraction.
      cases cs with
      | nil => cases hdigit
      | cons d cs =>
        have hd : d.isDigit = true := hdigit
        have heq : ('.' :: (d :: cs).takeWhile Char.isDigit,
            (d :: cs).dropWhile Char.isDigit) = (fraction, more) := hfraction
        refine ⟨d, List.mem_append_right _ ?_, hd⟩
        rw [← (Prod.mk.inj heq).1, List.takeWhile_cons, if_pos hd]
        simp

/-- A number is read to its end. -/
theorem numeral_eq {whole fraction exponent : List Char} (hwhole : AllDigits whole)
    (hfraction : FractionSource fraction) (hexponent : ExponentSource exponent)
    (htail : Ends tail) : numeral (whole ++ fraction ++ exponent ++ tail) =
      (whole ++ fraction ++ exponent, tail) := by
  have hdigit := hfraction.noDigitAhead hexponent htail
  rw [List.append_assoc, List.append_assoc]
  unfold numeral
  rw [Text.takeWhile_isDigit_append hwhole hdigit, Text.dropWhile_isDigit_append hwhole hdigit,
    hfraction.fractionPart_eq hexponent htail]
  dsimp only
  rw [hexponent.exponentPart_eq htail, List.append_assoc]

/-! ## Operators -/

/-- An operator is taken from the head of a text. -/
theorem eq_of_sign? {s : Sign} (h : sign? cs = some (s, rest)) :
    cs = s.symbol.toList ++ rest := by
  unfold sign? at h
  split at h <;> cases h <;> rfl

/-! ## Lexemes -/

theorem Source.ne_nil (h : Source src kind) : src ≠ [] := by
  cases h with
  | number _ _ _ hdigit =>
    obtain ⟨d, hd, -⟩ := hdigit
    exact List.append_ne_nil_of_left_ne_nil (List.ne_nil_of_mem hd) _
  | sign s => cases s <;> decide
  | name _ _ => exact List.cons_ne_nil _ _
  | _ => exact List.cons_ne_nil _ _

theorem OpensBare.of_startsName (h : startsName c = true) (hblank : Text.isBlank c = false)
    (hdigit : c.isDigit = false) : OpensBare c := by
  have hne : ∀ {d : Char}, startsName d = false → c ≠ d := by
    rintro d hd rfl
    rw [h] at hd
    cases hd
  have hquote : quotesNames c = false := by
    rw [quotesNames, decide_eq_false (hne rfl), decide_eq_false (hne rfl)]
    rfl
  exact ⟨⟨hne rfl, hne rfl, hne rfl, hne rfl, hne rfl, hblank⟩, hne rfl, hquote, hdigit, hne rfl⟩

/-- A word is as long as the characters of names go on. -/
theorem wordSource (hc : OpensBare c) (hstart : startsName c = true) (cs : List Char) :
    Source ((c :: cs).takeWhile isNameChar) (wordKind ((c :: cs).takeWhile isNameChar)) := by
  have hword : (c :: cs).takeWhile isNameChar = c :: cs.takeWhile isNameChar :=
    List.takeWhile_cons_of_pos (isNameChar_of_startsName hstart)
  rw [hword]
  refine .word hc hstart fun d hd => ?_
  rw [← hword] at hd
  exact List.mem_takeWhile_imp hd

/-- **A lexeme is taken from the head of a text**, and its text stands for it by the grammar. -/
theorem exists_source (h : piece offset cs = .ok (some kind, rest)) :
    ∃ src, src ≠ [] ∧ cs = src ++ rest ∧ (¬Stuck rest → Source src kind) := by
  have hsource : ∀ {src : List Char}, Source src kind → cs = src ++ rest →
      ∃ src, src ≠ [] ∧ cs = src ++ rest ∧ (¬Stuck rest → Source src kind) :=
    fun hsrc htext => ⟨_, hsrc.ne_nil, htext, fun _ => hsrc⟩
  unfold piece at h
  split at h
  · cases h
  · cases h
  · cases h
  · cases h
    exact hsource .leftParen rfl
  · cases h
    exact hsource .rightParen rfl
  · cases h
    exact hsource .comma rfl
  · next c more _ _ _ _ _ =>
    split at h
    · cases h
    · next hblank =>
      split at h
      · next hquote =>
        obtain ⟨⟨body, after⟩, hbody, heq⟩ := bind_eq_ok_iff.mp h
        cases heq
        exact hsource (hquote ▸ .string body) (quoted_eq_ok hbody)
      · split at h
        · next hquote =>
          obtain ⟨⟨part, after⟩, hpart, h⟩ := bind_eq_ok_iff.mp h
          obtain ⟨⟨name, last⟩, hname, heq⟩ := bind_eq_ok_iff.mp h
          cases heq
          have htext := quoted_eq_ok hpart
          have hlength := congrArg List.length htext
          simp only [List.length_cons, List.length_append, quotedPart] at hlength
          obtain ⟨src, rfl, hsrc⟩ := exists_nameSource (by omega) hname
          refine ⟨quotedPart c part ++ src, List.cons_ne_nil _ _, ?_, fun hrest => ?_⟩
          · rw [htext, List.append_assoc]
          · exact .name hquote (hsrc hrest)
        · split at h
          · next hdigit =>
            obtain ⟨src, last, hnumeral, htext, hsrc⟩ := exists_numberSource hdigit
            rw [hnumeral] at h
            cases h
            exact hsource hsrc htext
          · next hdigit =>
            split at h
            · next hstart =>
              cases h
              have hc : c.isDigit = false := by
                rw [Bool.or_eq_true, not_or] at hdigit
                exact Bool.eq_false_iff.mpr hdigit.1
              have hopens := OpensBare.of_startsName hstart (Bool.eq_false_iff.mpr hblank) hc
              exact hsource (wordSource hopens hstart more) List.takeWhile_append_dropWhile.symm
            · split at h
              · next hsign =>
                cases h
                exact hsource (.sign _) (eq_of_sign? hsign)
              · cases h

/-- A name that starts with a quoted part is read as far as its further parts are. -/
theorem piece_quotedPart {part after : List Char} (hmark : quotesNames mark = true)
    (hafter : ∀ c ∈ after.head?, c ≠ mark)
    (hparts : ∀ fuel offset, after.length ≤ fuel → nameParts fuel offset after = .ok (name, rest))
    (offset : Nat) : piece offset (quotedPart mark part ++ after) =
      .ok (some (.name (String.ofList (part ++ name))), rest) := by
  have hopens : Opens mark ∧ mark ≠ '\'' := by
    simp only [quotesNames, Bool.or_eq_true, decide_eq_true_eq] at hmark
    rcases hmark with rfl | rfl <;> decide
  have htext : quotedPart mark part ++ after = mark :: (doubled mark part ++ mark :: after) := by
    simp [quotedPart]
  rw [htext, piece_of_opens hopens.1, if_neg hopens.2, if_pos hmark, quoted_doubled part hafter,
    ok_bind]
  dsimp only
  rw [hparts _ _ (by simp; omega), ok_bind]
  rfl

/-- **A lexeme is read whole** before whatever ends a word, wherever it stands. -/
theorem Source.piece_eq (h : Source src kind) (htail : Ends tail) (offset : Nat) :
    piece offset (src ++ tail) = .ok (some kind, tail) := by
  cases h with
  | leftParen => rfl
  | rightParen => rfl
  | comma => rfl
  | string cs =>
    have hopens : Opens '\'' := by decide
    have htext : quotedPart '\'' cs ++ tail = '\'' :: (doubled '\'' cs ++ '\'' :: tail) := by
      simp [quotedPart]
    rw [htext, piece_of_opens hopens, if_pos rfl, quoted_doubled cs (htail.head_ne (by decide)),
      ok_bind]
    rfl
  | @name mark part src name hmark hname =>
    rw [List.append_assoc]
    refine piece_quotedPart hmark (hname.head_ne htail hmark) (fun fuel offset hfuel => ?_) offset
    rw [List.length_append] at hfuel
    exact hname.nameParts_eq htail offset (by omega)
  | @number whole fraction exponent hwhole hfraction hexponent hdigit =>
    have hnumeral := numeral_eq hwhole hfraction hexponent htail
    cases whole with
    | cons d ds =>
      rw [List.cons_append, List.cons_append, List.cons_append] at hnumeral ⊢
      rw [piece_of_isDigit (hwhole d List.mem_cons_self), hnumeral]
    | nil =>
      obtain ⟨d, hd, hdigit⟩ := hdigit
      cases hfraction with
      | none => cases hd
      | @digits ds hds =>
        cases ds with
        | nil =>
          obtain rfl : d = '.' := by simpa using hd
          cases hdigit
        | cons e ds =>
          have hopens : Opens '.' := by decide
          have he : (e :: ds ++ exponent ++ tail).headD ' ' = e := rfl
          simp only [List.nil_append, List.cons_append] at hnumeral he ⊢
          rw [piece_of_opens hopens, if_neg (by decide), if_neg (by decide), he,
            hds e List.mem_cons_self, hnumeral]
          rfl
  | @word c cs hopens hstart hcs =>
    obtain ⟨htake, hdrop⟩ := htail.takeWhile_eq (by decide) hcs
    rw [List.cons_append] at htake hdrop ⊢
    rw [piece_of_opensBare hopens, if_pos hstart, htake, hdrop]
  | sign s =>
    cases tail with
    | nil => cases s <;> rfl
    | cons e tail => rcases htail e rfl with rfl | rfl | rfl <;> cases s <;> rfl

end Crosstab.Clause
