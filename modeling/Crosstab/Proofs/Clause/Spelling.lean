import Crosstab.Proofs.Clause.Numbers

/-!
# Text that spells lexemes

`Splits cs ks` says that a whole text is split into lexemes of the kinds `ks`, and `Spells cs ks`
that a text is so before whatever ends a word.  The text of a lexeme spells it (`Source.spells`).
So what an emitter writes spells what it stands for: quoted texts and names (`spells_string`,
`spells_name`), numbers (`spells_numeral`), words and operators; and texts that spell are put
together with spaces, commas and parentheses.
-/

namespace Crosstab.Clause

open Binary64 (Numeral)
open Text (AllDigits NoDigitAhead)

variable {cs ds rest : List Char} {ks ls : List LexemeKind}

/-! ## Whole texts -/

/-- The text is split into lexemes of the given kinds. -/
def Splits (cs : List Char) (ks : List LexemeKind) : Prop :=
  ∀ fuel offset, cs.length ≤ fuel → ∃ ls, lexemesFrom fuel offset cs = .ok ls ∧ kinds ls = ks

theorem splits_nil : Splits [] [] := by
  intro fuel offset _
  cases fuel <;> exact ⟨[], rfl, rfl⟩

/-- A text is split into what stands at its head and what the rest is split into. -/
theorem splits_of_piece {c : Char} (kind? : Option LexemeKind)
    (hpiece : ∀ offset, piece offset (c :: cs) = .ok (kind?, rest))
    (hlength : rest.length ≤ cs.length) (h : Splits rest ks) :
    Splits (c :: cs) (kind?.toList ++ ks) := by
  intro fuel offset hfuel
  obtain ⟨fuel, rfl⟩ : ∃ n, fuel = n + 1 := ⟨fuel - 1, by simp at hfuel; omega⟩
  rw [List.length_cons] at hfuel
  obtain ⟨later, hlater, hkinds⟩ := h fuel
    (offset + byteLength ((c :: cs).take (cs.length + 1 - rest.length))) (by omega)
  rw [lexemesFrom, hpiece, ok_bind]
  dsimp only
  rw [hlater, ok_bind]
  cases kind? with
  | none => exact ⟨later, rfl, hkinds⟩
  | some kind => exact ⟨_, rfl, congrArg (kind :: ·) hkinds⟩

theorem splits_space (h : Splits rest ks) : Splits (' ' :: rest) ks :=
  splits_of_piece none (fun _ => rfl) (Nat.le_refl _) h

theorem splits_leftParen (h : Splits rest ks) : Splits ('(' :: rest) (.leftParen :: ks) :=
  splits_of_piece (some .leftParen) (fun _ => rfl) (Nat.le_refl _) h

theorem splits_rightParen (h : Splits rest ks) : Splits (')' :: rest) (.rightParen :: ks) :=
  splits_of_piece (some .rightParen) (fun _ => rfl) (Nat.le_refl _) h

theorem splits_comma (h : Splits rest ks) : Splits (',' :: rest) (.comma :: ks) :=
  splits_of_piece (some .comma) (fun _ => rfl) (Nat.le_refl _) h

theorem lexemes_of_splits {s : String} (h : Splits s.toList ks) :
    ∃ ls, lexemes s = .ok ls ∧ kinds ls = ks :=
  h s.toList.length 0 (Nat.le_refl _)

/-! ## Texts within others -/

/-- Before whatever ends a word, the text is split into lexemes of the given kinds. -/
def Spells (cs : List Char) (ks : List LexemeKind) : Prop :=
  ∀ rest later, Ends rest → Splits rest later → Splits (cs ++ rest) (ks ++ later)

theorem Spells.splits (h : Spells cs ks) : Splits cs ks := by
  have hall := h [] [] ends_nil splits_nil
  rwa [List.append_nil, List.append_nil] at hall

theorem Spells.append_space (hc : Spells cs ks) (hd : Spells ds ls) :
    Spells (cs ++ ' ' :: ds) (ks ++ ls) := by
  intro rest later hrest hlater
  rw [List.append_assoc, List.append_assoc]
  exact hc _ _ ends_space (splits_space (hd rest later hrest hlater))

theorem Spells.append_comma (hc : Spells cs ks) (hd : Spells ds ls) :
    Spells (cs ++ ',' :: ' ' :: ds) (ks ++ .comma :: ls) := by
  intro rest later hrest hlater
  rw [List.append_assoc, List.append_assoc]
  exact hc _ _ ends_comma (splits_comma (splits_space (hd rest later hrest hlater)))

theorem Spells.parens (h : Spells cs ks) :
    Spells ('(' :: cs ++ [')']) (.leftParen :: ks ++ [.rightParen]) := by
  intro rest later _ hlater
  rw [List.append_assoc, List.append_assoc]
  exact splits_leftParen (h _ _ ends_rightParen (splits_rightParen hlater))

/-- The text of a lexeme spells it. -/
theorem Source.spells {kind : LexemeKind} (h : Source cs kind) : Spells cs [kind] := by
  intro rest later hrest hlater
  cases cs with
  | nil => exact absurd rfl h.ne_nil
  | cons c cs =>
    have hlength : rest.length ≤ (cs ++ rest).length := by
      rw [List.length_append]
      exact Nat.le_add_left _ _
    exact splits_of_piece (some kind) (h.piece_eq hrest) hlength hlater

/-! ## Quoted texts and names -/

/-- A text between single quotes spells a string. -/
theorem spells_string (cs : List Char) :
    Spells ('\'' :: doubled '\'' cs ++ ['\'']) [.string (String.ofList cs)] :=
  (Source.string cs).spells

/-- Further parts of a name, each after a dot. -/
def furtherParts (mark : Char) (ps : List (List Char)) : List Char :=
  ps.flatMap fun p => '.' :: quotedPart mark p

theorem nameSource_furtherParts {mark : Char} (hmark : quotesNames mark = true) :
    ∀ ps : List (List Char), NameSource (furtherParts mark ps) (ps.flatMap ('.' :: ·))
  | [] => .nil
  | _ :: ps => .quoted hmark (nameSource_furtherParts hmark ps)

/-- Quoted parts with dots between them spell a name. -/
theorem spells_name {mark : Char} (hmark : quotesNames mark = true) (p : List Char)
    (ps : List (List Char)) : Spells (quotedPart mark p ++ furtherParts mark ps)
      [.name (String.ofList (p ++ ps.flatMap ('.' :: ·)))] :=
  (Source.name hmark (nameSource_furtherParts hmark ps)).spells

/-! ## Words and operators -/

/-- A bare word spells what it stands for. -/
theorem spells_word {c : Char} (hc : OpensBare c) (hstart : startsName c = true)
    (hcs : ∀ d ∈ c :: cs, isNameChar d = true) : Spells (c :: cs) [wordKind (c :: cs)] :=
  (Source.word hc hstart hcs).spells

/-- A bare word in front of a text in parentheses is a lexeme of its own. -/
theorem Spells.call {c : Char} {word : List Char} (h : Spells cs ks) (hc : OpensBare c)
    (hstart : startsName c = true) (hword : ∀ d ∈ c :: word, isNameChar d = true) :
    Spells (c :: word ++ '(' :: cs ++ [')'])
      (wordKind (c :: word) :: .leftParen :: ks ++ [.rightParen]) := by
  intro rest later hrest hlater
  have htext : c :: word ++ '(' :: cs ++ [')'] ++ rest =
      c :: (word ++ '(' :: (cs ++ ')' :: rest)) := by
    simp
  have htake : (c :: (word ++ '(' :: (cs ++ ')' :: rest))).takeWhile isNameChar = c :: word := by
    rw [← List.cons_append, List.takeWhile_append_of_pos hword, List.takeWhile_cons,
      if_neg (by decide), List.append_nil]
  have hdrop : (c :: (word ++ '(' :: (cs ++ ')' :: rest))).dropWhile isNameChar =
      '(' :: (cs ++ ')' :: rest) := by
    rw [← List.cons_append, List.dropWhile_append_of_pos hword, List.dropWhile_cons,
      if_neg (by decide)]
  have hparens :
      Splits ('(' :: (cs ++ ')' :: rest)) (.leftParen :: ks ++ [.rightParen] ++ later) := by
    have hall := h.parens rest later hrest hlater
    rwa [List.append_assoc, List.singleton_append] at hall
  rw [htext]
  refine splits_of_piece (some (wordKind (c :: word))) (fun offset => ?_) ?_ hparens
  · rw [piece_of_opensBare hc, if_pos hstart, htake, hdrop]
  · rw [List.length_append]
    omega

/-- A minus sign is an operator unless another one follows. -/
theorem splits_minus (hrest : ∀ c ∈ rest.head?, c ≠ '-') (h : Splits rest ks) :
    Splits ('-' :: rest) (.sign .minus :: ks) := by
  refine splits_of_piece (some (.sign .minus)) (fun offset => ?_) (Nat.le_refl _) h
  unfold piece
  split
  · next heq => cases heq
  · next heq =>
    cases heq
    exact absurd rfl (hrest '-' rfl)
  · next heq => exact absurd (List.cons.inj heq).1 (by decide)
  · next heq => exact absurd (List.cons.inj heq).1 (by decide)
  · next heq => exact absurd (List.cons.inj heq).1 (by decide)
  · next heq => exact absurd (List.cons.inj heq).1 (by decide)
  · next heq =>
    cases heq
    rfl

/-- The symbol of an operator spells it. -/
theorem spells_symbol (s : Sign) : Spells s.symbol.toList [.sign s] := (Source.sign s).spells

theorem Spells.append_slash (hc : Spells cs ks) (hd : Spells ds ls) :
    Spells (cs ++ ' ' :: '/' :: ' ' :: ds) (ks ++ .sign .slash :: ls) :=
  hc.append_space ((spells_symbol .slash).append_space hd)

/-! ## Numbers -/

theorem fractionSource_fractionChars {fraction : Option (List Char)}
    (h : ∀ ds ∈ fraction, AllDigits ds) : FractionSource (Numeral.fractionChars fraction) := by
  cases fraction with
  | none => exact .none
  | some ds => exact .digits (h ds rfl)

theorem exponentSource_exponentChars (e : Option Int) :
    ExponentSource (Numeral.exponentChars e) := by
  cases e with
  | none => exact .none
  | some e =>
    obtain ⟨c, cs, hcs, -, hall⟩ := Numeral.digitChars_eq_cons e.natAbs
    rw [Numeral.exponentChars, Binary64.intChars, hcs]
    by_cases hneg : e < 0
    · rw [if_pos hneg]
      exact .signed (.inl rfl) (.inr rfl) hall
    · rw [if_neg hneg]
      exact .plain (.inl rfl) hall

theorem Numeral.chars_eq_cons {t : Numeral} (ht : t.WellFormed) :
    ∃ c cs, t.chars = c :: cs ∧ c.isDigit = true := by
  unfold Numeral.chars
  cases hwhole : t.whole with
  | nil => exact absurd hwhole ht.whole_ne_nil
  | cons c cs =>
    refine ⟨c, _, rfl, ht.allDigits_whole c ?_⟩
    rw [hwhole]
    exact List.mem_cons_self

/-- A numeral is the text of a number. -/
theorem numberSource_chars {t : Numeral} (ht : t.WellFormed) :
    NumberSource t.chars t.whole (Numeral.fractionChars t.fraction)
      (Numeral.exponentChars t.exponent) := by
  obtain ⟨d, ds, hwhole⟩ := List.exists_cons_of_ne_nil ht.whole_ne_nil
  have hd : d ∈ t.whole := hwhole ▸ List.mem_cons_self
  exact ⟨(List.append_assoc _ _ _).symm, ht.allDigits_whole,
    fractionSource_fractionChars ht.allDigits_fraction, exponentSource_exponentChars t.exponent,
    d, List.mem_append_left _ hd, ht.allDigits_whole d hd⟩

/-- A numeral spells a number. -/
theorem spells_numeral {t : Numeral} (ht : t.WellFormed) :
    Spells t.chars [.number (String.ofList t.chars)] :=
  (numberSource_chars ht).source.spells

/-- A numeral with a minus sign spells the sign and a number. -/
theorem spells_minus_numeral {t : Numeral} (ht : t.WellFormed) :
    Spells ('-' :: t.chars) [.sign .minus, .number (String.ofList t.chars)] := by
  intro rest later hrest hlater
  have hnumber := spells_numeral ht rest later hrest hlater
  obtain ⟨c, cs, hcs, hc⟩ := Numeral.chars_eq_cons ht
  rw [hcs] at hnumber ⊢
  refine splits_minus ?_ hnumber
  rintro d ⟨⟩
  exact ne_of_isDigit hc rfl

end Crosstab.Clause
