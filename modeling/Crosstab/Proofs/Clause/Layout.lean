import Crosstab.Proofs.Clause.Source

/-!
# How lexemes lie in a text

The lexemes of a text and the gaps between them make up the text (`Laid`).  Gaps are white space and
comments (`Gap`), which are the texts that hold no lexeme (`lexemes_eq_nil_iff`), and lexemes are
split on their own as they are within the text, so nothing is lost in splitting and nothing depends
on the surroundings.  In particular, lexemes may be set apart by single spaces
(`exists_lexemes_spaced`).

A blank and a comment with its end are skipped whatever follows (`Skipped.piece_eq`).  Only an open
comment reaches to the end of the text, so it stands in the last gap (`exists_skipped`).
-/

namespace Crosstab.Clause

variable {s : String} {cs src gap rest : List Char} {ls : List Lexeme} {l : Lexeme}
  {kind : LexemeKind} {kind? : Option LexemeKind} {offset fuel : Nat} {e : ClauseError}

/-! ## Bytes -/

@[simp] theorem byteLength_nil : byteLength [] = 0 := rfl

@[simp] theorem byteLength_cons (c : Char) (cs : List Char) :
    byteLength (c :: cs) = c.utf8Size + byteLength cs := rfl

@[simp] theorem byteLength_append (cs ds : List Char) :
    byteLength (cs ++ ds) = byteLength cs + byteLength ds := by
  induction cs with
  | nil => simp
  | cons c cs ih => simp [ih, Nat.add_assoc]

theorem byteLength_pos (h : cs ≠ []) : 0 < byteLength cs := by
  cases cs with
  | nil => exact absurd rfl h
  | cons c cs => exact Nat.add_pos_left c.utf8Size_pos _

theorem utf8ByteSize_ofList (cs : List Char) :
    (String.ofList cs).utf8ByteSize = byteLength cs := by
  induction cs with
  | nil => rfl
  | cons c cs ih =>
    rw [String.ofList_cons, String.utf8ByteSize_append, String.utf8ByteSize_singleton, ih]
    rfl

theorem utf8ByteSize_eq (s : String) : s.utf8ByteSize = byteLength s.toList := by
  rw [← utf8ByteSize_ofList, String.ofList_toList]

/-! ## What is skipped -/

/-- What is skipped, whatever follows: a blank, or a comment with its end. -/
inductive Skipped : List Char → Prop where
  | blank {c : Char} : Text.isBlank c = true → Skipped [c]
  | line {body : List Char} : '\n' ∉ body → Skipped ('-' :: '-' :: (body ++ ['\n']))
  | block {body : List Char} : ¬['*', '/'] <:+: body →
    Skipped ('/' :: '*' :: (body ++ ['*', '/']))

/-- A comment without an end, which reaches to the end of the text. -/
inductive OpenComment : List Char → Prop where
  | line {body : List Char} : '\n' ∉ body → OpenComment ('-' :: '-' :: body)
  | block {body : List Char} : ¬['*', '/'] <:+: body → OpenComment ('/' :: '*' :: body)

theorem Skipped.ne_nil (h : Skipped src) : src ≠ [] := by
  cases h <;> exact List.cons_ne_nil _ _

theorem OpenComment.ne_nil (h : OpenComment src) : src ≠ [] := by
  cases h <;> exact List.cons_ne_nil _ _

/-! ### Line comments -/

theorem dropWhile_line {body : List Char} (h : '\n' ∉ body) (tail : List Char) :
    (body ++ tail).dropWhile (· ≠ '\n') = tail.dropWhile (· ≠ '\n') := by
  refine List.dropWhile_append_of_pos ?_
  intro c hc
  have hne : c ≠ '\n' := fun heq => h (heq ▸ hc)
  exact decide_eq_true hne

theorem afterLine_append {body : List Char} (h : '\n' ∉ body) (tail : List Char) :
    afterLine (body ++ '\n' :: tail) = tail := by
  rw [afterLine, dropWhile_line h, List.dropWhile_cons_of_neg (by simp)]
  rfl

theorem afterLine_of_not_mem {body : List Char} (h : '\n' ∉ body) : afterLine body = [] := by
  have hdrop := dropWhile_line h []
  rw [List.append_nil] at hdrop
  rw [afterLine, hdrop]
  rfl

/-- A line comment ends with its line or with the text. -/
theorem exists_line (cs : List Char) : ∃ body, '\n' ∉ body ∧
    (cs = body ++ '\n' :: afterLine cs ∨ cs = body ∧ afterLine cs = []) := by
  by_cases hmem : '\n' ∈ cs
  · obtain ⟨body, tail, rfl, hbody⟩ := List.eq_append_cons_of_mem hmem
    exact ⟨body, hbody, .inl (by rw [afterLine_append hbody])⟩
  · exact ⟨cs, hmem, .inr ⟨rfl, afterLine_of_not_mem hmem⟩⟩

/-! ### Block comments -/

/-- The end of a comment does not begin within a text that does not hold it. -/
theorem not_ends_of_not_infix {c : Char} {body : List Char} (h : ¬['*', '/'] <:+: c :: body)
    {tail more : List Char} (htail : tail = [] ∨ tail.head? = some '*') (hc : c = '*') :
    body ++ tail ≠ '/' :: more := by
  intro heq
  cases body with
  | nil =>
    rw [List.nil_append] at heq
    rcases htail with rfl | hhead
    · cases heq
    · rw [heq] at hhead
      simp at hhead
  | cons d body =>
    obtain ⟨rfl, -⟩ := List.cons.inj heq
    exact h ⟨[], body, by rw [hc]; rfl⟩

theorem afterBlock_append {body tail : List Char} (h : ¬['*', '/'] <:+: body)
    (htail : tail = [] ∨ tail.head? = some '*') : afterBlock (body ++ tail) = afterBlock tail := by
  induction body with
  | nil => rfl
  | cons c body ih =>
    have hbody : ¬['*', '/'] <:+: body := fun hin => h (List.infix_cons hin)
    rw [List.cons_append, afterBlock]
    · exact ih hbody
    · intro more hc heq
      exact not_ends_of_not_infix h htail hc heq

/-- A block comment ends where its end is first found or with the text. -/
theorem exists_block (cs : List Char) : ∃ body, ¬['*', '/'] <:+: body ∧
    (cs = body ++ '*' :: '/' :: afterBlock cs ∨ cs = body ∧ afterBlock cs = []) := by
  fun_induction afterBlock cs with
  | case1 rest => exact ⟨[], by simp, .inl rfl⟩
  | case2 c rest hopen ih =>
    obtain ⟨body, hbody, htext⟩ := ih
    have hmore : ¬['*', '/'] <:+: c :: body := by
      intro hin
      rcases List.infix_cons_iff.mp hin with hprefix | hin
      · -- the end would stand where the text begins
        obtain ⟨hc, hslash⟩ := List.cons_prefix_cons.mp hprefix
        obtain ⟨more, rfl⟩ := hslash
        rcases htext with htext | ⟨htext, -⟩
        · exact hopen _ hc.symm htext
        · exact hopen _ hc.symm htext
      · exact hbody hin
    refine ⟨c :: body, hmore, htext.imp ?_ ?_⟩
    · exact congrArg (c :: ·)
    · exact And.imp_left (congrArg (c :: ·))
  | case3 => exact ⟨[], by simp, .inr ⟨rfl, rfl⟩⟩

/-! ### At the head of a text -/

theorem piece_of_blank {c : Char} (hc : Text.isBlank c = true) (offset : Nat) (cs : List Char) :
    piece offset (c :: cs) = .ok (none, cs) := by
  have hne : ∀ {d : Char} {ds : List Char}, Text.isBlank d = false → c :: cs ≠ d :: ds := by
    rintro d ds hd ⟨⟩
    rw [hc] at hd
    cases hd
  unfold piece
  split
  · next heq => cases heq
  · next heq => exact absurd heq (hne rfl)
  · next heq => exact absurd heq (hne rfl)
  · next heq => exact absurd heq (hne rfl)
  · next heq => exact absurd heq (hne rfl)
  · next heq => exact absurd heq (hne rfl)
  · next heq =>
    cases heq
    rw [if_pos hc]

theorem Skipped.piece_eq (h : Skipped src) (offset : Nat) (rest : List Char) :
    piece offset (src ++ rest) = .ok (none, rest) := by
  cases h with
  | blank hc => exact piece_of_blank hc offset rest
  | @line body hbody =>
    have htext : body ++ ['\n'] ++ rest = body ++ '\n' :: rest := List.append_assoc _ _ _
    rw [List.cons_append, List.cons_append, htext, piece, afterLine_append hbody]
  | @block body hbody =>
    have htext : body ++ ['*', '/'] ++ rest = body ++ '*' :: '/' :: rest :=
      List.append_assoc _ _ _
    rw [List.cons_append, List.cons_append, htext, piece, afterBlock_append hbody (.inr rfl)]
    rfl

theorem OpenComment.piece_eq (h : OpenComment src) (offset : Nat) :
    piece offset src = .ok (none, []) := by
  cases h with
  | line hbody => rw [piece, afterLine_of_not_mem hbody]
  | @block body hbody =>
    have hend := afterBlock_append hbody (.inl rfl)
    rw [List.append_nil] at hend
    rw [piece, hend]
    rfl

/-- Nothing but blanks and comments is skipped, and only the last comment may be open. -/
theorem exists_skipped (hcs : cs ≠ []) (h : piece offset cs = .ok (none, rest)) :
    ∃ src, cs = src ++ rest ∧ (Skipped src ∨ OpenComment src ∧ rest = []) := by
  unfold piece at h
  split at h
  · exact absurd rfl hcs
  · next more =>
    cases h
    obtain ⟨body, hbody, htext | ⟨htext, hnil⟩⟩ := exists_line more
    · refine ⟨'-' :: '-' :: (body ++ ['\n']), ?_, .inl (.line hbody)⟩
      rw [List.cons_append, List.cons_append, List.append_assoc, List.singleton_append, ← htext]
    · refine ⟨'-' :: '-' :: body, ?_, .inr ⟨.line hbody, hnil⟩⟩
      rw [hnil, List.append_nil, htext]
  · next more =>
    cases h
    obtain ⟨body, hbody, htext | ⟨htext, hnil⟩⟩ := exists_block more
    · refine ⟨'/' :: '*' :: (body ++ ['*', '/']), ?_, .inl (.block hbody)⟩
      rw [List.cons_append, List.cons_append, List.append_assoc]
      exact congrArg ('/' :: '*' :: ·) htext
    · refine ⟨'/' :: '*' :: body, ?_, .inr ⟨.block hbody, hnil⟩⟩
      rw [hnil, List.append_nil, htext]
  · cases h
  · cases h
  · cases h
  · next c more _ _ _ _ _ =>
    split at h
    · next hblank =>
      cases h
      exact ⟨[c], rfl, .inl (.blank hblank)⟩
    · -- Everything else is a lexeme.
      split at h
      · obtain ⟨_, _, heq⟩ := bind_eq_ok_iff.mp h
        cases heq
      · split at h
        · obtain ⟨_, _, h⟩ := bind_eq_ok_iff.mp h
          obtain ⟨_, _, heq⟩ := bind_eq_ok_iff.mp h
          cases heq
        · split at h
          · cases h
          · split at h
            · cases h
            · split at h <;> cases h

/-! ## Piece by piece -/

/-- The text from an offset on is split into lexemes, piece by piece. -/
inductive SplitFrom : Nat → List Char → List Lexeme → Prop where
  | nil {offset : Nat} : SplitFrom offset [] []
  | skip {offset : Nat} {src rest : List Char} {ls : List Lexeme} : src ≠ [] →
    piece offset (src ++ rest) = .ok (none, rest) →
    SplitFrom (offset + byteLength src) rest ls → SplitFrom offset (src ++ rest) ls
  | lexeme {offset : Nat} {src rest : List Char} {kind : LexemeKind} {ls : List Lexeme} : src ≠ [] →
    piece offset (src ++ rest) = .ok (some kind, rest) →
    SplitFrom (offset + byteLength src) rest ls →
    SplitFrom offset (src ++ rest)
      (⟨kind, offset, offset + byteLength src, String.ofList src⟩ :: ls)

/-- Whatever is read has some text. -/
theorem exists_taken (hcs : cs ≠ []) (h : piece offset cs = .ok (kind?, rest)) :
    ∃ src, src ≠ [] ∧ cs = src ++ rest := by
  cases kind? with
  | none =>
    obtain ⟨src, htext, hskipped | ⟨hopen, -⟩⟩ := exists_skipped hcs h
    · exact ⟨src, hskipped.ne_nil, htext⟩
    · exact ⟨src, hopen.ne_nil, htext⟩
  | some kind =>
    obtain ⟨src, hsrc, htext, -⟩ := exists_source h
    exact ⟨src, hsrc, htext⟩

/-- A text is split into what stands at its head and what the rest is split into. -/
theorem lexemesFrom_of_piece (hsrc : src ≠ [])
    (h : piece offset (src ++ rest) = .ok (kind?, rest)) :
    lexemesFrom (fuel + 1) offset (src ++ rest) =
      (lexemesFrom fuel (offset + byteLength src) rest).map fun later =>
        (kind?.map fun kind =>
          ⟨kind, offset, offset + byteLength src, String.ofList src⟩).toList ++ later := by
  cases src with
  | nil => exact absurd rfl hsrc
  | cons c src =>
    have hsource :
        (c :: (src ++ rest)).take ((src ++ rest).length + 1 - rest.length) = c :: src := by
      rw [← List.cons_append]
      refine List.take_left' ?_
      simp only [List.length_append, List.length_cons]
      omega
    rw [List.cons_append] at h ⊢
    rw [lexemesFrom, h, ok_bind]
    dsimp only
    rw [hsource]
    cases lexemesFrom fuel (offset + byteLength (c :: src)) rest with
    | error e => rfl
    | ok later => cases kind? <;> rfl

theorem exists_piece_of_lexemesFrom (hcs : cs ≠ [])
    (h : lexemesFrom (fuel + 1) offset cs = .ok ls) : ∃ r, piece offset cs = .ok r := by
  cases cs with
  | nil => exact absurd rfl hcs
  | cons c cs =>
    obtain ⟨r, hpiece, -⟩ := bind_eq_ok_iff.mp h
    exact ⟨r, hpiece⟩

theorem splitFrom_of_lexemesFrom (hfuel : cs.length ≤ fuel)
    (h : lexemesFrom fuel offset cs = .ok ls) : SplitFrom offset cs ls := by
  induction fuel generalizing offset cs ls with
  | zero =>
    obtain rfl : cs = [] := List.eq_nil_of_length_eq_zero (Nat.le_zero.mp hfuel)
    cases h
    exact .nil
  | succ fuel ih =>
    by_cases hcs : cs = []
    · rw [hcs] at h ⊢
      cases h
      exact .nil
    · obtain ⟨⟨kind?, rest⟩, hpiece⟩ := exists_piece_of_lexemesFrom hcs h
      obtain ⟨src, hsrc, rfl⟩ := exists_taken hcs hpiece
      have hlength := List.length_pos_iff.mpr hsrc
      rw [List.length_append] at hfuel
      rw [lexemesFrom_of_piece hsrc hpiece] at h
      cases hlater : lexemesFrom fuel (offset + byteLength src) rest with
      | error e =>
        rw [hlater] at h
        cases h
      | ok later =>
        rw [hlater] at h
        cases h
        have hrest := ih (by omega) hlater
        cases kind? with
        | none => exact .skip hsrc hpiece hrest
        | some kind => exact .lexeme hsrc hpiece hrest

theorem SplitFrom.lexemesFrom_eq (h : SplitFrom offset cs ls) (hfuel : cs.length ≤ fuel) :
    lexemesFrom fuel offset cs = .ok ls := by
  induction h generalizing fuel with
  | nil => cases fuel <;> rfl
  | skip hsrc hpiece _ ih =>
    have hlength := List.length_pos_iff.mpr hsrc
    rw [List.length_append] at hfuel
    obtain ⟨fuel, rfl⟩ : ∃ n, fuel = n + 1 := ⟨fuel - 1, by omega⟩
    rw [lexemesFrom_of_piece hsrc hpiece, ih (by omega)]
    rfl
  | lexeme hsrc hpiece _ ih =>
    have hlength := List.length_pos_iff.mpr hsrc
    rw [List.length_append] at hfuel
    obtain ⟨fuel, rfl⟩ : ∃ n, fuel = n + 1 := ⟨fuel - 1, by omega⟩
    rw [lexemesFrom_of_piece hsrc hpiece, ih (by omega)]
    rfl

/-- The lexemes of a text are those that it is split into piece by piece. -/
theorem lexemes_eq_ok_iff : lexemes s = .ok ls ↔ SplitFrom 0 s.toList ls :=
  ⟨splitFrom_of_lexemesFrom le_rfl, fun h => h.lexemesFrom_eq le_rfl⟩

/-- Where the rest of a text is split, something is read there. -/
theorem SplitFrom.not_stuck (h : SplitFrom offset cs ls) : ¬Stuck cs := by
  intro hstuck
  cases h with
  | nil => exact hstuck offset _ rfl
  | skip _ hpiece _ => exact hstuck _ _ hpiece
  | lexeme _ hpiece _ => exact hstuck _ _ hpiece

theorem SplitFrom.source (h : SplitFrom offset cs ls) :
    ∀ l ∈ ls, Source l.source.toList l.kind := by
  induction h with
  | nil => exact fun _ hl => nomatch hl
  | skip _ _ _ ih => exact ih
  | @lexeme offset src rest kind ls _ hpiece hrest ih =>
    refine List.forall_mem_cons.mpr ⟨?_, ih⟩
    obtain ⟨src', _, htext, hsource⟩ := exists_source hpiece
    obtain rfl : src = src' := List.append_cancel_right htext
    rw [String.toList_ofList]
    exact hsource hrest.not_stuck

/-! ## Lexemes on their own -/

/-- The text of a lexeme is split into this lexeme. -/
theorem Source.splitFrom (h : Source src kind) (offset : Nat) :
    SplitFrom offset src [⟨kind, offset, offset + byteLength src, String.ofList src⟩] := by
  have hsplit : SplitFrom offset (src ++ [])
      [⟨kind, offset, offset + byteLength src, String.ofList src⟩] :=
    .lexeme h.ne_nil (h.piece_eq ends_nil offset) .nil
  rwa [List.append_nil] at hsplit

/-- Lexemes that are set apart by single spaces are split into the same lexemes. -/
theorem exists_splitFrom_spaced (h : ∀ l ∈ ls, Source l.source.toList l.kind) (offset : Nat) :
    ∃ ms, SplitFrom offset ([' '].intercalate (ls.map (·.source.toList))) ms ∧
      ms.map (fun m => (m.kind, m.source)) = ls.map fun l => (l.kind, l.source) := by
  induction ls generalizing offset with
  | nil => exact ⟨[], .nil, rfl⟩
  | cons l ls ih =>
    obtain ⟨hl, hls⟩ := List.forall_mem_cons.mp h
    cases ls with
    | nil =>
      refine ⟨_, by simpa using hl.splitFrom offset, ?_⟩
      simp
    | cons m ls =>
      obtain ⟨ms, hms, hkinds⟩ := ih hls (offset + byteLength l.source.toList + 1)
      have htext : [' '].intercalate ((l :: m :: ls).map (·.source.toList)) =
          l.source.toList ++ ([' '] ++ [' '].intercalate ((m :: ls).map (·.source.toList))) := by
        simp [List.intercalate_cons_cons]
      have hspace : SplitFrom (offset + byteLength l.source.toList)
          ([' '] ++ [' '].intercalate ((m :: ls).map (·.source.toList))) ms :=
        .skip (List.cons_ne_nil _ _) rfl hms
      rw [htext]
      refine ⟨_, .lexeme hl.ne_nil (hl.piece_eq ends_space offset) hspace, ?_⟩
      rw [List.map_cons, hkinds, String.ofList_toList]
      rfl

/-! ## Gaps -/

/-- Blanks and comments, each with its end. -/
inductive Skips : List Char → Prop where
  | nil : Skips []
  | cons {src rest : List Char} : Skipped src → Skips rest → Skips (src ++ rest)

/-- White space and comments, the last of which may be open. -/
inductive Gap : List Char → Prop where
  | closed {cs : List Char} : Skips cs → Gap cs
  | unclosed {cs comment : List Char} : Skips cs → OpenComment comment → Gap (cs ++ comment)

theorem Gap.skip (h : Gap gap) (hsrc : Skipped src) : Gap (src ++ gap) := by
  cases h with
  | closed hskips => exact .closed (.cons hsrc hskips)
  | unclosed hskips hopen =>
    rw [← List.append_assoc]
    exact .unclosed (.cons hsrc hskips) hopen

/-- Blanks and comments are skipped in front of whatever follows. -/
theorem Skips.splitFrom (h : Skips gap) (hrest : SplitFrom (offset + byteLength gap) rest ls) :
    SplitFrom offset (gap ++ rest) ls := by
  induction h generalizing offset with
  | nil => exact hrest
  | cons hsrc _ ih =>
    rw [byteLength_append, ← Nat.add_assoc] at hrest
    rw [List.append_assoc]
    exact .skip hsrc.ne_nil (hsrc.piece_eq offset _) (ih hrest)

theorem Gap.splitFrom (h : Gap gap) (offset : Nat) : SplitFrom offset gap [] := by
  cases h with
  | closed hskips =>
    have hsplit : SplitFrom offset (gap ++ []) [] := hskips.splitFrom .nil
    rwa [List.append_nil] at hsplit
  | @unclosed cs comment hskips hopen =>
    have hcomment : SplitFrom (offset + byteLength cs) (comment ++ []) [] := by
      refine .skip hopen.ne_nil ?_ .nil
      rw [List.append_nil]
      exact hopen.piece_eq _
    rw [List.append_nil] at hcomment
    exact hskips.splitFrom hcomment

theorem SplitFrom.eq_nil (h : SplitFrom offset [] ls) : ls = [] := by
  have hnone : lexemesFrom 0 offset [] = .ok ls := h.lexemesFrom_eq le_rfl
  exact (Except.ok.inj hnone).symm

/-- A text without lexemes is a gap. -/
theorem gap_of_splitFrom (h : SplitFrom offset cs []) : Gap cs := by
  generalize hls : ([] : List Lexeme) = ls at h
  induction h with
  | nil => exact .closed .nil
  | @skip offset src rest ls hsrc hpiece _ ih =>
    obtain ⟨src', htext, hskipped | ⟨hopen, hnil⟩⟩ :=
      exists_skipped (List.append_ne_nil_of_left_ne_nil hsrc _) hpiece
    · obtain rfl : src = src' := List.append_cancel_right htext
      exact (ih hls).skip hskipped
    · rw [htext, hnil, List.append_nil]
      exact .unclosed .nil hopen
  | lexeme => cases hls

/-- **Gaps.**  A text is split into no lexemes if and only if it is white space and comments. -/
theorem lexemes_eq_nil_iff : lexemes s = .ok [] ↔ Gap s.toList := by
  rw [lexemes_eq_ok_iff]
  exact ⟨gap_of_splitFrom, fun h => h.splitFrom 0⟩

theorem Gap.lexemes_eq (h : Gap gap) : lexemes (String.ofList gap) = .ok [] := by
  rw [lexemes_eq_nil_iff, String.toList_ofList]
  exact h

/-! ## Lexemes and gaps -/

/-- The text from an offset on is made up of lexemes and gaps, in order.  Gaps are white space and
comments and are split into no lexemes; an open comment stands in the last one only.  Each lexeme is
split on its own as it is within the text. -/
inductive Laid : Nat → List Char → List Lexeme → Prop where
  | last {offset : Nat} {gap : List Char} : Gap gap → lexemes (String.ofList gap) = .ok [] →
    Laid offset gap []
  | next {offset : Nat} {gap rest : List Char} {l : Lexeme} {ls : List Lexeme} : Skips gap →
    lexemes (String.ofList gap) = .ok [] →
    l.start = offset + byteLength gap → l.stop = l.start + byteLength l.source.toList →
    l.source ≠ "" → lexemes l.source = .ok [⟨l.kind, 0, l.source.utf8ByteSize, l.source⟩] →
    Laid l.stop rest ls → Laid offset (gap ++ (l.source.toList ++ rest)) (l :: ls)

theorem Laid.of_gap (h : Gap gap) (offset : Nat) : Laid offset gap [] := .last h h.lexemes_eq

theorem Laid.skip (h : Laid (offset + byteLength src) rest ls) (hsrc : Skipped src) :
    Laid offset (src ++ rest) ls := by
  cases h with
  | last hgap => exact .of_gap (hgap.skip hsrc) offset
  | next hgap _ hstart hstop hne hlexeme hrest =>
    have hmore := Skips.cons hsrc hgap
    rw [← List.append_assoc]
    refine .next hmore (Gap.closed hmore).lexemes_eq ?_ hstop hne hlexeme hrest
    rw [hstart, byteLength_append, Nat.add_assoc]

/-- A text that is split is made up of its lexemes and of gaps. -/
theorem SplitFrom.laid (h : SplitFrom offset cs ls) : Laid offset cs ls := by
  induction h with
  | nil => exact .of_gap (.closed .nil) _
  | @skip offset src rest ls hsrc hpiece hrest ih =>
    obtain ⟨src', htext, hskipped | ⟨hopen, hnil⟩⟩ :=
      exists_skipped (List.append_ne_nil_of_left_ne_nil hsrc _) hpiece
    · obtain rfl : src = src' := List.append_cancel_right htext
      exact ih.skip hskipped
    · subst hnil
      obtain rfl := hrest.eq_nil
      rw [htext, List.append_nil]
      exact .of_gap (.unclosed .nil hopen) offset
  | @lexeme offset src rest kind ls hsrc hpiece hrest ih =>
    have hsource : Source src kind := by
      have hall := (SplitFrom.lexeme hsrc hpiece hrest).source _ List.mem_cons_self
      rwa [String.toList_ofList] at hall
    have hne : String.ofList src ≠ "" := fun hnil => hsrc (by
      rw [← String.toList_ofList (l := src), hnil]
      rfl)
    have htext : src ++ rest = [] ++ ((String.ofList src).toList ++ rest) := by
      rw [String.toList_ofList, List.nil_append]
    rw [htext]
    refine Laid.next (l := ⟨kind, offset, offset + byteLength src, String.ofList src⟩) .nil rfl rfl
      ?_ hne ?_ ih
    · rw [String.toList_ofList]
    · rw [lexemes_eq_ok_iff, String.toList_ofList, utf8ByteSize_ofList]
      have halone := hsource.splitFrom 0
      rwa [Nat.zero_add] at halone

theorem Laid.offset_le (h : Laid offset cs ls) : ∀ l ∈ ls, offset ≤ l.start := by
  induction h with
  | last => exact fun _ hl => nomatch hl
  | next _ _ hstart hstop _ _ _ ih =>
    refine List.forall_mem_cons.mpr ⟨by omega, fun l hl => ?_⟩
    have := ih l hl
    omega

/-- Lexemes have some text and do not overlap. -/
theorem Laid.spans (h : Laid offset cs ls) :
    (∀ l ∈ ls, l.start < l.stop) ∧ ls.Pairwise fun l m => l.stop ≤ m.start := by
  induction h with
  | last => exact ⟨fun _ hl => (nomatch hl), .nil⟩
  | @next _ _ _ l _ _ _ _ hstop hne _ hrest ih =>
    have hpos : 0 < byteLength l.source.toList :=
      byteLength_pos fun hnil => hne (String.toList_eq_nil_iff.mp hnil)
    exact ⟨List.forall_mem_cons.mpr ⟨by omega, ih.1⟩, .cons hrest.offset_le ih.2⟩

/-- The text of a lexeme stands where the lexeme says. -/
theorem Laid.exists_text (h : Laid offset cs ls) (hl : l ∈ ls) :
    ∃ before after, cs = before ++ (l.source.toList ++ after) ∧
      l.start = offset + byteLength before ∧ l.stop = l.start + byteLength l.source.toList ∧
      l.source ≠ "" := by
  induction h with
  | last => cases hl
  | @next offset gap rest m ls _ _ hstart hstop hne _ _ ih =>
    rcases List.mem_cons.mp hl with rfl | hl
    · exact ⟨gap, rest, rfl, hstart, hstop, hne⟩
    · obtain ⟨before, after, rfl, hstart', hspan⟩ := ih hl
      refine ⟨gap ++ (m.source.toList ++ before), after, by simp, ?_, hspan⟩
      rw [hstart', hstop, hstart, byteLength_append, byteLength_append]
      omega

end Crosstab.Clause
