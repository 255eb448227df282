import Crosstab.Proofs.Sql.Reread
import Crosstab.Proofs.Sql.Substituted

/-!
# Statements with aliases put in

A statement may be written under aliases: a column that has a text is written as this text in
parentheses, everything else as it is (`Condition.sqlUnder`).  A condition with the texts put in is
written as the condition itself is under the aliases (`sql_of_substituted`).

On the way, texts are put into the tokens of a statement (`Aliases.put`).  They only replace
columns, so every form of a statement may be built before or after.
-/

namespace Crosstab

open Sql (Token ClauseEmit)

/-! ## Writing under aliases -/

/-- The text of a token; a column that has a text is written as this text in parentheses. -/
def Sql.Token.textUnder (aliases : Aliases) (d : Dialect) : Token → String
  | .path parts => match aliases.text? (String.intercalate "." parts) with
    | some text => "(" ++ text ++ ")"
    | none => Token.text d (.path parts)
  | t => t.text d

/-- The text of a list of tokens under aliases. -/
def Sql.renderUnder (aliases : Aliases) (d : Dialect) (ts : List Token) : String :=
  String.join (ts.map (Token.textUnder aliases d))

/-- A condition as text, with columns that have a text written as this text in parentheses. -/
def Condition.sqlUnder (aliases : Aliases) (d : Dialect) (p : Condition) : Outcome String := do
  return Sql.renderUnder aliases d (← p.emit (Clause.emit d) d)

namespace Aliases

open Sql

variable {aliases : Aliases}

/-- The tokens of a column that has a text are this text in parentheses. -/
def tokens (aliases : Aliases) : Token → List Token
  | .path parts => match aliases.text? (String.intercalate "." parts) with
    | some text => parens [.raw text]
    | none => [.path parts]
  | t => [t]

/-- Puts texts in place of columns. -/
def put (aliases : Aliases) (ts : List Token) : List Token := ts.flatMap aliases.tokens

theorem render_parens_raw (d : Dialect) (text : String) :
    render d (parens [.raw text]) = "(" ++ text ++ ")" := by
  simp [render, parens, Token.text, Mark.text, String.append_assoc]

theorem render_tokens (d : Dialect) (t : Token) :
    render d (aliases.tokens t) = t.textUnder aliases d := by
  cases t with
  | path parts =>
    simp only [tokens, Token.textUnder]
    cases aliases.text? (String.intercalate "." parts) with
    | none => simp [render]
    | some text => exact render_parens_raw d text
  | _ => simp [tokens, Token.textUnder, render]

theorem render_put (d : Dialect) (ts : List Token) :
    render d (aliases.put ts) = renderUnder aliases d ts := by
  induction ts with
  | nil => rfl
  | cons t ts ih =>
    rw [put, List.flatMap_cons, render_append, render_tokens, ← put, ih]
    simp [renderUnder]

/-! ### Forms of statements -/

@[simp] theorem tokens_word (w : Word) : aliases.tokens (.word w) = [.word w] := rfl

@[simp] theorem tokens_mark (m : Mark) : aliases.tokens (.mark m) = [.mark m] := rfl

@[simp] theorem tokens_space : aliases.tokens .space = [.space] := rfl

@[simp] theorem put_nil : aliases.put [] = [] := rfl

@[simp] theorem put_cons (t : Token) (ts : List Token) :
    aliases.put (t :: ts) = aliases.tokens t ++ aliases.put ts := List.flatMap_cons

@[simp] theorem put_append (ts us : List Token) :
    aliases.put (ts ++ us) = aliases.put ts ++ aliases.put us := List.flatMap_append

theorem put_column (name : String) :
    aliases.put (column name) = match aliases.text? name with
      | some text => parens [.raw text]
      | none => column name := by
  have hname : String.intercalate "." (nameParts name) = name := by
    apply String.toList_inj.mp
    rw [String.toList_intercalate, nameParts, List.map_map]
    simpa [Function.comp_def] using Text.intercalate_parts '.' name.toList
  simp only [column, put, List.flatMap_singleton, tokens, hname]

@[simp] theorem put_parens (ts : List Token) :
    aliases.put (parens ts) = parens (aliases.put ts) := by
  simp [parens]

theorem put_between {op : Token} (hop : aliases.tokens op = [op]) (left right : List Token) :
    aliases.put (between left op right) = between (aliases.put left) op (aliases.put right) := by
  simp [between, hop]

@[simp] theorem put_between_word (w : Word) (left right : List Token) :
    aliases.put (between left (.word w) right) =
      between (aliases.put left) (.word w) (aliases.put right) := put_between rfl left right

@[simp] theorem put_between_mark (m : Mark) (left right : List Token) :
    aliases.put (between left (.mark m) right) =
      between (aliases.put left) (.mark m) (aliases.put right) := put_between rfl left right

@[simp] theorem put_commaList : ∀ forms : List (List Token),
    aliases.put (commaList forms) = commaList (forms.map aliases.put)
  | [] => rfl
  | [ts] => rfl
  | ts :: us :: rest => by
    have ih := put_commaList (us :: rest)
    rw [List.map_cons] at ih
    simp [commaList, ih]

@[simp] theorem put_call (function : String) (args : List (List Token)) :
    aliases.put (call function args) = call function (args.map aliases.put) := by
  simp [call, tokens]

@[simp] theorem put_negate (ts : List Token) :
    aliases.put (negate ts) = negate (aliases.put ts) := by
  simp [negate]

@[simp] theorem put_negateIf (negated : Bool) (ts : List Token) :
    aliases.put (negateIf negated ts) = negateIf negated (aliases.put ts) := by
  cases negated with
  | false => rfl
  | true => exact put_negate ts

@[simp] theorem put_cast (ts : List Token) (type : String) :
    aliases.put (Sql.cast ts type) = Sql.cast (aliases.put ts) type := by
  simp [Sql.cast, tokens]

@[simp] theorem put_concat (d : Dialect) (left right : List Token) :
    aliases.put (concat d left right) = concat d (aliases.put left) (aliases.put right) := by
  cases d <;> simp [concat, tokens]

@[simp] theorem put_divide (d : Dialect) (n m : List Token) :
    aliases.put (divide d n m) = divide d (aliases.put n) (aliases.put m) := by
  cases d <;> simp [divide, tokens]

@[simp] theorem put_divideOr (d : Dialect) (n m : List Token) (fill : Binary64) :
    aliases.put (divideOr d n m fill) = divideOr d (aliases.put n) (aliases.put m) fill := by
  simp [divideOr, tokens]

@[simp] theorem put_binary (d : Dialect) (op : BinaryOp) (left right : List Token) :
    aliases.put (binary d op left right) =
      binary d op (aliases.put left) (aliases.put right) := by
  cases op with
  | add | sub | mul => exact put_between rfl left right
  | div => exact put_divideOr d left right Binary64.zero
  | concat => exact put_concat d left right

@[simp] theorem put_regexCall (function : String) (expr pattern : List Token) (flags : String) :
    aliases.put (regexCall function expr pattern flags) =
      regexCall function (aliases.put expr) (aliases.put pattern) flags := by
  cases hflags : flags.isEmpty <;> simp [regexCall, hflags, tokens]

@[simp] theorem put_regexSearch (d : Dialect) (expr pattern : List Token) (flags : String) :
    aliases.put (regexSearch d expr pattern flags) =
      regexSearch d (aliases.put expr) (aliases.put pattern) flags := by
  cases d with
  | ansi => exact put_regexCall _ expr pattern flags
  | duckdb => exact put_regexCall _ expr pattern flags
  | bigquery =>
    cases hflags : flags.isEmpty <;> simp [regexSearch, hflags, tokens]

@[simp] theorem put_likeMatch (d : Dialect) (expr pattern : List Token) (ignoreCase : Bool) :
    aliases.put (likeMatch d expr pattern ignoreCase) =
      likeMatch d (aliases.put expr) (aliases.put pattern) ignoreCase := by
  unfold likeMatch
  split
  · exact put_between rfl expr pattern
  · split
    · exact put_between rfl expr pattern
    · rw [put_between rfl, put_call, put_call]
      rfl

@[simp] theorem put_quotient (d : Dialect) (n m : List Token) (fill : Binary64) :
    aliases.put <$> quotient d n m fill = quotient d (aliases.put n) (aliases.put m) fill := by
  unfold quotient
  split
  · rw [← put_divideOr]
    rfl
  · rfl

/-- A literal is no column. -/
theorem tokens_of_literal {c : Cell} {t : Token} (h : literal c = .ok t) :
    aliases.tokens t = [t] := by
  cases c with
  | float x =>
    simp only [literal] at h
    split at h
    · cases h
      rfl
    · cases h
  | _ =>
    cases h
    rfl

/-- Literals are no columns. -/
theorem put_members {values : List Cell} {ts : List Token} (h : values.mapM literal = .ok ts) :
    (ts.map fun t => [t]).map aliases.put = ts.map fun t => [t] := by
  rw [List.map_map]
  refine List.map_congr_left fun t ht => ?_
  obtain ⟨i, hi⟩ := List.mem_iff_getElem?.mp ht
  obtain ⟨c, _, hc⟩ := getElem?_of_mapM_eq_ok h hi
  rw [Function.comp_apply, put_cons, tokens_of_literal hc, put_nil, List.append_nil]

end Aliases

/-! ## Conditions with texts put in -/

/-- What stands for a clause is written as the clause is under the aliases. -/
def PutsIn {κ : Type} (h : κ → Outcome PlainCondition) (w : ClauseEmit κ) (aliases : Aliases)
    (d : Dialect) : Prop :=
  ∀ c q, h c = .ok q → q.emit noClauses d = aliases.put <$> w c

/-- Whether a pattern is checked depends on its shape, and what is a literal stays one. -/
theorem checkPattern_of_substitute {κ : Type} {h : κ → Outcome PlainCondition} {aliases : Aliases}
    {pattern : Scalar κ} {pattern' : Scalar Empty} (flags : String)
    (hpattern : pattern.substitute h aliases = .ok pattern') :
    Sql.checkPattern pattern' flags = Sql.checkPattern pattern flags := by
  cases pattern with
  | literal value =>
    cases hpattern
    cases value <;> rfl
  | column name =>
    rw [Scalar.substitute_column] at hpattern
    cases hpattern
    cases aliases.text? name <;> rfl
  | binary op l r =>
    obtain ⟨l', r', _, _, hpure⟩ := bind_both_eq_ok_iff.mp hpattern
    cases hpure
    rfl
  | safeDiv n m fill =>
    obtain ⟨n', m', _, _, hpure⟩ := bind_both_eq_ok_iff.mp hpattern
    cases hpure
    rfl
  | coalesce args =>
    obtain ⟨args', _, hpure⟩ := bind_eq_ok_iff.mp hpattern
    cases hpure
    rfl
  | caseWhen branches otherwise =>
    cases otherwise with
    | none =>
      obtain ⟨branches', _, hpure⟩ := bind_eq_ok_iff.mp hpattern
      cases hpure
      rfl
    | some last =>
      obtain ⟨branches', last', _, _, hpure⟩ := bind_both_eq_ok_iff.mp hpattern
      cases hpure
      rfl
  | fragment text =>
    cases hpattern
    rfl

theorem exists_cons_of_substituteBranches {κ : Type} {h : κ → Outcome PlainCondition}
    {aliases : Aliases} {b : Predicate κ × Scalar κ} {bs : List (Predicate κ × Scalar κ)}
    {bs' : List (PlainCondition × Scalar Empty)}
    (hbs : Scalar.substituteBranches h aliases (b :: bs) = .ok bs') :
    ∃ b' rest, bs' = b' :: rest := by
  obtain ⟨p', _, hmore⟩ := bind_eq_ok_iff.mp hbs
  obtain ⟨e', rest', _, _, hpure⟩ := bind_both_eq_ok_iff.mp hmore
  cases hpure
  exact ⟨_, _, rfl⟩

section

variable {κ : Type} {h : κ → Outcome PlainCondition} {w : ClauseEmit κ} {aliases : Aliases}
  {d : Dialect}

mutual

theorem Scalar.emit_of_substitute (hC : PutsIn h w aliases d) :
    ∀ (e : Scalar κ) {e' : Scalar Empty}, e.substitute h aliases = .ok e' →
      e'.emit noClauses d = aliases.put <$> e.emit w d
  | .column name, e', he => by
    rw [Scalar.substitute_column] at he
    cases he
    simp only [Scalar.emit, Except.map_ok, Aliases.put_column]
    cases aliases.text? name <;> rfl
  | .literal value, _, he => by
    cases he
    simp only [Scalar.emit]
    cases hvalue : Sql.literal value with
    | error => rfl
    | ok t =>
      simp [Aliases.tokens_of_literal hvalue]
  | .binary op l r, e', he => by
    obtain ⟨l', r', hl, hr, hpure⟩ := bind_both_eq_ok_iff.mp he
    cases hpure
    simp [Scalar.emit, Scalar.emit_of_substitute hC l hl, Scalar.emit_of_substitute hC r hr]
  | .safeDiv n m fill, e', he => by
    obtain ⟨n', m', hn, hm, hpure⟩ := bind_both_eq_ok_iff.mp he
    cases hpure
    simp [Scalar.emit, Scalar.emit_of_substitute hC n hn, Scalar.emit_of_substitute hC m hm]
  | .coalesce args, e', he => by
    obtain ⟨args', hargs, hpure⟩ := bind_eq_ok_iff.mp he
    cases hpure
    simp only [Scalar.emit, Scalar.emitList_of_substitute hC args hargs, map_bind, bind_map_left]
    congr 1
    funext forms
    cases forms with
    | nil => rfl
    | cons form forms => exact congrArg Except.ok (Aliases.put_call _ _).symm
  | .caseWhen [] none, _, he => by
    cases he
    rfl
  | .caseWhen [] (some last), _, he => by
    obtain ⟨bs', last', hbs, hlast, hpure⟩ := bind_both_eq_ok_iff.mp he
    cases hpure
    cases hbs
    simp only [Scalar.emit, Scalar.emit_of_substitute hC last hlast]
  | .caseWhen (b :: branches) none, e', he => by
    obtain ⟨bs', hbs, hpure⟩ := bind_eq_ok_iff.mp he
    cases hpure
    -- A case distinction with branches keeps some, so it is written as one.
    have hbody := Scalar.emitBranches_of_substitute hC (b :: branches) hbs
    obtain ⟨b', rest', rfl⟩ := exists_cons_of_substituteBranches hbs
    simp [Scalar.emit, hbody]
  | .caseWhen (b :: branches) (some last), e', he => by
    obtain ⟨bs', last', hbs, hlast, hpure⟩ := bind_both_eq_ok_iff.mp he
    cases hpure
    have hbody := Scalar.emitBranches_of_substitute hC (b :: branches) hbs
    obtain ⟨b', rest', rfl⟩ := exists_cons_of_substituteBranches hbs
    simp [Scalar.emit, hbody, Scalar.emit_of_substitute hC last hlast]
  | .fragment text, _, he => by
    cases he
    simp only [Scalar.emit, Except.map_ok, Aliases.put_parens]
    rfl
termination_by structural e => e

theorem Scalar.emitList_of_substitute (hC : PutsIn h w aliases d) :
    ∀ (es : List (Scalar κ)) {es' : List (Scalar Empty)},
      Scalar.substituteList h aliases es = .ok es' →
        Scalar.emitList noClauses d es' = (List.map aliases.put) <$> Scalar.emitList w d es
  | [], _, hes => by
    cases hes
    rfl
  | e :: rest, es', hes => by
    obtain ⟨e', rest', he, hrest, hpure⟩ := bind_both_eq_ok_iff.mp hes
    cases hpure
    simp [Scalar.emitList, Scalar.emit_of_substitute hC e he,
      Scalar.emitList_of_substitute hC rest hrest]
termination_by structural es => es

theorem Scalar.emitBranches_of_substitute (hC : PutsIn h w aliases d) :
    ∀ (bs : List (Predicate κ × Scalar κ)) {bs' : List (PlainCondition × Scalar Empty)},
      Scalar.substituteBranches h aliases bs = .ok bs' →
        Scalar.emitBranches noClauses d bs' = aliases.put <$> Scalar.emitBranches w d bs
  | [], _, hbs => by
    cases hbs
    rfl
  | (p, e) :: rest, bs', hbs => by
    obtain ⟨p', hp, hmore⟩ := bind_eq_ok_iff.mp hbs
    obtain ⟨e', rest', he, hrest, hpure⟩ := bind_both_eq_ok_iff.mp hmore
    cases hpure
    simp [Scalar.emitBranches, Predicate.emit_of_substitute hC p hp,
      Scalar.emit_of_substitute hC e he, Scalar.emitBranches_of_substitute hC rest hrest]
termination_by structural bs => bs

/-- A predicate with texts put in is written as the predicate is, with the texts put in there. -/
theorem Predicate.emit_of_substitute (hC : PutsIn h w aliases d) :
    ∀ (p : Predicate κ) {q : PlainCondition}, p.substitute h aliases = .ok q →
      q.emit noClauses d = aliases.put <$> p.emit w d
  | .compare op l r, q, hp => by
    obtain ⟨l', r', hl, hr, hpure⟩ := bind_both_eq_ok_iff.mp hp
    cases hpure
    simp [Predicate.emit, Scalar.emit_of_substitute hC l hl,
      Scalar.emit_of_substitute hC r hr]
  | .member e [], q, hp => by
    obtain ⟨e', he, hpure⟩ := bind_eq_ok_iff.mp hp
    cases hpure
    rfl
  | .member e (v :: values), q, hp => by
    obtain ⟨e', he, hpure⟩ := bind_eq_ok_iff.mp hp
    cases hpure
    simp only [Predicate.emit, Scalar.emit_of_substitute hC e he, map_bind, bind_map_left]
    -- The members are no part of the operand, and their literals hold no columns.
    cases hmembers : (v :: values).mapM Sql.literal with
    | error => rfl
    | ok members =>
      simp only [ok_bind, map_pure, Aliases.put_between_word, Aliases.put_parens,
        Aliases.put_commaList, Aliases.put_members hmembers]
  | .range e low high bounds, q, hp => by
    obtain ⟨e', he, hpure⟩ := bind_eq_ok_iff.mp hp
    cases hpure
    simp only [Predicate.emit, Scalar.emit_of_substitute hC e he, map_bind, bind_map_left]
    cases hlow : Sql.literal low with
    | error => rfl
    | ok below =>
      cases hhigh : Sql.literal high with
      | error => rfl
      | ok above =>
        simp only [ok_bind, map_pure, Aliases.put_parens, Aliases.put_append, Aliases.put_cons,
          Aliases.put_nil, Aliases.tokens_of_literal hlow, Aliases.tokens_of_literal hhigh,
          Aliases.tokens_word, Aliases.tokens_mark, Aliases.tokens_space, List.cons_append,
          List.nil_append]
  | .isNull e, q, hp => by
    obtain ⟨e', he, hpure⟩ := bind_eq_ok_iff.mp hp
    cases hpure
    simp [Predicate.emit, Scalar.emit_of_substitute hC e he]
  | .join op l r, q, hp => by
    obtain ⟨l', r', hl, hr, hpure⟩ := bind_both_eq_ok_iff.mp hp
    cases hpure
    simp [Predicate.emit, Predicate.emit_of_substitute hC l hl,
      Predicate.emit_of_substitute hC r hr]
  | .not p, q, hp => by
    obtain ⟨p', hinner, hpure⟩ := bind_eq_ok_iff.mp hp
    cases hpure
    simp [Predicate.emit, Predicate.emit_of_substitute hC p hinner]
  | .like e pattern ignoreCase negated, q, hp => by
    obtain ⟨e', pattern', he, hpattern, hpure⟩ := bind_both_eq_ok_iff.mp hp
    cases hpure
    simp [Predicate.emit, Scalar.emit_of_substitute hC e he,
      Scalar.emit_of_substitute hC pattern hpattern]
  | .regex e pattern flags negated, q, hp => by
    obtain ⟨e', pattern', he, hpattern, hpure⟩ := bind_both_eq_ok_iff.mp hp
    cases hpure
    simp [Predicate.emit, checkPattern_of_substitute _ hpattern,
      Scalar.emit_of_substitute hC e he, Scalar.emit_of_substitute hC pattern hpattern]
  | .clause c, q, hp => hC c q hp
termination_by structural p => p

end

end

theorem noClauses_putsIn (aliases : Aliases) (d : Dialect) :
    PutsIn noClauses noClauses aliases d := by
  intro c
  exact nomatch c

theorem Clause.substitute_putsIn (aliases : Aliases) (d : Dialect) :
    PutsIn (Clause.substitute aliases) (Clause.emit d) aliases d := by
  intro c q hq
  obtain ⟨p, hp, hsub⟩ := bind_eq_ok_iff.mp hq
  rw [Clause.emit_of_parsed hp]
  exact Predicate.emit_of_substitute (noClauses_putsIn aliases d) p hsub

/-- **A condition with texts put in is written as the condition is under the aliases**, with the
same errors, in every dialect.  Putting the texts in fails if and only if a clause does not read. -/
theorem sql_of_substituted (p : Condition) (aliases : Aliases) :
    (∀ q, p.substituted aliases = .ok q → ∀ d, q.sql d = p.sqlUnder aliases d) ∧
    ((∃ e, p.substituted aliases = .error e) ↔ ∃ c ∈ p.clauses, ∃ e, c.parsed = .error e) := by
  refine ⟨fun q hq d => ?_, ?_⟩
  · have hemit := Predicate.emit_of_substitute (Clause.substitute_putsIn aliases d) p hq
    simp only [PlainCondition.sql, Condition.sqlUnder, hemit, bind_map_left, Aliases.render_put]
  · simp only [exists_error_iff, Condition.substituted, Predicate.isOk_substitute,
      Clause.isOk_substitute, List.all_eq_false, Bool.not_eq_true]

theorem sql_fewCountedClicks : fewCountedClicks.sql .duckdb =
    .ok "(((SUM(\"clicks\")) >= 10) AND (NOT ((SUM(\"clicks\")) > \"site\")))" := by
  refine congrArg Except.ok ?_
  decide +kernel

/-- A comparison without operands. -/
def bareSign : Clause := ⟨">", .ansi⟩

theorem parsed_bareSign :
    bareSign.parsed = .error (.clause ⟨.expressionExpected, 0, some ">"⟩) := by
  have hbody : String.ofList (Clause.body ">") = ">" := by decide +kernel
  have hlexemes : Clause.lexemes ">" = .ok [⟨.sign .greater, 0, 1, ">"⟩] := rfl
  have hread : Clause.predicateOf ">" = .error ⟨.expressionExpected, 0, some ">"⟩ := by
    rw [Clause.predicateOf, hlexemes, ok_bind]
    rfl
  rw [bareSign, Clause.parsed, Clause.predicate, hbody, hread]
  rfl

/-- The clicks are written as they are counted, and a comparison without operands is refused. -/
theorem sql_of_substituted_fewClicks :
    fewClicks.substituted clicksAlias = .ok fewCountedClicks ∧
    fewClicks.sqlUnder clicksAlias .duckdb =
      .ok "(((SUM(\"clicks\")) >= 10) AND (NOT ((SUM(\"clicks\")) > \"site\")))" ∧
    bareSign.parsed = .error (.clause ⟨.expressionExpected, 0, some ">"⟩) ∧
    ∃ e, Condition.substituted (.not (.clause bareSign)) clicksAlias = .error e := by
  have hsql := (sql_of_substituted fewClicks clicksAlias).1 _ substituted_fewClicks .duckdb
  have hfails := (sql_of_substituted (.not (.clause bareSign)) clicksAlias).2
  exact ⟨substituted_fewClicks, hsql.symm.trans sql_fewCountedClicks, parsed_bareSign,
    hfails.mpr ⟨bareSign, List.mem_singleton_self _, _, parsed_bareSign⟩⟩

end Crosstab
