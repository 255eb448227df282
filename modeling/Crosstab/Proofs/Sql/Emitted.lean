import Crosstab.Proofs.Clause.Grammar
import Crosstab.Proofs.Sql.Written

/-!
# What the text of a condition reads as

`Scalar.ReadsAs` and `Predicate.ReadsAs` say that a form is written and that the text derives, in
the grammar of clauses, a given tree.  There is one lemma for each form of conditions, from the
trees of its parts to its own tree.

The tree need not be the one that was written: a range reads as two comparisons
(`Predicate.readsAs_range`), a membership in nothing as a comparison that is false
(`Predicate.readsAs_member_nil`), and a pattern that must not match as a negated match
(`Predicate.readsAs_like_negated`).
-/

namespace Crosstab

open Sql (Token Writes ClauseEmit)
open Clause (LexemeKind)

/-- The form is written and reads as a factor. -/
def Scalar.ReadsAs (d : Dialect) (form : Outcome (List Token)) (e : Scalar Empty) : Prop :=
  ∃ ts ks, form = .ok ts ∧ Writes d ts ks ∧ Clause.Grammar.Signed ks e

/-- The form is written and reads as a condition in parentheses. -/
def Predicate.ReadsAs (d : Dialect) (form : Outcome (List Token)) (q : PlainCondition) : Prop :=
  ∃ ts ks, form = .ok ts ∧ Writes d ts ks ∧ Clause.Grammar.Group ks q

theorem Clause.Grammar.Value.signed {ks : List LexemeKind} {c : Cell} (h : Grammar.Value ks c) :
    Grammar.Signed ks (.literal c) := by
  cases h with
  | negative numeral => exact .negative numeral
  | literal hk => exact .atom (.literal hk)

theorem Clause.Grammar.Signed.sum {ks : List LexemeKind} {e : Scalar Empty}
    (h : Grammar.Signed ks e) : Grammar.Sum ks e :=
  .product (.signed h)

theorem Clause.Grammar.Comparison.group {ks : List LexemeKind} {p : PlainCondition}
    (h : Grammar.Comparison ks p) : Grammar.Group (.leftParen :: ks ++ [.rightParen]) p :=
  .parens (.conjunction (.negation (.group (.comparison h))))

/-! ## Scalars -/

namespace Scalar

variable {κ : Type} {w : ClauseEmit κ} {d : Dialect} {l r : Scalar κ} {el er : Scalar Empty}

theorem readsAs_column (name : String) :
    ReadsAs d ((column (κ := κ) name).emit w d) (.column name) :=
  ⟨_, _, rfl, Sql.writes_column name, .atom (.name name)⟩

theorem readsAs_literal {value : Cell} (hvalue : value.Portable) :
    ReadsAs d ((literal (κ := κ) value).emit w d) (.literal value) := by
  obtain ⟨t, ks, ht, hwrites, hread⟩ := writes_literal hvalue
  have hemit : (literal (κ := κ) value).emit w d = .ok [t] := bind_eq_ok_iff.mpr ⟨t, ht, rfl⟩
  exact ⟨[t], ks, hemit, hwrites, hread.signed⟩

theorem readsAs_binary {op : BinaryOp} (hop : op = .add ∨ op = .sub ∨ op = .mul)
    (hl : ReadsAs d (l.emit w d) el) (hr : ReadsAs d (r.emit w d) er) :
    ReadsAs d ((binary op l r).emit w d) (.binary op el er) := by
  obtain ⟨ts, ks, hemitl, hwritesl, hreadl⟩ := hl
  obtain ⟨us, ls, hemitr, hwritesr, hreadr⟩ := hr
  have hemit : (binary op l r).emit w d = .ok (Sql.binary d op ts us) :=
    bind_eq_ok_iff.mpr ⟨ts, hemitl, bind_eq_ok_iff.mpr ⟨us, hemitr, rfl⟩⟩
  rcases hop with rfl | rfl | rfl
  · have hmark := Sql.writes_mark (d := d) (m := .plus) (s := .plus) rfl
    exact ⟨_, _, hemit, hwritesl.between hmark hwritesr,
      .atom (.parens (.add hreadl.sum (.signed hreadr)))⟩
  · have hmark := Sql.writes_mark (d := d) (m := .minus) (s := .minus) rfl
    exact ⟨_, _, hemit, hwritesl.between hmark hwritesr,
      .atom (.parens (.sub hreadl.sum (.signed hreadr)))⟩
  · have hmark := Sql.writes_mark (d := d) (m := .star) (s := .star) rfl
    exact ⟨_, _, hemit, hwritesl.between hmark hwritesr,
      .atom (.parens (.product (.mul (.signed hreadl) hreadr)))⟩

end Scalar

/-! ## Predicates -/

/-- One literal or more, with commas between them, write values of the grammar. -/
theorem writes_commaList {d : Dialect} {v : Cell} {values : List Cell}
    (hvalues : ∀ c ∈ v :: values, c.Portable) :
    ∃ ts ks, (v :: values).mapM Sql.literal = .ok ts ∧
      Writes d (Sql.commaList (ts.map fun t => [t])) ks ∧
      Clause.Grammar.Values ks (v :: values) := by
  induction values generalizing v with
  | nil =>
    obtain ⟨t, ks, ht, hwrites, hread⟩ := writes_literal (d := d) (hvalues v (List.mem_cons_self))
    exact ⟨[t], ks, mapM_cons_eq_ok_iff.mpr ⟨t, [], ht, rfl, rfl⟩, hwrites, .one hread⟩
  | cons u values ih =>
    obtain ⟨t, ks, ht, hwrites, hread⟩ := writes_literal (d := d) (hvalues v (List.mem_cons_self))
    obtain ⟨ts, ls, hts, hwrites', hread'⟩ := ih fun c hc => hvalues c (List.mem_cons_of_mem v hc)
    obtain ⟨t', ts', -, -, rfl⟩ := mapM_cons_eq_ok_iff.mp hts
    exact ⟨t :: t' :: ts', ks ++ .comma :: ls,
      mapM_cons_eq_ok_iff.mpr ⟨t, t' :: ts', ht, hts, rfl⟩,
      hwrites.append_comma hwrites', .more hread hread'⟩

/-- A comparison of what is written with a literal, without parentheses. -/
theorem writes_compare_literal {d : Dialect} {ts : List Token} {ks : List LexemeKind}
    {e : Scalar Empty} {value : Cell} (op : Comparison) (hts : Writes d ts ks)
    (he : Clause.Grammar.Signed ks e) (hvalue : value.Portable) :
    ∃ t ls, Sql.literal value = .ok t ∧
      Writes d (ts ++ .space :: ([.mark (Sql.comparisonMark op)] ++ .space :: [t])) ls ∧
      Clause.Grammar.Comparison ls (.compare op e (.literal value)) := by
  obtain ⟨t, ls, ht, hwrites, hread⟩ := writes_literal (d := d) hvalue
  have hcompare : Clause.Grammar.Comparison (ks ++ ([.sign (Sql.signOf op)] ++ ls))
      (.compare op e (.literal value)) :=
    .compare he.sum (Sql.comparison?_signOf op) hread.signed.sum
  exact ⟨t, _, ht, hts.append_space ((Sql.writes_comparisonMark op).append_space hwrites), hcompare⟩

namespace Predicate

variable {κ : Type} {w : ClauseEmit κ} {d : Dialect} {e l r pattern : Scalar κ}
  {e' el er pattern' : Scalar Empty} {p q : Predicate κ} {p' q' : PlainCondition}

/-! ### Comparisons and tests -/

theorem readsAs_compare {op : Comparison} (hl : Scalar.ReadsAs d (l.emit w d) el)
    (hr : Scalar.ReadsAs d (r.emit w d) er) :
    ReadsAs d ((compare op l r).emit w d) (compare op el er) := by
  obtain ⟨ts, ks, hemitl, hwritesl, hreadl⟩ := hl
  obtain ⟨us, ls, hemitr, hwritesr, hreadr⟩ := hr
  have hemit : (compare op l r).emit w d
      = .ok (Sql.between ts (.mark (Sql.comparisonMark op)) us) :=
    bind_eq_ok_iff.mpr ⟨ts, hemitl, bind_eq_ok_iff.mpr ⟨us, hemitr, rfl⟩⟩
  have hread : Clause.Grammar.Comparison (ks ++ ([.sign (Sql.signOf op)] ++ ls))
      (compare op el er) := .compare hreadl.sum (Sql.comparison?_signOf op) hreadr.sum
  exact ⟨_, _, hemit, hwritesl.between (Sql.writes_comparisonMark op) hwritesr, hread.group⟩

theorem readsAs_isNull (he : Scalar.ReadsAs d (e.emit w d) e') :
    ReadsAs d ((isNull e).emit w d) (isNull e') := by
  obtain ⟨ts, ks, hemit, hwrites, hread⟩ := he
  have hemit' : (isNull e).emit w d = .ok (Sql.parens (ts ++ [.space, .word .isNull])) :=
    bind_eq_ok_iff.mpr ⟨ts, hemit, rfl⟩
  exact ⟨_, _, hemit', (hwrites.append_space Sql.writes_isNull).parens,
    (Clause.Grammar.Comparison.isNull hread.sum).group⟩

/-- A membership in one literal or more. -/
theorem readsAs_member_cons {v : Cell} {values : List Cell}
    (he : Scalar.ReadsAs d (e.emit w d) e') (hvalues : ∀ c ∈ v :: values, c.Portable) :
    ReadsAs d ((member e (v :: values)).emit w d) (member e' (v :: values)) := by
  obtain ⟨ts, ks, hemit, hwrites, hread⟩ := he
  obtain ⟨us, ls, hmembers, hwrites', hvalues'⟩ := writes_commaList (d := d) hvalues
  have hemit' : (member e (v :: values)).emit w d = .ok (Sql.between ts (.word .in)
      (Sql.parens (Sql.commaList (us.map fun t => [t])))) :=
    bind_eq_ok_iff.mpr ⟨ts, hemit, bind_eq_ok_iff.mpr ⟨us, hmembers, rfl⟩⟩
  have hread' : Clause.Grammar.Comparison (ks ++ ([.keyword .in] ++ (.leftParen :: ls ++
      [.rightParen]))) (member e' (v :: values)) := .test hread.sum (.among hvalues')
  exact ⟨_, _, hemit', hwrites.between (Sql.writes_word rfl) hwrites'.parens, hread'.group⟩

/-- What nothing is a member of reads as a comparison that is false, whatever stands on its left. -/
theorem readsAs_member_nil (e : Scalar κ) : ReadsAs d ((member e []).emit w d)
    (compare .eq (.literal (.int 1)) (.literal (.int 0))) := by
  have hliteral : ∀ n : Int64, Scalar.ReadsAs d ((.literal (.int n) : Scalar Empty).emit
      noClauses d) (.literal (.int n)) := fun _ => Scalar.readsAs_literal trivial
  have hcompare : ReadsAs d ((compare .eq (.literal (.int 1)) (.literal (.int 0)) :
      Predicate Empty).emit noClauses d) (compare .eq (.literal (.int 1)) (.literal (.int 0))) :=
    readsAs_compare (hliteral 1) (hliteral 0)
  exact hcompare

/-- A range, which is written as two comparisons. -/
theorem readsAs_range {low high : Cell} {bounds : Bounds} (hlow : low.Portable)
    (hhigh : high.Portable) (he : Scalar.ReadsAs d (e.emit w d) e') :
    ReadsAs d ((range e low high bounds).emit w d)
      (join .and (compare bounds.above e' (.literal low))
        (compare bounds.below e' (.literal high))) := by
  obtain ⟨ts, ks, hemit, hwrites, hread⟩ := he
  obtain ⟨tl, kl, htl, hwritesl, hreadl⟩ :=
    writes_compare_literal bounds.above hwrites hread hlow
  obtain ⟨th, kh, hth, hwritesh, hreadh⟩ :=
    writes_compare_literal bounds.below hwrites hread hhigh
  have hemit' : (range e low high bounds).emit w d = .ok (Sql.parens
      ((ts ++ .space :: ([.mark (Sql.comparisonMark bounds.above)] ++ .space :: [tl])) ++
        .space :: ([.word .and] ++ .space ::
          (ts ++ .space :: ([.mark (Sql.comparisonMark bounds.below)] ++ .space :: [th]))))) := by
    refine bind_eq_ok_iff.mpr ⟨ts, hemit, bind_eq_ok_iff.mpr ⟨tl, htl, bind_eq_ok_iff.mpr
      ⟨th, hth, ?_⟩⟩⟩
    simp [bounds.comparisonMark_above, bounds.comparisonMark_below, pure, Except.pure]
  have hand : Writes d [.word .and] [.keyword .and] := Sql.writes_word rfl
  have hread' : Clause.Grammar.Conjunction (kl ++ ([.keyword .and] ++ kh))
      (join .and (compare bounds.above e' (.literal low))
        (compare bounds.below e' (.literal high))) :=
    .and (.negation (.group (.comparison hreadl))) (.group (.comparison hreadh))
  exact ⟨_, _, hemit', (hwritesl.append_space (hand.append_space hwritesh)).parens,
    .parens (.conjunction hread')⟩

/-! ### Connectives -/

theorem readsAs_join {op : Connective} (hp : ReadsAs d (p.emit w d) p')
    (hq : ReadsAs d (q.emit w d) q') : ReadsAs d ((join op p q).emit w d) (join op p' q') := by
  obtain ⟨ts, ks, hemitp, hwritesp, hreadp⟩ := hp
  obtain ⟨us, ls, hemitq, hwritesq, hreadq⟩ := hq
  have hemit : (join op p q).emit w d
      = .ok (Sql.between ts (.word (Sql.connectiveWord op)) us) :=
    bind_eq_ok_iff.mpr ⟨ts, hemitp, bind_eq_ok_iff.mpr ⟨us, hemitq, rfl⟩⟩
  cases op with
  | and =>
    exact ⟨_, _, hemit, hwritesp.between (Sql.writes_word (k := .and) rfl) hwritesq,
      .parens (.conjunction (.and (.negation (.group hreadp)) (.group hreadq)))⟩
  | or =>
    exact ⟨_, _, hemit, hwritesp.between (Sql.writes_word (k := .or) rfl) hwritesq,
      .parens (.or (.conjunction (.negation (.group hreadp))) (.negation (.group hreadq)))⟩

theorem readsAs_not (hp : ReadsAs d (p.emit w d) p') :
    ReadsAs d ((Predicate.not p).emit w d) (.not p') := by
  obtain ⟨ts, ks, hemit, hwrites, hread⟩ := hp
  have hemit' : (Predicate.not p).emit w d = .ok (Sql.negate ts) :=
    bind_eq_ok_iff.mpr ⟨ts, hemit, rfl⟩
  have hwrites' : Writes d (.word .not :: .space :: ts) (.keyword .not :: ks) :=
    (Sql.writes_word (k := .not) rfl).append_space hwrites
  exact ⟨_, _, hemit', hwrites'.parens, .parens (.conjunction (.negation (.not (.group hread))))⟩

/-! ### Patterns -/

theorem readsAs_like {ignoreCase : Bool} (hcase : ignoreCase = true → Sql.hasIlike d = true)
    (he : Scalar.ReadsAs d (e.emit w d) e')
    (hpattern : Scalar.ReadsAs d (pattern.emit w d) pattern') :
    ReadsAs d ((like e pattern ignoreCase false).emit w d) (like e' pattern' ignoreCase false) := by
  obtain ⟨ts, ks, hemite, hwritese, hreade⟩ := he
  obtain ⟨us, ls, hemitp, hwritesp, hreadp⟩ := hpattern
  have hemit : (like e pattern ignoreCase false).emit w d
      = .ok (Sql.likeMatch d ts us ignoreCase) :=
    bind_eq_ok_iff.mpr ⟨ts, hemite, bind_eq_ok_iff.mpr ⟨us, hemitp, rfl⟩⟩
  cases ignoreCase with
  | false =>
    have hread : Clause.Grammar.Comparison (ks ++ ([.keyword .like] ++ ls))
        (like e' pattern' false false) := .test hreade.sum (.like hreadp.sum)
    exact ⟨_, _, hemit, hwritese.between (Sql.writes_word rfl) hwritesp, hread.group⟩
  | true =>
    have hread : Clause.Grammar.Comparison (ks ++ ([.keyword .ilike] ++ ls))
        (like e' pattern' true false) := .test hreade.sum (.ilike hreadp.sum)
    rw [Sql.likeMatch, hcase rfl] at hemit
    exact ⟨_, _, hemit, hwritese.between (Sql.writes_word rfl) hwritesp, hread.group⟩

theorem emit_like_negated {ignoreCase : Bool} :
    (like e pattern ignoreCase true).emit w d
      = (Predicate.not (like e pattern ignoreCase false)).emit w d := by
  change (e.emit w d >>= fun ts => pattern.emit w d >>= fun us =>
      pure (Sql.negate (Sql.likeMatch d ts us ignoreCase)))
    = ((e.emit w d >>= fun ts => pattern.emit w d >>= fun us =>
      pure (Sql.likeMatch d ts us ignoreCase)) >>= fun ts => pure (Sql.negate ts))
  simp only [bind_assoc, pure_bind]

/-- A pattern that must not match is written as the negation of one that must. -/
theorem readsAs_like_negated {ignoreCase : Bool}
    (hcase : ignoreCase = true → Sql.hasIlike d = true)
    (he : Scalar.ReadsAs d (e.emit w d) e')
    (hpattern : Scalar.ReadsAs d (pattern.emit w d) pattern') :
    ReadsAs d ((like e pattern ignoreCase true).emit w d)
      (.not (like e' pattern' ignoreCase false)) := by
  rw [emit_like_negated]
  exact readsAs_not (readsAs_like hcase he hpattern)

end Predicate

end Crosstab
