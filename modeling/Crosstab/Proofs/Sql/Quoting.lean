import Crosstab.Proofs.Sql.Twins

/-!
# Texts stay within their quotes

No name of a column and no text of a literal changes how the statement around it is read.  Two trees
that are alike are written in forms that are alike (`Scalar.Alike.twins`, `Predicate.Alike.twins`:
one case for every form), a clause as the predicate that it stands for.  So what is written for them
is split into the same lexemes, but for names and strings, which are the texts of each tree
(`Sql.Phrase.lexemes_of_alike`).
-/

namespace Crosstab

open Clause (LexemeKind)
open Sql (Token Twins ArgTwins ClauseEmit)

/-! ## Forms of trees -/

namespace Sql

/-- The tokens may stand behind a form: the two statements are alike if the forms are. -/
def Trails (d : Dialect) (ts us : List Token) (xs ys : List LexemeKind) : Prop :=
  ∀ vs ws zs zs', Twins d vs ws zs zs' → Twins d (vs ++ ts) (ws ++ us) (zs ++ xs) (zs' ++ ys)

section

variable {d : Dialect} {ts us ts' us' : List Token} {xs ys xs' ys' : List LexemeKind}

theorem Trails.nil : Trails d [] [] [] [] := by
  intro _ _ _ _ h
  simpa only [List.append_nil] using h

/-- A branch in front of what follows it. -/
theorem Trails.branch {vs ws : List Token} {zs zs' : List LexemeKind} (hp : Twins d ts us xs ys)
    (he : Twins d ts' us' xs' ys') (hrest : Trails d vs ws zs zs') :
    Trails d ([.space, .word .when, .space] ++ ts ++ [.space, .word .then, .space] ++ ts' ++ vs)
      ([.space, .word .when, .space] ++ us ++ [.space, .word .then, .space] ++ us' ++ ws)
      (xs ++ (xs' ++ zs)) (ys ++ (ys' ++ zs')) := by
  intro _ _ _ _ h
  have hthen := (Twins.word (w := .then) (by decide)).append_space he
  have hwhen := (Twins.word (w := .when) (by decide)).append_space (hp.append_space hthen)
  simpa only [List.append_assoc, List.cons_append, List.nil_append]
    using hrest _ _ _ _ (h.append_space hwhen)

/-- A case distinction. -/
theorem Trails.cases (h : Trails d ts us xs ys) :
    Twins d (parens (.word .case :: ts ++ [.space, .word .end]))
      (parens (.word .case :: us ++ [.space, .word .end])) xs ys := by
  have hbody := (h _ _ _ _ (.word (w := .case) (by decide))).append_space (.word (w := .end) (by decide))
  rw [List.append_nil, List.append_nil] at hbody
  exact hbody.parens

/-- A case distinction with a scalar for all other rows. -/
theorem Trails.casesElse (h : Trails d ts us xs ys) (he : Twins d ts' us' xs' ys') :
    Twins d (parens
        (.word .case :: ts ++ [.space, .word .else, .space] ++ ts' ++ [.space, .word .end]))
      (parens (.word .case :: us ++ [.space, .word .else, .space] ++ us' ++ [.space, .word .end]))
      (xs ++ xs') (ys ++ ys') := by
  have hlast := he.append_space (.word (w := .end) (by decide))
  have helse := (Twins.word (w := .else) (by decide)).append_space hlast
  have hbody := (h _ _ _ _ (.word (w := .case) (by decide))).append_space helse
  simpa only [List.append_nil, List.append_assoc, List.cons_append, List.nil_append]
    using hbody.parens

/-- A range, in which the form stands twice. -/
theorem Twins.range {low low' high high' : Token} {zs zs' : List LexemeKind} (bounds : Bounds)
    (h : Twins d ts us xs ys) (hlow : Twins d [low] [low'] xs' ys')
    (hhigh : Twins d [high] [high'] zs zs') :
    Twins d
      (Sql.parens (ts ++ [.space, .mark (if bounds.withLower then Mark.greaterEqual else .greater),
        .space, low, .space, .word .and, .space] ++ ts ++
        [.space, .mark (if bounds.withUpper then Mark.lessEqual else .less), .space, high]))
      (Sql.parens (us ++ [.space, .mark (if bounds.withLower then Mark.greaterEqual else .greater),
        .space, low', .space, .word .and, .space] ++ us ++
        [.space, .mark (if bounds.withUpper then Mark.lessEqual else .less), .space, high']))
      (xs ++ (xs' ++ (xs ++ zs))) (ys ++ (ys' ++ (ys ++ zs'))) := by
  have habove := h.append_space ((comparisonMark bounds.above).append_space hlow)
  have hbelow := h.append_space ((comparisonMark bounds.below).append_space hhigh)
  rw [bounds.comparisonMark_above] at habove
  rw [bounds.comparisonMark_below] at hbelow
  have hall := habove.append_space ((word (w := .and) (by decide)).append_space hbelow)
  simpa only [List.append_assoc, List.cons_append, List.nil_append] using hall.parens

end

theorem ArgTwins.of_mapM {d : Dialect} {as bs : List Cell} {ts us : List Token}
    (h : List.Forall₂ Cell.Alike as bs) (hts : as.mapM Sql.literal = .ok ts)
    (hus : bs.mapM Sql.literal = .ok us) :
    ArgTwins d (ts.map fun t => [t]) (us.map fun t => [t]) (as.flatMap Cell.texts)
      (bs.flatMap Cell.texts) := by
  induction h generalizing ts us with
  | nil =>
    cases hts
    cases hus
    exact .nil
  | cons h _ ih =>
    obtain ⟨t, ts', ht, hts', rfl⟩ := mapM_cons_eq_ok_iff.mp hts
    obtain ⟨u, us', hu, hus', rfl⟩ := mapM_cons_eq_ok_iff.mp hus
    exact .cons (.literal h ht hu) (ih hts' hus')

end Sql

/-! ## Trees -/

section

variable {κ : Type} {R : κ → κ → Prop} {d : Dialect} {w : ClauseEmit κ} {f : κ → List LexemeKind}

/-- Clauses that are related are written alike. -/
def ClauseTwins (R : κ → κ → Prop) (d : Dialect) (w : ClauseEmit κ) (f : κ → List LexemeKind) :
    Prop :=
  ∀ c c' ts us, R c c' → w c = .ok ts → w c' = .ok us → Twins d ts us (f c) (f c')

mutual

theorem Scalar.Alike.twins (hR : ClauseTwins R d w f) : ∀ {e e' : Scalar κ}, e.Alike R e' →
    e.Tokenized d → ∀ {x y}, e.emit w d = .ok x → e'.emit w d = .ok y →
      Twins d x y (e.texts f) (e'.texts f)
  | _, _, .column m n, _, _, _, hx, hy => by
    cases hx
    cases hy
    exact .column m n
  | _, _, .literal h, _, _, _, hx, hy => by
    obtain ⟨t, ht, heq⟩ := bind_eq_ok_iff.mp hx
    cases heq
    obtain ⟨u, hu, heq⟩ := bind_eq_ok_iff.mp hy
    cases heq
    exact .literal h ht hu
  | _, _, .binary op hl hr, ⟨hop, htl, htr⟩, _, _, hx, hy => by
    obtain ⟨ts, ts', hts, hts', heq⟩ := bind_both_eq_ok_iff.mp hx
    cases heq
    obtain ⟨us, us', hus, hus', heq⟩ := bind_both_eq_ok_iff.mp hy
    cases heq
    have hleft := Scalar.Alike.twins hR hl htl hts hus
    exact hleft.binary hop (Scalar.Alike.twins hR hr htr hts' hus')
  | _, _, .safeDiv fill hn hm, ⟨htn, htm⟩, _, _, hx, hy => by
    obtain ⟨ts, ts', hts, hts', hvs⟩ := bind_both_eq_ok_iff.mp hx
    obtain ⟨us, us', hus, hus', hws⟩ := bind_both_eq_ok_iff.mp hy
    have hnumerator := Scalar.Alike.twins hR hn htn hts hus
    exact hnumerator.quotient (Scalar.Alike.twins hR hm htm hts' hus') hvs hws
  | _, _, .coalesce hargs, hargs', _, _, hx, hy => by
    obtain ⟨tss, htss, hx⟩ := bind_eq_ok_iff.mp hx
    obtain ⟨uss, huss, hy⟩ := bind_eq_ok_iff.mp hy
    have hforms := Scalar.AlikeList.twins hR hargs hargs' htss huss
    cases hargs with
    | nil =>
      cases htss
      cases huss
      cases hx
      cases hy
      exact .null
    | cons _ _ =>
      obtain ⟨_, _, _, _, heq⟩ := bind_both_eq_ok_iff.mp htss
      cases heq
      obtain ⟨_, _, _, _, heq⟩ := bind_both_eq_ok_iff.mp huss
      cases heq
      cases hx
      cases hy
      exact .call (by decide) hforms
  | _, _, .caseWhen hbs, hbs', _, _, hx, hy => by
    have htrails := @Scalar.AlikeBranches.trails hR _ _ hbs hbs'
    cases hbs with
    | nil =>
      cases hx
      cases hy
      exact .null
    | cons _ _ _ =>
      obtain ⟨ts, hts, heq⟩ := bind_eq_ok_iff.mp hx
      cases heq
      obtain ⟨us, hus, heq⟩ := bind_eq_ok_iff.mp hy
      cases heq
      exact (htrails hts hus).cases
  | _, _, .caseElse hbs he, ⟨hbs', he'⟩, _, _, hx, hy => by
    have htrails := @Scalar.AlikeBranches.trails hR _ _ hbs hbs'
    cases hbs with
    | nil => exact Scalar.Alike.twins hR he he' hx hy
    | cons _ _ _ =>
      obtain ⟨ts, ts', hts, hts', heq⟩ := bind_both_eq_ok_iff.mp hx
      cases heq
      obtain ⟨us, us', hus, hus', heq⟩ := bind_both_eq_ok_iff.mp hy
      cases heq
      exact (htrails hts hus).casesElse (Scalar.Alike.twins hR he he' hts' hus')
termination_by structural _ _ h => h

theorem Scalar.AlikeList.twins (hR : ClauseTwins R d w f) : ∀ {es es' : List (Scalar κ)},
    Scalar.AlikeList R es es' → Scalar.TokenizedList d es → ∀ {xss yss},
      Scalar.emitList w d es = .ok xss → Scalar.emitList w d es' = .ok yss →
        ArgTwins d xss yss (Scalar.textsOfList f es) (Scalar.textsOfList f es')
  | _, _, .nil, _, _, _, hx, hy => by
    cases hx
    cases hy
    exact .nil
  | _, _, .cons h hs, ⟨he, hes⟩, _, _, hx, hy => by
    obtain ⟨ts, tss, hts, htss, heq⟩ := bind_both_eq_ok_iff.mp hx
    cases heq
    obtain ⟨us, uss, hus, huss, heq⟩ := bind_both_eq_ok_iff.mp hy
    cases heq
    exact .cons (Scalar.Alike.twins hR h he hts hus) (Scalar.AlikeList.twins hR hs hes htss huss)
termination_by structural _ _ h => h

theorem Scalar.AlikeBranches.trails (hR : ClauseTwins R d w f) :
    ∀ {bs bs' : List (Predicate κ × Scalar κ)}, Scalar.AlikeBranches R bs bs' →
      Scalar.TokenizedBranches d bs → ∀ {x y}, Scalar.emitBranches w d bs = .ok x →
        Scalar.emitBranches w d bs' = .ok y →
          Sql.Trails d x y (Scalar.textsOfBranches f bs) (Scalar.textsOfBranches f bs')
  | _, _, .nil, _, _, _, hx, hy => by
    cases hx
    cases hy
    exact .nil
  | _, _, .cons hp he hbs, ⟨hp', he', hbs'⟩, _, _, hx, hy => by
    obtain ⟨ts, hts, hx⟩ := bind_eq_ok_iff.mp hx
    obtain ⟨ts', later, hts', hlater, heq⟩ := bind_both_eq_ok_iff.mp hx
    cases heq
    obtain ⟨us, hus, hy⟩ := bind_eq_ok_iff.mp hy
    obtain ⟨us', later', hus', hlater', heq⟩ := bind_both_eq_ok_iff.mp hy
    cases heq
    have hcondition := Predicate.Alike.twins hR hp hp' hts hus
    have hvalue := Scalar.Alike.twins hR he he' hts' hus'
    exact .branch hcondition hvalue (Scalar.AlikeBranches.trails hR hbs hbs' hlater hlater')
termination_by structural _ _ h => h

theorem Predicate.Alike.twins (hR : ClauseTwins R d w f) : ∀ {p p' : Predicate κ}, p.Alike R p' →
    p.Tokenized d → ∀ {x y}, p.emit w d = .ok x → p'.emit w d = .ok y →
      Twins d x y (p.texts f) (p'.texts f)
  | _, _, .compare op hl hr, ⟨htl, htr⟩, _, _, hx, hy => by
    obtain ⟨ts, ts', hts, hts', heq⟩ := bind_both_eq_ok_iff.mp hx
    cases heq
    obtain ⟨us, us', hus, hus', heq⟩ := bind_both_eq_ok_iff.mp hy
    cases heq
    have hleft := Scalar.Alike.twins hR hl htl hts hus
    exact hleft.between (.comparisonMark op) (Scalar.Alike.twins hR hr htr hts' hus')
  | _, _, .member he hvalues, he', _, _, hx, hy => by
    cases hvalues with
    | nil =>
      cases hx
      cases hy
      exact (Twins.int 1).between (.comparisonMark .eq) (.int 0)
    | cons hv hvs =>
      obtain ⟨ts, members, hts, hmembers, heq⟩ := bind_both_eq_ok_iff.mp hx
      cases heq
      obtain ⟨us, members', hus, hmembers', heq⟩ := bind_both_eq_ok_iff.mp hy
      cases heq
      have hlist := Sql.ArgTwins.of_mapM (d := d) (.cons hv hvs) hmembers hmembers'
      exact (Scalar.Alike.twins hR he he' hts hus).between (.word (w := .in) (by decide)) hlist.commaList.parens
  | _, _, .range bounds he hlow hhigh, he', _, _, hx, hy => by
    obtain ⟨ts, hts, hx⟩ := bind_eq_ok_iff.mp hx
    obtain ⟨low, high, hlow', hhigh', heq⟩ := bind_both_eq_ok_iff.mp hx
    cases heq
    obtain ⟨us, hus, hy⟩ := bind_eq_ok_iff.mp hy
    obtain ⟨low', high', hlow'', hhigh'', heq⟩ := bind_both_eq_ok_iff.mp hy
    cases heq
    have hform := Scalar.Alike.twins hR he he' hts hus
    exact hform.range bounds (.literal hlow hlow' hlow'') (.literal hhigh hhigh' hhigh'')
  | _, _, .isNull h, he, _, _, hx, hy => by
    obtain ⟨ts, hts, heq⟩ := bind_eq_ok_iff.mp hx
    cases heq
    obtain ⟨us, hus, heq⟩ := bind_eq_ok_iff.mp hy
    cases heq
    have hall := (Scalar.Alike.twins hR h he hts hus).append_space .isNull
    rw [List.append_nil, List.append_nil] at hall
    exact hall.parens
  | _, _, .join op hp hq, ⟨htp, htq⟩, _, _, hx, hy => by
    obtain ⟨ts, ts', hts, hts', heq⟩ := bind_both_eq_ok_iff.mp hx
    cases heq
    obtain ⟨us, us', hus, hus', heq⟩ := bind_both_eq_ok_iff.mp hy
    cases heq
    have hleft := Predicate.Alike.twins hR hp htp hts hus
    exact hleft.between (.connectiveWord op) (Predicate.Alike.twins hR hq htq hts' hus')
  | _, _, .not h, hp, _, _, hx, hy => by
    obtain ⟨ts, hts, heq⟩ := bind_eq_ok_iff.mp hx
    cases heq
    obtain ⟨us, hus, heq⟩ := bind_eq_ok_iff.mp hy
    cases heq
    exact (Predicate.Alike.twins hR h hp hts hus).negate
  | _, _, .like ignoreCase negated he hpattern, ⟨hte, htp⟩, _, _, hx, hy => by
    obtain ⟨ts, ts', hts, hts', heq⟩ := bind_both_eq_ok_iff.mp hx
    cases heq
    obtain ⟨us, us', hus, hus', heq⟩ := bind_both_eq_ok_iff.mp hy
    cases heq
    have hform := Scalar.Alike.twins hR he hte hts hus
    have hsource := Scalar.Alike.twins hR hpattern htp hts' hus'
    exact (hform.likeMatch hsource ignoreCase).negateIf negated
  | _, _, .regex flags negated he hpattern, ⟨hte, htp⟩, _, _, hx, hy => by
    obtain ⟨normal, hnormal, hx⟩ := bind_eq_ok_iff.mp hx
    obtain ⟨_, _, hx⟩ := bind_eq_ok_iff.mp hx
    obtain ⟨ts, ts', hts, hts', heq⟩ := bind_both_eq_ok_iff.mp hx
    cases heq
    obtain ⟨normal', hnormal', hy⟩ := bind_eq_ok_iff.mp hy
    obtain ⟨_, _, hy⟩ := bind_eq_ok_iff.mp hy
    obtain ⟨us, us', hus, hus', heq⟩ := bind_both_eq_ok_iff.mp hy
    cases heq
    rw [hnormal] at hnormal'
    cases hnormal'
    have hform := Scalar.Alike.twins hR he hte hts hus
    have hsource := Scalar.Alike.twins hR hpattern htp hts' hus'
    exact (hform.regexSearch hsource normal).negateIf negated
  | _, _, .clause hc, _, _, _, hx, hy => hR _ _ _ _ hc hx hy
termination_by structural _ _ h => h

end

end

theorem clauseTwins_noClauses (R : Empty → Empty → Prop) (d : Dialect) :
    ClauseTwins R d noClauses noClauses := by
  intro c
  cases c

/-- Clauses that stand for predicates that are alike are written alike. -/
theorem Clause.Alike.twins (d : Dialect) :
    ClauseTwins Clause.Alike d (Clause.emit d) Clause.texts := by
  intro c c' ts us h hts hus
  obtain ⟨p, hp, hts⟩ := bind_eq_ok_iff.mp hts
  obtain ⟨p', hp', hus⟩ := bind_eq_ok_iff.mp hus
  have htokens : p.Tokenized d := p.tokenized_of_elementary d (Clause.elementary_of_parsed hp)
  rw [Clause.texts_of_parsed hp, Clause.texts_of_parsed hp']
  exact (h p p' hp hp').twins (clauseTwins_noClauses _ d) htokens hts hus

theorem Aggregate.Alike.twins {d : Dialect} {a a' : Aggregate} (h : a.Alike a')
    (ha : a.Tokenized d) {ts us : List Token} (hts : a.emit d = .ok ts) (hus : a'.emit d = .ok us) :
    Twins d ts us a.texts a'.texts := by
  have hclause := Clause.Alike.twins d
  cases h with
  | reduce r h =>
    obtain ⟨form, hform, heq⟩ := bind_eq_ok_iff.mp hts
    cases heq
    obtain ⟨form', hform', heq⟩ := bind_eq_ok_iff.mp hus
    cases heq
    exact (h.twins hclause ha hform hform').reductionForm r
  | countRows =>
    cases hts
    cases hus
    have hstar : Twins d [.mark .star] [.mark .star] [] [] := .mark (s := .star) rfl
    exact hstar.call_one (by decide)
  | ratio fill hn hm =>
    obtain ⟨ns, ms, hns, hms, hquotient⟩ := bind_both_eq_ok_iff.mp hts
    obtain ⟨ns', ms', hns', hms', hquotient'⟩ := bind_both_eq_ok_iff.mp hus
    have hnumerator := (hn.twins hclause ha.1 hns hns').reductionForm .sum
    have hdenominator := (hm.twins hclause ha.2 hms hms').reductionForm .sum
    exact hnumerator.quotient hdenominator hquotient hquotient'

/-! ## Statements as text -/

namespace Sql

/-- What is written as SQL by itself. -/
inductive Phrase where
  | scalar (e : Expr)
  | predicate (p : Condition)
  | aggregate (a : Aggregate)
  | measure (m : Measure)

namespace Phrase

/-- Writes a phrase. -/
def emit (d : Dialect) : Phrase → Outcome (List Token)
  | scalar e => e.emit (Clause.emit d) d
  | predicate p => p.emit (Clause.emit d) d
  | aggregate a => a.emit d
  | measure m => m.emit d

/-- A phrase as text. -/
def sql (d : Dialect) : Phrase → Outcome String
  | scalar e => e.sql d
  | predicate p => p.sql d
  | aggregate a => a.sql d
  | measure m => m.sql d

/-- The phrases are of one kind and differ at most in the texts of string literals and in the names
of columns. -/
inductive Alike : Phrase → Phrase → Prop where
  | scalar {e e' : Expr} : Scalar.Alike Clause.Alike e e' → Alike (.scalar e) (.scalar e')
  | predicate {p p' : Condition} :
    Predicate.Alike Clause.Alike p p' → Alike (.predicate p) (.predicate p')
  | aggregate {a a' : Aggregate} : a.Alike a' → Alike (.aggregate a) (.aggregate a')
  | measure {m m' : Measure} : m.Alike m' → Alike (.measure m) (.measure m')

/-- The phrase holds no fragment, and texts are put together only in a dialect that has a function
for it. -/
def Tokenized (d : Dialect) : Phrase → Prop
  | scalar e => e.Tokenized d
  | predicate p => p.Tokenized d
  | aggregate a => a.Tokenized d
  | measure m => m.aggregate.Tokenized d

/-- The texts of a phrase. -/
def texts : Phrase → List LexemeKind
  | scalar e => e.texts Clause.texts
  | predicate p => p.texts Clause.texts
  | aggregate a => a.texts
  | measure m => m.aggregate.texts

theorem sql_eq_ok_iff {d : Dialect} {x : Phrase} {s : String} :
    x.sql d = .ok s ↔ ∃ ts, x.emit d = .ok ts ∧ render d ts = s := by
  cases x <;> exact bind_eq_ok_iff.trans (exists_congr fun _ => and_congr_right' pure_eq_ok_iff)

theorem Alike.twins {d : Dialect} {x y : Phrase} (h : x.Alike y) (hx : x.Tokenized d)
    {ts us : List Token} (hts : x.emit d = .ok ts) (hus : y.emit d = .ok us) :
    Twins d ts us x.texts y.texts := by
  cases h with
  | scalar h => exact h.twins (Clause.Alike.twins d) hx hts hus
  | predicate h => exact h.twins (Clause.Alike.twins d) hx hts hus
  | aggregate h => exact h.twins hx hts hus
  | measure h => exact h.aggregate.twins hx hts hus

/-- **Names and texts stay within their quotes.**  If two phrases that are alike are written, both
texts are split into lexemes, with matching parentheses, and these are the same but for names and
strings that are the texts of the two phrases. -/
theorem lexemes_of_alike {d : Dialect} {x y : Phrase} (h : x.Alike y) (hx : x.Tokenized d)
    {s t : String} (hs : x.sql d = .ok s) (ht : y.sql d = .ok t) :
    ∃ ks ls, Clause.lexemes s = .ok ks ∧ Clause.lexemes t = .ok ls ∧
      Clause.FilledWith (Clause.kinds ks) (Clause.kinds ls) x.texts y.texts ∧
      Clause.Grammar.Balanced (Clause.kinds ks) ∧ Clause.Grammar.Balanced (Clause.kinds ls) := by
  obtain ⟨ts, hts, rfl⟩ := sql_eq_ok_iff.mp hs
  obtain ⟨us, hus, rfl⟩ := sql_eq_ok_iff.mp ht
  obtain ⟨ks, ls, hks, hls, hfill, hbalanced⟩ := h.twins hx hts hus
  obtain ⟨xs, hxs, rfl⟩ := Clause.lexemes_of_splits hks.splits
  obtain ⟨ys, hys, rfl⟩ := Clause.lexemes_of_splits hls.splits
  exact ⟨xs, ys, hxs, hys, hfill, hbalanced, hfill.balanced hbalanced⟩

/-- A name and a pattern, and a name and a pattern with quotes, brackets and a comment in them. -/
theorem lexemes_like_comment : ∃ ks ls,
    Clause.lexemes "(\"name\" LIKE 'x%')" = .ok ks ∧
    Clause.lexemes "(\"na\"\"me)\".\"/*\" LIKE 'x'') OR (1 = 1) --')" = .ok ls ∧
    Clause.FilledWith (Clause.kinds ks) (Clause.kinds ls) [.name "name", .string "x%"]
      [.name "na\"me)./*", .string "x') OR (1 = 1) --"] ∧
    Clause.Grammar.Balanced (Clause.kinds ks) ∧ Clause.Grammar.Balanced (Clause.kinds ls) :=
  lexemes_of_alike (d := .ansi)
    (.predicate (.like false false (.column "name" "na\"me)./*")
      (.literal (.text "x%" "x') OR (1 = 1) --"))))
    ⟨trivial, trivial⟩ rfl rfl

end Phrase

end Sql

end Crosstab
