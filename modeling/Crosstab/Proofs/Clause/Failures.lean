import Crosstab.Proofs.Clause.Numbers
import Crosstab.Proofs.Clause.Parsed
import Crosstab.Proofs.Expr.Matched
import Crosstab.Proofs.Expr.Reads
import Crosstab.Sql.Emit

/-!
# How clauses can fail

A clause that reads can still fail, when it is written and when it is evaluated, but only in ways
that its text shows.

* It cannot be written, in whatever dialect, only if its text holds a number so large that its float
  is infinite (`Predicate.emit_failsOnly`).
* It cannot be evaluated only if the table lacks a column that it names, or an arithmetic operator
  meets a cell that is no number (`Predicate.eval_failsOnly`).

`Clause.fails_only` says both of every text that reads.  The patterns that the text or the table
spells are taken to compile (`Predicate.PatternsCompile`).
-/

namespace Crosstab

/-! ## Numbers that are too large -/

namespace Binary64

theorem isInfinite_of_not_isFinite {x : Binary64} (hnan : x.isNaN = false)
    (hfinite : x.isFinite = false) : x.isInfinite = true := by
  rw [isNaN, decide_eq_false_iff_not] at hnan
  rw [isFinite, decide_eq_false_iff_not] at hfinite
  rw [isInfinite, beq_iff_eq]
  omega

end Binary64

namespace Clause

/-- The error that a number of some lexemes is too large to be written: its float is infinite. -/
def Overflows (ts : List LexemeKind) (e : ReportError) : Prop :=
  ∃ numeral negative x, .number numeral ∈ ts ∧ numberCell numeral negative = .float x ∧
    x.isInfinite = true ∧ e = .invalid (.nonFiniteLiteral x)

end Clause

/-! ## Writing -/

section

open Clause (Denoted Overflows LexemeKind)

variable {ts : List LexemeKind} {d : Dialect}
  (hts : ∀ numeral, .number numeral ∈ ts → Binary64.isNumeral numeral.toList = true)

include hts

theorem Sql.literal_failsOnly {c : Cell} (hc : Denoted ts c) :
    FailsOnly (Overflows ts) (Sql.literal c) := by
  cases c with
  | float x =>
    unfold Sql.literal
    dsimp only
    split
    · exact .ok _
    · next hfinite =>
      obtain ⟨numeral, negative, hmem, hcell⟩ := hc.exists_number
      have hnan := Clause.isNaN_of_numberCell (hts numeral hmem) hcell
      exact .error ⟨numeral, negative, x, hmem, hcell,
        Binary64.isInfinite_of_not_isFinite hnan (Bool.eq_false_of_not_eq_true hfinite), rfl⟩
  | _ => exact .ok _

theorem Scalar.emit_failsOnly : ∀ e : Scalar Empty, e.ArithmeticOver (Denoted ts) →
    FailsOnly (Overflows ts) (e.emit noClauses d)
  | .column _, _ => .ok _
  | .literal c, hc => by
    have hliteral : FailsOnly (Overflows ts) (Sql.literal c) := Sql.literal_failsOnly hts hc
    exact hliteral.bind fun _ _ => .pure _
  | .binary _ l r, hover => by
    obtain ⟨-, hl, hr⟩ := hover
    have hleft := emit_failsOnly l hl
    have hright := emit_failsOnly r hr
    exact hleft.bind_both hright fun _ _ _ _ => .pure _

/-- A clause fails to be written only for a number that is too large. -/
theorem Predicate.emit_failsOnly : ∀ p : PlainCondition, p.ElementaryOver (Denoted ts) →
    FailsOnly (Overflows ts) (p.emit noClauses d)
  | .compare _ l r, hover => by
    obtain ⟨hl, hr⟩ := hover
    have hleft := l.emit_failsOnly (d := d) hts hl
    have hright := r.emit_failsOnly (d := d) hts hr
    exact hleft.bind_both hright fun _ _ _ _ => .pure _
  | .member _ [], _ => .ok _
  | .member e (c :: cs), hover => by
    obtain ⟨he, hvalues⟩ := hover
    have hscalar := e.emit_failsOnly (d := d) hts he
    have hcells : FailsOnly (Overflows ts) ((c :: cs).mapM Sql.literal) := by
      refine .mapM ?_
      intro c hc
      exact Sql.literal_failsOnly hts (hvalues c hc)
    exact hscalar.bind_both hcells fun _ _ _ _ => .pure _
  | .range e low high _, hover => by
    obtain ⟨he, hlow, hhigh⟩ := hover
    have hscalar := e.emit_failsOnly (d := d) hts he
    have hlower : FailsOnly (Overflows ts) (Sql.literal low) := Sql.literal_failsOnly hts hlow
    have hupper : FailsOnly (Overflows ts) (Sql.literal high) := Sql.literal_failsOnly hts hhigh
    refine hscalar.bind fun _ _ => ?_
    exact hlower.bind_both hupper fun _ _ _ _ => .pure _
  | .isNull e, he => by
    have hscalar := e.emit_failsOnly (d := d) hts he
    exact hscalar.bind fun _ _ => .pure _
  | .join _ p q, hover => by
    obtain ⟨hp, hq⟩ := hover
    have hleft := emit_failsOnly p hp
    have hright := emit_failsOnly q hq
    exact hleft.bind_both hright fun _ _ _ _ => .pure _
  | .not p, hp => by
    have hnegated := emit_failsOnly p hp
    exact hnegated.bind fun _ _ => .pure _
  | .like e pattern _ _, hover => by
    obtain ⟨he, hpattern⟩ := hover
    have hscalar := e.emit_failsOnly (d := d) hts he
    have htext := pattern.emit_failsOnly (d := d) hts hpattern
    exact hscalar.bind_both htext fun _ _ _ _ => .pure _

end

/-! ## Evaluating -/

/-- The errors of evaluating arithmetic that names some columns over a table. -/
inductive EvalFault (columns : List String) (f : Frame) : ReportError → Prop where
  /-- A column that is named is not there. -/
  | missingColumn {name : String} (hread : name ∈ columns) (hmissing : name ∉ f.names) :
    EvalFault columns f (.invalid (.missingColumn name))
  /-- A cell that is there is no number. -/
  | notOperand {op : BinaryOp} {c : Cell} (hop : op ≠ .concat) (hnull : c.isNull = false)
    (hnumber : c.number? = none) : EvalFault columns f (.invalid (.notOperand op c))

theorem EvalFault.mono {columns more : List String} {f : Frame} {e : ReportError}
    (h : EvalFault columns f e) (hsub : columns ⊆ more) : EvalFault more f e := by
  cases h with
  | missingColumn hread hmissing => exact .missingColumn (hsub hread) hmissing
  | notOperand hop hnull hnumber => exact .notOperand hop hnull hnumber

section

variable {α : Type} {columns : List String} {f : Frame} {x : Outcome α}

/-- The columns that are named may be more, after those that a step names. -/
theorem FailsOnly.evalFault_left (h : FailsOnly (EvalFault columns f) x) (more : List String) :
    FailsOnly (EvalFault (columns ++ more) f) x :=
  h.imp fun _ he => he.mono (List.subset_append_left _ _)

/-- The columns that are named may be more, in front of those that a step names. -/
theorem FailsOnly.evalFault_right (h : FailsOnly (EvalFault columns f) x) (more : List String) :
    FailsOnly (EvalFault (more ++ columns) f) x :=
  h.imp fun _ he => he.mono (List.subset_append_right _ _)

end

/-- The patterns that a condition meets in a table compile. -/
def Predicate.PatternsCompile (f : Frame) : PlainCondition → Prop
  | .join _ p q => p.PatternsCompile f ∧ q.PatternsCompile f
  | .not p => p.PatternsCompile f
  | .like _ pattern ignoreCase _ => ∀ cells, pattern.eval noClauses f = .ok cells →
      ∀ c ∈ cells, ∃ r, Pattern.compileLike c.display ignoreCase = .ok r
  | _ => True
termination_by structural p => p

namespace Cell

variable {columns : List String} {f : Frame} {op : BinaryOp} {a b : Cell}

theorem operand_failsOnly (hop : op ≠ .concat) (ha : a.isNull = false) :
    FailsOnly (EvalFault columns f) (operand op a) := by
  unfold operand
  split
  · exact .ok _
  · next hnumber => exact .error (.notOperand hop ha hnumber)

theorem safeDivide_failsOnly (fill : Binary64) :
    FailsOnly (EvalFault columns f) (safeDivide a b fill) := by
  unfold safeDivide
  split
  · exact .ok _
  · next hnull =>
    obtain ⟨ha, hb⟩ := Bool.or_eq_false_iff.mp (Bool.eq_false_of_not_eq_true hnull)
    refine .bind (operand_failsOnly (by decide) hb) fun _ _ => ?_
    split
    · exact .pure _
    · exact .bind (operand_failsOnly (by decide) ha) fun _ _ => .pure _

theorem operate_failsOnly (hop : op ≠ .concat) :
    FailsOnly (EvalFault columns f) (operate op a b) := by
  unfold operate
  split
  · exact safeDivide_failsOnly _
  · exact absurd rfl hop
  · split
    · exact .ok _
    · next hnull =>
      obtain ⟨ha, hb⟩ := Bool.or_eq_false_iff.mp (Bool.eq_false_of_not_eq_true hnull)
      split
      · exact .ok _
      · exact .bind (operand_failsOnly hop ha) fun _ _ =>
          .bind (operand_failsOnly hop hb) fun _ _ => .pure _

/-- Where all patterns compile, matching does not fail. -/
theorem matchPatterns_failsOnly {P : ReportError → Prop} {compile : String → Outcome Regex}
    {negated : Bool} {rows : List (Cell × Cell)}
    (h : ∀ row ∈ rows, ∃ r, compile row.2.display = .ok r) :
    FailsOnly P (matchPatterns compile negated none rows) := by
  rw [matchPatterns_eq_mapM rows (by simp)]
  refine .mapM fun row hrow => ?_
  obtain ⟨r, hr⟩ := h row hrow
  unfold matchesPattern
  split
  · exact .ok _
  · rw [hr]
    exact .ok _

end Cell

theorem Frame.require_failsOnly (f : Frame) {name : String} {columns : List String}
    (hread : name ∈ columns) : FailsOnly (EvalFault columns f) (f.require name) := by
  by_cases hname : name ∈ f.names
  · obtain ⟨c, hc⟩ := exists_require hname
    rw [hc]
    exact .ok c
  · unfold require
    split
    · exact .ok _
    · exact .error (.missingColumn hread hname)

section

variable {C : Cell → Prop} {f : Frame}

theorem Scalar.eval_failsOnly : ∀ e : Scalar Empty, e.ArithmeticOver C →
    FailsOnly (EvalFault (e.columns noClauses) f) (e.eval noClauses f)
  | .column name, _ => by
    have hrequire : FailsOnly (EvalFault [name] f) (f.require name) :=
      f.require_failsOnly List.mem_cons_self
    exact hrequire.bind fun _ _ => .pure _
  | .literal _, _ => .ok _
  | .binary _ l r, hover => by
    obtain ⟨hop, hl, hr⟩ := hover
    have hleft := (eval_failsOnly l hl).evalFault_left (r.columns noClauses)
    have hright := (eval_failsOnly r hr).evalFault_right (l.columns noClauses)
    refine hleft.bind_both hright fun _ _ _ _ => ?_
    exact .mapM fun _ _ => Cell.operate_failsOnly hop

/-- A clause fails to be evaluated only for a column that is missing or a cell that is no number. -/
theorem Predicate.eval_failsOnly : ∀ p : PlainCondition, p.ElementaryOver C →
    p.PatternsCompile f → FailsOnly (EvalFault (p.columns noClauses) f) (p.eval noClauses f)
  | .compare _ l r, hover, _ => by
    obtain ⟨hl, hr⟩ := hover
    have hleft := (l.eval_failsOnly (f := f) hl).evalFault_left (r.columns noClauses)
    have hright := (r.eval_failsOnly (f := f) hr).evalFault_right (l.columns noClauses)
    exact hleft.bind_both hright fun _ _ _ _ => .pure _
  | .member e _, hover, _ => by
    have hscalar := e.eval_failsOnly (f := f) hover.1
    exact hscalar.bind fun _ _ => .pure _
  | .range e _ _ _, hover, _ => by
    have hscalar := e.eval_failsOnly (f := f) hover.1
    exact hscalar.bind fun _ _ => .pure _
  | .isNull e, he, _ => by
    have hscalar := e.eval_failsOnly (f := f) he
    exact hscalar.bind fun _ _ => .pure _
  | .join _ p q, hover, hcompile => by
    obtain ⟨hp, hq⟩ := hover
    obtain ⟨hcp, hcq⟩ := hcompile
    have hleft := (eval_failsOnly p hp hcp).evalFault_left (q.columns noClauses)
    have hright := (eval_failsOnly q hq hcq).evalFault_right (p.columns noClauses)
    exact hleft.bind_both hright fun _ _ _ _ => .pure _
  | .not p, hp, hcompile => by
    have hnegated := eval_failsOnly p hp hcompile
    exact hnegated.bind fun _ _ => .pure _
  | .like e pattern ignoreCase negated, hover, hcompile => by
    obtain ⟨he, hpattern⟩ := hover
    have hscalar := (e.eval_failsOnly (f := f) he).evalFault_left (pattern.columns noClauses)
    have htext := (pattern.eval_failsOnly (f := f) hpattern).evalFault_right (e.columns noClauses)
    refine hscalar.bind_both htext fun cells patterns _ hpatterns => ?_
    -- only the patterns that the rows hold are compiled
    have hrows : ∀ row ∈ cells.zip patterns,
        ∃ r, Pattern.compileLike row.2.display ignoreCase = .ok r := by
      intro row hrow
      exact hcompile patterns hpatterns row.2 (List.of_mem_zip hrow).2
    exact Cell.matchPatterns_failsOnly hrows

end

namespace Clause

/-- **How a clause can fail.**  What a text reads as fails to be written, in whatever dialect, only
for a number of the text that is too large.  It fails to be evaluated only because the table lacks a
column that it reads or because arithmetic meets a cell that is no number, if patterns compile. -/
theorem fails_only {s : String} {p : PlainCondition} (h : predicateOf s = .ok p) :
    ∃ ls, lexemes s = .ok ls ∧ (∀ d, FailsOnly (Overflows (kinds ls)) (p.sql d)) ∧
      ∀ f : Frame, Predicate.PatternsCompile f p →
        FailsOnly (EvalFault p.dependencies f) (p.eval noClauses f) := by
  obtain ⟨ls, hls, hover⟩ := elementaryOver_of_predicateOf h
  refine ⟨ls, hls, ?_, ?_⟩
  · intro d
    exact .bind (p.emit_failsOnly (isNumeral_of_lexemes hls) hover) fun _ _ => .pure _
  · intro f hcompile
    refine (p.eval_failsOnly hover hcompile).imp fun e he => he.mono ?_
    exact fun name hname => mem_sortedNames.mpr hname

/-- A clause that holds no number is always written, and where its column is there its evaluation
misses nothing. -/
theorem fails_only_like : ∃ p, predicateOf "s LIKE 'a%'" = .ok p ∧
    (∀ d, ∃ text, p.sql d = .ok text) ∧
    ∀ f : Frame, "s" ∈ f.names → ∀ name,
      p.eval noClauses f ≠ .error (.invalid (.missingColumn name)) := by
  have hlexemes : lexemes "s LIKE 'a%'" = .ok
      [⟨.name "s", 0, 1, "s"⟩, ⟨.keyword .like, 2, 6, "LIKE"⟩, ⟨.string "a%", 7, 11, "'a%'"⟩] :=
    rfl
  have hname : Grammar.Sum [.name "s"] (.column "s") := .product (.signed (.atom (.name "s")))
  have hpattern : Grammar.Sum [.string "a%"] (.literal (.text "a%")) :=
    .product (.signed (.atom (.literal (.string "a%"))))
  have hread : predicateOf "s LIKE 'a%'" =
      .ok (.like (.column "s") (.literal (.text "a%")) false false) :=
    predicateOf_of_derives hlexemes
      (.conjunction (.negation (.group (.comparison (.test hname (.like hpattern))))))
  obtain ⟨ls, hls, hsql, heval⟩ := fails_only hread
  obtain rfl := Except.ok.inj (hlexemes.symm.trans hls)
  refine ⟨_, hread, ?_, ?_⟩
  · intro d
    cases htext : PlainCondition.sql d
        (.like (.column "s") (.literal (.text "a%")) false false) with
    | ok text => exact ⟨text, rfl⟩
    | error e =>
      obtain ⟨numeral, _, _, hnumber, -⟩ := hsql d e htext
      simp [kinds] at hnumber
  · intro f hs name he
    have hcompile : Predicate.PatternsCompile f
        (.like (.column "s") (.literal (.text "a%")) false false) := by
      intro cells hcells c hc
      obtain rfl := Except.ok.inj hcells
      obtain rfl := List.eq_of_mem_replicate hc
      exact Pattern.exists_compileLike (by decide)
    cases heval f hcompile _ he with
    | missingColumn hread hmissing =>
      obtain rfl := List.mem_singleton.mp (mem_sortedNames.mp hread)
      exact hmissing hs

end Clause

end Crosstab
