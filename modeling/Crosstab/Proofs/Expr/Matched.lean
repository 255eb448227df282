import Crosstab.Proofs.Expr.Columnar
import Crosstab.Proofs.Expr.LikeSize

/-!
# Texts matched by patterns

A condition with a `LIKE` pattern compiles the pattern and searches the text for the expression.
What comes out is whether the whole text fits the pattern (`eval_like`), as long as the pattern can
be compiled; up to `likeLength` characters every pattern can.  Not all longer ones can, even if the
text fits them (`underscores_refused`).
-/

namespace Crosstab

namespace Pattern

/-! ## Compiling -/

theorem compileLike_eq (p : String) : compileLike p false =
    if Regex.fits (likeRegex p.toList) then .ok (likeRegex p.toList)
    else reject (.invalidRegex (likeSource p false)) := by
  have hpattern : Regex.ofPattern? (likeSource p false) =
      if Regex.fits (likeRegex p.toList) then some (likeRegex p.toList) else none := by
    rw [Regex.ofPattern?, read?_likeSource, Option.filter_some]
  have hempty : "".isEmpty = true := rfl
  simp only [compileLike, compile, hempty, if_true, hpattern]
  by_cases hfits : Regex.fits (likeRegex p.toList) = true
  · simp [hfits]
  · simp [hfits]

/-- A compiled pattern finds a match in the texts that fit; a pattern that is not compiled is a long
one. -/
theorem compileLike_spec (p : String) :
    (∃ r, compileLike p false = .ok r ∧
      ∀ s : String, r.matchesIn s = true ↔ Likes p.toList s.toList) ∨
    likeLength < p.length ∧ compileLike p false = reject (.invalidRegex (likeSource p false)) := by
  rw [compileLike_eq]
  by_cases hfits : Regex.fits (likeRegex p.toList) = true
  · exact .inl ⟨likeRegex p.toList, if_pos hfits, matchesIn_likeRegex p⟩
  · refine .inr ⟨?_, if_neg hfits⟩
    by_contra hlength
    exact hfits (fits_likeRegex (String.length_toList ▸ Nat.le_of_not_lt hlength))

theorem exists_compileLike {p : String} (h : p.length ≤ likeLength) :
    ∃ r, compileLike p false = .ok r := by
  rcases compileLike_spec p with ⟨r, hr, -⟩ | ⟨hlong, -⟩
  · exact ⟨r, hr⟩
  · omega

end Pattern

open Pattern

/-! ## Conditions with a pattern -/

/-- Whether a cell fits a pattern, both as text.  A pattern that cannot be compiled is an error. -/
def Cell.fitsPattern (negated : Bool) (row : Cell × Cell) : Outcome Truth :=
  if row.1.isNull || row.2.isNull then .ok none
  else (compileLike row.2.display false).map fun _ =>
    some (decide (Likes row.2.display.toList row.1.display.toList) != negated)

theorem Cell.matchesPattern_like (negated : Bool) (row : Cell × Cell) :
    row.1.matchesPattern (fun s => compileLike s false) row.2 negated =
      Cell.fitsPattern negated row := by
  rw [Cell.matchesPattern, Cell.fitsPattern]
  by_cases hnull : (row.1.isNull || row.2.isNull) = true
  · rw [if_pos hnull, if_pos hnull]
  · rw [if_neg hnull, if_neg hnull]
    rcases compileLike_spec row.2.display with ⟨r, hr, hmatch⟩ | ⟨-, hr⟩
    · have htruth : r.matchesIn row.1.display =
          decide (Likes row.2.display.toList row.1.display.toList) := by
        rw [Bool.eq_iff_iff, hmatch, decide_eq_true_eq]
      rw [hr, ← htruth]
      rfl
    · rw [hr]
      rfl

theorem Predicate.eval_like_eq_mapM {κ : Type} {h : ClauseEval κ} {f : Frame}
    {e pattern : Scalar κ} {cs ps : List Cell} (negated : Bool) (hcs : e.eval h f = .ok cs)
    (hps : pattern.eval h f = .ok ps) :
    (Predicate.like e pattern false negated).eval h f =
      (cs.zip ps).mapM (Cell.fitsPattern negated) := by
  rw [Predicate.eval, hcs, hps, ok_bind, ok_bind, Cell.matchPatterns_eq_mapM _ (by simp)]
  exact mapM_congr fun row _ => Cell.matchesPattern_like negated row

/-- **LIKE matches whole texts.**  Compiled and searched, a pattern finds a match exactly in the
texts that fit it as a whole.  A condition with a pattern says for every row whether the cell fits
the pattern, turned round if it is negated, and nothing where one of them is null.  It fails only
for patterns longer than `likeLength`. -/
theorem Predicate.eval_like {κ : Type} (h : ClauseEval κ) (f : Frame) (e pattern : Scalar κ)
    (negated : Bool) {cs ps : List Cell} (hcs : e.eval h f = .ok cs)
    (hps : pattern.eval h f = .ok ps) :
    (∀ p : String,
      (∃ r, compileLike p false = .ok r ∧
        ∀ s : String, r.matchesIn s = true ↔ Likes p.toList s.toList) ∨
      likeLength < p.length ∧
        compileLike p false = reject (.invalidRegex (likeSource p false))) ∧
    (Predicate.like e pattern false negated).eval h f =
      (cs.zip ps).mapM (fun (c, p) =>
        if c.isNull || p.isNull then .ok none
        else (compileLike p.display false).map fun _ =>
          some (decide (Likes p.display.toList c.display.toList) != negated)) ∧
    ((∀ p ∈ ps, p.display.length ≤ likeLength) →
      (Predicate.like e pattern false negated).eval h f = .ok ((cs.zip ps).map fun (c, p) =>
        if c.isNull || p.isNull then none
        else some (decide (Likes p.display.toList c.display.toList) != negated))) := by
  have hrows := Predicate.eval_like_eq_mapM negated hcs hps
  refine ⟨compileLike_spec, hrows, fun hshort => ?_⟩
  rw [hrows]
  refine mapM_eq_ok_map fun row hrow => ?_
  obtain ⟨r, hr⟩ := exists_compileLike (hshort row.2 (List.of_mem_zip hrow).2)
  rw [Cell.fitsPattern, hr]
  by_cases hnull : (row.1.isNull || row.2.isNull) = true
  · simp [hnull]
  · simp [hnull]
    rfl

/-- Codes, one of them missing and one over two lines. -/
def codes : Frame := ⟨[⟨"code", [.text "a.c", .null, .text "abc", .text "a\n.c", .text "a.cd"]⟩], 5⟩

/-- A dot stands for itself, and a run may hold the end of a line. -/
theorem Predicate.eval_like_codes :
    (Scalar.column "code" : Expr).eval Clause.eval codes =
      .ok [.text "a.c", .null, .text "abc", .text "a\n.c", .text "a.cd"] ∧
    (Scalar.ofText "a%.c" : Expr).eval Clause.eval codes = .ok (List.replicate 5 (.text "a%.c")) ∧
    (∀ p ∈ List.replicate 5 (Cell.text "a%.c"), p.display.length ≤ likeLength) ∧
    (Predicate.like (.column "code") (.ofText "a%.c") false true).eval Clause.eval codes =
      .ok [some false, none, some true, some false, some true] := by
  have hshort : ∀ p ∈ List.replicate 5 (Cell.text "a%.c"), p.display.length ≤ likeLength := by decide
  exact ⟨rfl, rfl, hshort,
    ((Predicate.eval_like Clause.eval codes (.column "code") (.ofText "a%.c") true rfl rfl).2.2
      hshort).trans rfl⟩

/-! ### Long patterns -/

theorem Pattern.likes_underscores (n : Nat) (c : Char) :
    Likes (List.replicate n '_') (List.replicate n c) := by
  induction n with
  | zero => exact .nil
  | succ n ih => exact .one c ih

/-- Some copies of a character. -/
def copies (n : Nat) (c : Char) : String := String.ofList (List.replicate n c)

/-- A cell fits a pattern as a whole, and matching it is an error: the pattern is too long to be
compiled. -/
theorem underscores_refused {n : Nat} (hn : Regex.sizeLimit < Regex.anyBytes * n) (c : Char) :
    Likes (copies n '_').toList (copies n c).toList ∧
    compileLike (copies n '_') false =
      reject (.invalidRegex (likeSource (copies n '_') false)) ∧
    (Predicate.like (.column "code") (.ofText (copies n '_')) false false).eval Clause.eval
        ⟨[⟨"code", [.text (copies n c)]⟩], 1⟩ =
      reject (.invalidRegex (likeSource (copies n '_') false)) := by
  have hlikes : Likes (copies n '_').toList (copies n c).toList := by
    rw [copies, copies, String.toList_ofList, String.toList_ofList]
    exact likes_underscores n c
  have hfits : Regex.fits (likeRegex (copies n '_').toList) = false := by
    rw [copies, String.toList_ofList]
    exact not_fits_underscores hn
  have hrefused : compileLike (copies n '_') false =
      reject (.invalidRegex (likeSource (copies n '_') false)) := by
    rw [compileLike_eq, if_neg (by simp [hfits])]
  refine ⟨hlikes, hrefused, ?_⟩
  have hcs : (Scalar.column "code" : Expr).eval Clause.eval ⟨[⟨"code", [.text (copies n c)]⟩], 1⟩ =
      .ok [.text (copies n c)] := rfl
  have hps : (Scalar.ofText (copies n '_') : Expr).eval Clause.eval
      ⟨[⟨"code", [.text (copies n c)]⟩], 1⟩ = .ok [.text (copies n '_')] := rfl
  have hrow : Cell.fitsPattern false (.text (copies n c), .text (copies n '_')) =
      reject (.invalidRegex (likeSource (copies n '_') false)) := by
    have hnull (s : String) : (Cell.text s).isNull = false := rfl
    have hdisplay (s : String) : (Cell.text s).display = s := rfl
    simp only [Cell.fitsPattern, hnull, hdisplay, hrefused]
    rfl
  rw [Predicate.eval_like_eq_mapM false hcs hps, List.zip_cons_cons, List.zip_nil_left,
    List.mapM_cons, hrow]
  rfl

/-- Twenty thousand characters fit as many underscores, and matching them is an error. -/
theorem longPattern_refused :
    Likes (copies 20000 '_').toList (copies 20000 'a').toList ∧
    compileLike (copies 20000 '_') false =
      reject (.invalidRegex (likeSource (copies 20000 '_') false)) ∧
    (Predicate.like (.column "code") (.ofText (copies 20000 '_')) false false).eval Clause.eval
        ⟨[⟨"code", [.text (copies 20000 'a')]⟩], 1⟩ =
      reject (.invalidRegex (likeSource (copies 20000 '_') false)) :=
  underscores_refused (by decide) 'a'

end Crosstab
