import Crosstab.Proofs.Expr.Matched

/-!
# Texts that hold other texts

`contains` puts a text between two `%` and matches the pattern that this makes.  So it is true where
some part of the cell fits the text read as a pattern (`evaluate_contains`).  A part that is the text
itself does fit.  Other parts fit as well if and only if `%` or `_` occurs in the text, since nothing
takes away their meaning.
-/

namespace Crosstab

namespace Pattern

/-! ## Parts that fit -/

/-- One pattern after another fits one text after another. -/
theorem likes_append_iff {p q t : List Char} :
    Likes (p ++ q) t ↔ ∃ u v, t = u ++ v ∧ Likes p u ∧ Likes q v := by
  constructor
  · intro h
    -- On the pattern, since the derivation is about `p ++ q` and not about a variable.
    induction p generalizing t with
    | nil => exact ⟨[], t, rfl, .nil, h⟩
    | cons c p ih =>
      rw [List.cons_append] at h
      cases h with
      | run skipped h =>
        obtain ⟨u, v, rfl, hu, hv⟩ := ih h
        exact ⟨skipped ++ u, v, (List.append_assoc ..).symm, .run skipped hu, hv⟩
      | one d h =>
        obtain ⟨u, v, rfl, hu, hv⟩ := ih h
        exact ⟨d :: u, v, rfl, .one d hu, hv⟩
      | same hrun hone h =>
        obtain ⟨u, v, rfl, hu, hv⟩ := ih h
        exact ⟨c :: u, v, rfl, .same hrun hone hu, hv⟩
  · rintro ⟨u, v, rfl, hu, hv⟩
    induction hu with
    | nil => exact hv
    | run skipped _ ih =>
      rw [List.append_assoc]
      exact .run skipped ih
    | one c _ ih => exact .one c ih
    | same hrun hone _ ih => exact .same hrun hone ih

/-- Some part of the text fits the pattern. -/
def LikesWithin (p t : List Char) : Prop := ∃ part, part <:+: t ∧ Likes p part

theorem likes_between_runs_iff {p t : List Char} :
    Likes ('%' :: (p ++ ['%'])) t ↔ LikesWithin p t := by
  have hrun (v : List Char) : Likes ['%'] v := by
    have h := Likes.run v .nil
    rwa [List.append_nil] at h
  constructor
  · intro h
    obtain ⟨n, -, h⟩ := likes_run_iff.mp h
    obtain ⟨u, v, huv, hu, -⟩ := likes_append_iff.mp h
    refine ⟨u, ⟨t.take n, v, ?_⟩, hu⟩
    rw [List.append_assoc, ← huv, List.take_append_drop]
  · rintro ⟨part, ⟨before, after, rfl⟩, hpart⟩
    rw [List.append_assoc]
    exact .run before (likes_append_iff.mpr ⟨part, after, rfl, hpart, hrun after⟩)

instance (p t : List Char) : Decidable (LikesWithin p t) :=
  decidable_of_iff _ likes_between_runs_iff

/-! ## Patterns that are texts -/

/-- Every pattern fits itself. -/
theorem likes_self (p : List Char) : Likes p p := by
  induction p with
  | nil => exact .nil
  | cons c p ih =>
    by_cases hrun : c = '%'
    · subst hrun
      exact .run ['%'] ih
    by_cases hone : c = '_'
    · subst hone
      exact .one '_' ih
    · exact .same hrun hone ih

/-- A pattern without `%` and `_` fits no other text. -/
theorem eq_of_likes {p t : List Char} (hrun : '%' ∉ p) (hone : '_' ∉ p) (h : Likes p t) : t = p := by
  induction h with
  | nil => rfl
  | run => exact absurd (List.mem_cons_self ..) hrun
  | one => exact absurd (List.mem_cons_self ..) hone
  | same _ _ _ ih =>
    rw [ih (fun hmem => hrun (List.mem_cons_of_mem _ hmem))
      fun hmem => hone (List.mem_cons_of_mem _ hmem)]

/-- A text for a pattern: nothing for `%` and a letter for `_`. -/
def sample (p : List Char) : List Char :=
  (p.filter (· ≠ '%')).map fun c => if c = '_' then 'a' else c

theorem likes_sample (p : List Char) : Likes p (sample p) := by
  induction p with
  | nil => exact .nil
  | cons c p ih =>
    by_cases hrun : c = '%'
    · subst hrun
      simpa [sample] using Likes.run [] ih
    by_cases hone : c = '_'
    · subst hone
      simpa [sample] using Likes.one 'a' ih
    · simpa [sample, hrun, hone] using Likes.same hrun hone ih

theorem run_not_mem_sample (p : List Char) : '%' ∉ sample p := by
  intro h
  simp only [sample, List.mem_map, List.mem_filter] at h
  obtain ⟨c, ⟨-, hc⟩, heq⟩ := h
  by_cases hone : c = '_'
  · simp [hone] at heq
  · simp_all

theorem one_not_mem_sample (p : List Char) : '_' ∉ sample p := by
  intro h
  simp only [sample, List.mem_map] at h
  obtain ⟨c, -, heq⟩ := h
  by_cases hone : c = '_'
  · simp [hone] at heq
  · simp [hone] at heq

/-- Fitting somewhere is the same as occurring for patterns without `%` and `_`, and for no
others. -/
theorem likesWithin_iff_infix_iff {p : List Char} :
    (∀ t, LikesWithin p t ↔ p <:+: t) ↔ '%' ∉ p ∧ '_' ∉ p := by
  constructor
  · intro h
    have hpart : p <:+: sample p := (h _).mp ⟨sample p, List.infix_refl _, likes_sample p⟩
    exact ⟨fun hmem => run_not_mem_sample p (hpart.subset hmem),
      fun hmem => one_not_mem_sample p (hpart.subset hmem)⟩
  · rintro ⟨hrun, hone⟩ t
    constructor
    · rintro ⟨part, hpart, h⟩
      rwa [eq_of_likes hrun hone h] at hpart
    · intro h
      exact ⟨p, h, likes_self p⟩

end Pattern

open Pattern

/-! ## Evaluation -/

/-- Whether some part of a cell fits a text, if the pattern for it can be compiled. -/
def Cell.holdsLike (sub : String) (c : Cell) : Outcome Truth :=
  if c.isNull then .ok none
  else (compileLike ("%" ++ sub ++ "%") false).map fun _ =>
    some (decide (LikesWithin sub.toList c.display.toList))

theorem evaluate_contains_eq_mapM {f : Frame} (hf : f.WellFormed) {e : Expr} (sub : String)
    {cs : List Cell} (hcs : e.evaluate f = .ok cs) :
    Condition.evaluate (Scalar.contains e (.ofText sub) false) f = cs.mapM (Cell.holdsLike sub) := by
  have hlength : cs.length = f.len := (Scalar.eval_follows Clause.eval_follows hf e hcs).length_eq
  have hpattern : (Scalar.ofText ("%" ++ sub ++ "%") : Expr).eval Clause.eval f =
      .ok (cs.map fun _ => .text ("%" ++ sub ++ "%")) := by
    rw [List.map_const', hlength]
    rfl
  have hchars : ("%" ++ sub ++ "%").toList = '%' :: (sub.toList ++ ['%']) := by simp
  have hrow (c : Cell) : Cell.fitsPattern false (c, .text ("%" ++ sub ++ "%")) =
      Cell.holdsLike sub c := by
    have hnull : (c.isNull || (Cell.text ("%" ++ sub ++ "%")).isNull) = c.isNull := Bool.or_false _
    have hdisplay : (Cell.text ("%" ++ sub ++ "%")).display = "%" ++ sub ++ "%" := rfl
    rw [Cell.fitsPattern, Cell.holdsLike]
    simp only [hnull, hdisplay, hchars, likes_between_runs_iff, Bool.bne_false]
  show (Predicate.like e (.ofText ("%" ++ sub ++ "%")) false false).eval Clause.eval f = _
  rw [Predicate.eval_like_eq_mapM false hcs hpattern, ← List.map_prod_left_eq_zip, List.mapM_map]
  exact mapM_congr fun c _ => hrow c

/-- Texts that leave room for the `%` around them are never an error. -/
theorem evaluate_contains_eq_map {f : Frame} (hf : f.WellFormed) {e : Expr} {sub : String}
    (hshort : sub.length + 2 ≤ likeLength) {cs : List Cell} (hcs : e.evaluate f = .ok cs) :
    Condition.evaluate (Scalar.contains e (.ofText sub) false) f = .ok (cs.map fun c =>
      if c.isNull then none else some (decide (LikesWithin sub.toList c.display.toList))) := by
  have hlength : ("%" ++ sub ++ "%").length ≤ likeLength := by
    rw [String.length_append, String.length_append]
    show 1 + sub.length + 1 ≤ likeLength
    omega
  obtain ⟨r, hr⟩ := exists_compileLike hlength
  rw [evaluate_contains_eq_mapM hf sub hcs]
  refine mapM_eq_ok_map fun c _ => ?_
  rw [Cell.holdsLike, hr]
  by_cases hnull : c.isNull = true
  · simp [hnull]
  · simp [hnull]
    rfl

/-- **What `contains` finds.**  It is true in the rows where some part of the cell fits the text as a
pattern, and null where the cell is null; a text that leaves room for the `%` around it is never an
error.  The text itself is such a part, so whatever holds the text is found.  Nothing else is found
if and only if neither `%` nor `_` occurs in the text. -/
theorem evaluate_contains {f : Frame} (hf : f.WellFormed) {e : Expr} (sub : String)
    {cs : List Cell} (hcs : e.evaluate f = .ok cs) :
    Condition.evaluate (Scalar.contains e (.ofText sub) false) f =
      cs.mapM (fun c =>
        if c.isNull then .ok none
        else (compileLike ("%" ++ sub ++ "%") false).map fun _ =>
          some (decide (LikesWithin sub.toList c.display.toList))) ∧
    (sub.length + 2 ≤ likeLength →
      Condition.evaluate (Scalar.contains e (.ofText sub) false) f = .ok (cs.map fun c =>
        if c.isNull then none else some (decide (LikesWithin sub.toList c.display.toList)))) ∧
    (∀ t, sub.toList <:+: t → LikesWithin sub.toList t) ∧
    ((∀ t, LikesWithin sub.toList t ↔ sub.toList <:+: t) ↔
      '%' ∉ sub.toList ∧ '_' ∉ sub.toList) :=
  ⟨evaluate_contains_eq_mapM hf sub hcs, fun hshort => evaluate_contains_eq_map hf hshort hcs,
    fun _ ht => ⟨sub.toList, ht, likes_self _⟩, likesWithin_iff_infix_iff⟩

/-- Offers, one of them missing. -/
def offers : Frame := ⟨[⟨"offer", [.text "50 apples", .text "50% off", .null, .text "5 pears"]⟩], 4⟩

theorem offers_wellFormed : offers.WellFormed := by decide

theorem evaluate_offer : Expr.evaluate (.column "offer") offers =
    .ok [.text "50 apples", .text "50% off", .null, .text "5 pears"] := rfl

/-- A text without `%` and `_` is found where it occurs. -/
theorem evaluate_contains_off : offers.WellFormed ∧
    Expr.evaluate (.column "offer") offers =
      .ok [.text "50 apples", .text "50% off", .null, .text "5 pears"] ∧
    "off".length + 2 ≤ likeLength ∧
    Condition.evaluate (Scalar.contains (.column "offer") (.ofText "off") false) offers =
      .ok [some false, some true, none, some false] := by
  have hshort : "off".length + 2 ≤ likeLength := by decide
  refine ⟨offers_wellFormed, evaluate_offer, hshort, ?_⟩
  rw [(evaluate_contains offers_wellFormed "off" evaluate_offer).2.1 hshort]
  exact congrArg Except.ok (by decide +kernel)

/-- The percent sign is not looked for: apples are found, which hold none. -/
theorem contains_finds_apples :
    Condition.evaluate (Scalar.contains (.column "offer") (.ofText "50%") false) offers =
      .ok [some true, some true, none, some false] ∧
    ¬ "50%".toList <:+: (Cell.text "50 apples").display.toList := by
  have hpercent : '%' ∈ "50%".toList ∧ '%' ∉ (Cell.text "50 apples").display.toList := by decide
  refine ⟨?_, fun h => hpercent.2 (h.subset hpercent.1)⟩
  rw [evaluate_contains_eq_map offers_wellFormed (by decide) evaluate_offer]
  exact congrArg Except.ok (by decide +kernel)

end Crosstab
