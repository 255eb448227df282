import Crosstab.Expr.Structured
import Crosstab.Proofs.Cell.Written
import Crosstab.Proofs.Json.Loosened

/-!
# Expressions read back from their structured forms

The structured form has no number for a float that is not finite, so what can be read back are the
expressions all of whose floats are finite: `Scalar.Finite` and `Predicate.Finite`.  For these,
reading the canonical form gives the expression again, given fuel for its depth
(`Scalar.restored`, `Predicate.restored`), and so it is for aggregates.  Keys that are left out
because they have their defaults, and keys that are added, make no difference.
-/

namespace Crosstab

/-! ## Names of operators -/

theorem BinaryOp.choice?_symbol (op : BinaryOp) :
    Json.choice? true BinaryOp.choices (.string op.symbol) = some op := by
  cases op <;> rfl

theorem Comparison.choice?_symbol (op : Comparison) :
    Json.choice? true Comparison.spellings (.string op.symbol) = some op := by
  cases op <;> rfl

theorem Connective.choice?_name (op : Connective) :
    Json.choice? true Connective.choices (.string op.name) = some op := by
  cases op <;> rfl

theorem Bounds.choice?_name (b : Bounds) :
    Json.choice? true Bounds.choices (.string b.name) = some b := by
  cases b <;> rfl

theorem Dialect.choice?_name (d : Dialect) :
    Json.choice? true Dialect.choices (.string d.name) = some d := by
  cases d <;> rfl

/-! ## Finite expressions -/

mutual

/-- All floats of a scalar are finite. -/
def Scalar.Finite {κ : Type} : Scalar κ → Prop
  | .column _ => True
  | .literal value => value.Finite
  | .binary _ l r => l.Finite ∧ r.Finite
  | .safeDiv n d fill => n.Finite ∧ d.Finite ∧ fill.isFinite = true
  | .coalesce args => Scalar.FiniteList args
  | .caseWhen branches none => Scalar.FiniteBranches branches
  | .caseWhen branches (some e) => Scalar.FiniteBranches branches ∧ e.Finite
  | .fragment _ => True
termination_by structural e => e

/-- All floats of some scalars are finite. -/
def Scalar.FiniteList {κ : Type} : List (Scalar κ) → Prop
  | [] => True
  | e :: rest => e.Finite ∧ Scalar.FiniteList rest
termination_by structural es => es

/-- All floats of some branches are finite. -/
def Scalar.FiniteBranches {κ : Type} : List (Predicate κ × Scalar κ) → Prop
  | [] => True
  | (p, e) :: rest => p.Finite ∧ e.Finite ∧ Scalar.FiniteBranches rest
termination_by structural bs => bs

/-- All floats of a predicate are finite. -/
def Predicate.Finite {κ : Type} : Predicate κ → Prop
  | .compare _ l r => l.Finite ∧ r.Finite
  | .member e values => e.Finite ∧ ∀ c ∈ values, c.Finite
  | .range e low high _ => e.Finite ∧ low.Finite ∧ high.Finite
  | .isNull e => e.Finite
  | .join _ l r => l.Finite ∧ r.Finite
  | .not p => p.Finite
  | .like e pattern _ _ => e.Finite ∧ pattern.Finite
  | .regex e pattern _ _ => e.Finite ∧ pattern.Finite
  | .clause _ => True
termination_by structural p => p

end

/-! ## Reading expressions -/

theorem Scalar.toJson_canonical_ne_null (e : Expr) :
    (e.toJson Clause.toJson).canonical ≠ .null := by
  cases e with
  | caseWhen branches otherwise =>
    cases otherwise <;> simp [Scalar.toJson, Json.tagged, Json.canonical]
  | _ => simp [Scalar.toJson, Json.tagged, Json.canonical]

theorem Predicate.toJson_canonical_ne_null (p : Condition) :
    (p.toJson Clause.toJson).canonical ≠ .null := by
  cases p <;> simp [Predicate.toJson, Clause.toJson, Json.tagged, Json.canonical]

/-! ### Lists -/

theorem Scalar.listToJson_eq_map {κ : Type} (h : κ → Json) (es : List (Scalar κ)) :
    Scalar.listToJson h es = es.map fun e => e.toJson h := by
  induction es with
  | nil => rfl
  | cons e rest ih => rw [Scalar.listToJson, ih, List.map_cons]

/-- The structured form of a branch. -/
def Scalar.branchToJson {κ : Type} (h : κ → Json) (b : Predicate κ × Scalar κ) : Json :=
  .object [("when", b.1.toJson h), ("then", b.2.toJson h)]

theorem Scalar.branchesToJson_eq_map {κ : Type} (h : κ → Json)
    (bs : List (Predicate κ × Scalar κ)) :
    Scalar.branchesToJson h bs = bs.map (Scalar.branchToJson h) := by
  induction bs with
  | nil => rfl
  | cons b rest ih => rw [Scalar.branchesToJson, ih, List.map_cons, Scalar.branchToJson]

/-! ### What reading gives back -/

/-- The scalar is read back from every loosened form, given fuel for the depth. -/
def Scalar.Restored (e : Expr) : Prop :=
  ∀ {fuel : Nat} (inside : Bool) (w : Json),
    Json.Loosened (.tagged .scalar) (e.toJson Clause.toJson).canonical w →
      w.canonical.depth < fuel → Scalar.read? fuel inside w.canonical = some e

/-- The predicate is read back from every loosened form, given fuel for the depth. -/
def Predicate.Restored (p : Condition) : Prop :=
  ∀ {fuel : Nat} (inside : Bool) (w : Json),
    Json.Loosened (.tagged .predicate) (p.toJson Clause.toJson).canonical w →
      w.canonical.depth < fuel → Predicate.read? fuel inside w.canonical = some p

/-- The branch is read back from every loosened form, given fuel for the depth. -/
def Scalar.BranchRestored (b : Condition × Expr) : Prop :=
  ∀ {fuel : Nat} (w : Json),
    Json.Loosened (.record .branch) (Scalar.branchToJson Clause.toJson b).canonical w →
      w.canonical.depth < fuel → Scalar.readBranch? fuel w.canonical = some b

namespace Scalar

theorem read?_null (fuel : Nat) (inside : Bool) : Scalar.read? fuel inside .null = none := by
  cases fuel <;> rfl

theorem restored_column (name : String) : Restored (.column name) := by
  intro fuel inside w hw hfuel
  obtain ⟨fuel, rfl⟩ : ∃ n, fuel = n + 1 := ⟨fuel - 1, by omega⟩
  obtain ⟨body, r, hu, ho, hr⟩ := Json.Loosened.untag? .scalar "column"
    [("name", .string name)] hw
    inside Scalar.kinds ["name"] (by decide) rfl rfl rfl (by decide) hfuel
  have hname : r.required "name" Json.string? = some name := hr.required_value "name" rfl rfl rfl
  refine Option.bind_eq_some_iff.mpr ⟨_, hu, ?_⟩
  simp [ho, hname]

theorem restored_literal {value : Cell} (hvalue : value.Finite) : Restored (.literal value) := by
  intro fuel inside w hw hfuel
  obtain ⟨fuel, rfl⟩ : ∃ n, fuel = n + 1 := ⟨fuel - 1, by omega⟩
  obtain ⟨body, r, hu, ho, hr⟩ := Json.Loosened.untag? .scalar "literal"
    [("value", value.toTaggedJson)] hw
    inside Scalar.kinds ["value"] (by decide) rfl rfl rfl (by decide) hfuel
  have hvalue := hr.required_value "value" rfl rfl (Cell.ofJson?_toTaggedJson hvalue)
  refine Option.bind_eq_some_iff.mpr ⟨_, hu, ?_⟩
  simp [ho, hvalue]

theorem restored_binary {op : BinaryOp} {left right : Expr} (hleft : left.Restored)
    (hright : right.Restored) : Restored (.binary op left right) := by
  intro fuel inside w hw hfuel
  obtain ⟨fuel, rfl⟩ : ∃ n, fuel = n + 1 := ⟨fuel - 1, by omega⟩
  obtain ⟨body, r, hu, ho, hr⟩ := Json.Loosened.untag? .scalar "binary"
    [("op", .string op.symbol), ("left", left.toJson Clause.toJson),
      ("right", right.toJson Clause.toJson)] hw
    inside Scalar.kinds ["op", "left", "right"] (by decide) rfl rfl rfl (by decide) hfuel
  have hop := hr.required_value "op" rfl rfl op.choice?_symbol
  have hleft := hr.required_eq "left" rfl rfl (hleft true)
  have hright := hr.required_eq "right" rfl rfl (hright true)
  refine Option.bind_eq_some_iff.mpr ⟨_, hu, ?_⟩
  simp [ho, hop, hleft, hright]

theorem restored_safeDiv {n d : Expr} {fill : Binary64} (hn : n.Restored) (hd : d.Restored)
    (hfill : fill.isFinite = true) : Restored (.safeDiv n d fill) := by
  intro fuel inside w hw hfuel
  obtain ⟨fuel, rfl⟩ : ∃ n, fuel = n + 1 := ⟨fuel - 1, by omega⟩
  obtain ⟨body, r, hu, ho, hr⟩ := Json.Loosened.untag? .scalar "safe_div"
    [("numerator", n.toJson Clause.toJson), ("denominator", d.toJson Clause.toJson),
      ("fill", .ofFloat fill)] hw
    inside Scalar.kinds ["numerator", "denominator", "fill"]
    (by decide) rfl rfl rfl (by decide) hfuel
  have hnumerator := hr.required_eq "numerator" rfl rfl (hn true)
  have hdenominator := hr.required_eq "denominator" rfl rfl (hd true)
  have hfill := hr.withDefault_value "fill" Binary64.zero rfl rfl (float?_ofFloat hfill) rfl
  refine Option.bind_eq_some_iff.mpr ⟨_, hu, ?_⟩
  simp [ho, hnumerator, hdenominator, hfill]

theorem restored_coalesce {args : List Expr} (hargs : ∀ e ∈ args, e.Restored) :
    Restored (.coalesce args) := by
  intro fuel inside w hw hfuel
  obtain ⟨fuel, rfl⟩ : ∃ n, fuel = n + 1 := ⟨fuel - 1, by omega⟩
  obtain ⟨body, r, hu, ho, hr⟩ := Json.Loosened.untag? .scalar "coalesce"
    [("exprs", .array (Scalar.listToJson Clause.toJson args))] hw
    inside Scalar.kinds ["exprs"] (by decide) rfl rfl rfl (by decide) hfuel
  have hexprs : r.required "exprs" (Json.list? (Scalar.read? fuel true)) = some args := by
    rw [listToJson_eq_map] at hr
    exact hr.required_eq "exprs" rfl rfl fun w hw hdepth =>
      Json.list?_loosened (fun e he => hargs e he true) hw hdepth
  refine Option.bind_eq_some_iff.mpr ⟨_, hu, ?_⟩
  simp [ho, hexprs]

theorem toJson_caseWhen (branches : List (Condition × Expr)) (otherwise : Option Expr) :
    (caseWhen branches otherwise).toJson Clause.toJson = .tagged "kind" "case_when"
      [("whens", .array (branches.map (branchToJson Clause.toJson))),
        ("otherwise", .ofOption (Scalar.toJson Clause.toJson) otherwise)] := by
  rw [← branchesToJson_eq_map]
  cases otherwise <;> rfl

theorem restored_caseWhen {branches : List (Condition × Expr)} {otherwise : Option Expr}
    (hbranches : ∀ b ∈ branches, BranchRestored b) (hotherwise : ∀ e ∈ otherwise, e.Restored) :
    Restored (.caseWhen branches otherwise) := by
  intro fuel inside w hw hfuel
  obtain ⟨fuel, rfl⟩ : ∃ n, fuel = n + 1 := ⟨fuel - 1, by omega⟩
  rw [toJson_caseWhen] at hw
  obtain ⟨body, r, hu, ho, hr⟩ := Json.Loosened.untag? .scalar "case_when" _ hw
    inside Scalar.kinds ["whens", "otherwise"] (by decide) rfl rfl rfl (by decide) hfuel
  have hwhens := hr.required_eq "whens" rfl rfl fun w hw hdepth =>
    Json.list?_loosened (fun b hb => hbranches b hb) hw hdepth
  have hotherwise := hr.optional_eq "otherwise" rfl rfl (fun e he => hotherwise e he true)
    (read?_null fuel true) fun e _ => e.toJson_canonical_ne_null
  refine Option.bind_eq_some_iff.mpr ⟨_, hu, ?_⟩
  simp [ho, hwhens, hotherwise]

theorem restored_fragment (text : String) : Restored (.fragment text) := by
  intro fuel inside w hw hfuel
  obtain ⟨fuel, rfl⟩ : ∃ n, fuel = n + 1 := ⟨fuel - 1, by omega⟩
  obtain ⟨body, r, hu, ho, hr⟩ := Json.Loosened.untag? .scalar "fragment"
    [("sql", .string text)] hw
    inside Scalar.kinds ["sql"] (by decide) rfl rfl rfl (by decide) hfuel
  have hsql : r.required "sql" Json.string? = some text := hr.required_value "sql" rfl rfl rfl
  refine Option.bind_eq_some_iff.mpr ⟨_, hu, ?_⟩
  simp [ho, hsql]

theorem branchRestored {p : Condition} {e : Expr} (hp : p.Restored) (he : e.Restored) :
    BranchRestored (p, e) := by
  intro fuel w hw hfuel
  obtain ⟨fuel, rfl⟩ : ∃ n, fuel = n + 1 := ⟨fuel - 1, by omega⟩
  obtain ⟨r, ho, hr⟩ := Json.Loosened.open? .branch
    [("when", p.toJson Clause.toJson), ("then", e.toJson Clause.toJson)] hw
    ["when", "then"] rfl rfl (by decide) hfuel
  have hwhen := hr.required_eq "when" rfl rfl (hp true)
  have hthen := hr.required_eq "then" rfl rfl (he true)
  refine Option.bind_eq_some_iff.mpr ⟨r, ho, ?_⟩
  simp [hwhen, hthen]

end Scalar

namespace Predicate

theorem restored_compare {op : Comparison} {left right : Expr} (hleft : left.Restored)
    (hright : right.Restored) : Restored (.compare op left right) := by
  intro fuel inside w hw hfuel
  obtain ⟨fuel, rfl⟩ : ∃ n, fuel = n + 1 := ⟨fuel - 1, by omega⟩
  obtain ⟨body, r, hu, ho, hr⟩ := Json.Loosened.untag? .predicate "cmp"
    [("op", .string op.symbol), ("left", left.toJson Clause.toJson),
      ("right", right.toJson Clause.toJson)] hw
    inside Predicate.kinds ["op", "left", "right"] (by decide) rfl rfl rfl (by decide) hfuel
  have hop := hr.required_value "op" rfl rfl op.choice?_symbol
  have hleft := hr.required_eq "left" rfl rfl (hleft true)
  have hright := hr.required_eq "right" rfl rfl (hright true)
  refine Option.bind_eq_some_iff.mpr ⟨_, hu, ?_⟩
  simp [ho, hop, hleft, hright]

theorem restored_member {e : Expr} {values : List Cell} (he : e.Restored)
    (hvalues : ∀ c ∈ values, c.Finite) : Restored (.member e values) := by
  intro fuel inside w hw hfuel
  obtain ⟨fuel, rfl⟩ : ∃ n, fuel = n + 1 := ⟨fuel - 1, by omega⟩
  obtain ⟨body, r, hu, ho, hr⟩ := Json.Loosened.untag? .predicate "in"
    [("expr", e.toJson Clause.toJson), ("values", .array (values.map Cell.toTaggedJson))] hw
    inside Predicate.kinds ["expr", "values"] (by decide) rfl rfl rfl (by decide) hfuel
  have hexpr := hr.required_eq "expr" rfl rfl (he true)
  have hvalues := hr.required_value "values" rfl rfl (Cell.listOfJson?_toTaggedJson hvalues)
  refine Option.bind_eq_some_iff.mpr ⟨_, hu, ?_⟩
  simp [ho, hexpr, hvalues]

theorem restored_range {e : Expr} {low high : Cell} {bounds : Bounds} (he : e.Restored)
    (hlow : low.Finite) (hhigh : high.Finite) : Restored (.range e low high bounds) := by
  intro fuel inside w hw hfuel
  obtain ⟨fuel, rfl⟩ : ∃ n, fuel = n + 1 := ⟨fuel - 1, by omega⟩
  obtain ⟨body, r, hu, ho, hr⟩ := Json.Loosened.untag? .predicate "between"
    [("expr", e.toJson Clause.toJson), ("left", low.toTaggedJson), ("right", high.toTaggedJson),
      ("inclusive", .string bounds.name)] hw
    inside Predicate.kinds ["expr", "left", "right", "inclusive"]
    (by decide) rfl rfl rfl (by decide) hfuel
  have hexpr := hr.required_eq "expr" rfl rfl (he true)
  have hlow := hr.required_value "left" rfl rfl (Cell.ofJson?_toTaggedJson hlow)
  have hhigh := hr.required_value "right" rfl rfl (Cell.ofJson?_toTaggedJson hhigh)
  have hbounds := hr.withDefault_value "inclusive" .both rfl rfl bounds.choice?_name rfl
  refine Option.bind_eq_some_iff.mpr ⟨_, hu, ?_⟩
  simp [ho, hexpr, hlow, hhigh, hbounds]

theorem restored_isNull {e : Expr} (he : e.Restored) : Restored (.isNull e) := by
  intro fuel inside w hw hfuel
  obtain ⟨fuel, rfl⟩ : ∃ n, fuel = n + 1 := ⟨fuel - 1, by omega⟩
  obtain ⟨body, r, hu, ho, hr⟩ := Json.Loosened.untag? .predicate "is_null"
    [("expr", e.toJson Clause.toJson)] hw
    inside Predicate.kinds ["expr"] (by decide) rfl rfl rfl (by decide) hfuel
  have hexpr := hr.required_eq "expr" rfl rfl (he true)
  refine Option.bind_eq_some_iff.mpr ⟨_, hu, ?_⟩
  simp [ho, hexpr]

theorem restored_join {op : Connective} {left right : Condition} (hleft : left.Restored)
    (hright : right.Restored) : Restored (.join op left right) := by
  intro fuel inside w hw hfuel
  obtain ⟨fuel, rfl⟩ : ∃ n, fuel = n + 1 := ⟨fuel - 1, by omega⟩
  obtain ⟨body, r, hu, ho, hr⟩ := Json.Loosened.untag? .predicate "bool"
    [("op", .string op.name), ("left", left.toJson Clause.toJson),
      ("right", right.toJson Clause.toJson)] hw
    inside Predicate.kinds ["op", "left", "right"] (by decide) rfl rfl rfl (by decide) hfuel
  have hop := hr.required_value "op" rfl rfl op.choice?_name
  have hleft := hr.required_eq "left" rfl rfl (hleft true)
  have hright := hr.required_eq "right" rfl rfl (hright true)
  refine Option.bind_eq_some_iff.mpr ⟨_, hu, ?_⟩
  simp [ho, hop, hleft, hright]

theorem restored_not {p : Condition} (hp : p.Restored) : Restored (.not p) := by
  intro fuel inside w hw hfuel
  obtain ⟨fuel, rfl⟩ : ∃ n, fuel = n + 1 := ⟨fuel - 1, by omega⟩
  obtain ⟨body, r, hu, ho, hr⟩ := Json.Loosened.untag? .predicate "not"
    [("expr", p.toJson Clause.toJson)] hw
    inside Predicate.kinds ["expr"] (by decide) rfl rfl rfl (by decide) hfuel
  have hexpr := hr.required_eq "expr" rfl rfl (hp true)
  refine Option.bind_eq_some_iff.mpr ⟨_, hu, ?_⟩
  simp [ho, hexpr]

theorem restored_like {e pattern : Expr} {ignoreCase negated : Bool} (he : e.Restored)
    (hpattern : pattern.Restored) : Restored (.like e pattern ignoreCase negated) := by
  intro fuel inside w hw hfuel
  obtain ⟨fuel, rfl⟩ : ∃ n, fuel = n + 1 := ⟨fuel - 1, by omega⟩
  obtain ⟨body, r, hu, ho, hr⟩ := Json.Loosened.untag? .predicate "like"
    [("expr", e.toJson Clause.toJson), ("pattern", pattern.toJson Clause.toJson),
      ("ci", .bool ignoreCase), ("neg", .bool negated)] hw
    inside Predicate.kinds ["expr", "pattern", "ci", "neg"]
    (by decide) rfl rfl rfl (by decide) hfuel
  have hexpr := hr.required_eq "expr" rfl rfl (he true)
  have hpattern := hr.required_eq "pattern" rfl rfl (hpattern true)
  have hci : r.withDefault "ci" false Json.bool? = some ignoreCase :=
    hr.withDefault_value "ci" false rfl rfl rfl rfl
  have hneg : r.withDefault "neg" false Json.bool? = some negated :=
    hr.withDefault_value "neg" false rfl rfl rfl rfl
  refine Option.bind_eq_some_iff.mpr ⟨_, hu, ?_⟩
  simp [ho, hexpr, hpattern, hci, hneg]

theorem restored_regex {e pattern : Expr} {flags : String} {negated : Bool} (he : e.Restored)
    (hpattern : pattern.Restored) : Restored (.regex e pattern flags negated) := by
  intro fuel inside w hw hfuel
  obtain ⟨fuel, rfl⟩ : ∃ n, fuel = n + 1 := ⟨fuel - 1, by omega⟩
  obtain ⟨body, r, hu, ho, hr⟩ := Json.Loosened.untag? .predicate "regex"
    [("expr", e.toJson Clause.toJson), ("pattern", pattern.toJson Clause.toJson),
      ("flags", .string flags), ("neg", .bool negated)] hw
    inside Predicate.kinds ["expr", "pattern", "flags", "neg"]
    (by decide) rfl rfl rfl (by decide) hfuel
  have hexpr := hr.required_eq "expr" rfl rfl (he true)
  have hpattern := hr.required_eq "pattern" rfl rfl (hpattern true)
  have hflags : r.withDefault "flags" "" Json.string? = some flags :=
    hr.withDefault_value "flags" "" rfl rfl rfl rfl
  have hneg : r.withDefault "neg" false Json.bool? = some negated :=
    hr.withDefault_value "neg" false rfl rfl rfl rfl
  refine Option.bind_eq_some_iff.mpr ⟨_, hu, ?_⟩
  simp [ho, hexpr, hpattern, hflags, hneg]

theorem restored_clause (c : Clause) : Restored (.clause c) := by
  intro fuel inside w hw hfuel
  obtain ⟨fuel, rfl⟩ : ∃ n, fuel = n + 1 := ⟨fuel - 1, by omega⟩
  obtain ⟨body, r, hu, ho, hr⟩ := Json.Loosened.untag? .predicate "sql"
    [("sql", .string c.text), ("dialect", .string c.dialect.name)] hw
    inside Predicate.kinds ["sql", "dialect"] (by decide) rfl rfl rfl (by decide) hfuel
  have hsql : r.required "sql" Json.string? = some c.text := hr.required_value "sql" rfl rfl rfl
  have hdialect := hr.withDefault_value "dialect" .ansi rfl rfl c.dialect.choice?_name rfl
  refine Option.bind_eq_some_iff.mpr ⟨_, hu, ?_⟩
  simp [Clause.ofFields?, ho, hsql, hdialect]

end Predicate

mutual

/-- A scalar is read back. -/
theorem Scalar.restored : ∀ e : Expr, e.Finite → e.Restored
  | .column name, _ => Scalar.restored_column name
  | .literal _, hvalue => Scalar.restored_literal hvalue
  | .binary _ l r, ⟨hl, hr⟩ => Scalar.restored_binary (Scalar.restored l hl) (Scalar.restored r hr)
  | .safeDiv n d _, ⟨hn, hd, hfill⟩ =>
    Scalar.restored_safeDiv (Scalar.restored n hn) (Scalar.restored d hd) hfill
  | .coalesce args, hargs => Scalar.restored_coalesce (Scalar.listRestored args hargs)
  | .caseWhen branches none, hbranches =>
    Scalar.restored_caseWhen (Scalar.branchesRestored branches hbranches)
      fun e he => absurd he (Option.not_mem_none e)
  | .caseWhen branches (some e), ⟨hbranches, he⟩ =>
    Scalar.restored_caseWhen (Scalar.branchesRestored branches hbranches)
      fun _ h => Option.some.inj h ▸ Scalar.restored e he
  | .fragment text, _ => Scalar.restored_fragment text
termination_by structural e => e

theorem Scalar.listRestored :
    ∀ es : List Expr, Scalar.FiniteList es → ∀ e ∈ es, e.Restored
  | [], _ => List.forall_mem_nil _
  | e :: rest, ⟨he, hrest⟩ =>
    List.forall_mem_cons.mpr ⟨Scalar.restored e he, Scalar.listRestored rest hrest⟩
termination_by structural es => es

theorem Scalar.branchesRestored : ∀ bs : List (Condition × Expr), Scalar.FiniteBranches bs →
    ∀ b ∈ bs, Scalar.BranchRestored b
  | [], _ => List.forall_mem_nil _
  | (p, e) :: rest, ⟨hp, he, hrest⟩ =>
    List.forall_mem_cons.mpr
      ⟨Scalar.branchRestored (Predicate.restored p hp) (Scalar.restored e he),
        Scalar.branchesRestored rest hrest⟩
termination_by structural bs => bs

/-- A predicate is read back. -/
theorem Predicate.restored : ∀ p : Condition, p.Finite → p.Restored
  | .compare _ l r, ⟨hl, hr⟩ =>
    Predicate.restored_compare (Scalar.restored l hl) (Scalar.restored r hr)
  | .member e _, ⟨he, hvalues⟩ => Predicate.restored_member (Scalar.restored e he) hvalues
  | .range e _ _ _, ⟨he, hlow, hhigh⟩ => Predicate.restored_range (Scalar.restored e he) hlow hhigh
  | .isNull e, he => Predicate.restored_isNull (Scalar.restored e he)
  | .join _ l r, ⟨hl, hr⟩ =>
    Predicate.restored_join (Predicate.restored l hl) (Predicate.restored r hr)
  | .not p, hp => Predicate.restored_not (Predicate.restored p hp)
  | .like e pattern _ _, ⟨he, hpattern⟩ =>
    Predicate.restored_like (Scalar.restored e he) (Scalar.restored pattern hpattern)
  | .regex e pattern _ _, ⟨he, hpattern⟩ =>
    Predicate.restored_regex (Scalar.restored e he) (Scalar.restored pattern hpattern)
  | .clause c, _ => Predicate.restored_clause c
termination_by structural p => p

end

theorem Expr.ofJson?_loosened {e : Expr} (h : e.Finite) (inside : Bool) {w : Json}
    (hw : Json.Loosened (.tagged .scalar) e.structured.canonical w) :
    Expr.ofJson? inside w.canonical = some e :=
  Scalar.restored e h inside w hw (Nat.lt_succ_self _)

theorem Condition.ofJson?_loosened {p : Condition} (h : p.Finite) (inside : Bool) {w : Json}
    (hw : Json.Loosened (.tagged .predicate) p.structured.canonical w) :
    Condition.ofJson? inside w.canonical = some p :=
  Predicate.restored p h inside w hw (Nat.lt_succ_self _)

/-! ## Aggregates -/

namespace Aggregate

/-- All floats of an aggregate are finite. -/
def Finite : Aggregate → Prop
  | reduce _ e => e.Finite
  | countRows => True
  | ratio n d fill => n.Finite ∧ d.Finite ∧ fill.isFinite = true

theorem keys?_kindOf {r : Reduction} (hr : r ≠ .count) :
    Json.TaggedKind.aggregate.keys? (kindOf r) = some [⟨"expr", .tagged .scalar, none⟩] := by
  cases r with
  | count => exact absurd rfl hr
  | _ => rfl

/-- The tags that only stand for a reduction. -/
theorem ofJson?_loosened_reduce {r : Reduction} (hr : r ≠ .count) {e : Expr} (he : e.Finite)
    {w : Json} (hw : Json.Loosened (.tagged .aggregate) (reduce r e).toJson.canonical w) :
    ofJson? true w.canonical = some (reduce r e) := by
  have htag : kindOf r ∈ kinds := by cases r <;> decide
  obtain ⟨body, record, hu, ho, hrecord⟩ := Json.Loosened.untag? .aggregate (kindOf r)
    [("expr", e.structured)] hw true kinds ["expr"] htag (keys?_kindOf hr) rfl rfl (by decide)
    (Nat.lt_succ_self _)
  have hexpr := hrecord.required_eq "expr" rfl rfl fun w hw _ => Expr.ofJson?_loosened he true hw
  refine Option.bind_eq_some_iff.mpr ⟨_, hu, ?_⟩
  cases r with
  | count => exact absurd rfl hr
  | _ => simp [kindOf, Reduction.name, Reduction.all, ho, hexpr]

/-- The tag that stands for the number of cells and for the number of rows. -/
theorem ofJson?_loosened_count {o : Option Expr} (ho : ∀ e ∈ o, e.Finite) {w : Json}
    (hw : Json.Loosened (.tagged .aggregate)
      (Json.tagged "kind" "count" [("expr", .ofOption Expr.structured o)]).canonical w) :
    ofJson? true w.canonical = some (o.elim countRows (reduce .count)) := by
  obtain ⟨body, r, hu, hopen, hr⟩ := Json.Loosened.untag? .aggregate "count" _ hw true kinds
    ["expr"] (by decide) rfl rfl rfl (by decide) (Nat.lt_succ_self _)
  have hexpr := hr.optional_eq "expr" rfl rfl
    (fun e he w hw _ => Expr.ofJson?_loosened (ho e he) true hw) (Scalar.read?_null _ true)
    fun e _ => e.toJson_canonical_ne_null
  refine Option.bind_eq_some_iff.mpr ⟨_, hu, ?_⟩
  cases o <;> simp [hopen, hexpr]

/-- An aggregate is read back. -/
theorem ofJson?_loosened {a : Aggregate} (h : a.Finite) {w : Json}
    (hw : Json.Loosened (.tagged .aggregate) a.toJson.canonical w) :
    ofJson? true w.canonical = some a := by
  cases a with
  | reduce r e =>
    by_cases hcount : r = .count
    · subst hcount
      exact ofJson?_loosened_count (fun _ he => Option.some.inj he ▸ h) hw
    · exact ofJson?_loosened_reduce hcount h hw
  | countRows =>
    exact ofJson?_loosened_count (o := none) (fun e he => absurd he (Option.not_mem_none e)) hw
  | ratio n d fill =>
    obtain ⟨hn, hd, hfill⟩ := h
    obtain ⟨body, r, hu, ho, hr⟩ := Json.Loosened.untag? .aggregate "ratio_of_sums"
      [("numerator", n.structured), ("denominator", d.structured), ("fill", .ofFloat fill)] hw
      true kinds ["numerator", "denominator", "fill"] (by decide) rfl rfl rfl (by decide)
      (Nat.lt_succ_self _)
    have hnumerator := hr.required_eq "numerator" rfl rfl
      fun w hw _ => Expr.ofJson?_loosened hn true hw
    have hdenominator := hr.required_eq "denominator" rfl rfl
      fun w hw _ => Expr.ofJson?_loosened hd true hw
    have hfill := hr.withDefault_value "fill" Binary64.zero rfl rfl (float?_ofFloat hfill) rfl
    refine Option.bind_eq_some_iff.mpr ⟨_, hu, ?_⟩
    simp [ho, hnumerator, hdenominator, hfill]

end Aggregate

end Crosstab
