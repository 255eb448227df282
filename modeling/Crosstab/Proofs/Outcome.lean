import Crosstab.Fault

/-!
# Results that may fail

What it takes for a chain of steps, each of which may fail, to succeed: every step succeeds
(`bind_eq_ok_iff`).  A step that is made for every member of a list succeeds member by member
(`getElem?_of_mapM_eq_ok`).  What a chain can fail with is what its steps can fail with
(`FailsOnly`).
-/

namespace Crosstab

variable {ε α β : Type}

/-! ## One step after another -/

theorem bind_eq_ok_iff {x : Except ε α} {f : α → Except ε β} {b : β} :
    (x >>= f) = .ok b ↔ ∃ a, x = .ok a ∧ f a = .ok b := by
  cases x with
  | error e => simp [bind, Except.bind]
  | ok a => simp [bind, Except.bind]

/-- Two steps of which neither needs the other one. -/
theorem bind_both_eq_ok_iff {γ : Type} {x : Except ε α} {y : Except ε β} {f : α → β → Except ε γ}
    {c : γ} : (x >>= fun a => y >>= f a) = .ok c ↔
      ∃ a b, x = .ok a ∧ y = .ok b ∧ f a b = .ok c := by
  simp only [bind_eq_ok_iff]
  constructor
  · rintro ⟨a, ha, b, hb, hc⟩
    exact ⟨a, b, ha, hb, hc⟩
  · rintro ⟨a, b, ha, hb, hc⟩
    exact ⟨a, ha, b, hb, hc⟩

@[simp] theorem ok_bind (a : α) (f : α → Except ε β) : (Except.ok a >>= f) = f a := rfl

@[simp] theorem error_bind (e : ε) (f : α → Except ε β) : (Except.error e >>= f) = .error e := rfl

/-- A chain of steps fails where one of them does. -/
theorem bind_eq_error_iff {x : Except ε α} {f : α → Except ε β} {e : ε} :
    (x >>= f) = .error e ↔ x = .error e ∨ ∃ a, x = .ok a ∧ f a = .error e := by
  cases x with
  | error e => simp [bind, Except.bind]
  | ok a => simp [bind, Except.bind]

theorem pure_eq_ok_iff {a b : α} : (pure a : Except ε α) = .ok b ↔ a = b := by
  simp [pure, Except.pure]

@[simp] theorem mapError_ok {δ : Type} (a : α) (f : ε → δ) :
    (Except.ok a : Except ε α).mapError f = .ok a := rfl

theorem mapError_eq_ok_iff {δ : Type} {x : Except ε α} {f : ε → δ} {a : α} :
    x.mapError f = .ok a ↔ x = .ok a := by
  cases x with
  | error e => exact iff_of_false nofun nofun
  | ok b =>
    show (Except.ok b : Except δ α) = .ok a ↔ _
    rw [Except.ok.injEq, Except.ok.injEq]

/-- A chain of steps each of which fails as another one does, but for how its error is told. -/
theorem bind_eq_mapError {δ : Type} {x : Except ε α} {y : Except δ α} {f : α → Except ε β}
    {g : α → Except δ β} {tell : ε → δ} (hx : y = x.mapError tell)
    (hf : ∀ a, g a = (f a).mapError tell) : y >>= g = (x >>= f).mapError tell := by
  rw [hx]
  cases x with
  | error e => rfl
  | ok a => exact hf a

/-! ### Whether steps succeed -/

theorem isOk_bind_pure (x : Except ε α) (f : α → β) :
    (x >>= fun a => pure (f a)).isOk = x.isOk := by
  cases x <;> rfl

theorem isOk_bind_both_pure {γ : Type} (x : Except ε α) (y : Except ε β) (f : α → β → γ) :
    (x >>= fun a => y >>= fun b => pure (f a b)).isOk = (x.isOk && y.isOk) := by
  cases x <;> cases y <;> rfl

theorem exists_error_iff {x : Except ε α} : (∃ e, x = .error e) ↔ x.isOk = false := by
  cases x <;> simp [Except.isOk, Except.toBool]

/-! ## One step for every member of a list -/

theorem mapM_cons_eq_ok_iff {f : α → Except ε β} {a : α} {as : List α} {bs : List β} :
    (a :: as).mapM f = .ok bs ↔ ∃ b rest, f a = .ok b ∧ as.mapM f = .ok rest ∧ bs = b :: rest := by
  simp only [List.mapM_cons, bind_eq_ok_iff, pure_eq_ok_iff]
  constructor
  · rintro ⟨b, hb, rest, hrest, rfl⟩
    exact ⟨b, rest, hb, hrest, rfl⟩
  · rintro ⟨b, rest, hb, hrest, rfl⟩
    exact ⟨b, hb, rest, hrest, rfl⟩

theorem length_of_mapM_eq_ok {f : α → Except ε β} {as : List α} {bs : List β}
    (h : as.mapM f = .ok bs) : bs.length = as.length := by
  induction as generalizing bs with
  | nil =>
    obtain rfl : [] = bs := by simpa [pure_eq_ok_iff] using h
    rfl
  | cons a as ih =>
    obtain ⟨b, rest, _, hrest, rfl⟩ := mapM_cons_eq_ok_iff.mp h
    simp [ih hrest]

theorem mapM_eq_ok_map {f : α → Except ε β} {g : α → β} {as : List α}
    (h : ∀ a ∈ as, f a = .ok (g a)) : as.mapM f = .ok (as.map g) := by
  induction as with
  | nil => rfl
  | cons a as ih =>
    have hrest := ih fun b hb => h b (List.mem_cons_of_mem _ hb)
    exact mapM_cons_eq_ok_iff.mpr ⟨g a, as.map g, h a List.mem_cons_self, hrest, rfl⟩

theorem mapM_congr {f g : α → Except ε β} {as : List α} (h : ∀ a ∈ as, f a = g a) :
    as.mapM f = as.mapM g := by
  induction as with
  | nil => rfl
  | cons a as ih =>
    rw [List.mapM_cons, List.mapM_cons, h a List.mem_cons_self,
      ih fun b hb => h b (List.mem_cons_of_mem _ hb)]

theorem exists_mapM_eq_ok {f : α → Except ε β} {as : List α} (h : ∀ a ∈ as, ∃ b, f a = .ok b) :
    ∃ bs, as.mapM f = .ok bs := by
  induction as with
  | nil => exact ⟨[], rfl⟩
  | cons a as ih =>
    obtain ⟨b, hb⟩ := h a List.mem_cons_self
    obtain ⟨bs, hbs⟩ := ih fun a ha => h a (List.mem_cons_of_mem _ ha)
    exact ⟨b :: bs, mapM_cons_eq_ok_iff.mpr ⟨b, bs, hb, hbs, rfl⟩⟩

/-- Steps each of which fails as another one does, but for how its error is told. -/
theorem mapM_eq_mapError {δ : Type} {f : α → Except ε β} {g : α → Except δ β} {tell : ε → δ}
    {as : List α} (h : ∀ a ∈ as, g a = (f a).mapError tell) :
    as.mapM g = (as.mapM f).mapError tell := by
  induction as with
  | nil => rfl
  | cons a as ih =>
    have hrest := ih fun b hb => h b (List.mem_cons_of_mem _ hb)
    rw [List.mapM_cons, List.mapM_cons]
    refine bind_eq_mapError (h a List.mem_cons_self) fun b => ?_
    exact bind_eq_mapError hrest fun bs => rfl

/-- Checking every member succeeds if each check does. -/
theorem forM_eq_ok_iff {f : α → Except ε PUnit} {as : List α} :
    as.forM f = .ok () ↔ ∀ a ∈ as, f a = .ok () := by
  induction as with
  | nil => simp [List.forM, pure, Except.pure]
  | cons a as ih =>
    rw [List.forall_mem_cons, ← ih]
    show (f a >>= fun _ => as.forM f) = .ok () ↔ _
    rw [bind_eq_ok_iff]
    constructor
    · rintro ⟨_, ha, hrest⟩
      exact ⟨ha, hrest⟩
    · rintro ⟨ha, hrest⟩
      exact ⟨(), ha, hrest⟩

/-- Where all steps succeed, each does. -/
theorem exists_mem_of_mapM_eq_ok {f : α → Except ε β} {as : List α} {bs : List β}
    (h : as.mapM f = .ok bs) {a : α} (ha : a ∈ as) : ∃ b ∈ bs, f a = .ok b := by
  induction as generalizing bs with
  | nil => simp at ha
  | cons c as ih =>
    obtain ⟨b, rest, hb, hrest, rfl⟩ := mapM_cons_eq_ok_iff.mp h
    rcases List.mem_cons.mp ha with rfl | ha
    · exact ⟨b, List.mem_cons_self, hb⟩
    · obtain ⟨d, hd, heq⟩ := ih hrest ha
      exact ⟨d, List.mem_cons_of_mem _ hd, heq⟩

/-- Where the steps fail, one of them does, with this error. -/
theorem exists_mem_of_mapM_eq_error {f : α → Except ε β} {as : List α} {e : ε}
    (h : as.mapM f = .error e) : ∃ a ∈ as, f a = .error e := by
  induction as with
  | nil => exact nomatch h
  | cons a as ih =>
    rw [List.mapM_cons] at h
    cases ha : f a with
    | error e' =>
      rw [ha] at h
      obtain rfl : e' = e := Except.error.inj h
      exact ⟨a, List.mem_cons_self, ha⟩
    | ok b =>
      rw [ha, ok_bind] at h
      cases hrest : as.mapM f with
      | error e' =>
        rw [hrest] at h
        obtain rfl : e' = e := Except.error.inj h
        obtain ⟨c, hc, heq⟩ := ih hrest
        exact ⟨c, List.mem_cons_of_mem _ hc, heq⟩
      | ok bs =>
        rw [hrest] at h
        exact nomatch h

/-- Answers that show something of their members show it in order. -/
theorem map_eq_map_of_mapM_eq_ok {γ : Type} {f : α → Except ε β} {as : List α} {bs : List β}
    {view : β → γ} {view' : α → γ} (hview : ∀ a b, f a = .ok b → view b = view' a)
    (h : as.mapM f = .ok bs) : bs.map view = as.map view' := by
  induction as generalizing bs with
  | nil =>
    obtain rfl : [] = bs := by simpa [pure_eq_ok_iff] using h
    rfl
  | cons a as ih =>
    obtain ⟨b, rest, hb, hrest, rfl⟩ := mapM_cons_eq_ok_iff.mp h
    rw [List.map_cons, List.map_cons, hview a b hb, ih hrest]

/-- Every answer comes from the member at its position. -/
theorem getElem?_of_mapM_eq_ok {f : α → Except ε β} {as : List α} {bs : List β}
    (h : as.mapM f = .ok bs) {i : Nat} {b : β} (hb : bs[i]? = some b) :
    ∃ a, as[i]? = some a ∧ f a = .ok b := by
  induction as generalizing bs i with
  | nil =>
    obtain rfl : [] = bs := by simpa [pure_eq_ok_iff] using h
    simp at hb
  | cons a as ih =>
    obtain ⟨c, rest, hc, hrest, rfl⟩ := mapM_cons_eq_ok_iff.mp h
    cases i with
    | zero =>
      obtain rfl : c = b := by simpa using hb
      exact ⟨a, rfl, hc⟩
    | succ i => simpa using ih hrest (by simpa using hb)

/-- A step whose answers are views of those of another step succeeds where this one does. -/
theorem mapM_eq_ok_map_of {γ : Type} {f : α → Except ε β} {g : α → Except ε γ} {view : β → γ}
    {as : List α} {bs : List β} (hview : ∀ a ∈ as, ∀ b, f a = .ok b → g a = .ok (view b))
    (h : as.mapM f = .ok bs) : as.mapM g = .ok (bs.map view) := by
  induction as generalizing bs with
  | nil =>
    obtain rfl : [] = bs := by simpa [pure_eq_ok_iff] using h
    rfl
  | cons a as ih =>
    obtain ⟨b, rest, hb, hrest, rfl⟩ := mapM_cons_eq_ok_iff.mp h
    have hmore := ih (fun c hc => hview c (List.mem_cons_of_mem _ hc)) hrest
    exact mapM_cons_eq_ok_iff.mpr ⟨_, _, hview a List.mem_cons_self b hb, hmore, rfl⟩

/-- A step that succeeds for all members succeeds for those at some positions. -/
theorem mapM_map_getD {f : α → Except ε β} {as : List α} {bs : List β} (h : as.mapM f = .ok bs)
    {places : List Nat} (hplaces : ∀ i ∈ places, i < as.length) (a : α) (b : β) :
    (places.map fun i => as.getD i a).mapM f = .ok (places.map fun i => bs.getD i b) := by
  rw [List.mapM_map]
  refine mapM_eq_ok_map ?_
  intro i hi
  have hlen : i < bs.length := by
    rw [length_of_mapM_eq_ok h]
    exact hplaces i hi
  obtain ⟨c, hc, hstep⟩ := getElem?_of_mapM_eq_ok h (List.getElem?_eq_getElem hlen)
  rw [Function.comp_apply, List.getD_eq_getElem?_getD, hc, Option.getD_some, hstep,
    List.getD_eq_getElem?_getD, List.getElem?_eq_getElem hlen, Option.getD_some]

/-! ## What a step can fail with -/

/-- Where a step fails, its error is one of some kind. -/
def FailsOnly (P : ε → Prop) (x : Except ε α) : Prop := ∀ e, x = .error e → P e

namespace FailsOnly

variable {P Q : ε → Prop} {x : Except ε α}

theorem ok (a : α) : FailsOnly P (.ok a : Except ε α) := by
  intro e he
  cases he

theorem pure (a : α) : FailsOnly P (Pure.pure a : Except ε α) := ok a

theorem error {e : ε} (h : P e) : FailsOnly P (.error e : Except ε α) := by
  intro e' he
  obtain rfl : e = e' := Except.error.inj he
  exact h

theorem imp (hx : FailsOnly P x) (hPQ : ∀ e, P e → Q e) : FailsOnly Q x :=
  fun e he => hPQ e (hx e he)

theorem bind (hx : FailsOnly P x) {f : α → Except ε β}
    (hf : ∀ a, x = .ok a → FailsOnly P (f a)) : FailsOnly P (x >>= f) := by
  intro e he
  rcases bind_eq_error_iff.mp he with he | ⟨a, ha, he⟩
  · exact hx e he
  · exact hf a ha e he

/-- Two steps of which neither needs the other one. -/
theorem bind_both {γ : Type} {y : Except ε β} {f : α → β → Except ε γ} (hx : FailsOnly P x)
    (hy : FailsOnly P y) (hf : ∀ a b, x = .ok a → y = .ok b → FailsOnly P (f a b)) :
    FailsOnly P (x >>= fun a => y >>= f a) := by
  refine hx.bind fun a ha => ?_
  exact hy.bind fun b hb => hf a b ha hb

theorem mapError {δ : Type} {tell : ε → δ} {R : δ → Prop} (hx : FailsOnly (fun e => R (tell e)) x) :
    FailsOnly R (x.mapError tell) := by
  cases x with
  | error e => exact error (hx e rfl)
  | ok a => exact ok a

theorem mapM {f : α → Except ε β} {as : List α} (h : ∀ a ∈ as, FailsOnly P (f a)) :
    FailsOnly P (as.mapM f) := by
  intro e he
  obtain ⟨a, ha, he⟩ := exists_mem_of_mapM_eq_error he
  exact h a ha e he

end FailsOnly

end Crosstab
