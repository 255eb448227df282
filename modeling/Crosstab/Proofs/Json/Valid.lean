import Crosstab.Json.Record
import Crosstab.Proofs.Json.Canonical

/-!
# Values whose numbers fit

A structured value comes with whole numbers of 64 bits, with or without a sign, and with finite
floats: `Json.Valid`.  The parts that a reader takes a value into are valid again, so that what a
reader yields for every valid value (`Json.Yields`) can be said reader by reader.
-/

namespace Crosstab.Json

variable {α : Type}

/-! ## Valid values -/

/-- A whole number of 64 bits, with or without a sign, or a finite float. -/
def Number.Valid : Number → Prop
  | .whole n => -Nat.pow 2 63 ≤ n ∧ n < Nat.pow 2 64
  | .float x => x.isFinite = true

mutual

/-- All numbers in a value fit. -/
def Valid : Json → Prop
  | .number n => n.Valid
  | .array items => ValidItems items
  | .object fields => ValidFields fields
  | _ => True

/-- All numbers in the items of an array fit. -/
def ValidItems : List Json → Prop
  | [] => True
  | item :: rest => item.Valid ∧ ValidItems rest

/-- All numbers in the fields of an object fit. -/
def ValidFields : List (String × Json) → Prop
  | [] => True
  | (_, value) :: rest => value.Valid ∧ ValidFields rest

end

theorem validItems_iff {items : List Json} : ValidItems items ↔ ∀ v ∈ items, v.Valid := by
  induction items with
  | nil => simp [ValidItems]
  | cons v rest ih => simp [ValidItems, ih]

theorem validFields_iff {fields : List (String × Json)} :
    ValidFields fields ↔ ∀ f ∈ fields, f.2.Valid := by
  induction fields with
  | nil => simp [ValidFields]
  | cons f rest ih =>
    rw [List.forall_mem_cons, ← ih]
    rfl

theorem valid_object {fields : List (String × Json)} :
    (object fields).Valid ↔ ∀ f ∈ fields, f.2.Valid := by
  rw [Valid, validFields_iff]

theorem valid_array {items : List Json} : (array items).Valid ↔ ∀ v ∈ items, v.Valid := by
  rw [Valid, validItems_iff]

/-! ## Canonical order -/

mutual

/-- The canonical form of a valid value is valid. -/
theorem Valid.canonical : ∀ {v : Json}, v.Valid → v.canonical.Valid
  | .null, h | .bool _, h | .number _, h | .string _, h => h
  | .array items, h => by
    rw [Json.canonical, Valid]
    exact ValidItems.canonical h
  | .object fields, h => by
    have hvalid : ValidFields fields := h
    have hfields := validFields_iff.mp hvalid.canonical
    rw [Json.canonical, valid_object]
    exact fun f hf => hfields f (mem_of_mem_sortFields hf)

/-- The canonical forms of valid items are valid. -/
theorem ValidItems.canonical : ∀ {items : List Json}, ValidItems items →
    ValidItems (canonicalItems items)
  | [], _ => trivial
  | _ :: _, h => ⟨h.1.canonical, ValidItems.canonical h.2⟩

/-- The canonical values of valid fields are valid. -/
theorem ValidFields.canonical : ∀ {fields : List (String × Json)}, ValidFields fields →
    ValidFields (canonicalFields fields)
  | [], _ => trivial
  | (_, _) :: _, h => ⟨h.1.canonical, ValidFields.canonical h.2⟩

end

/-! ## Parts -/

/-- All numbers in the fields of a record fit. -/
def Record.Valid (r : Record) : Prop := ∀ f ∈ r.values, f.2.Valid

theorem Valid.open? {v : Json} {names : List String} {r : Record} (h : v.Valid)
    (hopen : Record.open? names v = some r) : r.Valid := by
  cases v with
  | object fields =>
    rw [Record.open?] at hopen
    split at hopen
    · cases hopen
      exact fun f hf => valid_object.mp h f (List.mem_filter.mp hf).1
    · cases hopen
  | array items =>
    rw [Record.open?] at hopen
    split at hopen
    · cases hopen
      exact fun f hf => valid_array.mp h f.2 (List.of_mem_zip hf).2
    · cases hopen
  | _ => cases hopen

theorem Valid.untag? {v : Json} {field : String} {inside : Bool} {tags : List String}
    {tag : String} {body : Json} (h : v.Valid)
    (huntag : Json.untag? field inside tags v = some (tag, body)) : body.Valid := by
  unfold Json.untag? at huntag
  split at huntag
  · split at huntag
    · obtain ⟨t, -, ht⟩ := Option.map_eq_some_iff.mp huntag
      cases ht
      exact valid_object.mpr fun f hf => valid_object.mp h f (List.mem_filter.mp hf).1
    · cases huntag
  · obtain ⟨t, -, ht⟩ := Option.map_eq_some_iff.mp huntag
    cases ht
    exact h.2
  · cases huntag

theorem mem_of_lookup_eq_some {fields : List (String × Json)} {name : String} {value : Json}
    (h : fields.lookup name = some value) : (name, value) ∈ fields := by
  obtain ⟨before, after, rfl, -⟩ := List.lookup_eq_some_iff.mp h
  exact List.mem_append_right before List.mem_cons_self

/-! ## What readers yield -/

/-- What a reader makes of a valid value satisfies `P`. -/
def Yields (decode : Json → Option α) (P : α → Prop) : Prop :=
  ∀ v : Json, v.Valid → ∀ a, decode v = some a → P a

namespace Yields

variable {decode : Json → Option α} {P : α → Prop} {r : Record} {name : String}

theorem lookup (h : Yields decode P) (hr : r.Valid) {value : Json} {a : α}
    (hvalue : r.values.lookup name = some value) (ha : decode value = some a) : P a :=
  h value (hr (name, value) (mem_of_lookup_eq_some hvalue)) a ha

theorem required (h : Yields decode P) (hr : r.Valid) {a : α}
    (ha : r.required name decode = some a) : P a := by
  obtain ⟨value, hvalue, ha⟩ := Option.bind_eq_some_iff.mp ha
  exact h.lookup hr hvalue ha

theorem withDefault (h : Yields decode P) (hr : r.Valid) {default a : α} (hdefault : P default)
    (ha : r.withDefault name default decode = some a) : P a := by
  unfold Record.withDefault at ha
  split at ha
  · cases ha
    exact hdefault
  · next value hvalue => exact h.lookup hr hvalue ha

theorem nullable (h : Yields decode P) : Yields (Record.nullable decode) fun o => ∀ a ∈ o, P a := by
  intro v hv o ho
  unfold Record.nullable at ho
  split at ho
  · cases ho
    exact fun a ha => nomatch ha
  · obtain ⟨b, hb, rfl⟩ := Option.map_eq_some_iff.mp ho
    intro a ha
    cases ha
    exact h v hv b hb

theorem optional (h : Yields decode P) (hr : r.Valid) {o : Option α}
    (ho : r.optional name decode = some o) : ∀ a ∈ o, P a := by
  unfold Record.optional at ho
  split at ho
  · split at ho
    · cases ho
    · cases ho
      exact fun a ha => nomatch ha
  · next value hvalue => exact h.nullable.lookup hr hvalue ho

theorem omissible (h : Yields decode P) (hr : r.Valid) {o : Option α}
    (ho : r.omissible name decode = some o) : ∀ a ∈ o, P a := by
  refine h.nullable.withDefault hr ?_ ho
  exact fun a ha => nomatch ha

theorem mapM (h : Yields decode P) {items : List Json} (hitems : ∀ v ∈ items, v.Valid)
    {as : List α} (has : items.mapM decode = some as) : ∀ a ∈ as, P a := by
  induction items generalizing as with
  | nil =>
    cases has
    exact fun a ha => nomatch ha
  | cons v rest ih =>
    rw [List.mapM_cons] at has
    obtain ⟨b, hb, has⟩ := Option.bind_eq_some_iff.mp has
    obtain ⟨bs, hbs, has⟩ := Option.bind_eq_some_iff.mp has
    cases has
    obtain ⟨hv, hrest⟩ := List.forall_mem_cons.mp hitems
    exact List.forall_mem_cons.mpr ⟨h v hv b hb, ih hrest hbs⟩

theorem list? (h : Yields decode P) : Yields (Json.list? decode) fun as => ∀ a ∈ as, P a := by
  intro v hv as has
  cases v with
  | array items => exact h.mapM (valid_array.mp hv) has
  | _ => cases has

end Yields

end Crosstab.Json
