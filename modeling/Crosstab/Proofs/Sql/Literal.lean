import Crosstab.Proofs.Sql.Twins

/-!
# Literals that differ

A statement has no literal for a float that is not finite.  The literals of all other cells are
lexemes that a reader can tell apart: `Spelt c ks` lists for every cell the lexemes that its literal
is written as.  Where the lexemes are values of the grammar, they denote one cell only
(`Value.denotes_one`); a date or a timestamp is the word for its type and a string.

The string of a date reads back, but that of a timestamp has no fraction of a second.  So literals
of different cells differ, but for timestamps within one second (`literal_text_eq_iff`).
-/

namespace Crosstab

open Clause (LexemeKind IsWord)
open Clause.Grammar (Literal Value)

/-! ## Lexemes denote one cell -/

theorem Clause.Grammar.Literal.denotes_one {k : LexemeKind} {a b : Cell} (ha : Literal k a)
    (hb : Literal k b) : a = b := by
  cases ha <;> cases hb <;> rfl

theorem Clause.Grammar.Value.denotes_one {ks : List LexemeKind} {a b : Cell} (ha : Value ks a)
    (hb : Value ks b) : a = b := by
  cases ha with
  | negative numeral =>
    cases hb with
    | negative => rfl
  | literal ha =>
    cases hb with
    | literal hb => exact ha.denotes_one hb

namespace Sql

/-- Texts that are the same are written as the same lexemes. -/
theorem Writes.eq_of_render_eq {d : Dialect} {ts us : List Token} {ks ls : List LexemeKind}
    (ht : Writes d ts ks) (hu : Writes d us ls) (h : render d ts = render d us) : ks = ls := by
  obtain ⟨lexemes, hlexemes, hkinds⟩ := Clause.lexemes_of_splits (Clause.Spells.splits ht)
  obtain ⟨lexemes', hlexemes', hkinds'⟩ := Clause.lexemes_of_splits (Clause.Spells.splits hu)
  rw [h, hlexemes'] at hlexemes
  cases hlexemes
  exact hkinds.symm.trans hkinds'

/-! ## The lexemes of literals -/

/-- The lexemes that the literal of a cell is written as. -/
inductive Spelt : Cell → List LexemeKind → Prop where
  | value {c : Cell} {ks : List LexemeKind} : Value ks c → Spelt c ks
  | date (d : Date) : Spelt (.date d) [.name "DATE", .string (Calendar.dateText d)]
  | timestamp (t : Timestamp) :
    Spelt (.timestamp t) [.name "TIMESTAMP", .string (Calendar.timestampDisplay t)]

/-- A literal is written as lexemes that stand for its cell. -/
theorem exists_spelt {d : Dialect} {c : Cell} {t : Token} (h : literal c = .ok t) :
    ∃ ks, Writes d [t] ks ∧ Spelt c ks := by
  have hportable : c.Portable → ∃ ks, Writes d [t] ks ∧ Spelt c ks := by
    intro hc
    obtain ⟨u, ks, hu, hwrites, hvalue⟩ := writes_literal (d := d) hc
    rw [h] at hu
    cases hu
    exact ⟨ks, hwrites, .value hvalue⟩
  cases c with
  | date e =>
    cases h
    exact ⟨_, writes_typed (show IsWord "DATE".toList by decide) rfl, .date e⟩
  | timestamp e =>
    cases h
    exact ⟨_, writes_typed (show IsWord "TIMESTAMP".toList by decide) rfl, .timestamp e⟩
  | float x =>
    by_cases hx : x.isFinite = true
    · exact hportable hx
    · rw [literal, if_neg hx] at h
      cases h
  | _ => exact hportable trivial

/-! ## Literals that are told apart -/

/-- Two timestamps within one second. -/
inductive SameSecond : Cell → Cell → Prop where
  | timestamp {t u : Timestamp} (h : t.startOfSecond = u.startOfSecond) :
    SameSecond (.timestamp t) (.timestamp u)

/-- The same lexemes stand for one cell, or for timestamps within one second. -/
theorem eq_or_sameSecond_of_spelt {a b : Cell} {ks ls : List LexemeKind} (ha : Spelt a ks)
    (hb : Spelt b ls) (h : ks = ls) : a = b ∨ SameSecond a b := by
  have htyped : ∀ {type s : String} {c : Cell}, ¬Value [.name type, .string s] c := nofun
  cases ha with
  | value ha =>
    cases hb with
    | value hb =>
      subst h
      exact .inl (ha.denotes_one hb)
    | date e => exact absurd (h ▸ ha) htyped
    | timestamp u => exact absurd (h ▸ ha) htyped
  | date d =>
    cases hb with
    | value hb => exact absurd (h ▸ hb) htyped
    | date e =>
      have htext : Calendar.dateText d = Calendar.dateText e := by simpa using h
      have hread := Calendar.dateOf?_dateText d
      rw [htext, Calendar.dateOf?_dateText] at hread
      rw [Option.some.inj hread]
      exact .inl rfl
    | timestamp u => exact absurd h (by simp)
  | timestamp t =>
    cases hb with
    | value hb => exact absurd (h ▸ hb) htyped
    | date e => exact absurd h (by simp)
    | timestamp u =>
      have htext : Calendar.timestampDisplay t = Calendar.timestampDisplay u := by simpa using h
      exact .inr (.timestamp (Calendar.timestampDisplay_eq_iff.mp htext))

/-- **Literals of different cells differ**, but for timestamps within one second: their literals are
the same. -/
theorem literal_text_eq_iff (d : Dialect) {a b : Cell} {t u : Token} (ha : literal a = .ok t)
    (hb : literal b = .ok u) : t.text d = u.text d ↔ a = b ∨ SameSecond a b := by
  constructor
  · intro h
    obtain ⟨ks, hwrites, hspelt⟩ := exists_spelt (d := d) ha
    obtain ⟨ls, hwrites', hspelt'⟩ := exists_spelt (d := d) hb
    have hrender : render d [t] = render d [u] := by
      rw [render_singleton, render_singleton, h]
    exact eq_or_sameSecond_of_spelt hspelt hspelt' (hwrites.eq_of_render_eq hwrites' hrender)
  · rintro (rfl | hsame)
    · rw [ha] at hb
      rw [Except.ok.inj hb]
    · cases hsame with
      | timestamp hstart =>
        cases ha
        cases hb
        exact congrArg d.timestampLiteral (Calendar.timestampDisplay_eq_iff.mpr hstart)

/-- The whole number one and the float one. -/
theorem literal_text_one :
    literal (.int 1) = .ok (.int 1) ∧
      literal (.float ⟨0x3FF0000000000000⟩) = .ok (.float ⟨0x3FF0000000000000⟩) ∧
      ((Token.int 1).text .bigquery = (Token.float ⟨0x3FF0000000000000⟩).text .bigquery ↔
        Cell.int 1 = .float ⟨0x3FF0000000000000⟩ ∨
          SameSecond (.int 1) (.float ⟨0x3FF0000000000000⟩)) :=
  ⟨rfl, rfl, literal_text_eq_iff .bigquery rfl rfl⟩

/-- A fraction of a second past half past nine. -/
def pastHalfPastNine (nanosecond : Fin 1000000000) : Cell :=
  .timestamp ⟨⟨2024, 1, 2, by decide⟩,
    { TimeOfDay.midnight with hour := ⟨9, by decide⟩, minute := ⟨30, by decide⟩, nanosecond }⟩

/-- A quarter and three quarters of a second past are not equal, but their literals are. -/
theorem literal_loses_fraction :
    (pastHalfPastNine 250000000).sqlEq? (pastHalfPastNine 750000000) = some false ∧
      ∃ t u, literal (pastHalfPastNine 250000000) = .ok t ∧
        literal (pastHalfPastNine 750000000) = .ok u ∧
        t.text .ansi = "TIMESTAMP '2024-01-02 09:30:00'" ∧
        u.text .ansi = "TIMESTAMP '2024-01-02 09:30:00'" :=
  ⟨by decide +kernel, _, _, rfl, rfl, by decide +kernel, by decide +kernel⟩

end Sql

end Crosstab
