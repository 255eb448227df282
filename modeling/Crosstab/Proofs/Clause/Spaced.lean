import Crosstab.Proofs.Clause.Located

/-!
# Lexemes set apart by spaces

A text says no more than its lexemes.  With everything between them replaced by single spaces, it is
split into the same lexemes, and so it reads as the same predicate, or has the same fault
(`lexemes_complete`).
-/

namespace Crosstab.Clause

variable {s : String} {ls ms : List Lexeme}

/-- The texts of lexemes with single spaces between them. -/
def spaced (ls : List Lexeme) : String := " ".intercalate (ls.map (·.source))

theorem exists_lexemes_spaced (h : lexemes s = .ok ls) : ∃ ms, lexemes (spaced ls) = .ok ms ∧
    ms.map (fun m => (m.kind, m.source)) = ls.map fun l => (l.kind, l.source) := by
  obtain ⟨ms, hms, heq⟩ := exists_splitFrom_spaced (lexemes_eq_ok_iff.mp h).source 0
  refine ⟨ms, lexemes_eq_ok_iff.mpr ?_, heq⟩
  rw [spaced, String.toList_intercalate, List.map_map]
  exact hms

/-- An error without its place. -/
def withoutPlace (e : ClauseError) : ClauseFault × Option String := (e.fault, e.found)

/-- Texts with the same lexemes read alike, up to places. -/
theorem predicateOf_eq_of_lexemes {t : String} (hs : lexemes s = .ok ls) (ht : lexemes t = .ok ms)
    (heq : ms.map (fun m => (m.kind, m.source)) = ls.map fun l => (l.kind, l.source)) :
    (predicateOf t).mapError withoutPlace = (predicateOf s).mapError withoutPlace := by
  have hkinds : kinds ls = kinds ms := by
    have hfirst := congrArg (List.map Prod.fst) heq
    rw [List.map_map, List.map_map] at hfirst
    exact hfirst.symm
  have hsources : ls.map (·.source) = ms.map (·.source) := by
    have hsecond := congrArg (List.map Prod.snd) heq
    rw [List.map_map, List.map_map] at hsecond
    exact hsecond.symm
  have hfault : ∀ (stop : Nat) (f : ClauseFault) (ls : List Lexeme),
      withoutPlace (faultHere stop f ls) = (f, (ls.map (·.source)).head?) := by
    intro stop f ls
    cases ls <;> rfl
  have hparallel : Parallel s.utf8ByteSize t.utf8ByteSize ls ms :=
    ⟨hkinds, increasing_of_lexemes hs, increasing_of_lexemes ht⟩
  rcases predicateOf_uniform hs ht hparallel with ⟨p, hps, hpt⟩ | ⟨f, n, hes, het⟩
  · rw [hps, hpt]
  · rw [hes, het]
    show Except.error _ = Except.error _
    rw [hfault, hfault, List.map_drop, List.map_drop, hsources]

/-- **Splitting a text loses nothing and depends on nothing but the lexemes.**  The text is made up
of the lexemes and of gaps, which are white space and comments and hold no lexeme; the lexemes have
some text each, stand where they say and do not overlap; each of them is split on its own as it is
within the text; and all of them, set apart by single spaces, are split into the same lexemes and
read as the text does. -/
theorem lexemes_complete (h : lexemes s = .ok ls) :
    Laid 0 s.toList ls ∧
    (∀ l ∈ ls, l.start < l.stop ∧ ∃ before after : String, s = before ++ l.source ++ after ∧
      l.start = before.utf8ByteSize ∧ l.stop = (before ++ l.source).utf8ByteSize) ∧
    ls.Pairwise (fun l m => l.stop ≤ m.start) ∧
    (∀ l ∈ ls, lexemes l.source = .ok [⟨l.kind, 0, l.source.utf8ByteSize, l.source⟩]) ∧
    ∃ ms, lexemes (spaced ls) = .ok ms ∧
      ms.map (fun m => (m.kind, m.source)) = ls.map (fun l => (l.kind, l.source)) ∧
      (predicateOf (spaced ls)).mapError withoutPlace =
        (predicateOf s).mapError withoutPlace := by
  have hsplit := lexemes_eq_ok_iff.mp h
  have hlaid := hsplit.laid
  obtain ⟨ms, hms, heq⟩ := exists_lexemes_spaced h
  refine ⟨hlaid, fun l hl => ⟨hlaid.spans.1 l hl, ?_⟩, hlaid.spans.2, fun l hl => ?_, ms, hms, heq,
    predicateOf_eq_of_lexemes h hms heq⟩
  · obtain ⟨before, after, htext, hstart, hstop, -⟩ := hlaid.exists_text hl
    refine ⟨String.ofList before, String.ofList after, ?_, ?_, ?_⟩
    · rw [← String.toList_inj, htext]
      simp
    · rw [utf8ByteSize_ofList, hstart, Nat.zero_add]
    · rw [String.utf8ByteSize_append, utf8ByteSize_ofList, utf8ByteSize_eq l.source, hstop, hstart,
        Nat.zero_add]
  · have halone := (hsplit.source l hl).splitFrom 0
    rw [String.ofList_toList, Nat.zero_add, ← utf8ByteSize_eq] at halone
    exact lexemes_eq_ok_iff.mpr halone

/-- What stands between the lexemes does not matter, whether it is a comment, a line break or
nothing. -/
theorem lexemes_complete_comments :
    (predicateOf "a IN ( 1 )").mapError withoutPlace =
      (predicateOf "a/* a */IN(1\n)-- b").mapError withoutPlace := by
  obtain ⟨-, -, -, -, ms, -, -, hread⟩ := lexemes_complete (s := "a/* a */IN(1\n)-- b") rfl
  exact hread

end Crosstab.Clause
