import Crosstab.Pattern
import Crosstab.Proofs.Regex.Spans

/-!
# LIKE patterns

`Pattern.Likes` says which texts a `LIKE` pattern fits.  A pattern is matched by way of the regular
expression that it is written out as, with a backslash before characters that would mean something
there.  That text reads as the expected expression (`read?_likeSource`): no character of a pattern
closes a group, opens a class or repeats what stands in front of it.  A search for the expression
finds a match exactly in the texts that the pattern fits (`matchesIn_likeRegex`), since it starts
and ends with the ends of the text.
-/

namespace Crosstab.Pattern

/-! ## Meaning -/

/-- The whole text fits the pattern: `%` stands for any characters, `_` for one, and everything
else for itself. -/
inductive Likes : List Char → List Char → Prop where
  | nil : Likes [] []
  | run {p t : List Char} (skipped : List Char) : Likes p t → Likes ('%' :: p) (skipped ++ t)
  | one {p t : List Char} (c : Char) : Likes p t → Likes ('_' :: p) (c :: t)
  | same {p t : List Char} {c : Char} : c ≠ '%' → c ≠ '_' → Likes p t → Likes (c :: p) (c :: t)

theorem likes_nil_iff {t : List Char} : Likes [] t ↔ t = [] := by
  constructor
  · rintro ⟨⟩
    rfl
  · rintro rfl
    exact .nil

theorem likes_run_iff {p t : List Char} :
    Likes ('%' :: p) t ↔ ∃ n ≤ t.length, Likes p (t.drop n) := by
  constructor
  · intro h
    cases h with
    | run skipped h => exact ⟨skipped.length, by simp, by simpa using h⟩
    | same hrun => exact absurd rfl hrun
  · rintro ⟨n, -, h⟩
    have hrun := Likes.run (t.take n) h
    rwa [List.take_append_drop] at hrun

theorem likes_one_iff {p t : List Char} : Likes ('_' :: p) t ↔ t ≠ [] ∧ Likes p t.tail := by
  constructor
  · intro h
    cases h with
    | one c h => exact ⟨List.cons_ne_nil _ _, h⟩
    | same _ hone => exact absurd rfl hone
  · rintro ⟨hne, h⟩
    cases t with
    | nil => exact absurd rfl hne
    | cons c t => exact .one c h

theorem likes_same_iff {p t : List Char} {c : Char} (hrun : c ≠ '%') (hone : c ≠ '_') :
    Likes (c :: p) t ↔ t.head? = some c ∧ Likes p t.tail := by
  constructor
  · intro h
    cases h with
    | run => exact absurd rfl hrun
    | one => exact absurd rfl hone
    | same _ _ h => exact ⟨rfl, h⟩
  · rintro ⟨hhead, h⟩
    cases t with
    | nil => cases hhead
    | cons d t =>
      obtain rfl : d = c := by simpa using hhead
      exact .same hrun hone h

instance decidableLikes : (p t : List Char) → Decidable (Likes p t)
  | [], _ => decidable_of_iff _ likes_nil_iff.symm
  | c :: p, t =>
    have (u : List Char) : Decidable (Likes p u) := decidableLikes p u
    if hrun : c = '%' then
      decidable_of_iff (∃ n ≤ t.length, Likes p (t.drop n)) (hrun ▸ likes_run_iff.symm)
    else if hone : c = '_' then
      decidable_of_iff (t ≠ [] ∧ Likes p t.tail) (hone ▸ likes_one_iff.symm)
    else decidable_of_iff _ (likes_same_iff hrun hone).symm

example : Likes "a%c".toList "abbc".toList ∧ ¬ Likes "a%c".toList "abb\n".toList := by decide

/-! ## Reading -/

/-- A character of a pattern as a regular expression. -/
def likeItem (c : Char) : Regex :=
  if c = '%' then .repeat (.chars .all) 0 none true
  else if c = '_' then .chars .all
  else .chars (.single c)

/-- A pattern as a regular expression. -/
def likeRegex (p : List Char) : Regex :=
  .seq ((p.map likeItem).foldl .seq (.look .start)) (.look .stop)

end Pattern

namespace Regex

/-- An alternative has been read as an expression, under the flag that lets dots match everything,
and nothing else has been read. -/
structure GroupState.Holds (st : GroupState) (r : Regex) : Prop where
  flags : st.flags = { dotAll := true }
  names : st.names = []
  branches : st.branches = none
  branchCount : st.branchCount = 0
  items : ∃ d ≤ 1, Part.follow st.before st.last = some ⟨r, d⟩

theorem GroupState.Holds.push {st : GroupState} {r : Regex} (h : st.Holds r) (item : Part)
    (hitem : item.depth ≤ 1) : (st.push (some item)).Holds (.seq r item.regex) := by
  obtain ⟨d, hd, hfollow⟩ := h.items
  refine ⟨h.flags, h.names, h.branches, h.branchCount, max d item.depth, max_le hd hitem, ?_⟩
  show Part.follow (Part.follow st.before st.last) (some item) = _
  rw [hfollow, Part.follow]

/-- What the alternative is at the end of the pattern. -/
theorem GroupState.Holds.close {st : GroupState} {r : Regex} (h : st.Holds r) :
    st.close.regex = r ∧ st.close.depth ≤ 2 := by
  obtain ⟨d, hd, hfollow⟩ := h.items
  simp only [GroupState.close, GroupState.endBranch, h.branches, h.branchCount, hfollow]
  by_cases hcount : st.itemCount ≤ 1
  · simp [hcount]
    omega
  · simp [hcount]
    omega

end Regex

namespace Pattern

open Regex

/-- The characters that do not stand for a character or a set of their own at the start of an
item. -/
def groupChars : List Char := [')', '|', '(', '[', '?', '*', '+', '{']

theorem groupRest_primitive (fuel : Nat) (st : GroupState) {c : Char} (rest : List Char)
    (hflags : st.flags = { dotAll := true }) (hc : c ∉ groupChars) :
    groupRest (fuel + 1) st (c :: rest) = (primitive { dotAll := true } (c :: rest)).bind
      fun (r, rest) => groupRest fuel (st.push (some ⟨r, 0⟩)) rest := by
  have hskip : st.flags.skip (c :: rest) = c :: rest := by rw [hflags]; rfl
  rw [groupRest, hskip, hflags]
  simp only [groupChars, List.mem_cons, not_or] at hc
  split <;> simp_all

theorem read?_metaChar (f : Flags) {c : Char} (rest : List Char) (hc : c ∈ metaChars) :
    Escape.read? f (c :: rest) = some (.char c false, rest) := by
  simp only [metaChars, List.mem_cons, List.not_mem_nil, or_false] at hc
  rcases hc with rfl | rfl | rfl | rfl | rfl | rfl | rfl | rfl | rfl | rfl | rfl | rfl | rfl |
    rfl | rfl | rfl | rfl | rfl <;> rfl

theorem primitive_metaChar {c : Char} (rest : List Char) (hc : c ∈ metaChars) :
    primitive { dotAll := true } ('\\' :: c :: rest) = some (.chars (.single c), rest) := by
  rw [primitive]
  simp [read?_metaChar _ rest hc, charSet?, Flags.foldSet]

theorem primitive_plain {c : Char} (rest : List Char) (hc : c ∉ metaChars) :
    primitive { dotAll := true } (c :: rest) = some (.chars (.single c), rest) := by
  simp only [metaChars, List.mem_cons, not_or] at hc
  rw [primitive.eq_def]
  split <;> simp_all [charSet?, Flags.foldSet]

theorem not_mem_groupChars {c : Char} (hc : c ∉ metaChars) : c ∉ groupChars := by
  have hsubset : groupChars ⊆ metaChars := by simp [groupChars, metaChars]
  intro hmem
  exact hc (hsubset hmem)

/-- No written character begins with a question mark, which would turn a repetition round. -/
theorem head?_likeChars (p : List Char) : (p.flatMap likeChar ++ ['$']).head? ≠ some '?' := by
  cases p with
  | nil => decide
  | cons c p =>
    rw [List.flatMap_cons, likeChar]
    by_cases hrun : c = '%'
    · simp [hrun]
    by_cases hone : c = '_'
    · simp [hone]
    by_cases hmeta : c ∈ metaChars
    · simp [hrun, hone, hmeta]
    · have hc : c ≠ '?' := by
        rintro rfl
        exact hmeta (by decide)
      simp [hrun, hone, hmeta, hc]

theorem greed_of_head? {cs : List Char} (h : cs.head? ≠ some '?') :
    greed { dotAll := true } cs = (true, cs) := by
  rw [greed.eq_def]
  split
  · exact absurd rfl h
  · rfl

/-- The item that is being repeated is the last one. -/
theorem groupRest_star (fuel : Nat) {st : GroupState} (r : Regex) {rest : List Char}
    (hflags : st.flags = { dotAll := true }) (hrest : rest.head? ≠ some '?') :
    groupRest (fuel + 1) (st.push (some ⟨r, 0⟩)) ('*' :: rest) =
      groupRest fuel (st.push (some ⟨.repeat r 0 none true, 1⟩)) rest := by
  have hskip : (st.push (some ⟨r, 0⟩)).flags.skip ('*' :: rest) = '*' :: rest := by
    show st.flags.skip _ = _
    rw [hflags]
    rfl
  have hgreed : greed (st.push (some ⟨r, 0⟩)).flags rest = (true, rest) := by
    show greed st.flags rest = _
    rw [hflags, greed_of_head? hrest]
  rw [groupRest, hskip]
  simp only [GroupState.repeatLast?, hgreed]
  rfl

/-- How deep the expression of a character nests. -/
def likeDepth (c : Char) : Nat := if c = '%' then 1 else 0

theorem likeDepth_le (c : Char) : likeDepth c ≤ 1 := by
  rw [likeDepth]
  by_cases h : c = '%' <;> simp [h]

/-- How many steps of reading a character takes: a dot and what repeats it are two. -/
def likeSteps (c : Char) : Nat := if c = '%' then 2 else 1

theorem likeSteps_le (c : Char) : likeSteps c ≤ (likeChar c).length := by
  rw [likeSteps, likeChar]
  by_cases hrun : c = '%'
  · simp [hrun]
  by_cases hone : c = '_'
  · simp [hone]
  by_cases hmeta : c ∈ metaChars <;> simp [hrun, hone, hmeta]

/-- What is written for a character is read as one item. -/
theorem groupRest_likeChar (fuel : Nat) {st : GroupState} (c : Char) {rest : List Char}
    (hflags : st.flags = { dotAll := true }) (hrest : rest.head? ≠ some '?') :
    groupRest (fuel + likeSteps c) st (likeChar c ++ rest) =
      groupRest fuel (st.push (some ⟨likeItem c, likeDepth c⟩)) rest := by
  by_cases hrun : c = '%'
  · subst hrun
    show groupRest (fuel + 1 + 1) st ('.' :: '*' :: rest) = _
    rw [groupRest_primitive _ _ _ hflags (by decide)]
    exact groupRest_star fuel (.chars .all) hflags hrest
  by_cases hone : c = '_'
  · subst hone
    show groupRest (fuel + 1) st ('.' :: rest) = _
    rw [groupRest_primitive _ _ _ hflags (by decide)]
    rfl
  have hitem : likeItem c = .chars (.single c) := by simp [likeItem, hrun, hone]
  have hdepth : likeDepth c = 0 := by simp [likeDepth, hrun]
  have hsteps : likeSteps c = 1 := by simp [likeSteps, hrun]
  rw [hitem, hdepth, hsteps]
  by_cases hmeta : c ∈ metaChars
  · have hchars : likeChar c = ['\\', c] := by simp [likeChar, hrun, hone, hmeta]
    rw [hchars]
    show groupRest (fuel + 1) st ('\\' :: c :: rest) = _
    rw [groupRest_primitive _ _ _ hflags (by decide), primitive_metaChar _ hmeta]
    rfl
  · have hchars : likeChar c = [c] := by simp [likeChar, hrun, hone, hmeta]
    rw [hchars]
    show groupRest (fuel + 1) st (c :: rest) = _
    rw [groupRest_primitive _ _ _ hflags (not_mem_groupChars hmeta), primitive_plain _ hmeta]
    rfl

/-- What is read from the characters of a pattern, with the end of the text after them. -/
theorem groupRest_likeChars (p : List Char) {st : GroupState} {r : Regex} (h : st.Holds r)
    {fuel : Nat} (hfuel : (p.flatMap likeChar).length + 2 ≤ fuel) :
    ∃ q : Part, groupRest fuel st (p.flatMap likeChar ++ ['$']) = some (q, [], []) ∧
      q.regex = .seq ((p.map likeItem).foldl .seq r) (.look .stop) ∧ q.depth ≤ 2 := by
  -- What has been read so far is `r`; each character puts its item behind it.
  induction p generalizing st r fuel with
  | nil =>
    -- The end of the text is read, and then the end of the pattern.
    obtain ⟨fuel, rfl⟩ := Nat.exists_eq_add_of_le' hfuel
    have hstop := h.push ⟨.look .stop, 0⟩ (Nat.zero_le 1)
    obtain ⟨hregex, hdepth⟩ := hstop.close
    refine ⟨_, ?_, hregex, hdepth⟩
    show groupRest (fuel + 1 + 1) st ['$'] = _
    rw [groupRest_primitive _ _ _ h.flags (by decide)]
    show groupRest (fuel + 1) (st.push (some ⟨.look .stop, 0⟩)) [] = _
    rw [groupRest, hstop.flags]
    exact congrArg (fun names => some (_, names, _)) hstop.names
  | cons c p ih =>
    rw [List.flatMap_cons, List.length_append] at hfuel
    rw [List.flatMap_cons, List.append_assoc]
    have hsteps := likeSteps_le c
    obtain ⟨fuel, rfl⟩ := Nat.exists_eq_add_of_le' (show likeSteps c ≤ fuel by omega)
    rw [groupRest_likeChar fuel c h.flags (head?_likeChars p)]
    exact ih (h.push ⟨likeItem c, likeDepth c⟩ (likeDepth_le c)) (by omega)

/-- What has been read after the head, which sets the flag. -/
def afterHead : GroupState :=
  { (GroupState.start {} []).push none with flags := { dotAll := true } }

/-- The expression that a pattern is written out as. -/
theorem read?_likeSource (p : String) :
    read? (likeSource p false) = some (likeRegex p.toList) := by
  have hstart : (afterHead.push (some ⟨.look .start, 0⟩)).Holds (.look .start) :=
    ⟨rfl, rfl, rfl, rfl, 0, Nat.zero_le 1, rfl⟩
  have hchars : (likeSource p false).toList =
      '(' :: '?' :: 's' :: ')' :: '^' :: (p.toList.flatMap likeChar ++ ['$']) := by
    simp [likeSource]
  have hfuel : (p.toList.flatMap likeChar).length + 2 ≤ (p.toList.flatMap likeChar).length + 5 :=
    by omega
  obtain ⟨q, hq, hregex, hdepth⟩ := groupRest_likeChars p.toList hstart hfuel
  have hread : groupRest ((likeSource p false).toList.length + 1) (.start {} [])
      (likeSource p false).toList = some (q, [], []) := by
    rw [hchars, ← hq]
    have hlength : ('(' :: '?' :: 's' :: ')' :: '^' ::
        (p.toList.flatMap likeChar ++ ['$'])).length + 1 =
          (p.toList.flatMap likeChar).length + 5 + 1 + 1 := by simp
    rw [hlength]
    show groupRest ((p.toList.flatMap likeChar).length + 5 + 1) afterHead
      ('^' :: (p.toList.flatMap likeChar ++ ['$'])) = _
    rw [groupRest_primitive _ _ _ rfl (by decide)]
    rfl
  rw [read?]
  simp only [hread]
  rw [if_pos (hdepth.trans (by decide)), hregex]
  rfl

/-! ## Matching -/

variable {text : List Char}

theorem spans_all_iff {i j : Nat} :
    (Regex.chars .all).Spans text i j ↔ j = i + 1 ∧ i < text.length := by
  have hall (n : Nat) : CharSet.all.has n = true := rfl
  simp only [Spans, hall, and_true]
  rw [← Option.isSome_iff_exists]
  simp

theorem spans_single_iff {c : Char} {i j : Nat} :
    (Regex.chars (.single c)).Spans text i j ↔ j = i + 1 ∧ text[i]? = some c := by
  have hsingle (d : Char) : (CharSet.single c).has d.toNat = true ↔ d = c := by
    constructor
    · intro h
      have heq : d.toNat = c.toNat := by
        simp [CharSet.single, CharSet.has, Text.Run.has] at h
        omega
      exact Char.toNat_inj.mp heq
    · rintro rfl
      simp [CharSet.single, CharSet.has, Text.Run.has]
  simp only [Spans, hsingle]
  constructor
  · rintro ⟨rfl, d, hd, rfl⟩
    exact ⟨rfl, hd⟩
  · rintro ⟨rfl, hc⟩
    exact ⟨rfl, c, hc, rfl⟩

theorem repeated_all_iff {n i j : Nat} : Repeated ((Regex.chars .all).Spans text) n i j ↔
    j = i + n ∧ (n = 0 ∨ j ≤ text.length) := by
  induction n generalizing i with
  | zero => simp [Repeated]
  | succ n ih =>
    simp only [Repeated, ih, spans_all_iff]
    constructor
    · rintro ⟨k, ⟨rfl, hi⟩, rfl, hj⟩
      omega
    · rintro ⟨rfl, hj⟩
      exact ⟨i + 1, ⟨rfl, by omega⟩, by omega, by omega⟩

theorem spans_run_iff {i j : Nat} : (likeItem '%').Spans text i j ↔
    ∃ n, j = i + n ∧ (n = 0 ∨ j ≤ text.length) := by
  show (∃ n, 0 ≤ n ∧ (∀ m, none = some m → n ≤ max 0 m) ∧
    Repeated ((Regex.chars .all).Spans text) n i j) ↔ _
  simp [repeated_all_iff]

/-- The expression of a character spans what is in front of a text that the rest of the pattern
fits. -/
theorem spans_likeItem_iff (c : Char) (p : List Char) {i : Nat} :
    (∃ k ≤ text.length, (likeItem c).Spans text i k ∧ Likes p (text.drop k)) ↔
      i ≤ text.length ∧ Likes (c :: p) (text.drop i) := by
  by_cases hrun : c = '%'
  · subst hrun
    simp only [likes_run_iff, spans_run_iff, List.length_drop, List.drop_drop]
    constructor
    · rintro ⟨k, hk, ⟨n, rfl, -⟩, h⟩
      exact ⟨by omega, n, by omega, h⟩
    · rintro ⟨hi, n, hn, h⟩
      exact ⟨i + n, by omega, ⟨n, rfl, .inr (by omega)⟩, h⟩
  by_cases hone : c = '_'
  · subst hone
    have hitem : likeItem '_' = .chars .all := rfl
    simp only [likes_one_iff, hitem, spans_all_iff, List.tail_drop, ne_eq, List.drop_eq_nil_iff,
      not_le]
    constructor
    · rintro ⟨k, hk, ⟨rfl, hi⟩, h⟩
      exact ⟨hi.le, hi, h⟩
    · rintro ⟨-, hi, h⟩
      exact ⟨i + 1, hi, ⟨rfl, hi⟩, h⟩
  · have hitem : likeItem c = .chars (.single c) := by simp [likeItem, hrun, hone]
    simp only [likes_same_iff hrun hone, hitem, spans_single_iff, List.tail_drop, List.head?_drop]
    constructor
    · rintro ⟨k, hk, ⟨rfl, hc⟩, h⟩
      exact ⟨by omega, hc, h⟩
    · rintro ⟨-, hc, h⟩
      obtain ⟨hi, -⟩ := List.getElem?_eq_some_iff.mp hc
      exact ⟨i + 1, hi, ⟨rfl, hc⟩, h⟩

/-- The expression of a pattern spans what the pattern fits, up to the end of the text. -/
theorem spans_likeItems_iff (p : List Char) {r : Regex} {i j : Nat} :
    Spans text (.seq ((p.map likeItem).foldl .seq r) (.look .stop)) i j ↔
      j = text.length ∧ ∃ k ≤ text.length, r.Spans text i k ∧ Likes p (text.drop k) := by
  induction p generalizing r with
  | nil =>
    simp only [List.map_nil, List.foldl_nil, Spans, likes_nil_iff, List.drop_eq_nil_iff, Look.holds,
      Option.isNone_iff_eq_none, List.getElem?_eq_none_iff]
    constructor
    · rintro ⟨k, hr, rfl, hk, hstop⟩
      exact ⟨hk.antisymm hstop, j, hk, hr, hstop⟩
    · rintro ⟨rfl, k, hk, hr, hstop⟩
      exact ⟨k, hr, hstop.antisymm hk, hk, hstop⟩
  | cons c p ih =>
    rw [List.map_cons, List.foldl_cons, ih]
    refine and_congr_right fun _ => ?_
    constructor
    · rintro ⟨l, hl, ⟨k, hr, hc⟩, h⟩
      obtain ⟨hk, hlikes⟩ := (spans_likeItem_iff c p).mp ⟨l, hl, hc, h⟩
      exact ⟨k, hk, hr, hlikes⟩
    · rintro ⟨k, hk, hr, hlikes⟩
      obtain ⟨l, hl, hc, h⟩ := (spans_likeItem_iff c p).mpr ⟨hk, hlikes⟩
      exact ⟨l, hl, ⟨k, hr, hc⟩, h⟩

theorem spans_start_iff {i j : Nat} : (Regex.look .start).Spans text i j ↔ i = 0 ∧ j = 0 := by
  cases i with
  | zero => simp [Spans, Look.holds, charBefore]
  | succ i =>
    simp only [Spans, Look.holds, charBefore, Option.isNone_iff_eq_none,
      List.getElem?_eq_none_iff]
    omega

/-- A search for the expression of a pattern finds a match exactly in the texts that fit. -/
theorem matchesIn_likeRegex (p s : String) :
    (likeRegex p.toList).matchesIn s = true ↔ Likes p.toList s.toList := by
  rw [matchesIn_iff]
  simp only [likeRegex, spans_likeItems_iff, spans_start_iff]
  constructor
  · rintro ⟨i, j, -, -, k, -, ⟨-, rfl⟩, h⟩
    exact h
  · intro h
    exact ⟨0, _, Nat.zero_le _, rfl, 0, Nat.zero_le _, ⟨rfl, rfl⟩, h⟩

end Crosstab.Pattern
