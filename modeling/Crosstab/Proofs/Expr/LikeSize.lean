import Crosstab.Proofs.Expr.Like
import Crosstab.Proofs.Regex.Size

/-!
# The size of LIKE patterns

A `LIKE` pattern is refused if its regular expression is too large when compiled.  Each character of
a pattern takes at most `charBytes`, so all patterns of up to `likeLength` characters are compiled
(`fits_likeRegex`).  There is no pattern without a limit: an underscore takes at least `anyBytes`,
so a long enough run of underscores is refused (`not_fits_underscores`).
-/

namespace Crosstab.Pattern

open Regex Regex.Normal

/-! ## Normal form -/

/-- A character of a pattern as a simplified regular expression. -/
def likeNormal (c : Char) : Normal :=
  if c = '%' then .repeat (.set CharSet.all.intervals) 0 none true
  else if c = '_' then .set CharSet.all.intervals
  else .literal [c]

theorem ofIntervals_all : ofIntervals CharSet.all.intervals = .set CharSet.all.intervals := by
  rw [CharSet.intervals_all]
  rfl

theorem ofIntervals_single (c : Char) :
    ofIntervals (CharSet.single c).intervals = .literal [c] := by
  rw [CharSet.intervals_single]
  simp [ofIntervals, Interval.point]

theorem normalInto_likeItem (c : Char) (rest : List Normal) :
    (likeItem c).normalInto .concat rest = likeNormal c :: rest := by
  by_cases hrun : c = '%'
  · subst hrun
    show repeatOf (concatOf [ofIntervals CharSet.all.intervals]) 0 none true :: rest = _
    rw [ofIntervals_all, likeNormal, CharSet.intervals_all]
    rfl
  by_cases hone : c = '_'
  · subst hone
    exact congrArg (· :: rest) ofIntervals_all
  · have hitem : likeItem c = .chars (.single c) := by simp [likeItem, hrun, hone]
    have hnormal : likeNormal c = .literal [c] := by simp [likeNormal, hrun, hone]
    rw [hitem, hnormal]
    exact congrArg (· :: rest) (ofIntervals_single c)

theorem normalInto_likeItems (p : List Char) (r : Regex) (rest : List Normal) :
    ((p.map likeItem).foldl .seq r).normalInto .concat rest =
      r.normalInto .concat (p.map likeNormal ++ rest) := by
  induction p generalizing r with
  | nil => rfl
  | cons c p ih =>
    rw [List.map_cons, List.foldl_cons, ih]
    show r.normalInto .concat ((likeItem c).normalInto .concat _) = _
    rw [normalInto_likeItem]
    rfl

/-- The parts behind the start of the text, where neighbouring characters are one literal. -/
def likeParts (p : List Char) : List Normal :=
  (p.map likeNormal).foldr cons [.look .stop]

theorem cons_ne_nil {r : Normal} {rest : List Normal} (h : rest ≠ []) : cons r rest ≠ [] := by
  have hpart (r : Normal) (rest : List Normal) (h : rest ≠ []) : consPart r rest ≠ [] := by
    rw [consPart.eq_def]
    split <;> simp_all
  rw [cons.eq_def]
  split
  · rename_i parts
    induction parts with
    | nil => exact h
    | cons part parts ih => exact hpart _ _ ih
  · exact hpart _ _ h

theorem likeParts_ne_nil (p : List Char) : likeParts p ≠ [] := by
  induction p with
  | nil => exact List.cons_ne_nil _ _
  | cons c p ih => exact cons_ne_nil ih

theorem normal_likeRegex (p : List Char) :
    (likeRegex p).normal = .concat (.look .start :: likeParts p) := by
  have hinto : (likeRegex p).normalInto .concat [] =
      Normal.look .start :: (p.map likeNormal ++ [Normal.look .stop]) :=
    normalInto_likeItems p (.look .start) [.look .stop]
  have hparts : (p.map likeNormal ++ [Normal.look .stop]).foldr cons [] = likeParts p := by
    rw [List.foldr_append]
    rfl
  have hfold : (Normal.look .start :: (p.map likeNormal ++ [Normal.look .stop])).foldr cons [] =
      .look .start :: likeParts p := by
    rw [List.foldr_cons, hparts]
    rfl
  rw [normal, hinto, concatOf, hfold]
  have hne := likeParts_ne_nil p
  cases h : likeParts p with
  | nil => exact absurd h hne
  | cons r rs => rfl

/-! ## Small patterns -/

/-- The parts that patterns consist of. -/
inductive LikePart : Normal → Prop where
  | literal (text : List Char) : LikePart (.literal text)
  | look (l : Look) : LikePart (.look l)
  | one : LikePart (.set CharSet.all.intervals)
  | run : LikePart (.repeat (.set CharSet.all.intervals) 0 none true)

/-- How many bytes a character of a pattern takes at most: those of a run of any characters. -/
def charBytes : Nat := anyBytes + stateBytes + 2 * forkBytes

/-- How many bytes a part takes at most, with the edge to the next one. -/
def partBytes : Normal → Nat
  | .literal text => charBytes * text.length
  | .look _ => stateBytes
  | _ => charBytes

/-- How many bytes some parts take at most. -/
def partsBytes (rs : List Normal) : Nat := (rs.map partBytes).sum

theorem likePart_likeNormal (c : Char) :
    LikePart (likeNormal c) ∧ partBytes (likeNormal c) = charBytes := by
  by_cases hrun : c = '%'
  · subst hrun
    exact ⟨.run, rfl⟩
  by_cases hone : c = '_'
  · subst hone
    exact ⟨.one, rfl⟩
  · have hnormal : likeNormal c = .literal [c] := by simp [likeNormal, hrun, hone]
    rw [hnormal]
    exact ⟨.literal [c], by simp [partBytes]⟩

/-- Joining literals changes neither kind nor size. -/
theorem likePart_cons {r : Normal} {rest : List Normal} (hr : LikePart r)
    (hrest : ∀ part ∈ rest, LikePart part) :
    (∀ part ∈ cons r rest, LikePart part) ∧
      partsBytes (cons r rest) = partBytes r + partsBytes rest := by
  have hcons : (∀ part ∈ r :: rest, LikePart part) ∧
      partsBytes (r :: rest) = partBytes r + partsBytes rest :=
    ⟨List.forall_mem_cons.mpr ⟨hr, hrest⟩, rfl⟩
  -- Only a literal in front of a literal is joined to it.
  cases hr with
  | look l => exact hcons
  | one => exact hcons
  | run => exact hcons
  | literal text =>
    rcases rest with _ | ⟨part, rest⟩
    · exact hcons
    · cases part with
      | literal next =>
        refine ⟨List.forall_mem_cons.mpr ⟨.literal _, (List.forall_mem_cons.mp hrest).2⟩, ?_⟩
        simp [cons, consPart, partsBytes, partBytes, Nat.mul_add, Nat.add_assoc]
      | _ => exact hcons

theorem likePart_likeParts (p : List Char) :
    (∀ part ∈ likeParts p, LikePart part) ∧
      partsBytes (likeParts p) = charBytes * p.length + stateBytes := by
  induction p with
  | nil => exact ⟨by simpa [likeParts] using LikePart.look .stop, rfl⟩
  | cons c p ih =>
    obtain ⟨hpart, hbytes⟩ := likePart_likeNormal c
    obtain ⟨hparts, hsum⟩ := likePart_cons hpart ih.1
    refine ⟨hparts, hsum.trans ?_⟩
    rw [hbytes, ih.2, List.length_cons, Nat.mul_succ]
    omega

/-- What a pattern takes does not depend on the direction in which it is read. -/
theorem likePart_mirror {r : Normal} (h : LikePart r) :
    LikePart r.mirror ∧ partBytes r.mirror = partBytes r := by
  cases h with
  | literal text => exact ⟨.literal text.reverse, by simp [mirror, partBytes]⟩
  | look l => cases l <;> exact ⟨.look _, rfl⟩
  | one => exact ⟨.one, rfl⟩
  | run => exact ⟨.run, rfl⟩

theorem likePart_mirrorList {rs : List Normal} (h : ∀ part ∈ rs, LikePart part) :
    (∀ part ∈ mirrorList rs, LikePart part) ∧ partsBytes (mirrorList rs) = partsBytes rs := by
  induction rs with
  | nil => exact ⟨h, rfl⟩
  | cons r rs ih =>
    obtain ⟨hr, hrs⟩ := List.forall_mem_cons.mp h
    obtain ⟨hpart, hbytes⟩ := likePart_mirror hr
    obtain ⟨hparts, hsum⟩ := ih hrs
    refine ⟨List.forall_mem_cons.mpr ⟨hpart, hparts⟩, ?_⟩
    show partBytes r.mirror + partsBytes (mirrorList rs) = _
    rw [hbytes, hsum]
    rfl

/-- The encoding of a character has at most four bytes. -/
theorem length_textBytes_le (backward : Bool) (text : List Char) :
    (textBytes backward text).length ≤ 4 * text.length := by
  have hchar (c : Char) : (textBytes backward [c]).length ≤ 4 := by
    have hbytes : (Interval.bytes c.toNat).length ≤ 4 := by
      rw [Interval.bytes, List.length_map, Char.ofNat_toNat, String.length_utf8EncodeChar]
      exact Char.utf8Size_le_four c
    cases backward <;> simpa [textBytes] using hbytes
  induction text with
  | nil => exact Nat.le_refl 0
  | cons c text ih =>
    have happend : textBytes backward (c :: text) =
        textBytes backward [c] ++ textBytes backward text := by
      simp [textBytes]
    have hfirst := hchar c
    rw [happend, List.length_append, List.length_cons]
    omega

theorem build_any_atMost (backward : Bool) :
    AtMost ((Normal.set CharSet.all.intervals).build backward) anyBytes (· = 0) :=
  (buildSet_all_atMost backward).bind (k := 0) fun _ _ => AtMost.pure rfl

/-- What a part takes, with the edge to the next one. -/
theorem build_atMost (backward : Bool) {r : Normal} (h : LikePart r) :
    ∃ n e, n + e ≤ partBytes r ∧ e ≤ forkBytes ∧ AtMost (r.build backward) n (· ≤ e) := by
  cases h with
  | literal text =>
    refine ⟨stateBytes * (textBytes backward text).length, 0, ?_, Nat.zero_le _, ?_⟩
    · have hlength := length_textBytes_le backward text
      simp only [partBytes, charBytes, anyBytes, stateBytes, forkBytes]
      omega
    · exact (addStates_atMost _).bind (k := 0) fun _ _ => AtMost.pure (Nat.le_refl 0)
  | look l =>
    refine ⟨stateBytes, 0, Nat.le_refl _, Nat.zero_le _, ?_⟩
    exact (addStates_atMost 1).bind (k := 0) fun _ _ => AtMost.pure (Nat.le_refl 0)
  | one =>
    refine ⟨anyBytes, 0, by decide, Nat.zero_le _, ?_⟩
    exact (build_any_atMost backward).mono (Nat.le_refl _) fun e he => he.le
  | run =>
    refine ⟨stateBytes * 1 + (anyBytes + (forkBytes + 0)), forkBytes, by decide, Nat.le_refl _, ?_⟩
    have hlong : ((Normal.set CharSet.all.intervals).minLength.any (0 < ·)) = true := by
      rw [CharSet.intervals_all]
      rfl
    show AtMost (buildRepeat _ ((Normal.set CharSet.all.intervals).minLength.any (0 < ·)) 0 none) _ _
    rw [hlong]
    refine (addStates_atMost 1).bind fun _ _ => (build_any_atMost backward).bind ?_
    rintro _ rfl
    exact (addBytes_atMost (forkBytes + 0)).bind (k := 0) fun _ _ => AtMost.pure (Nat.le_refl _)

/-- What some parts take behind a part with an edge to the next one. -/
theorem buildParts_atMost (backward : Bool) {rs : List Normal} (h : ∀ r ∈ rs, LikePart r)
    {exit : Nat} (hexit : exit ≤ forkBytes) :
    AtMost (buildParts backward rs exit) (exit + partsBytes rs) (· ≤ forkBytes) := by
  induction rs generalizing exit with
  | nil =>
    have hpure : AtMost (pure exit) 0 (· ≤ forkBytes) := AtMost.pure hexit
    exact hpure.mono (Nat.zero_le _) fun _ => id
  | cons r rs ih =>
    obtain ⟨hr, hrs⟩ := List.forall_mem_cons.mp h
    obtain ⟨n, e, hbytes, he, hbuild⟩ := build_atMost backward hr
    refine AtMost.mono (hbuild.bind fun next hnext => (addBytes_atMost exit).bind fun _ _ =>
      (ih hrs (hnext.trans he)).mono (Nat.add_le_add_right hnext _) fun _ => id) ?_ fun _ => id
    show n + (exit + (e + partsBytes rs)) ≤ exit + (partBytes r + partsBytes rs)
    omega

/-- What a whole pattern takes beside its parts, at most. -/
def frameBytes : Nat := 6 * stateBytes + edgeBytes + 4 * forkBytes

theorem buildWhole_atMost (backward : Bool) {rs : List Normal} (h : ∀ r ∈ rs, LikePart r) :
    AtMost ((Normal.concat rs).buildWhole backward) (partsBytes rs + frameBytes) fun _ => True := by
  have hparts : AtMost ((Normal.concat rs).build backward) (0 + partsBytes rs) (· ≤ forkBytes) :=
    buildParts_atMost backward h (Nat.zero_le _)
  have hcapture : AtMost ((capture (.concat rs)).build backward)
      (partsBytes rs + 2 * stateBytes + forkBytes) (· ≤ forkBytes) := by
    cases backward with
    | true => exact hparts.mono (by omega) fun _ => id
    | false =>
      have hpure : AtMost (pure 0) 0 (· ≤ forkBytes) := AtMost.pure (Nat.zero_le _)
      refine AtMost.mono ((addStates_atMost 1).bind fun _ _ => hparts.bind fun exit hexit =>
        (addStates_atMost 1).bind fun _ _ => ((addBytes_atMost exit).mono hexit fun _ => id).bind
          fun _ _ => hpure) ?_ fun _ => id
      omega
  have hrest : AtMost (do
      let exit ← (capture (.concat rs)).build backward
      addBytes exit
      addStates 1) (partsBytes rs + 3 * stateBytes + 2 * forkBytes) fun _ => True := by
    refine AtMost.mono (hcapture.bind fun exit hexit =>
      ((addBytes_atMost exit).mono hexit fun _ => id).bind fun _ _ => addStates_atMost 1) ?_
        fun _ => id
    omega
  rw [buildWhole]
  by_cases hanchored : (Normal.concat rs).anchored = true
  · rw [if_pos hanchored]
    refine AtMost.mono ((addStates_atMost 1).bind fun _ _ => hrest) ?_ fun _ => id
    rw [frameBytes]
    omega
  · rw [if_neg hanchored]
    refine AtMost.mono ((addStates_atMost 3).bind fun _ _ =>
      (addBytes_atMost (edgeBytes + 2 * forkBytes)).bind fun _ _ => hrest) ?_ fun _ => id
    rw [frameBytes]
    omega

/-- The length up to which all patterns are compiled. -/
def likeLength : Nat := 10443

/-- Short patterns are compiled. -/
theorem fits_likeRegex {p : List Char} (h : p.length ≤ likeLength) : fits (likeRegex p) = true := by
  obtain ⟨hparts, hbytes⟩ := likePart_likeParts p
  have hall : ∀ r ∈ Normal.look .start :: likeParts p, LikePart r :=
    List.forall_mem_cons.mpr ⟨.look .start, hparts⟩
  have hsum : partsBytes (Normal.look .start :: likeParts p) =
      stateBytes + (charBytes * p.length + stateBytes) := congrArg (stateBytes + ·) hbytes
  have hlimit : partsBytes (Normal.look .start :: likeParts p) + frameBytes ≤ sizeLimit := by
    rw [hsum]
    simp only [likeLength] at h
    simp only [stateBytes, charBytes, anyBytes, forkBytes, frameBytes, edgeBytes, sizeLimit]
    omega
  obtain ⟨hmirror, hmirrorSum⟩ := likePart_mirrorList hall
  have hreverse : partsBytes (mirrorList (Normal.look .start :: likeParts p)).reverse =
      partsBytes (Normal.look .start :: likeParts p) := by
    rw [← hmirrorSum, partsBytes, List.map_reverse, List.sum_reverse]
    rfl
  have hforward := (buildWhole_atMost false hall).isSome hlimit
  have hbackward := (buildWhole_atMost true
    fun r hr => hmirror r (List.mem_reverse.mp hr)).isSome (hreverse ▸ hlimit)
  rw [fits, normal_likeRegex]
  show (false || (_ && _)) = true
  rw [Bool.false_or, Bool.and_eq_true]
  exact ⟨hforward, hbackward⟩

/-! ## Large patterns -/

theorem build_look_atLeast (backward : Bool) (l : Look) :
    AtLeast ((Normal.look l).build backward) 0 :=
  AtLeast.mono ((addStates_atLeast 1).bind fun _ => AtLeast.pure 0) (Nat.zero_le _)

/-- Sets of all characters, one after the other, take no fewer bytes than each takes alone. -/
theorem buildParts_any_atLeast (n exit : Nat) (l : Look) :
    AtLeast (buildParts true (List.replicate n (.set CharSet.all.intervals) ++ [.look l]) exit)
      (anyBytes * n) := by
  induction n generalizing exit with
  | zero =>
    exact AtLeast.mono ((build_look_atLeast true l).bind fun next => (addBytes_atLeast exit).bind
      fun _ => AtLeast.pure next) (Nat.zero_le _)
  | succ n ih =>
    have hset : AtLeast ((Normal.set CharSet.all.intervals).build true) anyBytes :=
      buildSet_all_atLeast.bind (k := 0) fun _ => AtLeast.pure 0
    refine AtLeast.mono (hset.bind fun next => (addBytes_atLeast exit).bind fun _ => ih next) ?_
    rw [Nat.mul_succ]
    omega

theorem likeParts_underscores (n : Nat) : likeParts (List.replicate n '_') =
    List.replicate n (.set CharSet.all.intervals) ++ [.look .stop] := by
  induction n with
  | zero => rfl
  | succ n ih =>
    rw [List.replicate_succ, List.replicate_succ, List.cons_append, ← ih]
    rfl

theorem mirrorList_eq_map (rs : List Normal) : mirrorList rs = rs.map mirror := by
  induction rs with
  | nil => rfl
  | cons r rs ih => rw [mirrorList, ih, List.map_cons]

/-- A run of underscores reads the same from both ends. -/
theorem mirror_underscores (n : Nat) : (likeRegex (List.replicate n '_')).normal.mirror =
    .concat (.look .start :: (List.replicate n (.set CharSet.all.intervals) ++ [.look .stop])) := by
  rw [normal_likeRegex, likeParts_underscores, mirror, mirrorList_eq_map]
  simp [mirror]

/-- A long run of underscores is refused. -/
theorem not_fits_underscores {n : Nat} (h : sizeLimit < anyBytes * n) :
    fits (likeRegex (List.replicate n '_')) = false := by
  have hparts : AtLeast ((capture (likeRegex (List.replicate n '_')).normal.mirror).build true)
      (0 + (0 + anyBytes * n)) := by
    rw [mirror_underscores]
    exact (build_look_atLeast true .start).bind fun next =>
      (AtLeast.mono (addBytes_atLeast 0) (Nat.zero_le _)).bind fun _ =>
        buildParts_any_atLeast n next .stop
  have hnone := buildWhole_eq_none hparts (by omega) ⟨0, 0⟩
  rw [fits]
  simp only [hnone]
  rw [normal_likeRegex]
  simp [isWordList]

end Crosstab.Pattern
