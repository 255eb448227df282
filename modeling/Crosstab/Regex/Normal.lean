import Crosstab.Regex.Basic
import Crosstab.Regex.Interval

/-!
# Regular expressions in normal form

A regular expression is simplified before it is compiled.  In a `Normal` expression nothing nests
that need not: no concatenation is a part of a concatenation and no choice a branch of a choice,
neighbouring characters are one literal, a choice between single characters is a set, and the parts
that all branches of a choice begin with stand in front of it.  `Regex.normal` builds it from the
functions `concatOf`, `choiceOf` and `repeatOf`, which each keep the form.
-/

namespace Crosstab.Regex

/-- A simplified regular expression. -/
inductive Normal where
  | empty
  /-- Some characters, one after the other. -/
  | literal (text : List Char)
  /-- A character of some intervals in order. -/
  | set (is : List Interval)
  | look (l : Look)
  | repeat (r : Normal) (least : Nat) (most : Option Nat) (greedy : Bool)
  | capture (r : Normal)
  /-- Parts, one after the other. -/
  | concat (parts : List Normal)
  /-- Any one of some branches. -/
  | choice (branches : List Normal)
  deriving Repr

namespace Normal

/-! ## What an expression is like -/

mutual

/-- Whether two expressions are the same.  Each capture is another one. -/
def same : Normal → Normal → Bool
  | empty, empty => true
  | literal s, literal t => s == t
  | set is, set js => is == js
  | look l, look m => l == m
  | .repeat r least most greedy, .repeat s least' most' greedy' =>
    same r s && least == least' && most == most' && greedy == greedy'
  | concat rs, concat ss => sameList rs ss
  | choice rs, choice ss => sameList rs ss
  | _, _ => false

/-- Whether two lists have the same expressions. -/
def sameList : List Normal → List Normal → Bool
  | [], [] => true
  | r :: rs, s :: ss => same r s && sameList rs ss
  | _, _ => false

end

mutual

/-- The number of characters in the shortest match; nothing matches the empty set. -/
def minLength : Normal → Option Nat
  | empty => some 0
  | literal text => some text.length
  | set is => if is.isEmpty then none else some 1
  | look _ => some 0
  | .repeat r least _ _ => r.minLength.map (· * least)
  | capture r => r.minLength
  | concat parts => minTotal parts
  | choice branches => minLeast branches

/-- The number of characters in the shortest match of some parts. -/
def minTotal : List Normal → Option Nat
  | [] => some 0
  | r :: rs => do return (← r.minLength) + (← minTotal rs)

/-- The number of characters in the shortest match of some branches. -/
def minLeast : List Normal → Option Nat
  | [] => none
  | [r] => r.minLength
  | r :: rs => do return min (← r.minLength) (← minLeast rs)

end

mutual

/-- The number of characters in the longest match, if there is one. -/
def maxLength : Normal → Option Nat
  | empty => some 0
  | literal text => some text.length
  | set is => if is.isEmpty then none else some 1
  | look _ => some 0
  | .repeat r _ most _ => do return (← r.maxLength) * (← most)
  | capture r => r.maxLength
  | concat parts => maxTotal parts
  | choice branches => maxMost branches

/-- The number of characters in the longest match of some parts. -/
def maxTotal : List Normal → Option Nat
  | [] => some 0
  | r :: rs => do return (← r.maxLength) + (← maxTotal rs)

/-- The number of characters in the longest match of some branches. -/
def maxMost : List Normal → Option Nat
  | [] => some 0
  | r :: rs => do return max (← r.maxLength) (← maxMost rs)

end

mutual

/-- Whether every match starts at the start of the text. -/
def anchored : Normal → Bool
  | look l => l == .start
  | .repeat r least _ _ => 0 < least && r.anchored
  | capture r => r.anchored
  | concat parts => anchoredParts parts
  | choice branches => anchoredBranches branches
  | _ => false

/-- Whether some part that only the empty text can precede is anchored. -/
def anchoredParts : List Normal → Bool
  | [] => false
  | r :: rs => r.anchored || (r.maxLength == some 0 && anchoredParts rs)

/-- Whether all branches are anchored. -/
def anchoredBranches : List Normal → Bool
  | [] => true
  | r :: rs => r.anchored && anchoredBranches rs

end

mutual

/-- The expression that matches the reversed texts. -/
def mirror : Normal → Normal
  | literal text => literal text.reverse
  | look .start => look .stop
  | look .stop => look .start
  | .repeat r least most greedy => .repeat r.mirror least most greedy
  | capture r => capture r.mirror
  | concat parts => concat (mirrorList parts).reverse
  | choice branches => choice (mirrorList branches)
  | r => r

/-- The mirrored expressions. -/
def mirrorList : List Normal → List Normal
  | [] => []
  | r :: rs => r.mirror :: mirrorList rs

end

/-! ## Building expressions -/

/-- A character of some intervals in order; the set of one character is a literal. -/
def ofIntervals (is : List Interval) : Normal :=
  match is with
  | [i] => if i.lo = i.hi then literal [Char.ofNat i.lo] else set is
  | _ => set is

/-- Puts a part that is no concatenation in front of others. -/
def consPart : Normal → List Normal → List Normal
  | empty, rest => rest
  | literal s, literal t :: rest => literal (s ++ t) :: rest
  | r, rest => r :: rest

/-- Puts a part in front of others. -/
def cons : Normal → List Normal → List Normal
  | concat parts, rest => parts.foldr consPart rest
  | r, rest => consPart r rest

/-- Parts, one after the other. -/
def concatOf (parts : List Normal) : Normal :=
  match parts.foldr cons [] with
  | [] => empty
  | [r] => r
  | rs => concat rs

/-- A repetition.  What matches only the empty text need not be repeated. -/
def repeatOf (r : Normal) (least : Nat) (most : Option Nat) (greedy : Bool) : Normal :=
  let (least, most) :=
    if r.maxLength = some 0 then (min least 1, some (min (most.getD 1) 1)) else (least, most)
  if most = some 0 then empty
  else if least = 1 && most = some 1 then r
  else .repeat r least most greedy

/-- The branches of a choice; any other expression is a branch. -/
def branches : Normal → List Normal
  | choice rs => rs
  | r => [r]

/-- The interval of a literal that is one character. -/
def point? : Normal → Option Interval
  | literal [c] => some (Interval.point c.toNat)
  | _ => none

/-- The intervals of a set. -/
def intervals? : Normal → Option (List Interval)
  | set is => some is
  | _ => none

/-- The parts of a concatenation. -/
def parts? : Normal → Option (List Normal)
  | concat rs => some rs
  | _ => none

/-- The set that some branches are alternatives in, if they all are single characters or all are
sets. -/
def unionOf? (rs : List Normal) : Option Normal :=
  match rs.mapM point? with
  | some is => some (ofIntervals (Interval.inOrder is))
  | none => (rs.mapM intervals?).map fun iss => ofIntervals (Interval.inOrder iss.flatten)

/-- How many expressions two lists begin with that are the same. -/
def sharedLength : List Normal → List Normal → Nat
  | r :: rs, s :: ss => if same r s then sharedLength rs ss + 1 else 0
  | _, _ => 0

/-- How many parts all of some concatenations begin with. -/
def prefixLength : List (List Normal) → Nat
  | [] => 0
  | first :: others => others.foldl (fun n parts => min n (sharedLength first parts)) first.length

/-- Any one of some branches of which no parts are taken out. -/
def plainChoice (rs : List Normal) : Normal :=
  match rs.flatMap branches with
  | [] => set []
  | [r] => r
  | rs => (unionOf? rs).getD (choice rs)

/-- Any one of some branches. -/
def choiceOf (rs : List Normal) : Normal :=
  match plainChoice rs with
  | choice rs => match rs.mapM parts? with
    | some concats =>
      let n := prefixLength concats
      if n = 0 then choice rs
      else
        let suffixes := concats.map fun parts => concatOf (parts.drop n)
        concatOf ((concats.headD []).take n ++ [plainChoice suffixes])
    | none => choice rs
  | r => r

end Normal

/-! ## Simplifying -/

/-- What an expression is taken into: a concatenation or a choice. -/
inductive Chain where
  | concat
  | choice
  deriving DecidableEq, Repr

/-- Puts the simplified parts or branches of an expression in front of others. -/
def normalInto : Regex → Chain → List Normal → List Normal
  | empty, _, rest => .empty :: rest
  | chars s, _, rest => Normal.ofIntervals s.intervals :: rest
  | look l, _, rest => .look l :: rest
  | seq a b, .concat, rest => a.normalInto .concat (b.normalInto .concat rest)
  | seq a b, .choice, rest =>
    Normal.concatOf (a.normalInto .concat (b.normalInto .concat [])) :: rest
  | alt a b, .choice, rest => a.normalInto .choice (b.normalInto .choice rest)
  | alt a b, .concat, rest =>
    Normal.choiceOf (a.normalInto .choice (b.normalInto .choice [])) :: rest
  | .repeat r least most greedy, _, rest =>
    Normal.repeatOf (Normal.concatOf (r.normalInto .concat [])) least most greedy :: rest
  | group r captures, _, rest =>
    let inner := Normal.concatOf (r.normalInto .concat [])
    (if captures then .capture inner else inner) :: rest

/-- The simplified expression. -/
def normal (r : Regex) : Normal := Normal.concatOf (r.normalInto .concat [])

end Crosstab.Regex
