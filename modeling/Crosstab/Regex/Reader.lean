import Crosstab.Regex.Cost
import Crosstab.Regex.Escape

/-!
# Patterns as regular expressions

`Regex.ofPattern?` reads a pattern: alternatives between bars, repetitions with `?`, `*`, `+` and
counts in braces, groups and their flags, classes in brackets with ranges, nested classes and the
operations `&&`, `--` and `~~`, and escapes.  Patterns that look ahead or behind, refer back to a
group, name two groups alike, nest too deep or are too large when compiled are refused.
-/

namespace Crosstab.Regex

/-! ## Characters -/

/-- The set of one character of the pattern; without Unicode a byte beyond ASCII is refused. -/
def charSet? (f : Flags) (c : Char) (byte : Bool) : Option CharSet :=
  if !f.unicode && byte && 128 ≤ c.toNat then none else some (f.foldSet (.single c))

/-- The set of a dot. -/
def dotSet? (f : Flags) : Option CharSet :=
  if !f.unicode then none
  else if f.dotAll then some .all
  else if f.crlf then some (.compl (.runs [⟨10, 10, 1⟩, ⟨13, 13, 1⟩]))
  else some (.compl (.single '\n'))

/-! ## Classes -/

/-- An operation between the sets of a class. -/
inductive SetOp where
  | inter
  | diff
  | symmetric

/-- What a class consists of so far. -/
structure ClassState where
  /-- The set and the operation in front of the members being read. -/
  left : Option (CharSet × Nat × SetOp)
  /-- The members being read. -/
  members : CharSet
  /-- How many members there are. -/
  count : Nat
  /-- How deep the members nest. -/
  depth : Nat

/-- No members yet. -/
def ClassState.start : ClassState := ⟨none, .empty, 0, 0⟩

/-- Adds a member that nests to some depth. -/
def ClassState.add (st : ClassState) (s : CharSet) (depth : Nat) : ClassState :=
  { st with
    members := if st.count = 0 then s else .union st.members s
    count := st.count + 1
    depth := max st.depth depth }

/-- The set read so far and the depth to which it nests. -/
def ClassState.close (f : Flags) (st : ClassState) : CharSet × Nat :=
  let depth := if st.count ≤ 1 then st.depth else st.depth + 1
  match st.left with
  | none => (st.members, depth)
  | some (l, leftDepth, op) =>
    let a := f.foldSet l
    let b := f.foldSet st.members
    let joined : CharSet := match op with
      | .inter => .inter a b
      | .diff => .diff a b
      | .symmetric => .symmetric a b
    (joined, max leftDepth depth + 1)

/-- Opens an operation after what was read so far. -/
def ClassState.operate (f : Flags) (st : ClassState) (op : SetOp) : ClassState :=
  let (s, depth) := st.close f
  { ClassState.start with left := some (s, depth, op) }

/-- Takes hyphens at the start of a class as members. -/
def leadingHyphens (f : Flags) : Nat → ClassState → List Char → ClassState × List Char
  | fuel + 1, st, '-' :: rest => leadingHyphens f fuel (st.add (.single '-') 0) (f.skip rest)
  | _, st, cs => (st, cs)

/-- Reads the start of a class after its bracket: whether it is negated, and the hyphens and the
bracket that are members for standing first. -/
def classStart (f : Flags) (cs : List Char) : Bool × ClassState × List Char :=
  let cs := f.skip cs
  let (negated, cs) := match cs with
    | '^' :: rest => (true, f.skip rest)
    | rest => (false, rest)
  let (st, cs) := leadingHyphens f cs.length ClassState.start cs
  match cs with
  | ']' :: rest =>
    if st.count = 0 then (negated, st.add (.single ']') 0, f.skip rest) else (negated, st, cs)
  | _ => (negated, st, cs)

/-- Reads the name of an ASCII class after the opening bracket, if there is one. -/
def asciiClass? (f : Flags) (cs : List Char) : Option (Option CharSet × List Char) :=
  match cs with
  | ':' :: rest =>
    let (negated, rest) := match rest with
      | '^' :: rest => (true, rest)
      | rest => (false, rest)
    match rest.dropWhile (· ≠ ':') with
    | ':' :: ']' :: after =>
      (CharSet.asciiClass? (String.ofList (rest.takeWhile (· ≠ ':')))).map fun s =>
        (f.foldAndNegate? negated s, after)
    | _ => none
  | _ => none

/-- Reads a character, a set or an escape of a class. -/
def classItem (f : Flags) (cs : List Char) : Option (Escape × List Char) :=
  match cs with
  | '\\' :: rest => Escape.read? f rest
  | c :: rest => some (.char c false, rest)
  | [] => none

/-- The character that comes after white space and the mark of a comment. -/
def Flags.peek (f : Flags) (cs : List Char) : Option Char :=
  if !f.verbose then cs.head?
  else match Text.dropBlanks cs with
    | '#' :: rest => (Text.dropBlanks rest).head?
    | rest => rest.head?

/-- A character of a class; without Unicode it must be ASCII. -/
def classChar? (f : Flags) : Escape → Option Char
  | .char c _ => if f.unicode || c.toNat < 128 then some c else none
  | _ => none

/-- Reads a member of a class: a set, a character or a range. -/
def classMember (f : Flags) (cs : List Char) : Option (CharSet × List Char) := do
  let (first, rest) ← classItem f cs
  let rest := f.skip rest
  let alone : Option (CharSet × List Char) := match first with
    | .set s => some (s, rest)
    | e => (classChar? f e).map fun c => (.single c, rest)
  match rest with
  | [] => none
  | '-' :: after =>
    if f.peek after = some ']' || f.peek after = some '-' then alone
    else
      let (second, rest) ← classItem f (f.skip after)
      let a ← classChar? f first
      let b ← classChar? f second
      if a ≤ b then return (.between a b, rest) else none
  | _ => alone

/-- Reads a class up to its closing bracket; the answer has the depth to which it nests. -/
def classRest (f : Flags) : Nat → Bool → ClassState → List Char →
    Option (CharSet × Nat × List Char)
  | 0, _, _, _ => none
  | fuel + 1, negated, st, cs => match f.skip cs with
    | [] => none
    | ']' :: rest => do
      let (s, depth) := st.close f
      return (← f.foldAndNegate? negated s, depth + 1, rest)
    | '[' :: rest => match asciiClass? f rest with
      | some (s, rest) => do classRest f fuel negated (st.add (← s) 0) rest
      | none => do
        let (inner, start, rest) := classStart f rest
        let (s, depth, rest) ← classRest f fuel inner start rest
        classRest f fuel negated (st.add s depth) rest
    | '&' :: '&' :: rest => classRest f fuel negated (st.operate f .inter) rest
    | '-' :: '-' :: rest => classRest f fuel negated (st.operate f .diff) rest
    | '~' :: '~' :: rest => classRest f fuel negated (st.operate f .symmetric) rest
    | cs => do
      let (s, rest) ← classMember f cs
      classRest f fuel negated (st.add s 0) rest

/-! ## Counts -/

/-- Reads decimal digits. -/
def digitRun (f : Flags) : Nat → List Char → List Char × List Char
  | fuel + 1, c :: rest =>
    if c.isDigit then
      let (ds, rest) := digitRun f fuel (f.skip rest)
      (c :: ds, rest)
    else ([], c :: rest)
  | _, cs => ([], cs)

/-- Reads a count with the white space around it. -/
def count? (f : Flags) (cs : List Char) : Option (Nat × List Char) :=
  let cs := Text.dropBlanks cs
  match digitRun f cs.length cs with
  | ([], _) => none
  | (ds, rest) =>
    let n := ds.foldl (fun n c => n * 10 + (c.toNat - 48)) 0
    let rest := Text.dropBlanks rest
    let rest := if rest.isEmpty then rest else f.skip rest
    if n < Nat.pow 2 32 then some (n, rest) else none

/-- Whether a repetition prefers many times, which a question mark after it turns round, and the
rest of the pattern. -/
def greed (f : Flags) (cs : List Char) : Bool × List Char :=
  match cs with
  | '?' :: rest => (f.swapGreed, rest)
  | _ => (!f.swapGreed, cs)

/-- Reads the counts of a repetition after the opening brace. -/
def counts? (f : Flags) (cs : List Char) : Option (Nat × Option Nat × List Char) := do
  let (least, rest) ← count? f (f.skip cs)
  match rest with
  | '}' :: rest => return (least, some least, f.skip rest)
  | ',' :: rest => match f.skip rest with
    | '}' :: rest => return (least, none, f.skip rest)
    | rest =>
      let (most, rest) ← count? f rest
      match rest with
      | '}' :: rest =>
        if least ≤ most then return (least, some most, f.skip rest) else none
      | _ => none
  | _ => none

/-! ## Groups -/

/-- What stands at the head of a group. -/
inductive GroupHead where
  /-- Flags for the characters ahead, without a group. -/
  | flags (f : Flags)
  /-- A group that is read with some flags, whether it captures, and its name if it has one. -/
  | group (f : Flags) (captures : Bool) (name : Option (List Char))

/-- Reads letters of flags up to a colon or a parenthesis; `seen` are the letters before. -/
def flagLetters (f : Flags) (value : Bool) (seen : List Char) :
    List Char → Option (Flags × List Char × List Char)
  | [] => none
  | c :: rest =>
    if c = ':' || c = ')' then if seen.head? = some '-' then none else some (f, seen, c :: rest)
    else if seen.contains c then none
    else if c = '-' then flagLetters f false ('-' :: seen) rest
    else do flagLetters (← f.set? c value) value (c :: seen) rest

/-- Whether a character may stand in the name of a group. -/
def inGroupName (first : Bool) (c : Char) : Bool :=
  c = '_' || (if first then Text.isAlphabetic c
    else c = '.' || c = '[' || c = ']' || Text.isAlphanumeric c)

/-- Reads the name of a group up to its closing angle bracket. -/
def groupName (cs : List Char) : Option (List Char × List Char) :=
  let name := cs.takeWhile (· ≠ '>')
  match name, cs.dropWhile (· ≠ '>') with
  | c :: more, _ :: rest =>
    if inGroupName true c && more.all (inGroupName false) then some (name, rest) else none
  | _, _ => none

/-- Reads the head of a group after its parenthesis. -/
def groupHead (f : Flags) (cs : List Char) : Option (GroupHead × List Char) := do
  match f.skip cs with
  | '?' :: '=' :: _ => none
  | '?' :: '!' :: _ => none
  | '?' :: '<' :: '=' :: _ => none
  | '?' :: '<' :: '!' :: _ => none
  | '?' :: 'P' :: '<' :: rest =>
    let (name, rest) ← groupName rest
    return (.group f true (some name), rest)
  | '?' :: '<' :: rest =>
    let (name, rest) ← groupName rest
    return (.group f true (some name), rest)
  | '?' :: rest => match ← flagLetters f true [] rest with
    | (g, _, ':' :: rest) => return (.group g false none, rest)
    | (g, seen, _ :: rest) => if seen.isEmpty then none else return (.flags g, rest)
    | _ => none
  | rest => return (.group f true none, rest)

/-! ## Expressions -/

/-- An expression and the depth to which it nests. -/
structure Part where
  /-- The expression. -/
  regex : Regex
  /-- How deep it nests. -/
  depth : Nat

/-- How far a group has been read. -/
structure GroupState where
  /-- The flags for the characters ahead. -/
  flags : Flags
  /-- The names of the groups so far. -/
  names : List (List Char)
  /-- The alternatives read so far. -/
  branches : Option Part
  /-- How many alternatives there are. -/
  branchCount : Nat
  /-- What stands in front of the last item of the alternative being read. -/
  before : Option Part
  /-- The last item; flags are an item that nothing repeats. -/
  last : Option Part
  /-- How many items the alternative has. -/
  itemCount : Nat

/-- The start of a group. -/
def GroupState.start (f : Flags) (names : List (List Char)) : GroupState :=
  ⟨f, names, none, 0, none, none, 0⟩

/-- One part after another. -/
def Part.follow (a b : Option Part) : Option Part :=
  match a, b with
  | some a, some b => some ⟨.seq a.regex b.regex, max a.depth b.depth⟩
  | some a, none => some a
  | none, b => b

/-- Adds an item to the alternative being read. -/
def GroupState.push (st : GroupState) (item : Option Part) : GroupState :=
  { st with
    before := Part.follow st.before st.last
    last := item
    itemCount := st.itemCount + 1 }

/-- Repeats the last item; the answer has the rest of the pattern. -/
def GroupState.repeatLast? (st : GroupState) (least : Nat) (most : Option Nat) (cs : List Char) :
    Option (GroupState × List Char) :=
  let (greedy, rest) := greed st.flags cs
  st.last.map fun p =>
    ({ st with last := some ⟨.repeat p.regex least most greedy, p.depth + 1⟩ }, rest)

/-- Ends the alternative being read. -/
def GroupState.endBranch (st : GroupState) : GroupState :=
  let items := (Part.follow st.before st.last).getD ⟨.empty, 0⟩
  let branch : Part := if st.itemCount ≤ 1 then items else ⟨items.regex, items.depth + 1⟩
  let branches : Part := match st.branches with
    | none => branch
    | some b => ⟨.alt b.regex branch.regex, max b.depth branch.depth⟩
  { st with
    branches := some branches
    branchCount := st.branchCount + 1
    before := none
    last := none
    itemCount := 0 }

/-- The expression of a whole group. -/
def GroupState.close (st : GroupState) : Part :=
  let st := st.endBranch
  let p := st.branches.getD ⟨.empty, 0⟩
  if st.branchCount ≤ 1 then p else ⟨p.regex, p.depth + 1⟩

/-- Reads a character of the pattern that is neither a group nor a class nor a repetition. -/
def primitive (f : Flags) (cs : List Char) : Option (Regex × List Char) := do
  match cs with
  | [] => none
  | '\\' :: rest =>
    let (e, rest) ← Escape.read? f rest
    match e with
    | .char c byte => return (.chars (← charSet? f c byte), rest)
    | .set s => return (.chars s, rest)
    | .look l => return (.look l, rest)
  | '.' :: rest => return (.chars (← dotSet? f), rest)
  | '^' :: rest => return (.look (if f.multiLine then .lineStart f.crlf else .start), rest)
  | '$' :: rest => return (.look (if f.multiLine then .lineStop f.crlf else .stop), rest)
  | c :: rest => return (.chars (← charSet? f c false), rest)

/-- Reads a group up to its closing parenthesis or the end of the pattern. -/
def groupRest : Nat → GroupState → List Char → Option (Part × List (List Char) × List Char)
  | 0, _, _ => none
  | fuel + 1, st, cs => match st.flags.skip cs with
    | [] => some (st.close, st.names, [])
    | ')' :: rest => some (st.close, st.names, ')' :: rest)
    | '|' :: rest => groupRest fuel st.endBranch rest
    | '(' :: rest => do
      let (head, rest) ← groupHead st.flags rest
      match head with
      | .flags f => groupRest fuel { st.push none with flags := f } rest
      | .group f captures name =>
        if name.any st.names.contains then none
        else
          let (p, names, rest) ← groupRest fuel (.start f (name.toList ++ st.names)) rest
          match rest with
          | ')' :: rest =>
            let item : Part := ⟨.group p.regex captures, p.depth + 1⟩
            groupRest fuel { st.push (some item) with names := names } rest
          | _ => none
    | '[' :: rest => do
      let (negated, start, rest) := classStart st.flags rest
      let (s, depth, rest) ← classRest st.flags (rest.length + 1) negated start rest
      groupRest fuel (st.push (some ⟨.chars s, depth⟩)) rest
    | '?' :: rest => do
      let (st, rest) ← st.repeatLast? 0 (some 1) rest
      groupRest fuel st rest
    | '*' :: rest => do
      let (st, rest) ← st.repeatLast? 0 none rest
      groupRest fuel st rest
    | '+' :: rest => do
      let (st, rest) ← st.repeatLast? 1 none rest
      groupRest fuel st rest
    | '{' :: rest => do
      let (least, most, rest) ← counts? st.flags rest
      let (st, rest) ← st.repeatLast? least most rest
      groupRest fuel st rest
    | cs => do
      let (r, rest) ← primitive st.flags cs
      groupRest fuel (st.push (some ⟨r, 0⟩)) rest

/-- How deep a pattern may nest. -/
def nestLimit : Nat := 250

/-- The regular expression that a pattern spells, however large it is. -/
def read? (pattern : String) : Option Regex :=
  let cs := pattern.toList
  match groupRest (cs.length + 1) (.start {} []) cs with
  | some (p, _, []) => if p.depth ≤ nestLimit then some p.regex else none
  | _ => none

/-- The regular expression that a pattern spells, if it can be compiled. -/
def ofPattern? (pattern : String) : Option Regex := (read? pattern).filter fits

end Crosstab.Regex
