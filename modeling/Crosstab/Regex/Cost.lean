import Std.Data.HashMap
import Crosstab.Regex.Encoding
import Crosstab.Regex.Normal

/-!
# The size of a compiled pattern

A pattern is compiled to two automata that read bytes, one from the first byte on and one from the
last, and it is refused if one of them takes more memory than `sizeLimit`.  The automata are not
built here: `build` counts the states of an automaton and what they take, in the order in which the
states would be added.  A state takes `stateBytes`, and more if it has several edges.  States of
several bytes of one set are shared when a small cache still holds them, so their number depends on
the numbers of the states before them.
-/

namespace Crosstab.Regex

open Std (HashMap)

/-! ## Counting -/

/-- The automaton so far. -/
structure Footprint where
  /-- How many states it has. -/
  states : Nat
  /-- How many bytes they take. -/
  bytes : Nat
  deriving DecidableEq, Repr

/-- The number of bytes that an automaton may take. -/
def sizeLimit : Nat := 10 * 1024 * 1024

/-- The number of bytes of a state. -/
def stateBytes : Nat := 32

/-- The number of bytes of an edge of a state that chooses between its edges. -/
def forkBytes : Nat := 4

/-- The number of bytes of an edge that reads a byte, in a state with several such edges. -/
def edgeBytes : Nat := 8

/-- A step of building an automaton; it fails beyond the limit. -/
abbrev Build := StateT Footprint Option

/-- Takes some bytes more. -/
def addBytes (n : Nat) : Build Unit := fun s =>
  if s.bytes + n ≤ sizeLimit then some ((), ⟨s.states, s.bytes + n⟩) else none

/-- Adds a state with some bytes beside it; the answer is its number. -/
def addState (extra : Nat) : Build Nat := fun s =>
  if s.bytes + stateBytes + extra ≤ sizeLimit then
    some (s.states, ⟨s.states + 1, s.bytes + stateBytes + extra⟩)
  else none

/-- Adds some states with nothing beside them. -/
def addStates (count : Nat) : Build Unit := fun s =>
  if s.bytes + stateBytes * count ≤ sizeLimit then
    some ((), ⟨s.states + count, s.bytes + stateBytes * count⟩)
  else none

/-! ## Sets of characters -/

/-- The states of a set by their places in the cache; a place keeps the last one. -/
abbrev Cache := HashMap Nat (List Nat × Nat)

/-- The place of a key in a cache with some places, which is found by mixing its numbers. -/
def cachePlace (places : Nat) (key : List Nat) : Nat :=
  let mix (h : UInt64) (n : Nat) : UInt64 := (h ^^^ n.toUInt64) * 1099511628211
  (key.foldl mix 14695981039346656037).toNat % places

/-- The state of a key; it is added if the cache does not hold it. -/
def cachedState (places : Nat) (key : List Nat) (extra : Nat) : StateT Cache Build Nat := do
  let place := cachePlace places key
  match (← get)[place]? with
  | some (found, state) =>
    if found = key then return state
    else
      let state ← addState extra
      modify (·.insert place (key, state))
      return state
  | none =>
    let state ← addState extra
    modify (·.insert place (key, state))
    return state

/-- The state that reads some paths and then goes on to another state.  Paths that begin alike are
neighbours and share the state behind their first byte.  The first argument bounds the length of the
paths. -/
def pathState (stop : Nat) : Nat → List BytePath → StateT Cache Build Nat
  | 0, _ => pure stop
  | depth + 1, paths => do
    let edges ← (paths.splitBy fun p q => p.head? == q.head?).mapM fun alike =>
      match alike with
      | (r :: tail) :: _ => do
        let next ← if tail.isEmpty then pure stop else pathState stop depth (alike.map List.tail)
        return [r.first, r.last, next]
      | _ => pure []
    cachedState 10000 edges.flatten (edgeBytes * edges.length)

/-- The states that read a path from behind, up to a state; the answer is the first one. -/
def backwardPath (stop : Nat) (path : BytePath) : StateT Cache Build Nat :=
  path.foldlM (fun next r => cachedState 1000 [next, r.first, r.last] 0) stop

/-- Adds the states of a set of characters. -/
def buildSet (backward : Bool) (is : List Interval) : Build Unit := do
  let stop ← addState 0
  if is.all (·.hi < 0x80) then
    let _ ← addState (edgeBytes * is.length)
  else
    let paths := is.flatMap Interval.paths
    if backward then
      let alike ← addState 0
      let states ← (paths.mapM (backwardPath alike)).run' {}
      addBytes (forkBytes * states.length)
    else
      let _ ← (pathState stop 4 paths).run' {}

/-! ## Choices between literals -/

/-- Parts words at the empty ones. -/
def partAtEmpty : List (List Nat) → List (List (List Nat))
  | [] => [[]]
  | w :: ws =>
    if w.isEmpty then [] :: partAtEmpty ws
    else match partAtEmpty ws with
      | [] => [[w]]
      | part :: parts => (w :: part) :: parts

/-- Words that may go on after a common start, parted at those that end there.  An end right after
another one adds nothing as long as no word goes on. -/
def partAtEnds : List (List Nat) → List (List (List Nat))
  | [] :: rest => [] :: partAtEmpty (rest.dropWhile List.isEmpty)
  | words => partAtEmpty words

/-- What follows the first byte of some words, for each such byte. -/
def tails (words : List (List Nat)) : List (List (List Nat)) :=
  let sorted := words.mergeSort fun v w => v.headD 0 ≤ w.headD 0
  (sorted.splitBy fun v w => v.head? == w.head?).map (·.map List.tail)

/-- Adds the states of a tree of words.  Words that begin alike share states unless one ends between
them.  The first argument bounds the length of the words. -/
def buildTree : Nat → List (List Nat) → Build Unit
  | 0, _ => pure ()
  | depth + 1, words => do
    let parts := (partAtEnds words).map tails
    for part in parts do
      for tail in part do
        if tail.any (!·.isEmpty) then buildTree depth tail
      if part.length = 1 then addStates 1
      else if 1 < part.length then
        let _ ← addState (edgeBytes * part.length)
    let forks := parts.length - 1 + parts.countP (!·.isEmpty)
    let _ ← addState (forkBytes * forks)

/-- Adds the states of a choice between words. -/
def buildWords (words : List (List Nat)) : Build Unit := do
  addStates 1
  buildTree ((words.map List.length).foldl max 0) words

/-! ## Repetitions -/

/-- Adds some copies, one after the other.  Here and below, what is built has one last state, and a
step answers with the number of bytes that an edge from that state takes. -/
def buildCopies (one : Build Nat) : Nat → Nat → Build Nat
  | 0, exit => pure exit
  | n + 1, exit => do
    let next ← one
    addBytes exit
    buildCopies one n next

/-- Adds a fixed number of copies. -/
def buildExactly (one : Build Nat) (n : Nat) : Build Nat :=
  if n = 0 then do
    addStates 1
    return 0
  else buildCopies one n 0

/-- Adds copies each of which may be left out with those after it. -/
def buildOptional (one : Build Nat) : Nat → Nat → Build Nat
  | 0, exit => pure exit
  | n + 1, exit => do
    addStates 1
    let next ← one
    addBytes (2 * forkBytes + exit)
    buildOptional one n next

/-- Adds a repetition; `long` tells that what is repeated matches no empty text. -/
def buildRepeat (one : Build Nat) (long : Bool) (least : Nat) : Option Nat → Build Nat
  | none =>
    if least = 0 then
      if long then do
        addStates 1
        let exit ← one
        addBytes (forkBytes + exit)
        return forkBytes
      else do
        let exit ← one
        addStates 3
        addBytes (4 * forkBytes + exit)
        return 0
    else do
      let exit ← buildCopies one least 0
      addStates 1
      addBytes (forkBytes + exit)
      return forkBytes
  | some most =>
    if least = 0 && most = 1 then do
      addStates 1
      let exit ← one
      addStates 1
      addBytes (2 * forkBytes + exit)
      return 0
    else do
      let exit ← buildExactly one least
      if least = most then return exit
      else
        addStates 1
        let exit ← buildOptional one (most - least) exit
        addBytes exit
        return 0

/-! ## Expressions -/

namespace Normal

/-- The characters of a literal. -/
def text? : Normal → Option (List Char)
  | literal text => some text
  | _ => none

/-- The bytes of a text, each character from its last byte on if that is how they are read. -/
def textBytes (backward : Bool) (text : List Char) : List Nat :=
  text.flatMap fun c =>
    let bytes := Interval.bytes c.toNat
    if backward then bytes.reverse else bytes

mutual

/-- Adds the states of an expression. -/
def build (backward : Bool) : Normal → Build Nat
  | empty => do
    addStates 1
    return 0
  | look _ => do
    addStates 1
    return 0
  | literal text => do
    addStates (textBytes backward text).length
    return 0
  | set is => do
    buildSet backward is
    return 0
  | capture r =>
    if backward then r.build backward
    else do
      addStates 1
      let exit ← r.build backward
      addStates 1
      addBytes exit
      return 0
  | .repeat r least most _ =>
    buildRepeat (r.build backward) (r.minLength.any (0 < ·)) least most
  | concat parts => buildParts backward parts 0
  | choice [] => pure 0
  | choice [r] => r.build backward
  | choice (r :: s :: rest) =>
    match (r :: s :: rest).mapM text? with
    | some words => do
      buildWords (words.map (textBytes backward))
      return 0
    | none => do
      let first ← r.build backward
      let second ← s.build backward
      addStates 2
      addBytes (2 * forkBytes + first + second)
      buildBranches backward rest
      return 0

/-- Adds the states of some parts after others. -/
def buildParts (backward : Bool) : List Normal → Nat → Build Nat
  | [], exit => pure exit
  | r :: rs, exit => do
    let next ← r.build backward
    addBytes exit
    buildParts backward rs next

/-- Adds the states of some branches to a choice. -/
def buildBranches (backward : Bool) : List Normal → Build Unit
  | [] => pure ()
  | r :: rs => do
    let exit ← r.build backward
    addBytes (forkBytes + exit)
    buildBranches backward rs

end

/-- Adds the states of a whole pattern: those in front of it that skip text, unless it is anchored,
its own as those of a capture, and a last one. -/
def buildWhole (backward : Bool) (r : Normal) : Build Unit := do
  if r.anchored then addStates 1
  else
    addStates 3
    addBytes (edgeBytes + 2 * forkBytes)
  let exit ← (capture r).build backward
  addBytes exit
  addStates 1

/-- How many literals a choice has at least that is searched without an automaton. -/
def manyWords : Nat := 3000

/-- Whether the expression is a choice between so many literals that it is not compiled. -/
def isWordList : Normal → Bool
  | choice rs => manyWords ≤ rs.length && rs.all (·.text?.isSome)
  | _ => false

end Normal

/-- Whether the pattern can be compiled within the limit. -/
def fits (r : Regex) : Bool :=
  let n := r.normal
  n.isWordList ||
    ((n.buildWhole false ⟨0, 0⟩).isSome && (n.mirror.buildWhole true ⟨0, 0⟩).isSome)

end Crosstab.Regex
