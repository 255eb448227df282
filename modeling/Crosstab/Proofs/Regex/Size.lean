import Crosstab.Regex.Cost
import Crosstab.Proofs.Regex.Intervals
import Mathlib.Algebra.GroupWithZero.Nat

/-!
# Bounds for the size of a compiled pattern

Steps of building an automaton that take few bytes succeed while those bytes are left
(`AtMost`), and steps that take many bytes leave fewer (`AtLeast`).  Both kinds of bounds add up
along a sequence of steps.

The set of all characters takes at most `anyBytes` bytes, and no fewer than these when it is read
from behind: there its nine paths begin with different bytes, so no state of one path is shared with
another (`ensures_paths`).
-/

namespace Crosstab.Regex

/-! ## Bounds of steps -/

/-- The step succeeds where some bytes are left, takes no more than these, and its answer is good. -/
def AtMost {α : Type} (m : Build α) (n : Nat) (good : α → Prop) : Prop :=
  ∀ s : Footprint, s.bytes + n ≤ sizeLimit →
    ∃ a t, m s = some (a, t) ∧ t.bytes ≤ s.bytes + n ∧ good a

/-- The step takes no fewer bytes than some, if it succeeds. -/
def AtLeast {α : Type} (m : Build α) (n : Nat) : Prop :=
  ∀ s a t, m s = some (a, t) → s.bytes + n ≤ t.bytes

variable {α β : Type}

theorem build_bind {m : Build α} {f : α → Build β} {s : Footprint} :
    (m >>= f) s = (m s).bind fun (a, t) => f a t := rfl

theorem AtMost.pure {a : α} {good : α → Prop} (h : good a) :
    AtMost (pure a) 0 good := fun s _ => ⟨a, s, rfl, Nat.le_refl _, h⟩

theorem AtMost.mono {m : Build α} {n k : Nat} {good fine : α → Prop} (h : AtMost m n good)
    (hle : n ≤ k) (hgood : ∀ a, good a → fine a) : AtMost m k fine := by
  intro s hs
  obtain ⟨a, t, ha, ht, hga⟩ := h s (by omega)
  exact ⟨a, t, ha, by omega, hgood a hga⟩

theorem AtMost.bind {m : Build α} {f : α → Build β} {n k : Nat} {good : α → Prop}
    {fine : β → Prop} (hm : AtMost m n good) (hf : ∀ a, good a → AtMost (f a) k fine) :
    AtMost (m >>= f) (n + k) fine := by
  intro s hs
  obtain ⟨a, t, ha, ht, hgood⟩ := hm s (by omega)
  obtain ⟨b, u, hb, hu, hfine⟩ := hf a hgood t (by omega)
  refine ⟨b, u, ?_, by omega, hfine⟩
  rw [build_bind, ha]
  exact hb

theorem AtLeast.mono {m : Build α} {n k : Nat} (h : AtLeast m n) (hk : k ≤ n) :
    AtLeast m k :=
  fun s a t hrun => Nat.le_trans (Nat.add_le_add_left hk _) (h s a t hrun)

theorem AtLeast.bind {m : Build α} {f : α → Build β} {n k : Nat} (hm : AtLeast m n)
    (hf : ∀ a, AtLeast (f a) k) : AtLeast (m >>= f) (n + k) := by
  intro s b u h
  rw [build_bind] at h
  obtain ⟨⟨a, t⟩, ha, hb⟩ := Option.bind_eq_some_iff.mp h
  have hleft := hm s a t ha
  have hright := hf a t b u hb
  omega

theorem AtLeast.pure (a : α) : AtLeast (pure a) 0 := by
  intro s b t h
  obtain ⟨-, rfl⟩ : a = b ∧ s = t := Prod.mk.inj (Option.some.inj h)
  exact Nat.le_refl _

theorem addBytes_atMost (n : Nat) : AtMost (addBytes n) n fun _ => True := by
  intro s hs
  exact ⟨(), _, if_pos hs, Nat.le_refl _, trivial⟩

theorem addState_atMost (extra : Nat) :
    AtMost (addState extra) (stateBytes + extra) fun _ => True := by
  intro s hs
  exact ⟨s.states, _, if_pos (by omega), by simp [Nat.add_assoc], trivial⟩

theorem addStates_atMost (count : Nat) :
    AtMost (addStates count) (stateBytes * count) fun _ => True := by
  intro s hs
  exact ⟨(), _, if_pos hs, Nat.le_refl _, trivial⟩

theorem addBytes_eq_some_iff {n : Nat} {s t : Footprint} : addBytes n s = some ((), t) ↔
    s.bytes + n ≤ sizeLimit ∧ t = ⟨s.states, s.bytes + n⟩ := by
  rw [addBytes]
  by_cases h : s.bytes + n ≤ sizeLimit <;> simp [h, eq_comm]

theorem addState_eq_some_iff {extra state : Nat} {s t : Footprint} :
    addState extra s = some (state, t) ↔ s.bytes + stateBytes + extra ≤ sizeLimit ∧
      state = s.states ∧ t = ⟨s.states + 1, s.bytes + stateBytes + extra⟩ := by
  rw [addState]
  by_cases h : s.bytes + stateBytes + extra ≤ sizeLimit <;> simp [h, eq_comm]

theorem addStates_eq_some_iff {count : Nat} {s t : Footprint} :
    addStates count s = some ((), t) ↔ s.bytes + stateBytes * count ≤ sizeLimit ∧
      t = ⟨s.states + count, s.bytes + stateBytes * count⟩ := by
  rw [addStates]
  by_cases h : s.bytes + stateBytes * count ≤ sizeLimit <;> simp [h, eq_comm]

theorem addBytes_atLeast (n : Nat) : AtLeast (addBytes n) n := by
  intro s a t h
  obtain ⟨-, rfl⟩ := addBytes_eq_some_iff.mp h
  exact Nat.le_refl _

theorem addStates_atLeast (count : Nat) : AtLeast (addStates count) (stateBytes * count) := by
  intro s a t h
  obtain ⟨-, rfl⟩ := addStates_eq_some_iff.mp h
  exact Nat.le_refl _

/-- The step succeeds on an empty automaton if it stays within the limit. -/
theorem AtMost.isSome {m : Build α} {n : Nat} {good : α → Prop} (h : AtMost m n good)
    (hn : n ≤ sizeLimit) : (m ⟨0, 0⟩).isSome = true := by
  obtain ⟨a, t, hrun, -⟩ := h ⟨0, 0⟩ (by simpa using hn)
  rw [hrun]
  rfl

/-! ## Cached states -/

/-- The step stays within a bound whatever the cache holds, and its answer is good. -/
def CachedAtMost (m : StateT Cache Build α) (n : Nat) (good : α → Prop) : Prop :=
  ∀ cache, AtMost (m cache) n fun p => good p.1

theorem CachedAtMost.mono {m : StateT Cache Build α} {n k : Nat} {good fine : α → Prop}
    (h : CachedAtMost m n good) (hle : n ≤ k) (hgood : ∀ a, good a → fine a) :
    CachedAtMost m k fine :=
  fun cache => (h cache).mono hle fun p => hgood p.1

theorem CachedAtMost.pure {a : α} {good : α → Prop} (h : good a) :
    CachedAtMost (pure a) 0 good :=
  fun _ => AtMost.pure h

theorem CachedAtMost.bind {m : StateT Cache Build α} {f : α → StateT Cache Build β} {n k : Nat}
    {good : α → Prop} {fine : β → Prop} (hm : CachedAtMost m n good)
    (hf : ∀ a, good a → CachedAtMost (f a) k fine) : CachedAtMost (m >>= f) (n + k) fine := by
  intro cache
  exact AtMost.bind (f := fun p => f p.1 p.2) (hm cache) fun p hp => hf p.1 hp p.2

/-- Adds a state and keeps it in the cache. -/
def cacheNew (places : Nat) (key : List Nat) (extra : Nat) (cache : Cache) :
    Build (Nat × Cache) := do
  let state ← addState extra
  return (state, cache.insert (cachePlace places key) (key, state))

/-- A state is added unless it is found. -/
theorem cachedState_eq (places : Nat) (key : List Nat) (extra : Nat) (cache : Cache) :
    cachedState places key extra cache =
      match cache[cachePlace places key]? with
      | some (found, state) =>
        if found = key then pure (state, cache) else cacheNew places key extra cache
      | none => cacheNew places key extra cache := by
  show (match cache[cachePlace places key]? with
    | some (found, state) => _
    | none => _ : StateT Cache Build Nat) cache = _
  have hnew : (do
      let state ← addState extra
      modify (·.insert (cachePlace places key) (key, state))
      return state : StateT Cache Build Nat) cache = cacheNew places key extra cache := by
    funext s
    show Option.bind (Option.bind (addState extra s) _) _ = Option.bind (addState extra s) _
    cases addState extra s <;> rfl
  cases h : cache[cachePlace places key]? with
  | none => exact hnew
  | some entry =>
    obtain ⟨found, state⟩ := entry
    by_cases hfound : found = key
    · simp only [hfound, if_true]
      rfl
    · simp only [hfound, if_false]
      exact hnew

theorem cachedState_atMost (places : Nat) (key : List Nat) (extra : Nat) :
    CachedAtMost (cachedState places key extra) (stateBytes + extra) fun _ => True := by
  intro cache
  have hnew : AtMost (cacheNew places key extra cache) (stateBytes + extra) fun _ => True :=
    (addState_atMost extra).bind (k := 0) fun _ _ => AtMost.pure trivial
  rw [cachedState_eq]
  cases cache[cachePlace places key]? with
  | none => exact hnew
  | some entry =>
    obtain ⟨found, state⟩ := entry
    by_cases hfound : found = key
    · simpa [hfound] using (AtMost.pure trivial).mono (Nat.zero_le _) fun _ => id
    · simpa [hfound] using hnew

theorem run'_eq (m : StateT Cache Build α) (cache : Cache) :
    m.run' cache = m cache >>= fun p => pure p.1 := rfl

theorem CachedAtMost.run' {m : StateT Cache Build α} {n : Nat} {good : α → Prop}
    (h : CachedAtMost m n good) : AtMost (m.run' {}) n good := by
  rw [run'_eq]
  exact (h {}).bind (k := 0) fun _ hp => AtMost.pure hp

theorem mapM_cachedAtMost {γ : Type} {f : γ → StateT Cache Build α} {bound : γ → Nat}
    {xs : List γ} (hf : ∀ x ∈ xs, CachedAtMost (f x) (bound x) fun _ => True) :
    CachedAtMost (xs.mapM f) (xs.map bound).sum fun as => as.length = xs.length := by
  induction xs with
  | nil => exact CachedAtMost.pure rfl
  | cons x xs ih =>
    rw [List.mapM_cons, List.map_cons, List.sum_cons]
    refine (hf x (List.mem_cons_self ..)).bind fun a _ => ?_
    refine (ih fun y hy => hf y (List.mem_cons_of_mem _ hy)).bind (k := 0) fun as has => ?_
    exact CachedAtMost.pure (congrArg Nat.succ has)

/-! ## Sets -/

/-- The paths begin with different bytes, so that each is a group of its own. -/
def Apart (paths : List BytePath) : Prop :=
  (paths.splitBy fun p q => p.head? == q.head?) = paths.map ([·])

/-- Paths apart take a state and an edge for each byte at most, and one state for all first bytes
together. -/
theorem pathState_atMost (stop depth : Nat) {paths : List BytePath} (hapart : Apart paths) :
    CachedAtMost (pathState stop depth paths)
      ((paths.map fun path => (stateBytes + edgeBytes) * (path.length - 1)).sum +
        (stateBytes + edgeBytes * paths.length)) fun _ => True := by
  induction depth generalizing paths with
  | zero => exact (CachedAtMost.pure trivial).mono (Nat.zero_le _) fun _ => id
  | succ depth ih =>
    -- Each group is one path, so behind its first byte only its own rest is left.
    rw [pathState, hapart, List.mapM_map]
    refine CachedAtMost.bind (mapM_cachedAtMost fun path _ => ?_) fun edges hedges => ?_
    · rcases path with _ | ⟨r, _ | ⟨q, rest⟩⟩
      · exact CachedAtMost.pure trivial
      · exact CachedAtMost.pure trivial
      · have hapart : Apart [q :: rest] := rfl
        have hpure (next : Nat) : CachedAtMost (pure [r.first, r.last, next]) 0 fun _ => True :=
          CachedAtMost.pure trivial
        refine CachedAtMost.mono ((ih hapart).bind fun next _ => hpure next) ?_ fun _ => id
        simp [stateBytes, edgeBytes]
        omega
    · rw [← hedges]
      exact cachedState_atMost 10000 edges.flatten (edgeBytes * edges.length)

/-- A path read from behind takes a state for each byte at most. -/
theorem backwardPath_atMost (stop : Nat) (path : BytePath) :
    CachedAtMost (backwardPath stop path) (stateBytes * path.length) fun _ => True := by
  induction path generalizing stop with
  | nil => exact CachedAtMost.pure trivial
  | cons r rest ih =>
    rw [backwardPath, List.foldlM_cons, List.length_cons, Nat.mul_succ, Nat.add_comm]
    exact (cachedState_atMost 1000 [stop, r.first, r.last] 0).bind fun next _ => ih next

/-! ## Paths read from behind -/

/-- What holds of the answer, the cache and the automaton after a step, if it succeeds. -/
def Ensures (m : StateT Cache Build α) (cache : Cache) (s : Footprint)
    (post : α → Cache → Footprint → Prop) : Prop :=
  ∀ a c t, m cache s = some ((a, c), t) → post a c t

theorem Ensures.pure {a : α} {cache : Cache} {s : Footprint} {post : α → Cache → Footprint → Prop}
    (h : post a cache s) : Ensures (pure a) cache s post := by
  rintro b c t ⟨⟩
  exact h

theorem Ensures.bind {m : StateT Cache Build α} {f : α → StateT Cache Build β} {cache : Cache}
    {s : Footprint} {mid : α → Cache → Footprint → Prop} {post : β → Cache → Footprint → Prop}
    (hm : Ensures m cache s mid) (hf : ∀ a c t, mid a c t → Ensures (f a) c t post) :
    Ensures (m >>= f) cache s post := by
  intro b c t h
  obtain ⟨⟨⟨a, c'⟩, t'⟩, hleft, hright⟩ := Option.bind_eq_some_iff.mp h
  exact hf a c' t' (hm a c' t' hleft) b c t hright

theorem Ensures.mono {m : StateT Cache Build α} {cache : Cache} {s : Footprint}
    {mid post : α → Cache → Footprint → Prop} (hm : Ensures m cache s mid)
    (h : ∀ a c t, mid a c t → post a c t) : Ensures m cache s post :=
  fun a c t ha => h a c t (hm a c t ha)

/-- What the cache holds while paths are read up to a state: each key begins with the number of a
state before the last one, and at the state `stop` only some ranges have been read. -/
structure ReadUpTo (stop : Nat) (seen : List ByteRange) (cache : Cache) (s : Footprint) : Prop where
  stop_lt : stop < s.states
  keys : ∀ (place : Nat) (key : List Nat) (state : Nat), cache[place]? = some (key, state) →
    ∃ (n : Nat) (r : ByteRange), key = [n, r.first, r.last] ∧ n + 1 < s.states ∧
      (n = stop → r ∈ seen)

/-- A state whose key is not in the cache is added. -/
theorem ensures_state {stop next : Nat} {seen seen' : List ByteRange} {cache : Cache}
    {s : Footprint} (h : ReadUpTo stop seen cache s) (r : ByteRange) (hnext : next < s.states)
    (habsent : next + 1 < s.states → next = stop ∧ r ∉ seen) (hseen : seen ⊆ seen')
    (hnew : next = stop → r ∈ seen') :
    Ensures (cachedState 1000 [next, r.first, r.last] 0) cache s fun state c t =>
      state = s.states ∧ t = ⟨s.states + 1, s.bytes + stateBytes⟩ ∧ ReadUpTo stop seen' c t := by
  -- Whatever stands at the place of the key is there for another key.
  have hcached : cachedState 1000 [next, r.first, r.last] 0 cache =
      cacheNew 1000 [next, r.first, r.last] 0 cache := by
    rw [cachedState_eq]
    cases hfound : cache[cachePlace 1000 [next, r.first, r.last]]? with
    | none => rfl
    | some entry =>
      obtain ⟨key, state⟩ := entry
      refine if_neg ?_
      rintro rfl
      obtain ⟨n, q, hkey, hn, hq⟩ := h.keys _ _ _ hfound
      simp only [List.cons.injEq, and_true] at hkey
      obtain ⟨rfl, hfirst, hlast⟩ := hkey
      obtain ⟨rfl, hr⟩ := habsent hn
      have hrange : r = q := by
        cases r
        cases q
        simp_all
      exact hr (hrange ▸ hq rfl)
  intro state c t hrun
  rw [hcached] at hrun
  obtain ⟨⟨added, t'⟩, hadd, hret⟩ := Option.bind_eq_some_iff.mp hrun
  obtain ⟨-, rfl, rfl⟩ := addState_eq_some_iff.mp hadd
  cases hret
  refine ⟨rfl, rfl, Nat.lt_succ_of_lt h.stop_lt, fun place key state hentry => ?_⟩
  rw [Std.HashMap.getElem?_insert] at hentry
  by_cases hplace : cachePlace 1000 [next, r.first, r.last] = place
  · simp [hplace] at hentry
    obtain ⟨rfl, rfl⟩ := hentry
    exact ⟨next, r, rfl, Nat.succ_lt_succ hnext, hnew⟩
  · simp [hplace] at hentry
    obtain ⟨n, q, hkey, hn, hq⟩ := h.keys place key state hentry
    exact ⟨n, q, hkey, Nat.lt_succ_of_lt hn, fun hstop => hseen (hq hstop)⟩

/-- The rest of a path, behind a state that has just been added. -/
theorem ensures_rest (rest : BytePath) {stop next : Nat} {seen : List ByteRange} {cache : Cache}
    {s : Footprint} (h : ReadUpTo stop seen cache s) (hnext : next + 1 = s.states)
    (hstop : stop < next) :
    Ensures (backwardPath next rest) cache s fun _ c t =>
      t.bytes = s.bytes + stateBytes * rest.length ∧ ReadUpTo stop seen c t := by
  -- The last state is always new, so no key in the cache can begin with it.
  induction rest generalizing cache s next with
  | nil => exact Ensures.pure ⟨rfl, h⟩
  | cons r rest ih =>
    rw [backwardPath, List.foldlM_cons]
    have hlast : next < s.states := by omega
    refine (ensures_state h r hlast (by omega) (List.Subset.refl seen) (by omega)).bind ?_
    rintro state c t ⟨rfl, rfl, hread⟩
    refine (ih hread rfl (by omega)).mono ?_
    rintro state c t ⟨hbytes, hread⟩
    refine ⟨?_, hread⟩
    rw [hbytes, List.length_cons, Nat.mul_succ]
    exact Nat.add_right_comm ..

/-- A path that begins with a range that has not been read yet shares no state. -/
theorem ensures_path (path : BytePath) {stop : Nat} {seen : List ByteRange} {cache : Cache}
    {s : Footprint} (h : ReadUpTo stop seen cache s) (hnew : ∀ r, path.head? = some r → r ∉ seen) :
    Ensures (backwardPath stop path) cache s fun _ c t =>
      t.bytes = s.bytes + stateBytes * path.length ∧
        ReadUpTo stop (path.head?.toList ++ seen) c t := by
  cases path with
  | nil => exact Ensures.pure ⟨rfl, h⟩
  | cons r rest =>
    rw [backwardPath, List.foldlM_cons]
    refine (ensures_state h r h.stop_lt (fun _ => ⟨rfl, hnew r rfl⟩) (List.subset_cons_self r seen)
      (fun _ => List.mem_cons_self ..)).bind ?_
    rintro state c t ⟨rfl, rfl, hread⟩
    refine (ensures_rest rest hread rfl h.stop_lt).mono ?_
    rintro state c t ⟨hbytes, hread⟩
    refine ⟨?_, hread⟩
    rw [hbytes, List.length_cons, Nat.mul_succ]
    exact Nat.add_right_comm ..

/-- Paths that begin with different ranges share no states. -/
theorem ensures_paths (paths : List BytePath) {stop : Nat} {seen : List ByteRange} {cache : Cache}
    {s : Footprint} (h : ReadUpTo stop seen cache s)
    (hnew : (paths.filterMap List.head? ++ seen).Nodup) :
    Ensures (paths.mapM (backwardPath stop)) cache s fun states _ t =>
      states.length = paths.length ∧
        t.bytes = s.bytes + (paths.map fun path => stateBytes * path.length).sum := by
  induction paths generalizing cache s seen with
  | nil => exact Ensures.pure ⟨rfl, rfl⟩
  | cons path paths ih =>
    have hfirst : ∀ r, path.head? = some r → r ∉ seen := by
      intro r hr hmem
      rw [List.filterMap_cons_some hr, List.cons_append, List.nodup_cons] at hnew
      exact hnew.1 (List.mem_append_right _ hmem)
    have hrest : (paths.filterMap List.head? ++ (path.head?.toList ++ seen)).Nodup := by
      cases hhead : path.head? with
      | none => rwa [List.filterMap_cons_none hhead] at hnew
      | some r =>
        rw [List.filterMap_cons_some hhead, List.cons_append] at hnew
        exact (List.perm_middle.nodup_iff).mpr hnew
    rw [List.mapM_cons]
    refine (ensures_path path h hfirst).bind ?_
    rintro state c t ⟨hbytes, hread⟩
    refine (ih hread hrest).bind ?_
    rintro states c t ⟨hlength, hsum⟩
    refine Ensures.pure ⟨congrArg Nat.succ hlength, ?_⟩
    rw [hsum, hbytes, List.map_cons, List.sum_cons]
    omega

/-! ## All characters -/

/-- The paths of all characters. -/
def anyPaths : List BytePath := CharSet.all.intervals.flatMap Interval.paths

theorem anyPaths_eq : anyPaths =
    [[⟨0x00, 0x7F⟩],
     [⟨0xC2, 0xDF⟩, ⟨0x80, 0xBF⟩],
     [⟨0xE0, 0xE0⟩, ⟨0xA0, 0xBF⟩, ⟨0x80, 0xBF⟩],
     [⟨0xE1, 0xEC⟩, ⟨0x80, 0xBF⟩, ⟨0x80, 0xBF⟩],
     [⟨0xED, 0xED⟩, ⟨0x80, 0x9F⟩, ⟨0x80, 0xBF⟩],
     [⟨0xEE, 0xEF⟩, ⟨0x80, 0xBF⟩, ⟨0x80, 0xBF⟩],
     [⟨0xF0, 0xF0⟩, ⟨0x90, 0xBF⟩, ⟨0x80, 0xBF⟩, ⟨0x80, 0xBF⟩],
     [⟨0xF1, 0xF3⟩, ⟨0x80, 0xBF⟩, ⟨0x80, 0xBF⟩, ⟨0x80, 0xBF⟩],
     [⟨0xF4, 0xF4⟩, ⟨0x80, 0x8F⟩, ⟨0x80, 0xBF⟩, ⟨0x80, 0xBF⟩]] := by
  rw [anyPaths, CharSet.intervals_all]
  decide

/-- How many bytes the set of all characters takes when it is read from behind. -/
def anyBytes : Nat := 964

theorem not_all_ascii : (CharSet.all.intervals.all fun i => decide (i.hi < 0x80)) = false := by
  rw [CharSet.intervals_all]
  rfl

theorem buildSet_all_backward : buildSet true CharSet.all.intervals = (do
    let _ ← addState 0
    let alike ← addState 0
    let states ← (anyPaths.mapM (backwardPath alike)).run' {}
    addBytes (forkBytes * states.length)) := by
  rw [buildSet]
  simp only [not_all_ascii]
  rfl

theorem buildSet_all_forward : buildSet false CharSet.all.intervals = (do
    let stop ← addState 0
    let _ ← (pathState stop 4 anyPaths).run' {}) := by
  rw [buildSet]
  simp only [not_all_ascii]
  rfl

theorem buildSet_all_atMost (backward : Bool) :
    AtMost (buildSet backward CharSet.all.intervals) anyBytes fun _ => True := by
  cases backward with
  | false =>
    have hapart : Apart anyPaths := by
      rw [Apart, anyPaths_eq]
      decide
    rw [buildSet_all_forward]
    refine AtMost.mono ((addState_atMost 0).bind fun stop _ =>
      (pathState_atMost stop 4 hapart).run'.bind (k := 0) fun _ _ => AtMost.pure trivial) ?_
        fun _ => id
    rw [anyPaths_eq]
    decide
  | true =>
    rw [buildSet_all_backward]
    refine AtMost.mono ((addState_atMost 0).bind fun _ _ => (addState_atMost 0).bind fun alike _ =>
      (mapM_cachedAtMost fun path _ => backwardPath_atMost alike path).run'.bind
        (k := forkBytes * anyPaths.length) fun states hstates => ?_) ?_ fun _ => id
    · rw [hstates]
      exact addBytes_atMost _
    · rw [anyPaths_eq]
      decide

/-- The set of all characters takes no fewer bytes when it is read from behind: its paths share no
states. -/
theorem buildSet_all_atLeast : AtLeast (buildSet true CharSet.all.intervals) anyBytes := by
  intro s a t h
  rw [buildSet_all_backward] at h
  obtain ⟨⟨stop, s₁⟩, hstop, h⟩ := Option.bind_eq_some_iff.mp h
  obtain ⟨-, rfl, rfl⟩ := addState_eq_some_iff.mp hstop
  obtain ⟨⟨alike, s₂⟩, halike, h⟩ := Option.bind_eq_some_iff.mp h
  obtain ⟨-, rfl, rfl⟩ := addState_eq_some_iff.mp halike
  obtain ⟨⟨states, s₃⟩, hstates, h⟩ := Option.bind_eq_some_iff.mp h
  rw [run'_eq] at hstates
  obtain ⟨⟨⟨states', cache⟩, s₄⟩, hpaths, hret⟩ := Option.bind_eq_some_iff.mp hstates
  cases hret
  have hempty : ReadUpTo (s.states + 1) [] {} ⟨s.states + 1 + 1, s.bytes + 32 + 0 + 32 + 0⟩ :=
    ⟨Nat.lt_succ_self _, by simp⟩
  obtain ⟨hlength, hbytes⟩ := ensures_paths anyPaths hempty (by rw [anyPaths_eq]; decide) _ _ _ hpaths
  obtain ⟨-, rfl⟩ := addBytes_eq_some_iff.mp h
  rw [anyPaths_eq] at hlength hbytes
  simp [stateBytes] at hbytes
  simp [hlength, hbytes, forkBytes, anyBytes]

/-! ## Whole patterns -/

theorem bind_eq_none {m : Build α} {f : α → Build β} (h : ∀ a s, f a s = none)
    (s : Footprint) : (m >>= f) s = none := by
  rw [build_bind]
  cases m s with
  | none => rfl
  | some p => exact h p.1 p.2

/-- A pattern whose expression takes more than the limit is refused. -/
theorem buildWhole_eq_none {backward : Bool} {r : Normal} {n : Nat}
    (h : AtLeast ((Normal.capture r).build backward) n) (hn : sizeLimit < n) (s : Footprint) :
    r.buildWhole backward s = none := by
  have hrest (s : Footprint) : (do
      let exit ← (Normal.capture r).build backward
      addBytes exit
      addStates 1 : Build Unit) s = none := by
    rw [build_bind]
    cases hbuild : (Normal.capture r).build backward s with
    | none => rfl
    | some p =>
      obtain ⟨exit, t⟩ := p
      have hbytes := h s exit t hbuild
      have hfull : addBytes exit t = none := if_neg (by omega)
      show (addBytes exit >>= fun _ => addStates 1) t = none
      rw [build_bind, hfull]
      rfl
  rw [Normal.buildWhole]
  by_cases hanchored : r.anchored = true
  · rw [if_pos hanchored]
    exact bind_eq_none (fun _ => hrest) s
  · rw [if_neg hanchored]
    exact bind_eq_none (fun _ => bind_eq_none fun _ => hrest) s

end Crosstab.Regex
