import Crosstab.Proofs.Sql.Texts
import Crosstab.Proofs.Sql.Written

/-!
# Statements that are alike

`Twins d ts us xs ys` says of two lists of tokens that, in the dialect `d`, both are written as
lexemes, that these are the same but for the texts `xs` in one and `ys` in the other, and that their
parentheses match.  A text is one lexeme whatever is in it (`Twins.column`, `Twins.string`), and
every form of a statement keeps twins: its words, operators and parentheses come from the form.
-/

namespace Crosstab

open Clause (Spells LexemeKind Keyword Sign OpensBare startsName isNameChar wordKind)
open Clause.Grammar (Balanced)

/-! ## Lexemes with gaps -/

namespace Clause

/-- The lexemes `ks` and `ls` are the same but for some names and strings: these are, in their
order, the texts `xs` in the one and `ys` in the other. -/
inductive FilledWith : (ks ls xs ys : List LexemeKind) → Prop where
  | nil : FilledWith [] [] [] []
  | same (k : LexemeKind) {ks ls xs ys : List LexemeKind} :
    FilledWith ks ls xs ys → FilledWith (k :: ks) (k :: ls) xs ys
  | name (m n : String) {ks ls xs ys : List LexemeKind} : FilledWith ks ls xs ys →
    FilledWith (.name m :: ks) (.name n :: ls) (.name m :: xs) (.name n :: ys)
  | string (s t : String) {ks ls xs ys : List LexemeKind} : FilledWith ks ls xs ys →
    FilledWith (.string s :: ks) (.string t :: ls) (.string s :: xs) (.string t :: ys)

namespace FilledWith

variable {ks ls xs ys ks' ls' xs' ys' : List LexemeKind}

theorem self (ks : List LexemeKind) : FilledWith ks ks [] [] := by
  induction ks with
  | nil => exact .nil
  | cons k ks ih => exact .same k ih

theorem append (h : FilledWith ks ls xs ys) (h' : FilledWith ks' ls' xs' ys') :
    FilledWith (ks ++ ks') (ls ++ ls') (xs ++ xs') (ys ++ ys') := by
  induction h with
  | nil => exact h'
  | same k _ ih => exact .same k ih
  | name m n _ ih => exact .name m n ih
  | string s t _ ih => exact .string s t ih

/-- What is neither a name nor a string stands in the same places on both sides. -/
theorem count_take {k : LexemeKind} (hk : k = .leftParen ∨ k = .rightParen)
    (h : FilledWith ks ls xs ys) (n : Nat) : (ls.take n).count k = (ks.take n).count k := by
  induction h generalizing n with
  | nil => rfl
  | same l _ ih =>
    cases n with
    | zero => rfl
    | succ n => rw [List.take_succ_cons, List.take_succ_cons, List.count_cons, List.count_cons, ih]
  | name a b _ ih =>
    cases n with
    | zero => rfl
    | succ n =>
      rw [List.take_succ_cons, List.take_succ_cons, List.count_cons_of_ne, List.count_cons_of_ne, ih]
        <;> rcases hk with rfl | rfl <;> exact nofun
  | string s t _ ih =>
    cases n with
    | zero => rfl
    | succ n =>
      rw [List.take_succ_cons, List.take_succ_cons, List.count_cons_of_ne, List.count_cons_of_ne, ih]
        <;> rcases hk with rfl | rfl <;> exact nofun

theorem length_eq (h : FilledWith ks ls xs ys) : ls.length = ks.length := by
  induction h with
  | nil => rfl
  | same _ _ ih => exact congrArg (· + 1) ih
  | name _ _ _ ih => exact congrArg (· + 1) ih
  | string _ _ _ ih => exact congrArg (· + 1) ih

theorem count_eq {k : LexemeKind} (hk : k = .leftParen ∨ k = .rightParen)
    (h : FilledWith ks ls xs ys) : ls.count k = ks.count k := by
  have hall := h.count_take hk ks.length
  rwa [List.take_length, ← h.length_eq, List.take_length] at hall

theorem balanced (h : FilledWith ks ls xs ys) (hks : Balanced ks) : Balanced ls := by
  refine ⟨?_, fun n => ?_⟩
  · rw [h.count_eq (.inl rfl), h.count_eq (.inr rfl)]
    exact hks.1
  · rw [h.count_take (.inl rfl), h.count_take (.inr rfl)]
    exact hks.2 n

end FilledWith

/-! ## Bare words -/

/-- The characters are a word that is read as one lexeme. -/
def IsWord : List Char → Prop
  | [] => False
  | c :: cs => OpensBare c ∧ startsName c = true ∧ ∀ d ∈ c :: cs, isNameChar d = true

instance : DecidablePred IsWord
  | [] => inferInstanceAs (Decidable False)
  | c :: cs =>
    decidable_of_iff (OpensBare c ∧ startsName c = true ∧ (c :: cs).all isNameChar = true)
      (and_congr_right fun _ => and_congr_right fun _ => List.all_eq_true)

theorem IsWord.spells : ∀ {word : List Char}, IsWord word → Spells word [wordKind word]
  | _ :: _, ⟨hc, hstart, hcs⟩ => spells_word hc hstart hcs

theorem IsWord.spells_call {cs : List Char} {ks : List LexemeKind} (hcs : Spells cs ks) :
    ∀ {word : List Char}, IsWord word → Spells (word ++ '(' :: cs ++ [')'])
      (wordKind word :: .leftParen :: ks ++ [.rightParen])
  | _ :: _, ⟨hc, hstart, hword⟩ => hcs.call hc hstart hword

theorem wordKind_ne_paren (word : List Char) :
    wordKind word ≠ .leftParen ∧ wordKind word ≠ .rightParen := by
  unfold wordKind
  split
  · exact ⟨nofun, nofun⟩
  · exact ⟨nofun, nofun⟩

theorem balanced_wordKind (word : List Char) : Balanced [wordKind word] :=
  .of_forall_ne (by simpa using wordKind_ne_paren word)

end Clause

namespace Sql

open Clause (FilledWith IsWord)

/-- A literal of a type is the word for the type and a string. -/
theorem writes_typed {d : Dialect} {t : Token} {type s : String} (htype : IsWord type.toList)
    (ht : t.text d = type ++ " " ++ d.quoteString s) :
    Writes d [t] [wordKind type.toList, .string s] := by
  have htext : (t.text d).toList = type.toList ++ ' ' :: (d.quoteString s).toList := by
    simp [ht]
  refine writes_singleton ?_
  rw [htext]
  exact htype.spells.append_space (spells_quoteString d s)

/-! ## Statements that are alike -/

/-- Both lists of tokens write lexemes, which are the same but for the texts `xs` and `ys`, and have
matching parentheses. -/
def Twins (d : Dialect) (ts us : List Token) (xs ys : List LexemeKind) : Prop :=
  ∃ ks ls, Writes d ts ks ∧ Writes d us ls ∧ FilledWith ks ls xs ys ∧ Balanced ks

variable {d : Dialect} {ts us ts' us' : List Token} {xs ys xs' ys' : List LexemeKind}

namespace Twins

theorem of_writes {ks : List LexemeKind} (h : Writes d ts ks) (hks : Balanced ks) :
    Twins d ts ts [] [] := ⟨ks, ks, h, h, .self ks, hks⟩

theorem nil : Twins d [] [] [] [] := by
  have hnil : Writes d [] [] := fun _ _ _ h => h
  exact .of_writes hnil (.of_forall_ne nofun)

theorem append_space (h : Twins d ts us xs ys) (h' : Twins d ts' us' xs' ys') :
    Twins d (ts ++ .space :: ts') (us ++ .space :: us') (xs ++ xs') (ys ++ ys') := by
  obtain ⟨ks, ls, hts, hus, hfill, hks⟩ := h
  obtain ⟨ks', ls', hts', hus', hfill', hks'⟩ := h'
  exact ⟨_, _, hts.append_space hts', hus.append_space hus', hfill.append hfill', hks.append hks'⟩

theorem append_comma (h : Twins d ts us xs ys) (h' : Twins d ts' us' xs' ys') :
    Twins d (ts ++ .mark .comma :: .space :: ts') (us ++ .mark .comma :: .space :: us')
      (xs ++ xs') (ys ++ ys') := by
  obtain ⟨ks, ls, hts, hus, hfill, hks⟩ := h
  obtain ⟨ks', ls', hts', hus', hfill', hks'⟩ := h'
  exact ⟨_, _, hts.append_comma hts', hus.append_comma hus', hfill.append (.same .comma hfill'),
    hks.append (hks'.cons nofun nofun)⟩

theorem parens (h : Twins d ts us xs ys) : Twins d (parens ts) (Sql.parens us) xs ys := by
  obtain ⟨ks, ls, hts, hus, hfill, hks⟩ := h
  have hclosed := hfill.append (.self [.rightParen])
  rw [List.append_nil, List.append_nil] at hclosed
  exact ⟨_, _, hts.parens, hus.parens, .same .leftParen hclosed, hks.parens⟩

/-- What stands between the parentheses of a call is written as it is by itself. -/
theorem called {word : String} (hword : IsWord word.toList) (h : Twins d ts us xs ys)
    (hts : render d ts' = word ++ "(" ++ render d ts ++ ")")
    (hus : render d us' = word ++ "(" ++ render d us ++ ")") : Twins d ts' us' xs ys := by
  obtain ⟨ks, ls, hks, hls, hfill, hbal⟩ := h
  have hwrites : ∀ {vs ws : List Token} {ms : List LexemeKind}, Writes d vs ms →
      render d ws = word ++ "(" ++ render d vs ++ ")" →
      Writes d ws (wordKind word.toList :: (.leftParen :: ms ++ [.rightParen])) := by
    intro vs ws ms hvs hws
    have htext : (render d ws).toList = word.toList ++ '(' :: (render d vs).toList ++ [')'] := by
      simp [hws]
    rw [Writes, htext]
    exact hword.spells_call hvs
  have hclosed := hfill.append (.self [.rightParen])
  rw [List.append_nil, List.append_nil] at hclosed
  obtain ⟨hleft, hright⟩ := Clause.wordKind_ne_paren word.toList
  exact ⟨_, _, hwrites hks hts, hwrites hls hus, .same _ (.same .leftParen hclosed),
    hbal.parens.cons hleft hright⟩

theorem append_slash (h : Twins d ts us xs ys) (h' : Twins d ts' us' xs' ys') :
    Twins d (ts ++ .raw " / " :: ts') (us ++ .raw " / " :: us') (xs ++ xs') (ys ++ ys') := by
  obtain ⟨ks, ls, hts, hus, hfill, hks⟩ := h
  obtain ⟨ks', ls', hts', hus', hfill', hks'⟩ := h'
  have hwrites : ∀ {vs ws : List Token} {ms ns : List LexemeKind}, Writes d vs ms →
      Writes d ws ns → Writes d (vs ++ .raw " / " :: ws) (ms ++ .sign .slash :: ns) := by
    intro vs ws ms ns hvs hws
    rw [Writes, render_append, render_cons, String.toList_append, String.toList_append, Token.text]
    exact Spells.append_slash hvs hws
  have hslash : Balanced (.sign .slash :: ks') := hks'.cons (by decide) (by decide)
  exact ⟨_, _, hwrites hts hts', hwrites hus hus', hfill.append (.same (.sign .slash) hfill'),
    hks.append hslash⟩

/-! ### Words and calls -/

theorem token {t : Token} (h : IsWord (t.text d).toList) : Twins d [t] [t] [] [] :=
  .of_writes (writes_singleton h.spells) (Clause.balanced_wordKind _)

theorem word {w : Word} (h : IsWord w.text.toList) : Twins d [.word w] [.word w] [] [] := token h

theorem between {op : Token} (h : Twins d ts us xs ys) (hop : Twins d [op] [op] [] [])
    (h' : Twins d ts' us' xs' ys') :
    Twins d (between ts op ts') (Sql.between us op us') (xs ++ xs') (ys ++ ys') :=
  (h.append_space (hop.append_space h')).parens

theorem negate (h : Twins d ts us xs ys) : Twins d (negate ts) (Sql.negate us) xs ys := by
  have hnot : Twins d [.word .not] [.word .not] [] [] := word (by decide)
  exact (hnot.append_space h).parens

theorem negateIf (h : Twins d ts us xs ys) (negated : Bool) :
    Twins d (negateIf negated ts) (Sql.negateIf negated us) xs ys := by
  cases negated with
  | false => exact h
  | true => exact h.negate

end Twins

/-- The arguments of two calls are alike, one by one. -/
inductive ArgTwins (d : Dialect) :
    List (List Token) → List (List Token) → List LexemeKind → List LexemeKind → Prop where
  | nil : ArgTwins d [] [] [] []
  | cons {ts us : List Token} {tss uss : List (List Token)} {xs ys xs' ys' : List LexemeKind} :
    Twins d ts us xs ys → ArgTwins d tss uss xs' ys' →
      ArgTwins d (ts :: tss) (us :: uss) (xs ++ xs') (ys ++ ys')

theorem ArgTwins.commaList {tss uss : List (List Token)} (h : ArgTwins d tss uss xs ys) :
    Twins d (commaList tss) (commaList uss) xs ys := by
  induction h with
  | nil => exact .nil
  | cons h hs ih =>
    cases hs with
    | nil =>
      rw [List.append_nil, List.append_nil]
      exact h
    | cons _ _ => exact h.append_comma ih

namespace Twins

theorem call {function : String} {tss uss : List (List Token)}
    (hword : IsWord (Text.upper function).toList) (h : ArgTwins d tss uss xs ys) :
    Twins d (call function tss) (Sql.call function uss) xs ys := by
  have hrender : ∀ vss : List (List Token), render d (Sql.call function vss) =
      Text.upper function ++ "(" ++ render d (Sql.commaList vss) ++ ")" := by
    intro vss
    rw [Sql.call, render_cons, Sql.parens, List.cons_append, render_cons, render_append,
      render_singleton, Token.text, Token.text, Token.text, String.append_assoc,
      String.append_assoc]
    rfl
  exact h.commaList.called hword (hrender tss) (hrender uss)

/-- A call with one argument. -/
theorem call_one {function : String} (hword : IsWord (Text.upper function).toList)
    (h : Twins d ts us xs ys) : Twins d (Sql.call function [ts]) (Sql.call function [us]) xs ys := by
  have hall := call hword (.cons h .nil)
  rwa [List.append_nil, List.append_nil] at hall

/-- A call with two arguments. -/
theorem call_two {function : String} (hword : IsWord (Text.upper function).toList)
    (h : Twins d ts us xs ys) (h' : Twins d ts' us' xs' ys') :
    Twins d (Sql.call function [ts, ts']) (Sql.call function [us, us']) (xs ++ xs') (ys ++ ys') := by
  have hall := call hword (.cons h (.cons h' .nil))
  rwa [List.append_nil, List.append_nil] at hall

/-! ### Columns and literals -/

theorem column (m n : String) : Twins d (column m) (Sql.column n) [.name m] [.name n] :=
  ⟨_, _, writes_column m, writes_column n, .name m n .nil, .of_forall_ne (by simp)⟩

theorem string (s t : String) : Twins d [.string s] [.string t] [.string s] [.string t] :=
  ⟨_, _, writes_string s, writes_string t, .string s t .nil, .of_forall_ne (by simp)⟩

/-- A string that is written on both sides. -/
theorem sameString (s : String) : Twins d [.string s] [.string s] [] [] :=
  .of_writes (writes_string s) (.of_forall_ne (by simp))

theorem of_portable {c : Cell} {t : Token} (hc : c.Portable) (h : literal c = .ok t) :
    Twins d [t] [t] [] [] := by
  obtain ⟨u, ks, hu, hwrites, hvalue⟩ := writes_literal (d := d) hc
  rw [h] at hu
  cases hu
  exact .of_writes hwrites hvalue.balanced

theorem null : Twins d [.null] [.null] [] [] := of_portable (c := .null) trivial rfl

theorem int (n : Int64) : Twins d [.int n] [.int n] [] [] :=
  of_portable (c := .int n) trivial rfl

theorem float {x : Binary64} (hx : x.isFinite = true) : Twins d [.float x] [.float x] [] [] := by
  have hliteral : Sql.literal (.float x) = .ok (.float x) := if_pos hx
  exact of_portable (c := .float x) hx hliteral

/-- A literal of a type, which is written as the name of the type and a string. -/
theorem typed {t : Token} {type s : String} (htype : IsWord type.toList)
    (ht : t.text d = type ++ " " ++ d.quoteString s) : Twins d [t] [t] [] [] :=
  .of_writes (writes_typed htype ht)
    (.append (Clause.balanced_wordKind type.toList) (.of_forall_ne (by simp)))

/-- **A text is written between quotes**, and any other cell as it is. -/
theorem literal {a b : Cell} {t u : Token} (h : a.Alike b) (ha : Sql.literal a = .ok t)
    (hb : Sql.literal b = .ok u) : Twins d [t] [u] a.texts b.texts := by
  cases h with
  | text s s' =>
    cases ha
    cases hb
    exact .string s s'
  | same =>
    rw [ha] at hb
    cases hb
    cases a with
    | text s =>
      cases ha
      exact .string s s
    | date _ =>
      cases ha
      exact typed (show IsWord "DATE".toList by decide) rfl
    | timestamp _ =>
      cases ha
      exact typed (show IsWord "TIMESTAMP".toList by decide) rfl
    | float x =>
      by_cases hx : x.isFinite = true
      · exact of_portable (c := .float x) hx ha
      · rw [Sql.literal, if_neg hx] at ha
        cases ha
    | null => exact of_portable (c := .null) trivial ha
    | bool b => exact of_portable (c := .bool b) trivial ha
    | int n => exact of_portable (c := .int n) trivial ha

/-! ### Forms of dialects -/

theorem cast {type : String} (htype : IsWord type.toList) (h : Twins d ts us xs ys) :
    Twins d (cast ts type) (Sql.cast us type) xs ys := by
  have has : Twins d [.raw "AS"] [.raw "AS"] [] [] := token (show IsWord "AS".toList by decide)
  have hinner := h.append_space (has.append_space (token (t := .raw type) htype))
  rw [List.append_nil, List.append_nil, List.append_nil] at hinner
  have hrender : ∀ vs : List Token, render d (Sql.cast vs type) = "CAST" ++ "(" ++
      render d (vs ++ .space :: ([.raw "AS"] ++ .space :: [.raw type])) ++ ")" := by
    intro vs
    simp only [Sql.cast, render_append, render_cons, Token.text, List.cons_append,
      List.nil_append, String.append_assoc]
    rfl
  exact hinner.called (show IsWord "CAST".toList by decide) (hrender ts) (hrender us)

theorem isWord_textType (d : Dialect) : IsWord (textType d).toList := by
  cases d <;> decide

theorem isWord_floatType (d : Dialect) : IsWord (floatType d).toList := by
  cases d <;> decide

theorem concat (hd : d = .bigquery) (h : Twins d ts us xs ys) (h' : Twins d ts' us' xs' ys') :
    Twins d (concat d ts ts') (Sql.concat d us us') (xs ++ xs') (ys ++ ys') := by
  subst hd
  have htype := isWord_textType .bigquery
  exact call_two (by decide) (h.cast htype) (h'.cast htype)

theorem divide (h : Twins d ts us xs ys) (h' : Twins d ts' us' xs' ys') :
    Twins d (divide d ts ts') (Sql.divide d us us') (xs ++ xs') (ys ++ ys') := by
  have hn := h.cast (isWord_floatType d)
  have hm := h'.cast (isWord_floatType d)
  have hzero : Twins d [.raw "0"] [.raw "0"] [] [] := by
    have hspells := Clause.spells_numeral (Binary64.Numeral.wellFormed_ofNat 0)
    have hchars : (Binary64.Numeral.ofNat 0).chars = "0".toList := by decide
    rw [hchars] at hspells
    exact .of_writes (writes_singleton (t := .raw "0") hspells) (.of_forall_ne (by simp))
  have hnullIf := hm.call_two (show IsWord (Text.upper "NULLIF").toList by decide) hzero
  rw [List.append_nil, List.append_nil] at hnullIf
  cases d with
  | bigquery => exact call_two (by decide) hn hm
  | ansi => exact (hn.append_slash hnullIf).parens
  | duckdb => exact (hn.append_slash hnullIf).parens

theorem divideOr {fill : Binary64} (hfill : fill.isFinite = true) (h : Twins d ts us xs ys)
    (h' : Twins d ts' us' xs' ys') :
    Twins d (divideOr d ts ts' fill) (Sql.divideOr d us us' fill) (xs ++ xs') (ys ++ ys') := by
  have hword : IsWord (Text.upper "COALESCE").toList := by decide
  have hall := (h.divide h').call_two hword (float hfill)
  rwa [List.append_nil, List.append_nil] at hall

theorem quotient {fill : Binary64} {vs ws : List Token} (h : Twins d ts us xs ys)
    (h' : Twins d ts' us' xs' ys') (hvs : Sql.quotient d ts ts' fill = .ok vs)
    (hws : Sql.quotient d us us' fill = .ok ws) : Twins d vs ws (xs ++ xs') (ys ++ ys') := by
  by_cases hfill : fill.isFinite = true
  · rw [Sql.quotient, if_pos hfill] at hvs hws
    cases hvs
    cases hws
    exact h.divideOr hfill h'
  · rw [Sql.quotient, if_neg hfill] at hvs
    cases hvs

theorem isNull : Twins d [.word .isNull] [.word .isNull] [] [] :=
  .of_writes writes_isNull (.of_forall_ne (by simp))

theorem mark {m : Mark} {s : Sign} (hm : m.text = s.symbol) :
    Twins d [.mark m] [.mark m] [] [] :=
  .of_writes (writes_mark hm) (.of_forall_ne (by simp))

theorem comparisonMark (op : Comparison) :
    Twins d [.mark (comparisonMark op)] [.mark (Sql.comparisonMark op)] [] [] :=
  .of_writes (writes_comparisonMark op) (.of_forall_ne (by simp))

theorem connectiveWord (op : Connective) :
    Twins d [.word (connectiveWord op)] [.word (Sql.connectiveWord op)] [] [] := by
  cases op with
  | and => exact word (by decide)
  | or => exact word (by decide)

theorem binary {op : BinaryOp} (hop : op = .concat → d = .bigquery) (h : Twins d ts us xs ys)
    (h' : Twins d ts' us' xs' ys') :
    Twins d (binary d op ts ts') (Sql.binary d op us us') (xs ++ xs') (ys ++ ys') := by
  cases op with
  | add => exact h.between (mark (s := .plus) rfl) h'
  | sub => exact h.between (mark (s := .minus) rfl) h'
  | mul => exact h.between (mark (s := .star) rfl) h'
  | div => exact h.divideOr rfl h'
  | concat => exact h.concat (hop rfl) h'

theorem likeMatch (h : Twins d ts us xs ys) (h' : Twins d ts' us' xs' ys') (ignoreCase : Bool) :
    Twins d (likeMatch d ts ts' ignoreCase) (Sql.likeMatch d us us' ignoreCase)
      (xs ++ xs') (ys ++ ys') := by
  have hlike : Twins d [.word .like] [.word .like] [] [] := word (by decide)
  have hilike : Twins d [.word .ilike] [.word .ilike] [] [] := word (by decide)
  have hlower : IsWord (Text.upper "LOWER").toList := by decide
  have hlowered := (h.call_one hlower).between hlike (h'.call_one hlower)
  cases ignoreCase with
  | false => exact h.between hlike h'
  | true =>
    cases d with
    | duckdb => exact h.between hilike h'
    | ansi => exact hlowered
    | bigquery => exact hlowered

theorem regexCall {function : String} (hword : IsWord function.toList) (h : Twins d ts us xs ys)
    (h' : Twins d ts' us' xs' ys') (flags : String) :
    Twins d (regexCall function ts ts' flags) (Sql.regexCall function us us' flags)
      (xs ++ xs') (ys ++ ys') := by
  have hflags : ArgTwins d (if flags.isEmpty then [] else [[.string flags]])
      (if flags.isEmpty then [] else [[.string flags]]) [] [] := by
    split
    · exact .nil
    · exact .cons (sameString flags) .nil
  have hargs := (ArgTwins.cons h (.cons h' hflags)).commaList
  rw [List.append_nil, List.append_nil] at hargs
  have hrender : ∀ vs vs' : List Token, render d (Sql.regexCall function vs vs' flags) =
      function ++ "(" ++ render d (commaList
        (vs :: vs' :: if flags.isEmpty then [] else [[.string flags]])) ++ ")" := by
    intro vs vs'
    rw [Sql.regexCall, List.cons_append, render_cons, render_append, render_singleton, Token.text,
      Token.text]
    simp only [String.append_assoc, List.cons_append, List.nil_append]
  exact hargs.called hword (hrender ts ts') (hrender us us')

theorem regexSearch (h : Twins d ts us xs ys) (h' : Twins d ts' us' xs' ys') (flags : String) :
    Twins d (regexSearch d ts ts' flags) (Sql.regexSearch d us us' flags)
      (xs ++ xs') (ys ++ ys') := by
  cases d with
  | ansi => exact h.regexCall (by decide) h' flags
  | duckdb => exact h.regexCall (by decide) h' flags
  | bigquery =>
    refine h.call_two (by decide) ?_
    by_cases hflags : flags.isEmpty = true
    · rw [if_pos hflags, if_pos hflags]
      exact h'
    · rw [if_neg hflags, if_neg hflags]
      exact (sameString ("(?" ++ flags ++ ")")).call_two (by decide) h'

theorem reductionForm (r : Reduction) (h : Twins d ts us xs ys) :
    Twins d (Aggregate.reductionForm r ts) (Aggregate.reductionForm r us) xs ys := by
  have hdistinct : Twins d [.word .distinct] [.word .distinct] [] [] := word (by decide)
  cases r with
  | distinct => exact (hdistinct.append_space h).call_one (by decide)
  | _ => exact h.call_one (by decide)

end Twins

end Sql

end Crosstab
