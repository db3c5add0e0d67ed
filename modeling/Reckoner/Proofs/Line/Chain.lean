import Reckoner.Proofs.Formula.Sums
import Reckoner.Proofs.Line.Effect
import Reckoner.Proofs.Line.Prepare
import Reckoner.Proofs.Token.Minus

/-!
Chains of subtractions without spaces.

In `12-34-5` every minus sign is separated from the digit before it, and the line is the sum of
`12`, `-34` and `-5`. In `5-3-2` the digit `3` has been used up by the first minus sign, so the
second one is not separated and `-2` stands right behind `-3`, where the parser has no use for
it. This happens wherever an operand between two minus signs is a single digit.

* `IsNumeral`, `Formula.denote_sumOf`: numerals, and what a sum is worth;
* `Line.separated`, `Line.prepare_chain`: a chain as the lexer reads it;
* `Line.chainTokens`, `Line.reading_chain`: its tokens;
* `Line.chainTokens_of_long`, `Line.chainTokens_of_short`: whether they are a sum;
* `Line.chain`, `Line.difference`, `Line.HasSpareDigits`: a chain of numerals, what is left of
  the first one, and the chains whose minus signs are all separated;
* `Line.run_chain`: these are the ones that have a value.
-/

namespace Reckoner

/-- One or more digits. -/
def IsNumeral (d : List Char) : Prop := d ≠ [] ∧ ∀ c ∈ d, c.isDigit = true

instance (d : List Char) : Decidable (IsNumeral d) :=
  inferInstanceAs (Decidable (d ≠ [] ∧ ∀ c ∈ d, c.isDigit = true))

/-- The number that digits spell. -/
def numeral (d : List Char) : ℤ := Nat.ofDigitChars 10 d 0

/-- A sum of integers is worth what they add up to. -/
lemma Formula.denote_sumOf {precision : UInt64} {table : Table} {t : Formula} {n : ℤ}
    (h : t.denote precision table = some (.integer n, table)) (ns : List ℤ) :
    (t.sumOf ns).denote precision table = some (.integer (n + ns.sum), table) := by
  induction ns generalizing t n with
  | nil => simpa [sumOf] using h
  | cons m ns ih =>
      have hstep : (binary .add t (literal (.int m) .origin) .origin).denote precision table
          = some (.integer (n + m), table) := by
        rw [denote, h]
        rfl
      rw [List.sum_cons, ← add_assoc]
      exact ih hstep

namespace Line

open Lexer

variable {s d : List Char} {ds : List (List Char)}

/-! ### The chain as it is read -/

/-- The operands after the first one, each with a minus sign before it. -/
def subtracted (ds : List (List Char)) : List Char := ds.flatMap fun d => '-' :: d

/-- What an operand leaves for the minus sign after it: all of it if no sign was put before
it, else all but its first digit. -/
def leftOver (s d : List Char) : List Char := if s = [] then d else d.tail

/-- The operands after the first one, as the lexer reads them, where the operand before them
has left `s`. A sign is put before the minus sign if anything is left. -/
def separated (s : List Char) : List (List Char) → List Char
  | [] => []
  | d :: ds => (if s = [] then [] else ['+']) ++ '-' :: (d ++ separated (leftOver s d) ds)

/-- A minus sign is separated from the digits before it, which uses up the digit after it. -/
lemma separateMinus_subtracted (hs : ∀ c ∈ s, c.isDigit = true) (hds : ∀ d ∈ ds, IsNumeral d) :
    separateMinus (s ++ subtracted ds) = s ++ separated s ds := by
  have hminus {cs : List Char} (hcs : ∀ c ∈ cs, c.isDigit = true) : '-' ∉ cs := by
    intro hmem
    simpa using hcs '-' hmem
  induction ds generalizing s with
  | nil =>
      rw [subtracted, List.flatMap_nil, List.append_nil, separated, List.append_nil,
        separateMinus_of_not_mem (hminus hs)]
  | cons d ds ih =>
      obtain ⟨⟨hne, hd⟩, hrest⟩ := List.forall_mem_cons.mp hds
      obtain ⟨b, cs, rfl⟩ := List.exists_cons_of_ne_nil hne
      have hb : b.isDigit = true := hd b List.mem_cons_self
      obtain rfl | ⟨s, a, rfl⟩ := List.eq_nil_or_concat s
      · rw [List.nil_append, List.nil_append, subtracted, List.flatMap_cons, List.cons_append,
          separateMinus_cons_of_not_isDigit rfl]
        exact congrArg ('-' :: ·) (ih hd hrest)
      · rw [List.concat_eq_append] at hs ⊢
        obtain ⟨hs, ha⟩ := List.forall_mem_append.mp hs
        have ha : a.isDigit = true := ha a List.mem_cons_self
        have hcs : ∀ c ∈ cs, c.isDigit = true := fun c hc => hd c (List.mem_cons_of_mem b hc)
        have hhead : ∀ c ∈ (a :: '-' :: b :: (cs ++ subtracted ds)).head?, c ≠ '-' := by
          rintro _ ⟨⟩
          exact ne_of_isDigit ha rfl
        have htext : s ++ [a] ++ subtracted ((b :: cs) :: ds)
            = s ++ a :: '-' :: b :: (cs ++ subtracted ds) := by
          simp [subtracted]
        rw [htext, separateMinus_append (hminus hs) hhead, separateMinus,
          if_pos (by rw [ha, hb]; rfl), ih hcs hrest]
        simp [separated, leftOver]

lemma power_not_mem_separated (hds : ∀ d ∈ ds, IsNumeral d) (s : List Char) :
    '^' ∉ separated s ds := by
  induction ds generalizing s with
  | nil => simp [separated]
  | cons d ds ih =>
      obtain ⟨⟨-, hd⟩, hrest⟩ := List.forall_mem_cons.mp hds
      have hpower : '^' ∉ d := fun hmem => by simpa using hd '^' hmem
      have hsign : '^' ∉ if s = [] then [] else ['+'] := by split <;> simp
      simp [separated, hpower, hsign, ih hrest]

/-- The chain as the lexer reads it. -/
lemma prepare_chain {line : String} (hline : line.toList = d ++ subtracted ds) (hd : IsNumeral d)
    (hds : ∀ d ∈ ds, IsNumeral d) : (prepare line).toList = d ++ separated d ds := by
  have hpower : '^' ∉ d ++ separated d ds := by
    rw [List.mem_append, not_or]
    exact ⟨fun hmem => by simpa using hd.2 '^' hmem, power_not_mem_separated hds d⟩
  rw [prepare, String.toList_ofList, hline, separateMinus_subtracted hd.2 hds,
    spellPower_of_not_mem hpower]

/-! ### The tokens of a chain -/

/-- The tokens after the first operand: an operator stands before a number only where a sign
was put before its minus sign. -/
def chainTokens (s : List Char) : List (List Char) → List Token
  | [] => [.eof]
  | d :: ds =>
      (if s = [] then [] else [.operator .add])
        ++ .int (-numeral d) :: chainTokens (leftOver s d) ds

lemma endsNumber_separated (s : List Char) (ds : List (List Char)) :
    EndsNumber (separated s ds) := by
  cases ds with
  | nil => rintro c ⟨⟩
  | cons d ds =>
      rw [separated]
      split
      · rintro c ⟨⟩
        decide
      · rintro c ⟨⟩
        decide

lemma reading_separated (hds : ∀ d ∈ ds, IsNumeral d) (s : List Char) (pos : ℕ) :
    reading (itemsFrom pos (separated s ds)) = some (chainTokens s ds) := by
  induction ds generalizing s pos with
  | nil =>
      rw [separated, itemsFrom_ended rfl]
      rfl
  | cons d ds ih =>
      obtain ⟨⟨hne, hd⟩, hrest⟩ := List.forall_mem_cons.mp hds
      have hnumber : scan ('-' :: (d ++ separated (leftOver s d) ds))
          = some ([(.int (-numeral d), d.length + 1)], separated (leftOver s d) ds) := by
        obtain ⟨b, cs, rfl⟩ := List.exists_cons_of_ne_nil hne
        exact scan_negative hd (endsNumber_separated _ ds)
      rw [separated, chainTokens]
      split
      · rw [List.nil_append, reading_scanned pos hnumber, ih hrest]
        rfl
      · have hplus (cs : List Char) : scan ('+' :: '-' :: cs)
            = some ([(.operator .add, 1)], '-' :: cs) := rfl
        rw [List.singleton_append, reading_scanned pos (hplus _), reading_scanned 0 hnumber,
          ih hrest]
        rfl

/-- The tokens of a chain. -/
lemma reading_chain {line : String} (hline : line.toList = d ++ subtracted ds) (hd : IsNumeral d)
    (hds : ∀ d ∈ ds, IsNumeral d) :
    reading (items (prepare line)) = some (.int (numeral d) :: chainTokens d ds) := by
  have hnumber : scan (d ++ separated d ds)
      = some ([(.int (numeral d), d.length)], separated d ds) := by
    obtain ⟨b, cs, rfl⟩ := List.exists_cons_of_ne_nil hd.1
    exact scan_digits hd.2 (endsNumber_separated _ ds)
  rw [items, prepare_chain hline hd hds, reading_scanned 0 hnumber, reading_separated hds]
  rfl

lemma leftOver_eq_nil_iff (hs : s ≠ []) : leftOver s d = [] ↔ d.length < 2 := by
  rw [leftOver, if_neg hs, ← List.length_eq_zero_iff, List.length_tail]
  omega

/-- Where every operand between two minus signs has two digits, the chain is a sum. -/
lemma chainTokens_of_long (hs : s ≠ []) (hds : ∀ d ∈ ds.dropLast, 2 ≤ d.length) :
    chainTokens s ds = addends (ds.map fun d => -numeral d) ++ [.eof] := by
  induction ds generalizing s with
  | nil => rfl
  | cons d ds ih =>
      rw [chainTokens, if_neg hs]
      cases ds with
      | nil => rfl
      | cons e ds =>
          rw [List.dropLast_cons_cons] at hds
          obtain ⟨hd, hrest⟩ := List.forall_mem_cons.mp hds
          have hleft : leftOver s d ≠ [] := mt (leftOver_eq_nil_iff hs).mp hd.not_gt
          rw [ih hleft hrest]
          rfl

/-- Otherwise an integer stands where no sign was put before its minus sign. -/
lemma chainTokens_of_short (hs : s ≠ []) (hds : ∃ d ∈ ds.dropLast, d.length < 2) :
    ∃ ns m more, chainTokens s ds = addends ns ++ .int m :: more ∧ ns.length < ds.length := by
  induction ds generalizing s with
  | nil => simp at hds
  | cons d ds ih =>
      rw [chainTokens, if_neg hs]
      cases ds with
      | nil => simp at hds
      | cons e ds =>
          by_cases hd : d.length < 2
          · have hleft : leftOver s d = [] := (leftOver_eq_nil_iff hs).mpr hd
            refine ⟨[-numeral d], -numeral e, chainTokens (leftOver [] e) ds, ?_, by simp⟩
            rw [hleft, chainTokens]
            rfl
          · have hleft : leftOver s d ≠ [] := mt (leftOver_eq_nil_iff hs).mp hd
            rw [List.dropLast_cons_cons] at hds
            have hrest : ∃ d ∈ (e :: ds).dropLast, d.length < 2 := by
              obtain ⟨d', hd', hshort⟩ := hds
              obtain rfl | hd' := List.mem_cons.mp hd'
              · exact absurd hshort hd
              · exact ⟨d', hd', hshort⟩
            obtain ⟨ns, m, more, htokens, hlength⟩ := ih hleft hrest
            refine ⟨-numeral d :: ns, m, more, ?_, Nat.succ_lt_succ hlength⟩
            rw [htokens]
            rfl

/-! ### The value of a chain -/

/-- The first of some numerals less all others. -/
def difference : List String → ℤ
  | [] => 0
  | d :: ds => numeral d.toList - (ds.map fun d => numeral d.toList).sum

/-- Some numerals as they are subtracted without spaces. -/
def chain (ds : List String) : String := "-".intercalate ds

/-- Every operand between two minus signs has a digit for each of them. -/
def HasSpareDigits (ds : List String) : Prop := ∀ d ∈ ds.tail.dropLast, 2 ≤ d.length

instance (ds : List String) : Decidable (HasSpareDigits ds) :=
  inferInstanceAs (Decidable (∀ d ∈ ds.tail.dropLast, 2 ≤ d.length))

lemma toList_chain (d : String) (ds : List String) :
    (chain (d :: ds)).toList = d.toList ++ subtracted (ds.map String.toList) := by
  rw [chain, String.toList_intercalate, List.map_cons]
  induction ds generalizing d with
  | nil => simp [subtracted]
  | cons e ds ih =>
      rw [List.map_cons, List.intercalate_cons_cons, ih e]
      simp [subtracted]

variable {settings : Settings} {first : String} {rest : List String}

lemma hasSpareDigits_cons :
    HasSpareDigits (first :: rest)
      ↔ ∀ d ∈ (rest.map String.toList).dropLast, 2 ≤ d.length := by
  rw [HasSpareDigits, List.tail_cons, ← List.map_dropLast, List.forall_mem_map]
  rfl

/-- A chain whose operands have digits to spare has its difference as value. -/
lemma run_chain_of_long (user : UserId) (env : Environment) (hfirst : IsNumeral first.toList)
    (hrest : ∀ d ∈ rest, IsNumeral d.toList) (hdepth : rest.length < settings.maxDepth)
    (hlong : HasSpareDigits (first :: rest)) :
    (run settings (chain (first :: rest)) user env).outcome
      = .ok (.ofValue (.integer (difference (first :: rest)))) := by
  have hnumerals : ∀ d ∈ rest.map String.toList, IsNumeral d := by simpa using hrest
  have hreading := reading_chain (toList_chain first rest) hfirst hnumerals
  rw [chainTokens_of_long hfirst.1 (hasSpareDigits_cons.mp hlong)] at hreading
  obtain ⟨t, ht, hbare⟩ := parse_sum hreading (by simpa using hdepth)
  have hsum : ((rest.map String.toList).map fun d => -numeral d).sum
      = -(rest.map fun d => numeral d.toList).sum := by
    rw [List.map_map, List.sum_neg, List.map_map]
    rfl
  have hvalue : t.denote settings.precision (env.tableOf user)
      = some (.integer (difference (first :: rest)), env.tableOf user) := by
    rw [← t.denote_bare, hbare, Formula.denote_sumOf rfl, hsum]
    rfl
  exact outcome_of_denote (tree_eq_ok.mpr ht) hvalue

/-- In any other chain an integer stands where the parser has no use for it. -/
lemma run_chain_of_short (user : UserId) (env : Environment) (hfirst : IsNumeral first.toList)
    (hrest : ∀ d ∈ rest, IsNumeral d.toList) (hdepth : rest.length < settings.maxDepth)
    (hshort : ¬ HasSpareDigits (first :: rest)) :
    ∃ n span, run settings (chain (first :: rest)) user env
      = ⟨.error (.parse (prepare (chain (first :: rest)))
          ⟨.unexpectedToken (.int n) [.anOperator, .theEnd], span⟩), env.met user, []⟩ := by
  have hnumerals : ∀ d ∈ rest.map String.toList, IsNumeral d := by simpa using hrest
  have hdigits : ∃ d ∈ (rest.map String.toList).dropLast, d.length < 2 := by
    simpa [hasSpareDigits_cons] using hshort
  obtain ⟨ns, n, more, htokens, hlevels⟩ := chainTokens_of_short hfirst.1 hdigits
  have hreading := reading_chain (toList_chain first rest) hfirst hnumerals
  rw [htokens] at hreading
  rw [List.length_map] at hlevels
  obtain ⟨span, hparse⟩ := parse_sum_cut hreading (hlevels.trans hdepth)
  refine ⟨n, span, run_of_error ?_⟩
  rw [tree, hparse]
  rfl

/-- **Chains of minus signs.** Under every limit of at least one level for each operand, a
chain of numerals has the first one less all others as value if every operand between two minus
signs has two digits. Otherwise it fails at an integer, and nothing changes. -/
theorem run_chain {ds : List String} (hds : ∀ d ∈ ds, IsNumeral d.toList)
    (hlength : 2 ≤ ds.length) (settings : Settings) (hdepth : ds.length ≤ settings.maxDepth)
    (user : UserId) (env : Environment) :
    ((run settings (chain ds) user env).outcome = .ok (.ofValue (.integer (difference ds)))
        ↔ HasSpareDigits ds)
      ∧ (¬ HasSpareDigits ds →
          (∃ n span, (run settings (chain ds) user env).outcome
            = .error (.parse (prepare (chain ds))
                ⟨.unexpectedToken (.int n) [.anOperator, .theEnd], span⟩))
          ∧ (run settings (chain ds) user env).Unchanged env user) := by
  obtain ⟨first, rest, rfl⟩ := List.exists_cons_of_length_pos (Nat.zero_lt_of_lt hlength)
  obtain ⟨hfirst, hrest⟩ := List.forall_mem_cons.mp hds
  refine ⟨⟨fun h => ?_, run_chain_of_long user env hfirst hrest hdepth⟩, fun hshort => ?_⟩
  · by_contra hshort
    obtain ⟨n, span, hrun⟩ := run_chain_of_short user env hfirst hrest hdepth hshort
    rw [hrun] at h
    cases h
  · obtain ⟨n, span, hrun⟩ := run_chain_of_short user env hfirst hrest hdepth hshort
    rw [hrun]
    exact ⟨⟨n, span, rfl⟩, ⟨rfl, rfl⟩⟩

/-- `12-34-5` is worth -27, and `5-3-2` is worth nothing. -/
theorem run_chain_twoDigits_oneDigit :
    (run .standard "12-34-5" .anonymous ∅).outcome = .ok (.ofValue (.integer (-27)))
      ∧ ∃ n span, (run .standard "5-3-2" .anonymous ∅).outcome
        = .error (.parse "5+-3-2" ⟨.unexpectedToken (.int n) [.anOperator, .theEnd], span⟩) := by
  have htwo : ∀ d ∈ ["12", "34", "5"], IsNumeral d.toList := by simp [IsNumeral]
  have hone : ∀ d ∈ ["5", "3", "2"], IsNumeral d.toList := by simp [IsNumeral]
  obtain ⟨hlong, -⟩ := run_chain htwo (by decide) .standard (by decide) .anonymous ∅
  obtain ⟨-, hshort⟩ := run_chain hone (by decide) .standard (by decide) .anonymous ∅
  exact ⟨hlong.mpr (by decide), (hshort (by decide)).1⟩

end Line

end Reckoner
