import Reckoner.Proofs.Line.Prepare

/-!
Which minus signs are separated from the digit before them.

The minus signs of a line that stand directly between two digits come in chains: the three of
`1-2-3-4` are one, with a single digit between every two that follow each other, and the two of
`1-23-4` are two of one sign each. Separating a sign uses up the digits on both of its sides, so
that the next sign of its chain is passed over, and the one after that is separated again. What
becomes of a sign depends on nothing but its number in its chain.

* `BetweenDigits`: the minus signs that stand directly between two digits, by their places;
* `SignChain`, `MaximalSignChain`, `OddInChain`: chains of them, chains that are no part of a
  longer one, and the first, third, fifth and so on of such a chain;
* `existsUnique_maximalSignChain`: every such sign is in one maximal chain;
* `signNumber`, `oddInChain_iff`: the number of a sign in its chain, found by going back from it;
* `Resumes`, `separateMinus_drop`: where the search for signs goes on, and what it does from there;
* `toList_prepare_eq_flatMap`: what preparing makes of each character of a line.
-/

namespace Reckoner.Line

variable {cs : List Char} {places : List ℕ} {i j k p : ℕ}

/-! ### Minus signs between digits -/

/-- Whether a digit stands at a place of a line. -/
def digitAt (cs : List Char) (i : ℕ) : Bool := cs[i]?.any Char.isDigit

/-- A minus sign stands at a place of a line, directly between two digits. -/
def BetweenDigits (cs : List Char) : ℕ → Prop
  | 0 => False
  | i + 1 => digitAt cs i = true ∧ cs[i + 1]? = some '-' ∧ digitAt cs (i + 2) = true

instance : DecidablePred (BetweenDigits cs)
  | 0 => inferInstanceAs (Decidable False)
  | _ + 1 => inferInstanceAs (Decidable (_ ∧ _ ∧ _))

lemma BetweenDigits.sign (h : BetweenDigits cs i) : cs[i]? = some '-' := by
  cases i with
  | zero => exact h.elim
  | succ i => exact h.2.1

lemma BetweenDigits.lt_length (h : BetweenDigits cs i) : i < cs.length :=
  (List.getElem?_eq_some_iff.mp h.sign).1

lemma not_betweenDigits_of_digitAt (h : digitAt cs i = true) : ¬BetweenDigits cs i := by
  intro hsign
  rw [digitAt, hsign.sign] at h
  exact absurd h (by decide)

/-- A sign between digits follows the place `p` if a digit, the sign and another digit stand from
there on. -/
lemma betweenDigits_of_drop {a b : Char} {rest : List Char}
    (hrest : cs.drop p = a :: '-' :: b :: rest) (ha : a.isDigit = true) (hb : b.isDigit = true) :
    BetweenDigits cs (p + 1) := by
  have hplace (k : ℕ) : cs[p + k]? = (a :: '-' :: b :: rest)[k]? := by
    rw [← hrest, List.getElem?_drop]
  refine ⟨?_, hplace 1, ?_⟩
  · rw [digitAt, show cs[p]? = some a from hplace 0]
    exact ha
  · rw [digitAt, show cs[p + 2]? = some b from hplace 2]
    exact hb

/-- Before a sign between digits the line goes on with a digit, the sign and another digit. -/
lemma exists_drop_of_betweenDigits (h : BetweenDigits cs (p + 1)) :
    ∃ a b rest, cs.drop p = a :: '-' :: b :: rest ∧ (a.isDigit && b.isDigit) = true := by
  obtain ⟨hbefore, hsign, hbehind⟩ := h
  obtain ⟨a, ha, hadigit⟩ := (Option.any_eq_true _ _).mp hbefore
  obtain ⟨b, hb, hbdigit⟩ := (Option.any_eq_true _ _).mp hbehind
  refine ⟨a, b, cs.drop (p + 3), ?_, by rw [hadigit, hbdigit]; rfl⟩
  rw [List.drop_eq_getElem?_toList_append, ha, List.drop_eq_getElem?_toList_append, hsign,
    List.drop_eq_getElem?_toList_append, hb]
  rfl

/-! ### Chains of minus signs -/

/-- Minus signs between digits, by their places, with one digit between every two that follow each
other. -/
structure SignChain (cs : List Char) (places : List ℕ) : Prop where
  betweenDigits : ∀ i ∈ places, BetweenDigits cs i
  apart : places.IsChain fun i j => j = i + 2

/-- A chain of minus signs that is no part of a longer one. -/
structure MaximalSignChain (cs : List Char) (places : List ℕ) : Prop extends
    SignChain cs places where
  maximal : ∀ longer, SignChain cs longer → places <:+: longer → places = longer

/-- The first, third, fifth and so on of the minus signs of a maximal chain. -/
def OddInChain (cs : List Char) (i : ℕ) : Prop :=
  ∃ places, MaximalSignChain cs places ∧ ∃ m, Odd m ∧ places[m - 1]? = some i

namespace SignChain

/-- The places of a chain are every second one from the first on. -/
lemma exists_range' (h : SignChain cs places) :
    ∃ start, places = List.range' start places.length 2 := by
  obtain ⟨-, h⟩ := h
  induction places with
  | nil => exact ⟨0, rfl⟩
  | cons i places ih =>
      obtain ⟨hhead, htail⟩ := List.isChain_cons.mp h
      obtain ⟨start, hplaces⟩ := ih htail
      refine ⟨i, ?_⟩
      rw [List.length_cons, List.range'_succ]
      cases places with
      | nil => rfl
      | cons j places =>
          have hj : j = i + 2 := hhead j rfl
          obtain rfl : j = start := (List.cons.inj hplaces).1
          rw [← hj, ← hplaces]

lemma eq_start_add {start : ℕ} (h : places = List.range' start places.length 2)
    (hi : places[k]? = some i) : i = start + 2 * k := by
  have hk : k < places.length := (List.getElem?_eq_some_iff.mp hi).1
  rw [h, List.getElem?_range' hk] at hi
  exact (Option.some.inj hi).symm

/-- No line has more minus signs than characters. -/
lemma length_le (h : SignChain cs places) : places.length ≤ cs.length := by
  have hlt : places.IsChain (· < ·) := h.apart.imp fun _ _ hij => by omega
  have hsubset : places ⊆ List.range cs.length := fun i hi =>
    List.mem_range.mpr (h.betweenDigits i hi).lt_length
  rw [← List.length_range (n := cs.length)]
  exact (hlt.pairwise.nodup.subperm hsubset).length_le

end SignChain

/-- A chain that has as many signs as any with a given one is maximal. -/
lemma exists_maximalSignChain (h : BetweenDigits cs i) :
    ∃ places, MaximalSignChain cs places ∧ i ∈ places := by
  have halone : SignChain cs [i] :=
    ⟨fun j hj => List.mem_singleton.mp hj ▸ h, List.isChain_singleton i⟩
  -- the lengths of the chains are bounded, so that one of them leaves the least room
  obtain ⟨places, ⟨hchain, hi⟩, hleast⟩ :=
    (measure fun places : List ℕ => cs.length - places.length).wf.has_min
      { places | SignChain cs places ∧ i ∈ places } ⟨[i], halone, List.mem_singleton_self i⟩
  refine ⟨places, ⟨hchain, fun longer hlonger hinfix => hinfix.eq_of_length_le ?_⟩, hi⟩
  have hroom : ¬cs.length - longer.length < cs.length - places.length :=
    hleast longer ⟨hlonger, hinfix.subset hi⟩
  have hbound : longer.length ≤ cs.length := hlonger.length_le
  omega

namespace MaximalSignChain

/-- No sign stands two places before the first one of a maximal chain. -/
lemma not_betweenDigits_before (h : MaximalSignChain cs places) (hi : places[0]? = some (j + 2)) :
    ¬BetweenDigits cs j := by
  intro hj
  have hlonger : SignChain cs (j :: places) := by
    refine ⟨List.forall_mem_cons.mpr ⟨hj, h.betweenDigits⟩,
      List.isChain_cons.mpr ⟨fun i hhead => ?_, h.apart⟩⟩
    rw [List.head?_eq_getElem?, hi] at hhead
    exact (Option.some.inj hhead).symm
  have heq : places = j :: places := h.maximal _ hlonger (List.suffix_cons j places).isInfix
  exact absurd (congrArg List.length heq) (by simp)

/-- Of two maximal chains that start together none goes on longer. -/
lemma eq_of_start (h : MaximalSignChain cs places) {others : List ℕ}
    (hothers : MaximalSignChain cs others) {start : ℕ}
    (hplaces : places = List.range' start places.length 2)
    (heq : others = List.range' start others.length 2) : places = others := by
  have hprefix {m n : ℕ} (hmn : m ≤ n) : List.range' start m 2 <:+: List.range' start n 2 := by
    rw [← Nat.add_sub_of_le hmn, ← List.range'_append]
    exact (List.prefix_append _ _).isInfix
  rcases le_total places.length others.length with hle | hle
  · refine h.maximal others hothers.toSignChain ?_
    rw [hplaces, heq]
    exact hprefix hle
  · refine (hothers.maximal places h.toSignChain ?_).symm
    rw [hplaces, heq]
    exact hprefix hle

end MaximalSignChain

/-! ### Numbers of signs in their chains -/

/-- The number of a minus sign in its chain, counted from one, and `0` where no sign stands between
digits. -/
def signNumber (cs : List Char) : ℕ → ℕ
  | 0 => 0
  | 1 => if BetweenDigits cs 1 then 1 else 0
  | i + 2 => if BetweenDigits cs (i + 2) then signNumber cs i + 1 else 0

lemma signNumber_of_not_betweenDigits (h : ¬BetweenDigits cs i) : signNumber cs i = 0 := by
  match i with
  | 0 => rfl
  | 1 => exact if_neg h
  | i + 2 => exact if_neg h

lemma signNumber_add_two (h : BetweenDigits cs (i + 2)) :
    signNumber cs (i + 2) = signNumber cs i + 1 := if_pos h

/-- The first sign of a chain has the number one. -/
lemma signNumber_first (h : BetweenDigits cs i) (hfirst : ∀ j, i = j + 2 → ¬BetweenDigits cs j) :
    signNumber cs i = 1 := by
  match i with
  | 0 => exact h.elim
  | 1 => exact if_pos h
  | i + 2 => rw [signNumber_add_two h, signNumber_of_not_betweenDigits (hfirst i rfl)]

lemma betweenDigits_of_odd (h : Odd (signNumber cs i)) : BetweenDigits cs i := by
  by_contra hnot
  rw [signNumber_of_not_betweenDigits hnot] at h
  exact absurd h (by decide)

namespace MaximalSignChain

/-- Signs are numbered in the order of their chain. -/
lemma signNumber_eq (h : MaximalSignChain cs places) (hi : places[k]? = some i) :
    signNumber cs i = k + 1 := by
  induction k generalizing i with
  | zero =>
      refine signNumber_first (h.betweenDigits i (List.mem_of_getElem? hi)) fun j hj => ?_
      exact h.not_betweenDigits_before (hj ▸ hi)
  | succ k ih =>
      obtain ⟨hk, rfl⟩ := List.getElem?_eq_some_iff.mp hi
      have hnext : places[k + 1] = places[k] + 2 := List.isChain_iff_getElem.mp h.apart k hk
      have hbetween : BetweenDigits cs (places[k] + 2) :=
        hnext ▸ h.betweenDigits _ (List.getElem_mem hk)
      rw [hnext, signNumber_add_two hbetween, ih (List.getElem?_eq_getElem (by omega))]

/-- A sign is in one maximal chain only: its number says where the chain starts. -/
lemma unique (h : MaximalSignChain cs places) {others : List ℕ}
    (hothers : MaximalSignChain cs others) (hi : i ∈ places) (hiothers : i ∈ others) :
    places = others := by
  obtain ⟨k, hk⟩ := List.mem_iff_getElem?.mp hi
  obtain ⟨m, hm⟩ := List.mem_iff_getElem?.mp hiothers
  have hnumber : k + 1 = m + 1 := (h.signNumber_eq hk).symm.trans (hothers.signNumber_eq hm)
  obtain ⟨start, hplaces⟩ := h.exists_range'
  obtain ⟨start', heq⟩ := hothers.exists_range'
  have hstart : i = start + 2 * k := SignChain.eq_start_add hplaces hk
  have hstart' : i = start' + 2 * m := SignChain.eq_start_add heq hm
  obtain rfl : start = start' := by omega
  exact h.eq_of_start hothers hplaces heq

end MaximalSignChain

/-- The minus signs between digits fall into maximal chains. -/
lemma existsUnique_maximalSignChain (h : BetweenDigits cs i) :
    ∃! places, MaximalSignChain cs places ∧ i ∈ places := by
  obtain ⟨places, hplaces, hi⟩ := exists_maximalSignChain h
  exact ⟨places, ⟨hplaces, hi⟩, fun others hothers => hothers.1.unique hplaces hothers.2 hi⟩

/-- Whether a sign is the first, third, fifth and so on of its chain is seen from its number. -/
lemma oddInChain_iff : OddInChain cs i ↔ Odd (signNumber cs i) := by
  constructor
  · rintro ⟨places, hplaces, m, hm, hi⟩
    rwa [hplaces.signNumber_eq hi, Nat.sub_add_cancel hm.pos]
  · intro hodd
    obtain ⟨places, hplaces, hi⟩ := exists_maximalSignChain (betweenDigits_of_odd hodd)
    obtain ⟨k, hk⟩ := List.mem_iff_getElem?.mp hi
    refine ⟨places, hplaces, signNumber cs i, hodd, ?_⟩
    rw [hplaces.signNumber_eq hk, Nat.add_sub_cancel]
    exact hk

instance : DecidablePred (OddInChain cs) := fun _ => decidable_of_iff _ oddInChain_iff.symm

/-! ### Where the search for signs goes on -/

/-- The search for signs goes on at the place `p`: of the signs that a match could have to do with
from there on, those at `p` and right before it are not to be separated. -/
structure Resumes (cs : List Char) (p : ℕ) : Prop where
  here : Even (signNumber cs p)
  before : ∀ i, p = i + 1 → Even (signNumber cs i)

namespace Resumes

lemma start : Resumes cs 0 := ⟨Even.zero, fun i hi => absurd hi (by simp)⟩

/-- Where no sign between digits follows, the search goes on at the next place. -/
lemma step (h : Resumes cs p) (hnot : ¬BetweenDigits cs (p + 1)) : Resumes cs (p + 1) := by
  refine ⟨?_, fun i hi => ?_⟩
  · rw [signNumber_of_not_betweenDigits hnot]
    exact Even.zero
  · rw [← Nat.succ.inj hi]
    exact h.here

/-- A sign between digits that follows is an odd one of its chain: the one before it in the chain,
if there is any, stands right before `p`. -/
lemma odd (h : Resumes cs p) (hsign : BetweenDigits cs (p + 1)) : Odd (signNumber cs (p + 1)) := by
  match p with
  | 0 =>
      rw [signNumber_first hsign (fun j hj => absurd hj (by omega))]
      exact odd_one
  | i + 1 =>
      rw [signNumber_add_two hsign]
      exact (h.before i rfl).add_one

/-- A sign between digits that follows takes both of its digits, and the search goes on behind
them. -/
lemma skip (h : Resumes cs p) (hsign : BetweenDigits cs (p + 1)) : Resumes cs (p + 3) := by
  have hdigit : ¬BetweenDigits cs (p + 2) := not_betweenDigits_of_digitAt hsign.2.2
  refine ⟨?_, fun i hi => ?_⟩
  · by_cases hnext : BetweenDigits cs (p + 3)
    · rw [signNumber_add_two hnext]
      exact (h.odd hsign).add_one
    · rw [signNumber_of_not_betweenDigits hnext]
      exact Even.zero
  · rw [← Nat.succ.inj hi, signNumber_of_not_betweenDigits hdigit]
    exact Even.zero

end Resumes

/-! ### What becomes of each character -/

/-- What becomes of a character, given with its place, when minus signs are separated. -/
def separatedAt (cs : List Char) (x : Char × ℕ) : List Char :=
  if OddInChain cs x.2 then ['+', x.1] else [x.1]

lemma flatMap_separatedAt_of_even (h : Even (signNumber cs p)) (c : Char) (rest : List Char) :
    ((c :: rest).zipIdx p).flatMap (separatedAt cs)
      = c :: (rest.zipIdx (p + 1)).flatMap (separatedAt cs) := by
  have hnot : ¬OddInChain cs p := oddInChain_iff.not.mpr (Nat.not_odd_iff_even.mpr h)
  rw [List.zipIdx_cons, List.flatMap_cons, separatedAt, if_neg hnot]
  rfl

lemma flatMap_separatedAt_of_odd (h : Odd (signNumber cs p)) (c : Char) (rest : List Char) :
    ((c :: rest).zipIdx p).flatMap (separatedAt cs)
      = '+' :: c :: (rest.zipIdx (p + 1)).flatMap (separatedAt cs) := by
  rw [List.zipIdx_cons, List.flatMap_cons, separatedAt, if_pos (oddInChain_iff.mpr h)]
  rfl

/-- From a place where the search goes on, it separates the odd signs of the chains. -/
lemma separateMinus_drop (h : Resumes cs p) {rest : List Char} (hrest : cs.drop p = rest) :
    separateMinus rest = (rest.zipIdx p).flatMap (separatedAt cs) := by
  have hbehind {q : ℕ} (front : List Char) {rest : List Char} (hdrop : cs.drop q = front ++ rest) :
      cs.drop (q + front.length) = rest := by
    rw [← List.drop_drop, hdrop, List.drop_left]
  induction rest using separateMinus.induct generalizing p with
  | case1 a b rest hdigits ih =>
      obtain ⟨ha, hb⟩ := Bool.and_eq_true_iff.mp hdigits
      have hsign : BetweenDigits cs (p + 1) := betweenDigits_of_drop hrest ha hb
      have hresumes : Resumes cs (p + 3) := h.skip hsign
      rw [separateMinus, if_pos hdigits, ih hresumes (hbehind [a, '-', b] hrest),
        flatMap_separatedAt_of_even h.here, flatMap_separatedAt_of_odd (h.odd hsign),
        flatMap_separatedAt_of_even (hresumes.before _ rfl)]
  | case2 a b rest hdigits ih =>
      have hnot : ¬BetweenDigits cs (p + 1) := by
        intro hsign
        obtain ⟨a', b', rest', heq, hdigits'⟩ := exists_drop_of_betweenDigits hsign
        obtain ⟨rfl, -, rfl, -⟩ : a = a' ∧ '-' = '-' ∧ b = b' ∧ rest = rest' := by
          simpa using hrest.symm.trans heq
        exact hdigits hdigits'
      rw [separateMinus, if_neg hdigits, ih (h.step hnot) (hbehind [a] hrest),
        flatMap_separatedAt_of_even h.here]
  | case3 a rest hcases ih =>
      have hnot : ¬BetweenDigits cs (p + 1) := by
        intro hsign
        obtain ⟨a', b', rest', heq, -⟩ := exists_drop_of_betweenDigits hsign
        exact hcases b' rest' (List.cons.inj (hrest.symm.trans heq)).2
      rw [separateMinus, ih (h.step hnot) (hbehind [a] hrest),
        flatMap_separatedAt_of_even h.here]
      exact hcases
  | case4 => rfl

/-- What becomes of a character, the power sign being spelled as well. A character with a plus sign
before it is a minus sign. -/
lemma spellPower_separatedAt {c : Char} (h : cs[i]? = some c) :
    spellPower (separatedAt cs (c, i))
      = if OddInChain cs i then ['+', c] else if c = '^' then ['*', '*'] else [c] := by
  rw [separatedAt]
  split
  · next hodd =>
      have hsign : cs[i]? = some '-' := (betweenDigits_of_odd (oddInChain_iff.mp hodd)).sign
      obtain rfl : c = '-' := Option.some.inj (h.symm.trans hsign)
      rfl
  · exact List.flatMap_singleton _ c

/-- The minus signs that stand directly between two digits fall into maximal chains. Preparing a
line puts a plus sign before the first, third, fifth and so on of each chain, spells every power
sign as two stars, and leaves all other characters as they are and where they are. -/
theorem toList_prepare_eq_flatMap (line : String) :
    (∀ i, BetweenDigits line.toList i →
      ∃! places, MaximalSignChain line.toList places ∧ i ∈ places)
    ∧ (prepare line).toList = line.toList.zipIdx.flatMap fun (c, i) =>
        if OddInChain line.toList i then ['+', c] else if c = '^' then ['*', '*'] else [c] := by
  refine ⟨fun i hi => existsUnique_maximalSignChain hi, ?_⟩
  have hseparated : separateMinus line.toList
      = line.toList.zipIdx.flatMap (separatedAt line.toList) :=
    separateMinus_drop .start List.drop_zero
  rw [prepare, String.toList_ofList, hseparated, spellPower, List.flatMap_assoc]
  refine List.flatMap_congr fun x hx => ?_
  exact spellPower_separatedAt (List.mem_zipIdx_iff_getElem?.mp hx)

/-- Of three signs in a chain the second one is left alone, and so is a sign before a letter. -/
theorem toList_prepare_eq_flatMap_threeSigns :
    BetweenDigits "1-2-3-4^5-x".toList 3
    ∧ (∃! places, MaximalSignChain "1-2-3-4^5-x".toList places ∧ 3 ∈ places)
    ∧ prepare "1-2-3-4^5-x" = "1+-2-3+-4**5-x" := by
  have hsecond : BetweenDigits "1-2-3-4^5-x".toList 3 := by decide
  obtain ⟨hchain, htext⟩ := toList_prepare_eq_flatMap "1-2-3-4^5-x"
  refine ⟨hsecond, hchain 3 hsecond, String.toList_inj.mp (htext.trans ?_)⟩
  decide

end Reckoner.Line
