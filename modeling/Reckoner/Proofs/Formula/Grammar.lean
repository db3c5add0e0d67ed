import Mathlib.Tactic
import Reckoner.Formula.Basic

/-!
The grammar of lines, in layers.

A line is nothing, a name and what it is given, or a comparison. Sums, products and
powers are the three layers of operators, each folded to the left, and a primary is
what no operator is part of. A number followed by `e` and an integer is in standard
form; a number followed by a name is a multiple of it.

* `Formula.bare`: a tree without the places its parts were read at;
* `Nonterminal`: the layers;
* `Derives`: the tokens that a layer derives, and the tree it gives them.
-/

namespace Reckoner

/-! ### Trees without places -/

/-- The tree without the places its parts were read at. Two trees are the same up to
spans when they are equal bare. -/
def Formula.bare : Formula → Formula
  | literal value _ => literal value .origin
  | var name _ => var name .origin
  | binary op left right _ => binary op left.bare right.bare .origin
  | call f argument _ => call f argument.bare .origin
  | assign name value _ => assign name value.bare .origin
  | empty => empty

@[simp] lemma Formula.bare_combine (op : Operator) (left right : Formula) :
    (combine op left right).bare = binary op left.bare right.bare .origin := rfl

/-- The token of a literal. -/
def Literal.token : Literal → Token
  | int value => .int value
  | decimal value => .decimal value

/-! ### Derivations -/

/-- The layers of the grammar, from what binds tightest to the whole line. -/
inductive Nonterminal where
  | primary
  | power
  | product
  | sum
  | comparison
  | line

/-- **The grammar.** `Derives s ts t`: the layer `s` derives the tokens `ts`, and `t` is
the bare tree they are given. The rules `raise`, `scale` and `shift` fold a further operand
into what has been derived so far, so operators of one layer group to the left. -/
inductive Derives : Nonterminal → List Token → Formula → Prop
  | number (value : Literal) : Derives .primary [value.token] (.literal value .origin)
  | standardForm (value : Literal) (exponent : ℤ) :
      Derives .primary [value.token, .ident "e", .int exponent]
        (.binary .mul (.literal value .origin)
          (.binary .pow (.literal (.int 10) .origin) (.literal (.int exponent) .origin)
            .origin) .origin)
  | multiple (value : Literal) (name : String) :
      Derives .primary [value.token, .ident name]
        (.binary .mul (.literal value .origin) (.var name .origin) .origin)
  | named (name : String) : Derives .primary [.ident name] (.var name .origin)
  | call (f : RealFunction) {ts : List Token} {t : Formula} (h : Derives .sum ts t) :
      Derives .primary (.function f :: .lparen :: (ts ++ [.rparen])) (.call f t .origin)
  | group {ts : List Token} {t : Formula} (h : Derives .sum ts t) :
      Derives .primary (.lparen :: (ts ++ [.rparen])) t
  | power {ts : List Token} {t : Formula} (h : Derives .primary ts t) : Derives .power ts t
  | raise {ts us : List Token} {t u : Formula} (h : Derives .power ts t)
      (h' : Derives .primary us u) :
      Derives .power (ts ++ .operator .pow :: us) (.binary .pow t u .origin)
  | product {ts : List Token} {t : Formula} (h : Derives .power ts t) : Derives .product ts t
  | scale {ts us : List Token} {t u : Formula} {op : Operator} (hop : op = .mul ∨ op = .div)
      (h : Derives .product ts t) (h' : Derives .power us u) :
      Derives .product (ts ++ .operator op :: us) (.binary op t u .origin)
  | sum {ts : List Token} {t : Formula} (h : Derives .product ts t) : Derives .sum ts t
  | shift {ts us : List Token} {t u : Formula} {op : Operator} (hop : op = .add ∨ op = .sub)
      (h : Derives .sum ts t) (h' : Derives .product us u) :
      Derives .sum (ts ++ .operator op :: us) (.binary op t u .origin)
  | comparison {ts : List Token} {t : Formula} (h : Derives .sum ts t) :
      Derives .comparison ts t
  | compare {ts us : List Token} {t u : Formula} {op : Operator}
      (hop : op.isComparison = true) (h : Derives .sum ts t) (h' : Derives .sum us u) :
      Derives .comparison (ts ++ .operator op :: us) (.binary op t u .origin)
  | blank : Derives .line [.eof] .empty
  | statement {ts : List Token} {t : Formula} (h : Derives .comparison ts t) :
      Derives .line (ts ++ [.eof]) t
  | assignment (name : String) {ts : List Token} {t : Formula} (h : Derives .comparison ts t) :
      Derives .line (.ident name :: .assign :: (ts ++ [.eof])) (.assign name t .origin)

end Reckoner
