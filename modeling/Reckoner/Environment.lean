import Reckoner.Value
import Std.Data.ExtTreeMap

/-!
Variables, one table for each user.

A table starts out with a few names for every user; it comes into being when the
user is first met.

* `UserId`: a user, possibly without a number;
* `Table`: the variables of one user, with `Table.seeded`, `Table.get?`,
  `Table.set`, `Table.bindings`;
* `isSeeded`: whether a name is one that tables start out with;
* `Environment`: the tables of all users, with `Environment.table?`,
  `Environment.ensure`, `Environment.put`.
-/

namespace Reckoner

/-! ### Users -/

/-- A user: anonymous, or known by a number. -/
inductive UserId where
  | anonymous
  | id (number : Nat)
deriving DecidableEq

namespace UserId

/-- The place of a user in their order: anonymous first, then by number. -/
def rank : UserId → Nat
  | anonymous => 0
  | id number => number + 1

/-- How a user is named. -/
def text : UserId → String
  | anonymous => "anonymous"
  | id number => toString number

/-- Users at the same place are the same user. -/
theorem rank_injective {a b : UserId} (h : a.rank = b.rank) : a = b := by
  cases a <;> cases b <;> simp [rank] at h ⊢
  exact h

instance : Ord UserId where
  compare a b := compare a.rank b.rank

instance : Std.TransOrd UserId where
  eq_swap := by
    intro a b
    exact @Std.OrientedCmp.eq_swap Nat compare _ a.rank b.rank
  isLE_trans := by
    intro a b c
    exact @Std.TransCmp.isLE_trans Nat compare _ a.rank b.rank c.rank

instance : Std.LawfulEqOrd UserId where
  eq_of_compare := by
    intro a b h
    exact rank_injective
      (@Std.LawfulEqCmp.eq_of_compare Nat compare _ a.rank b.rank h)
  compare_self := by
    intro a
    exact @Std.ReflCmp.compare_self Nat compare _ a.rank

end UserId

/-! ### Tables -/

/-- The name that is bound to the number of a known user. -/
def idName : String := "id"

/-- The constants that every table starts out with. -/
def constants : List (String × Int) := [("k", 1000), ("m", 1000000)]

/-- Whether a name is one that tables start out with. -/
def isSeeded (name : String) : Bool :=
  name == idName || constants.any fun c => c.1 == name

/-- The variables of one user. -/
abbrev Table : Type := Std.ExtTreeMap String Value

namespace Table

/-- The value of a variable. -/
def get? (t : Table) (name : String) : Option Value := t[name]?

/-- Gives a variable a value. -/
def set (t : Table) (name : String) (value : Value) : Table :=
  t.insert name value

/-- The table that a user starts out with. -/
def seeded (user : UserId) : Table :=
  let table : Table :=
    constants.foldl (fun t c => set t c.1 (.integer c.2)) ∅
  match user with
  | .anonymous => table
  | .id number => set table idName (.integer number)

/-- The variables and their values, sorted by name. -/
def bindings (t : Table) : List (String × Value) := t.toList

end Table

/-! ### The tables of all users -/

/-- The tables of the users met so far. -/
abbrev Environment : Type := Std.ExtTreeMap UserId Table

namespace Environment

/-- The environment in which no user has been met. -/
def empty : Environment := ∅

/-- The table of a user who has been met. -/
def table? (env : Environment) (user : UserId) : Option Table := env[user]?

/-- The table of a user, the one they start out with if they are new. -/
def tableOf (env : Environment) (user : UserId) : Table :=
  (env.table? user).getD (.seeded user)

/-- Replaces the table of a user. -/
def put (env : Environment) (user : UserId) (table : Table) : Environment :=
  env.insert user table

/-- Makes sure that a user has a table. -/
def ensure (env : Environment) (user : UserId) : Environment :=
  env.put user (env.tableOf user)

/-- The users met so far and their tables, anonymous first and then by number. -/
def tables (env : Environment) : List (UserId × Table) := env.toList

end Environment

end Reckoner
