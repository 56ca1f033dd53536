import LspHost.Number.Binary64
import LspHost.Value.Moment

/-!
# Configuration values

Configuration is not typed when it is read: a setting keeps whatever value its source gave it. This
module has the values, their truth, the items that a value can be spread into, and the equality
under which `true`, `1` and `1.0` are the same.
-/

namespace LspHost

/-- A value of a configuration source, a request or an answer. -/
inductive Value where
  /-- no value -/
  | null
  /-- a truth value -/
  | bool (b : Bool)
  /-- an integer of any size -/
  | int (n : Int)
  /-- a number with a fraction -/
  | float (x : Binary64)
  /-- a text -/
  | string (s : String)
  /-- a list -/
  | list (items : List Value)
  /-- a table: keys in the order of their insertion, no key twice -/
  | table (entries : List (String × Value))
  /-- a date or a time -/
  | moment (m : Moment)
  deriving Inhabited

/-- The entries of a table in the order of insertion. -/
abbrev Table := List (String × Value)

/-! ## Equality of values as data -/

mutual

/-- Decides whether two values are identical. -/
def Value.decEq : (a b : Value) → Decidable (a = b)
  | .null, .null => isTrue rfl
  | .bool a, .bool b => decidable_of_iff (a = b) (by simp)
  | .int a, .int b => decidable_of_iff (a = b) (by simp)
  | .float a, .float b => decidable_of_iff (a = b) (by simp)
  | .string a, .string b => decidable_of_iff (a = b) (by simp)
  | .moment a, .moment b => decidable_of_iff (a = b) (by simp)
  | .list a, .list b => have := Value.decEqList a b; decidable_of_iff (a = b) (by simp)
  | .table a, .table b => have := Value.decEqTable a b; decidable_of_iff (a = b) (by simp)
  | .null, .bool _ | .null, .int _ | .null, .float _ | .null, .string _ | .null, .list _
  | .null, .table _ | .null, .moment _ => isFalse (by simp)
  | .bool _, .null | .bool _, .int _ | .bool _, .float _ | .bool _, .string _ | .bool _, .list _
  | .bool _, .table _ | .bool _, .moment _ => isFalse (by simp)
  | .int _, .null | .int _, .bool _ | .int _, .float _ | .int _, .string _ | .int _, .list _
  | .int _, .table _ | .int _, .moment _ => isFalse (by simp)
  | .float _, .null | .float _, .bool _ | .float _, .int _ | .float _, .string _
  | .float _, .list _ | .float _, .table _ | .float _, .moment _ => isFalse (by simp)
  | .string _, .null | .string _, .bool _ | .string _, .int _ | .string _, .float _
  | .string _, .list _ | .string _, .table _ | .string _, .moment _ => isFalse (by simp)
  | .list _, .null | .list _, .bool _ | .list _, .int _ | .list _, .float _ | .list _, .string _
  | .list _, .table _ | .list _, .moment _ => isFalse (by simp)
  | .table _, .null | .table _, .bool _ | .table _, .int _ | .table _, .float _
  | .table _, .string _ | .table _, .list _ | .table _, .moment _ => isFalse (by simp)
  | .moment _, .null | .moment _, .bool _ | .moment _, .int _ | .moment _, .float _
  | .moment _, .string _ | .moment _, .list _ | .moment _, .table _ => isFalse (by simp)

/-- Decides whether two lists of values are identical. -/
def Value.decEqList : (a b : List Value) → Decidable (a = b)
  | [], [] => isTrue rfl
  | [], _ :: _ | _ :: _, [] => isFalse (by simp)
  | x :: xs, y :: ys =>
    have := Value.decEq x y
    have := Value.decEqList xs ys
    decidable_of_iff (x = y ∧ xs = ys) (by simp)

/-- Decides whether two tables are identical. -/
def Value.decEqTable : (a b : List (String × Value)) → Decidable (a = b)
  | [], [] => isTrue rfl
  | [], _ :: _ | _ :: _, [] => isFalse (by simp)
  | (j, x) :: xs, (k, y) :: ys =>
    have := Value.decEq x y
    have := Value.decEqTable xs ys
    decidable_of_iff ((j = k ∧ x = y) ∧ xs = ys) (by simp)

end

instance : DecidableEq Value := Value.decEq

/-! ## Tables -/

namespace Table

/-- The value of a key. -/
def find? (key : String) : Table → Option Value
  | [] => none
  | (k, v) :: rest => if k = key then some v else find? key rest

/-- Gives a key a value: in its place if the key is there, at the end otherwise. -/
def insert (key : String) (value : Value) : Table → Table
  | [] => [(key, value)]
  | (k, v) :: rest =>
    if k = key then (key, value) :: rest else (k, v) :: insert key value rest

/-- The keys in order. -/
def keys (t : Table) : List String := t.map Prod.fst

/-- The table that a list of pairs describes; a repeated key keeps its first position and takes its
last value. -/
def ofPairs (pairs : List (String × Value)) : Table :=
  pairs.foldl (fun t pair => t.insert pair.1 pair.2) []

/-- **A key that was just written is read back.** -/
@[simp]
theorem find?_insert_self (key : String) (value : Value) (t : Table) :
    (t.insert key value).find? key = some value := by
  induction t with
  | nil => simp [insert, find?]
  | cons entry rest ih =>
    obtain ⟨k, v⟩ := entry
    by_cases h : k = key <;> simp [insert, find?, h, ih]

/-- **Writing a key leaves every other key alone.** -/
theorem find?_insert_of_ne {key other : String} (h : other ≠ key) (value : Value) (t : Table) :
    (t.insert key value).find? other = t.find? other := by
  induction t with
  | nil => simp [insert, find?, h.symm]
  | cons entry rest ih =>
    obtain ⟨k, v⟩ := entry
    by_cases hk : k = key
    · subst hk
      simp [insert, find?, h.symm]
    · simp [insert, find?, hk, ih]

end Table

namespace Value

/-! ## Truth -/

/-- Whether a value counts as given: zeros, empty texts, lists and tables, `false` and `null` do
not. -/
def isTruthy : Value → Bool
  | .null => false
  | .bool b => b
  | .int n => n ≠ 0
  | .float x => !x.isZero
  | .string s => !s.isEmpty
  | .list items => !items.isEmpty
  | .table entries => !entries.isEmpty
  | .moment _ => true

/-- A value, or another one in place of a value that does not count as given. -/
def orElse (value other : Value) : Value :=
  if value.isTruthy then value else other

/-- A value that counts as given. -/
def given? (value : Value) : Option Value :=
  if value.isTruthy then some value else none

/-- The text of a textual value. -/
def string? : Value → Option String
  | .string s => some s
  | _ => none

/-! ## Items -/

/-- The items that a value is spread into: of a list its items, of a text its characters, of a table
its keys. Other values have none. -/
def items? : Value → Option (List Value)
  | .list items => some items
  | .string s => some (s.toList.map fun c => .string (String.singleton c))
  | .table entries => some (entries.map fun entry => .string entry.1)
  | _ => none

/-! ## Equality as numbers, texts and mappings -/

/-- A value that counts as a number; truth values count as 0 and 1. -/
inductive Numeral where
  /-- an integer -/
  | whole (n : Int)
  /-- a number with a fraction -/
  | fraction (x : Binary64)

/-- The number that a value counts as. -/
def numeral? : Value → Option Numeral
  | .bool b => some (.whole (if b then 1 else 0))
  | .int n => some (.whole n)
  | .float x => some (.fraction x)
  | _ => none

/-- Whether two numbers are equal, whatever their form. -/
def Numeral.same : Numeral → Numeral → Bool
  | .whole a, .whole b => a == b
  | .whole a, .fraction b => b.sameInt a
  | .fraction a, .whole b => a.sameInt b
  | .fraction a, .fraction b => a.same b

mutual

/-- Whether two values are equal as numbers, texts, lists of equal values, or mappings; the order of
the keys of a mapping does not matter. -/
def alike : Value → Value → Bool
  | .null, .null => true
  | .string a, .string b => a == b
  | .moment a, .moment b => a.same b
  | .list a, .list b => alikeList a b
  | .table a, .table b => a.length == b.length && alikeTable a b
  | a, b =>
    match numeral? a, numeral? b with
    | some m, some n => m.same n
    | _, _ => false

/-- Whether two lists have equal values at each position. -/
def alikeList : List Value → List Value → Bool
  | [], [] => true
  | a :: as, b :: bs => alike a b && alikeList as bs
  | _, _ => false

/-- Whether each key of the first table has an equal value in the second. -/
def alikeTable : List (String × Value) → Table → Bool
  | [], _ => true
  | (key, a) :: rest, other =>
    (match other.find? key with
      | some b => alike a b
      | none => false) && alikeTable rest other

end

example : alike (.bool true) (.float (.ofRatio false 1 1)) = true := by decide +kernel

end Value

end LspHost
