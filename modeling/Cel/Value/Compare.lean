import Cel.Value

/-! # Equality and order of values

Numbers of all three kinds are compared without rounding: an integer and a double by the whole part
of the double first, and by its fraction if that is the same. Maps are equal when they have equally
many entries and every entry of the first finds an equal value in the second. Other values are equal
only to values of their own kind. Booleans, strings, bytes, timestamps, durations and numbers are
ordered.
-/

namespace Cel.Value

open Double (Extended)

/-- The exact value of a number. NaN has none. -/
def exactValue? : Value → Option Extended
  | int value => some (.exact (Dyadic.ofInt value.toInt))
  | uint value => some (.exact (Dyadic.ofInt value.toNat))
  | double value => value.extended?
  | _ => none

/-- The order of a signed and an unsigned integer. -/
def compareMixed (n : Int64) (m : UInt64) : Ordering :=
  match Number.uint64? n.toInt with
  | some n => Ord.compare n m
  | none => .lt

/-- The order of an integer and a double, unless that is NaN. The integer is one of the words from
`least` up to but not including `bound`. -/
def compareWord (least bound n : Int) (d : Double) : Option Ordering :=
  if d.isNaN then none
  else if (d.compare? (.ofInt bound)).any Ordering.isGE then some .lt
  else if (d.compare? (.ofInt least)).any Ordering.isLT then some .gt
  else
    match Ord.compare n (d.trunc.clamp least (bound - 1)) with
    | .eq => (Double.zero false).compare? (d.sub d.trunc)
    | order => some order

def compareSigned (n : Int64) (d : Double) : Option Ordering :=
  compareWord (-0x8000000000000000) 0x8000000000000000 n.toInt d

def compareUnsigned (n : UInt64) (d : Double) : Option Ordering :=
  compareWord 0 0x10000000000000000 n.toNat d

/-- The order of two numbers, unless one of them is NaN. -/
def compareNumbers : Value → Value → Option Ordering
  | int a, int b => some (Ord.compare a b)
  | uint a, uint b => some (Ord.compare a b)
  | double a, double b => a.compare? b
  | int a, uint b => some (compareMixed a b)
  | uint a, int b => some (compareMixed b a).swap
  | int a, double b => compareSigned a b
  | double a, int b => (compareSigned b a).map Ordering.swap
  | uint a, double b => compareUnsigned a b
  | double a, uint b => (compareUnsigned b a).map Ordering.swap
  | _, _ => none

/-- What a key finds is smaller than the map it is found in. -/
theorem sizeOf_lt_of_lookup? {key value : Value} {entries : List (MapKey × Value)}
    (found : key.lookup? entries = some value) : sizeOf value < sizeOf entries := by
  obtain ⟨candidate, -, found⟩ := List.exists_of_findSome?_eq_some found
  obtain ⟨stored, member⟩ := Entries.mem_of_find? found
  have := List.sizeOf_lt_of_mem member
  simp only [Prod.mk.sizeOf_spec] at this
  omega

mutual

/-- Whether two values are equal. -/
def equal (a b : Value) : Bool :=
  match a, b with
  | null, null => true
  | bool a, bool b => a == b
  | string a, string b => a == b
  | bytes a, bytes b => a == b
  | list a, list b => equalItems a b
  | map a, map b => a.length == b.length && equalEntries a b
  | struct name a, struct other b => name == other && equalFields a b
  | timestamp a, timestamp b => a == b
  | duration a, duration b => a == b
  | unknown a, unknown b => a == b
  | a, b => compareNumbers a b == some .eq
termination_by sizeOf a + sizeOf b

def equalItems (a b : List Value) : Bool :=
  match a, b with
  | [], [] => true
  | first :: rest, first' :: rest' => equal first first' && equalItems rest rest'
  | _, _ => false
termination_by sizeOf a + sizeOf b

/-- Whether each of the entries has an equal one in a map. The value in the map is compared with the
value of the entry, in this order. -/
def equalEntries (entries stored : List (MapKey × Value)) : Bool :=
  match entries with
  | [] => true
  | (key, value) :: rest =>
    (match _ : (ofKey key).lookup? stored with
      | some found => equal found value
      | none => false) && equalEntries rest stored
termination_by sizeOf entries + sizeOf stored
decreasing_by
  · have := sizeOf_lt_of_lookup? ‹_›
    simp only [List.cons.sizeOf_spec, Prod.mk.sizeOf_spec]
    omega
  · simp only [List.cons.sizeOf_spec, Prod.mk.sizeOf_spec]
    omega

def equalFields (a b : List (String × Value)) : Bool :=
  match a, b with
  | [], [] => true
  | (name, value) :: rest, (name', value') :: rest' =>
    name == name' && equal value value' && equalFields rest rest'
  | _, _ => false
termination_by sizeOf a + sizeOf b

end

/-- The order of two values, if they can be ordered. -/
def compare : Value → Value → Option Ordering
  | bool a, bool b => some (Ord.compare a b)
  | string a, string b => some (Ord.compare a b)
  | bytes a, bytes b => some (Ord.compare a b)
  | timestamp a, timestamp b => some (a.compare b)
  | duration a, duration b => some (a.compare b)
  | a, b => compareNumbers a b

end Cel.Value
