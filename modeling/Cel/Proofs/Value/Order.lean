import Cel.Proofs.Value.Equal

/-! # Equality and order agree

Equality and order of values are decided in different ways: durations are equal if their parts are,
but ordered by their length, and maps are matched key by key. They agree all the same, for values
whose maps hold each number under one key only and whose durations are normalized. There equality is
transitive, only NaN is not equal to itself, and the order is a strict one in which just the equal
values have the same place.
-/

namespace Cel

/-! ### Orders of single kinds -/

namespace Double

/-- Exact values are ordered, with the two infinities at the ends. -/
instance : Std.TransCmp Extended.compare where
  eq_swap {a b} := (Extended.compare_swap b a).symm
  isLE_trans {a b c} first second := by
    cases a with
    | bottom => cases c <;> rfl
    | top =>
      cases b with
      | top => exact second
      | _ => cases first
    | exact x =>
      cases b with
      | bottom => cases first
      | top =>
        cases c with
        | top => rfl
        | _ => cases second
      | exact y =>
        cases c with
        | bottom => cases second
        | top => rfl
        | exact z =>
          rw [Extended.compare_exact, cmp_isLE_iff] at first second ⊢
          exact first.trans second

/-- Every double but NaN has an exact value. -/
theorem extended?_eq_none_iff {d : Double} : d.extended? = none ↔ d.isNaN = true := by
  unfold extended? isNaN dyadic?
  split <;> simp [*]

end Double

instance : Std.TransCmp Timestamp.compare :=
  inferInstanceAs (Std.TransCmp (compareLex (compareOn fun t : Timestamp => t.seconds.toInt)
    (compareOn fun t => t.nanos.toInt)))

theorem Timestamp.compare_eq_eq_iff {a b : Timestamp} : a.compare b = .eq ↔ a = b := by
  cases a
  cases b
  simp [compare, Ordering.then_eq_eq, Int64.toInt_inj, Int32.toInt_inj]

instance : Std.TransCmp Duration.compare := inferInstanceAs (Std.TransCmp (compareOn Duration.total))

/-- Whether the nanoseconds of a duration are less than a second, and its seconds do not have the
opposite sign. -/
structure Duration.Normalized (d : Duration) : Prop where
  nanos : d.nanos.toInt.natAbs < 1000000000
  notFalling : ¬(0 < d.seconds.toInt ∧ d.nanos.toInt < 0)
  notRising : ¬(d.seconds.toInt < 0 ∧ 0 < d.nanos.toInt)

/-- Normalized durations of the same length are the same. -/
theorem Duration.compare_eq_eq_iff {a b : Duration} (normalized : a.Normalized)
    (normalized' : b.Normalized) : a.compare b = .eq ↔ a = b := by
  obtain ⟨nanos, notFalling, notRising⟩ := normalized
  obtain ⟨nanos', notFalling', notRising'⟩ := normalized'
  have sameParts : a.total = b.total ↔
      a.seconds.toInt = b.seconds.toInt ∧ a.nanos.toInt = b.nanos.toInt := by
    unfold total
    omega
  have sameDuration : a = b ↔ a.seconds = b.seconds ∧ a.nanos = b.nanos := by
    cases a
    cases b
    simp
  rw [compare, Std.compare_eq_iff_eq, sameParts, sameDuration, Int64.toInt_inj, Int32.toInt_inj]

namespace Value

variable {a b c : Value}

/-! ### Order by kinds -/

/-- How two values can be ordered: both are of one kind that has an order of its own, or both are
numbers. -/
inductive Compared : Value → Value → Ordering → Prop where
  | bool {x y : Bool} {order : Ordering} (ordered : Ord.compare x y = order) :
    Compared (bool x) (bool y) order
  | string {x y : String} {order : Ordering} (ordered : Ord.compare x y = order) :
    Compared (string x) (string y) order
  | bytes {x y : List UInt8} {order : Ordering} (ordered : Ord.compare x y = order) :
    Compared (bytes x) (bytes y) order
  | timestamp {x y : Timestamp} {order : Ordering} (ordered : x.compare y = order) :
    Compared (timestamp x) (timestamp y) order
  | duration {x y : Duration} {order : Ordering} (ordered : x.compare y = order) :
    Compared (duration x) (duration y) order
  | number {a b : Value} {x y : Double.Extended} {order : Ordering}
    (left : a.exactValue? = some x) (right : b.exactValue? = some y)
    (ordered : x.compare y = order) : Compared a b order

theorem compareNumbers_eq_some_iff {order : Ordering} :
    compareNumbers a b = some order ↔
      ∃ x y, a.exactValue? = some x ∧ b.exactValue? = some y ∧ x.compare y = order := by
  simp [compareNumbers_eq, Option.bind_eq_some_iff]

theorem compare_eq_some_iff {order : Ordering} :
    a.compare b = some order ↔ Compared a b order := by
  constructor
  · intro compared
    unfold compare at compared
    split at compared
    · exact .bool (Option.some.inj compared)
    · exact .string (Option.some.inj compared)
    · exact .bytes (Option.some.inj compared)
    · exact .timestamp (Option.some.inj compared)
    · exact .duration (Option.some.inj compared)
    · obtain ⟨x, y, left, right, ordered⟩ := compareNumbers_eq_some_iff.mp compared
      exact .number left right ordered
  · intro compared
    cases compared with
    | bool ordered | string ordered | bytes ordered | timestamp ordered | duration ordered =>
      exact congrArg some ordered
    | @number a b x y order left right ordered =>
      have numbers : compareNumbers a b = some order :=
        compareNumbers_eq_some_iff.mpr ⟨x, y, left, right, ordered⟩
      cases a with
      | int | uint | double => simpa [compare] using numbers
      | _ => cases left

theorem swap_of_compare {α : Type} {compare : α → α → Ordering} [Std.OrientedCmp compare] {x y : α}
    {order : Ordering} (ordered : compare x y = order) : compare y x = order.swap := by
  rw [← ordered]
  exact Std.OrientedCmp.eq_swap

/-- The other way round, two values are in the reverse order. -/
theorem Compared.swap {order : Ordering} (compared : Compared a b order) :
    Compared b a order.swap := by
  cases compared with
  | bool ordered => exact .bool (swap_of_compare ordered)
  | string ordered => exact .string (swap_of_compare ordered)
  | bytes ordered => exact .bytes (swap_of_compare ordered)
  | timestamp ordered => exact .timestamp (swap_of_compare ordered)
  | duration ordered => exact .duration (swap_of_compare ordered)
  | number left right ordered => exact .number right left (swap_of_compare ordered)

/-- The order is transitive, also where numbers of different kinds are compared. -/
theorem Compared.lt_trans (first : Compared a b .lt) (second : Compared b c .lt) :
    Compared a c .lt := by
  cases first with
  | bool ordered =>
    cases second with
    | bool ordered' => exact .bool (Std.TransCmp.lt_trans ordered ordered')
    | number left => cases left
  | string ordered =>
    cases second with
    | string ordered' => exact .string (Std.TransCmp.lt_trans ordered ordered')
    | number left => cases left
  | bytes ordered =>
    cases second with
    | bytes ordered' => exact .bytes (Std.TransCmp.lt_trans ordered ordered')
    | number left => cases left
  | timestamp ordered =>
    cases second with
    | timestamp ordered' => exact .timestamp (Std.TransCmp.lt_trans ordered ordered')
    | number left => cases left
  | duration ordered =>
    cases second with
    | duration ordered' => exact .duration (Std.TransCmp.lt_trans ordered ordered')
    | number left => cases left
  | number left middle ordered =>
    cases second with
    | number middle' right ordered' =>
      cases middle.symm.trans middle'
      exact .number left right (Std.TransCmp.lt_trans ordered ordered')
    | _ => cases middle

/-- What equality and order need of a value, regardless of its parts, to agree. -/
def Orderly : Value → Prop
  | map entries => DistinctKeys entries
  | duration d => d.Normalized
  | _ => True

theorem Orderly.keysDistinct (orderly : a.Orderly) : a.KeysDistinct := by
  cases a with
  | map entries => exact orderly
  | _ => trivial

/-- Values that can be ordered have the same place exactly if they are equal. -/
theorem Compared.eq_eq_iff {order : Ordering} (compared : Compared a b order)
    (orderly : a.Orderly) (orderly' : b.Orderly) : order = .eq ↔ a.equal b = true := by
  cases compared with
  | bool ordered => rw [← ordered, Std.compare_eq_iff_eq, equal, beq_iff_eq]
  | string ordered => rw [← ordered, Std.compare_eq_iff_eq, equal, beq_iff_eq]
  | bytes ordered => rw [← ordered, Std.compare_eq_iff_eq, equal, beq_iff_eq]
  | timestamp ordered => rw [← ordered, Timestamp.compare_eq_eq_iff, equal, beq_iff_eq]
  | duration ordered =>
    rw [← ordered, Duration.compare_eq_eq_iff orderly orderly', equal, beq_iff_eq]
  | @number a b x y order left right ordered =>
    rw [← ordered, Double.Extended.compare_eq_eq_iff]
    constructor
    · rintro rfl
      exact equal_iff.mpr (.number left right)
    · intro same
      have compared : compareNumbers a b = some .eq := by
        cases equal_iff.mp same with
        | number left' right' => exact compareNumbers_eq_iff.mpr ⟨_, left', right'⟩
        | _ => cases left
      obtain ⟨z, left', right'⟩ := compareNumbers_eq_iff.mp compared
      cases left.symm.trans left'
      cases right.symm.trans right'
      rfl

/-! ### Transitivity -/

theorem forall₂_trans {α β γ : Type} {r : α → β → Prop} {s : β → γ → Prop} {t : α → γ → Prop}
    {first : List α} {second : List β} {third : List γ} (left : List.Forall₂ r first second)
    (right : List.Forall₂ s second third)
    (compose : ∀ x ∈ first, ∀ y ∈ second, ∀ z ∈ third, r x y → s y z → t x z) :
    List.Forall₂ t first third := by
  induction left generalizing third with
  | nil =>
    cases right
    exact .nil
  | cons here _ ih =>
    cases right with
    | cons here' rest' =>
      refine .cons (compose _ List.mem_cons_self _ List.mem_cons_self _ List.mem_cons_self here here')
        (ih rest' ?_)
      intro x inFirst y inSecond z inThird
      exact compose x (List.mem_cons_of_mem _ inFirst) y (List.mem_cons_of_mem _ inSecond) z
        (List.mem_cons_of_mem _ inThird)

/-- Equality is transitive if it is transitive for the parts, in both directions, and the keys of the
last value are distinct. -/
theorem Equal.trans (first : Equal a b) (second : Equal b c) (distinct : c.KeysDistinct)
    (parts : ∀ x ∈ a.parts, ∀ y ∈ b.parts, ∀ z ∈ c.parts,
      (x.equal y = true → y.equal z = true → x.equal z = true) ∧
        (z.equal y = true → y.equal x = true → z.equal x = true)) : Equal a c := by
  cases first with
  | null | bool | string | bytes | timestamp | duration | unknown => exact second
  | number left middle =>
    cases second with
    | number middle' right =>
      cases middle.symm.trans middle'
      exact .number left right
    | _ => cases middle
  | list each =>
    cases second with
    | list each' => exact .list (forall₂_trans each each' fun x hx y hy z hz => (parts x hx y hy z hz).1)
    | number left => cases left
  | @map entries stored size each =>
    cases second with
    | @map _ others size' each' =>
      refine .map (size.trans size') fun entry member => ?_
      -- The counterpart of an entry has a key that stands for the same, and so has its counterpart.
      obtain ⟨found, lookup, equal⟩ := each entry member
      obtain ⟨key, inStored, same⟩ := exists_mem_of_lookup? lookup
      obtain ⟨found', lookup', equal'⟩ := each' (key, found) inStored
      obtain ⟨key', inOthers, same'⟩ := exists_mem_of_lookup? lookup'
      have counterpart : (ofKey entry.1).lookup? others = some found' :=
        DistinctKeys.lookup?_eq_some_iff distinct |>.mpr ⟨key', inOthers, same'.trans same⟩
      have compose := parts entry.2 (List.mem_map_of_mem member) found
        (List.mem_map_of_mem inStored) found' (List.mem_map_of_mem inOthers)
      exact ⟨found', counterpart, compose.2 equal' equal⟩
    | number left => cases left
  | struct each =>
    cases second with
    | struct each' =>
      refine .struct (forall₂_trans each each' ?_)
      rintro x hx y hy z hz ⟨sameName, equal⟩ ⟨sameName', equal'⟩
      have compose := parts x.2 (List.mem_map_of_mem hx) y.2 (List.mem_map_of_mem hy) z.2
        (List.mem_map_of_mem hz)
      exact ⟨sameName.trans sameName', compose.1 equal equal'⟩
    | number left => cases left

/-- By induction on the first value, since an entry of a map is compared the other way round. -/
theorem equal_trans_both (distinct : Everywhere KeysDistinct a) (distinct' : Everywhere KeysDistinct b)
    (distinct'' : Everywhere KeysDistinct c) :
    (a.equal b = true → b.equal c = true → a.equal c = true) ∧
      (c.equal b = true → b.equal a = true → c.equal a = true) := by
  induction distinct generalizing b c with
  | @intro a here inside ih =>
    have parts : ∀ x ∈ a.parts, ∀ y ∈ b.parts, ∀ z ∈ c.parts, _ := fun x hx y hy z hz =>
      ih x hx (distinct'.inside y hy) (distinct''.inside z hz)
    simp only [equal_iff]
    constructor
    · intro first second
      exact first.trans second distinct''.here parts
    · intro first second
      exact first.trans second here fun z hz y hy x hx => (parts x hx y hy z hz).symm

/-! ### Reflexivity -/

/-- Whether a value is not the double NaN. -/
def NotNaN : Value → Prop
  | double d => d.isNaN = false
  | _ => True

theorem equal_self_iff_parts (distinct : a.KeysDistinct) :
    a.equal a = true ↔ a.NotNaN ∧ ∀ part ∈ a.parts, part.equal part = true := by
  cases a with
  | null | bool | string | bytes | timestamp | duration | unknown => simp [equal, NotNaN, parts]
  | int | uint => simp [equal, NotNaN, parts, compareNumbers_eq_iff, exactValue?]
  | double d =>
    have exact : (∃ x, d.extended? = some x) ↔ d.isNaN = false := by
      rw [← Option.isSome_iff_exists, Option.isSome_iff_ne_none, ne_eq, Double.extended?_eq_none_iff,
        Bool.not_eq_true]
    simp [equal, NotNaN, parts, compareNumbers_eq_iff, exactValue?, exact]
  | list items => simp [equal, NotNaN, parts, equalItems_iff, List.forall₂_same]
  | map entries =>
    have found : ∀ entry ∈ entries, (ofKey entry.1).lookup? entries = some entry.2 :=
      fun entry member => DistinctKeys.lookup?_eq_some_iff distinct |>.mpr ⟨entry.1, member, rfl⟩
    have each : equalEntries entries entries = true ↔
        ∀ entry ∈ entries, entry.2.equal entry.2 = true := by
      rw [equalEntries_iff]
      refine forall₂_congr fun entry member => ?_
      simp [found entry member]
    simp only [equal, beq_self_eq_true, Bool.true_and, each, NotNaN, true_and, parts,
      List.forall_mem_map]
  | struct name fields =>
    simp only [equal, beq_self_eq_true, Bool.true_and, equalFields_iff, List.forall₂_same, true_and,
      NotNaN, parts, List.forall_mem_map]

/-- A value is equal to itself exactly if no NaN stands anywhere in it. -/
theorem equal_self_iff (distinct : Everywhere KeysDistinct a) :
    a.equal a = true ↔ Everywhere NotNaN a := by
  induction distinct with
  | @intro a here inside ih =>
    rw [equal_self_iff_parts here]
    constructor
    · rintro ⟨notNaN, each⟩
      exact .intro notNaN fun part member => (ih part member).mp (each part member)
    · intro everywhere
      exact ⟨everywhere.here, fun part member => (ih part member).mpr (everywhere.inside part member)⟩

/-! ### Equality and order -/

/-- Where maps hold each number under one key only and durations are normalized, equality is
transitive, only values with NaN inside are not equal to themselves, values that can be ordered have
the same place exactly if they are equal, the order turns round with its sides, and it is
transitive. -/
theorem equal_compare_coherent (orderly : Everywhere Orderly a) (orderly' : Everywhere Orderly b)
    (orderly'' : Everywhere Orderly c) :
    (a.equal b = true → b.equal c = true → a.equal c = true) ∧
      (a.equal a = true ↔ Everywhere NotNaN a) ∧
      (∀ order, a.compare b = some order →
        (order = .eq ↔ a.equal b = true) ∧ b.compare a = some order.swap) ∧
      (a.compare b = some .lt → b.compare c = some .lt → a.compare c = some .lt) := by
  have distinct {value : Value} (orderly : Everywhere Orderly value) :
      Everywhere KeysDistinct value := orderly.mono fun _ => Orderly.keysDistinct
  refine ⟨(equal_trans_both (distinct orderly) (distinct orderly') (distinct orderly'')).1,
    equal_self_iff (distinct orderly), ?_, ?_⟩
  · intro order compared
    rw [compare_eq_some_iff] at compared ⊢
    exact ⟨compared.eq_eq_iff orderly.here orderly'.here, compared.swap⟩
  · simp only [compare_eq_some_iff]
    exact Compared.lt_trans

/-- Maps whose keys and numbers are of different kinds, and numbers between which a double of the same
size could not tell. -/
theorem equal_compare_coherent_mixed :
    (∃ a b c : Value, a = map [(.int 1, list [int 2])] ∧
      b = map [(.uint 1, list [double ⟨0x4000000000000000⟩])] ∧ c = map [(.int 1, list [uint 2])] ∧
      Everywhere Orderly a ∧ Everywhere Orderly b ∧ Everywhere Orderly c ∧
      a.equal b = true ∧ b.equal c = true ∧ a.equal c = true ∧ Everywhere NotNaN a) ∧
    ∃ a b c : Value, a = int 0x20000000000000 ∧ b = uint 0x20000000000001 ∧
      c = double ⟨0x4340000000000001⟩ ∧ a.compare b = some .lt ∧ b.compare c = some .lt ∧
      a.compare c = some .lt ∧ b.compare a = some .gt ∧ a.equal b = false := by
  have number (n : Value) (flat : n.parts = []) (here : n.Orderly) : Everywhere Orderly n :=
    .of_parts_eq_nil here flat
  have nested (key : MapKey) (n : Value) (flat : n.parts = []) (here : n.Orderly) :
      Everywhere Orderly (map [(key, list [n])]) := by
    have inList : Everywhere Orderly (list [n]) :=
      .intro trivial (List.forall_mem_singleton.mpr (number n flat here))
    exact .intro (List.nodup_singleton _) (List.forall_mem_singleton.mpr inList)
  constructor
  · have orderly := nested (.int 1) (int 2) rfl trivial
    have orderly' := nested (.uint 1) (double ⟨0x4000000000000000⟩) rfl trivial
    have orderly'' := nested (.int 1) (uint 2) rfl trivial
    obtain ⟨compose, reflexive, -⟩ := equal_compare_coherent orderly orderly' orderly''
    have first : (map [(.int 1, list [int 2])]).equal
        (map [(.uint 1, list [double ⟨0x4000000000000000⟩])]) = true := by decide +kernel
    have second : (map [(.uint 1, list [double ⟨0x4000000000000000⟩])]).equal
        (map [(.int 1, list [uint 2])]) = true := by decide +kernel
    have itself : (map [(.int 1, list [int 2])]).equal (map [(.int 1, list [int 2])]) = true := by
      decide +kernel
    exact ⟨_, _, _, rfl, rfl, rfl, orderly, orderly', orderly'', first, second,
      compose first second, reflexive.mp itself⟩
  · obtain ⟨-, -, ordered, compose⟩ := equal_compare_coherent
      (number (int 0x20000000000000) rfl trivial) (number (uint 0x20000000000001) rfl trivial)
      (number (double ⟨0x4340000000000001⟩) rfl trivial)
    have first : (int 0x20000000000000).compare (uint 0x20000000000001) = some .lt := by
      decide +kernel
    have second : (uint 0x20000000000001).compare (double ⟨0x4340000000000001⟩) = some .lt := by
      decide +kernel
    obtain ⟨samePlace, swapped⟩ := ordered .lt first
    have different := mt samePlace.mpr nofun
    exact ⟨_, _, _, rfl, rfl, rfl, first, second, compose first second, swapped,
      Bool.eq_false_iff.mpr different⟩

end Value

end Cel
