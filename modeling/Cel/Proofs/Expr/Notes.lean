import Cel.Proofs.Expr.Numbering
import Cel.Proofs.Expr.Shape

/-! # Other notes on a tree

The notes of a tree can be exchanged for others without touching anything else. Changing them twice is
changing them once, and a tree whose spans are moved is numbered as before.
-/

namespace Cel

/-- The mark with a greater number and another span. -/
def Mark.moved (ids : Nat) (f : Span → Span) (mark : Mark) : Mark := ⟨mark.id + ids, f mark.span⟩

namespace Expr

variable {α β γ : Type}

mutual

/-- The tree with every note replaced. -/
def mapNotes (f : α → β) : Expr α → Expr β
  | constant note value => constant (f note) value
  | ident note name => ident (f note) name
  | rootIdent note name => rootIdent (f note) name
  | list note items => list (f note) (mapNotesOfAll f items)
  | map note entries => map (f note) (mapNotesOfEntries f entries)
  | unary note op operand => unary (f note) op (operand.mapNotes f)
  | binary note op left right => binary (f note) op (left.mapNotes f) (right.mapNotes f)
  | ternary note condition yes no =>
    ternary (f note) (condition.mapNotes f) (yes.mapNotes f) (no.mapNotes f)
  | member note operand field => member (f note) (operand.mapNotes f) field
  | index note operand position => index (f note) (operand.mapNotes f) (position.mapNotes f)
  | call note callee args => call (f note) (callee.mapNotes f) (mapNotesOfAll f args)
  | struct note typeName fields => struct (f note) (typeName.mapNotes f) (mapNotesOfFields f fields)

def mapNotesOfAll (f : α → β) : List (Expr α) → List (Expr β)
  | [] => []
  | e :: rest => e.mapNotes f :: mapNotesOfAll f rest

def mapNotesOfEntries (f : α → β) : List (Expr α × Expr α) → List (Expr β × Expr β)
  | [] => []
  | (key, value) :: rest => (key.mapNotes f, value.mapNotes f) :: mapNotesOfEntries f rest

def mapNotesOfFields (f : α → β) : List (String × Expr α) → List (String × Expr β)
  | [] => []
  | (field, e) :: rest => (field, e.mapNotes f) :: mapNotesOfFields f rest

end

theorem mapNotesOfAll_eq_map (f : α → β) (items : List (Expr α)) :
    mapNotesOfAll f items = items.map (mapNotes f) := by
  induction items with
  | nil => rfl
  | cons e rest ih => rw [mapNotesOfAll, ih, List.map_cons]

theorem mapNotesOfEntries_eq_map (f : α → β) (entries : List (Expr α × Expr α)) :
    mapNotesOfEntries f entries = entries.map (Prod.map (mapNotes f) (mapNotes f)) := by
  induction entries with
  | nil => rfl
  | cons entry rest ih =>
    rw [mapNotesOfEntries, ih, List.map_cons]
    rfl

theorem mapNotesOfFields_eq_map (f : α → β) (fields : List (String × Expr α)) :
    mapNotesOfFields f fields = fields.map (Prod.map id (mapNotes f)) := by
  induction fields with
  | nil => rfl
  | cons field rest ih =>
    rw [mapNotesOfFields, ih, List.map_cons]
    rfl

section

variable (f : α → β)

@[simp] theorem note_mapNotes (e : Expr α) : (e.mapNotes f).note = f e.note := by
  cases e <;> rfl

@[simp] theorem isCallee_mapNotes (e : Expr α) : (e.mapNotes f).isCallee = e.isCallee := by
  cases e <;> rfl

@[simp] theorem isTypeName_mapNotes (e : Expr α) : (e.mapNotes f).isTypeName = e.isTypeName := by
  cases e <;> rfl

mutual

@[simp] theorem shape_mapNotes : ∀ e : Expr α, (e.mapNotes f).shape = e.shape
  | constant .. | ident .. | rootIdent .. => rfl
  | list _ items => by simp only [mapNotes, shape, shapeOfAll_mapNotes items]
  | map _ entries => by simp only [mapNotes, shape, shapeOfEntries_mapNotes entries]
  | unary _ _ operand | member _ operand _ => by simp only [mapNotes, shape, shape_mapNotes operand]
  | binary _ _ left right => by simp only [mapNotes, shape, shape_mapNotes left, shape_mapNotes right]
  | ternary _ condition yes no => by
    simp only [mapNotes, shape, shape_mapNotes condition, shape_mapNotes yes, shape_mapNotes no]
  | index _ operand position => by
    simp only [mapNotes, shape, shape_mapNotes operand, shape_mapNotes position]
  | call _ callee args => by
    simp only [mapNotes, shape, shape_mapNotes callee, shapeOfAll_mapNotes args]
  | struct _ typeName fields => by
    simp only [mapNotes, shape, shape_mapNotes typeName, shapeOfFields_mapNotes fields]

theorem shapeOfAll_mapNotes :
    ∀ items : List (Expr α), shapeOfAll (mapNotesOfAll f items) = shapeOfAll items
  | [] => rfl
  | e :: rest => by simp only [mapNotesOfAll, shapeOfAll, shape_mapNotes e, shapeOfAll_mapNotes rest]

theorem shapeOfEntries_mapNotes : ∀ entries : List (Expr α × Expr α),
    shapeOfEntries (mapNotesOfEntries f entries) = shapeOfEntries entries
  | [] => rfl
  | (key, value) :: rest => by
    simp only [mapNotesOfEntries, shapeOfEntries, shape_mapNotes key, shape_mapNotes value,
      shapeOfEntries_mapNotes rest]

theorem shapeOfFields_mapNotes : ∀ fields : List (String × Expr α),
    shapeOfFields (mapNotesOfFields f fields) = shapeOfFields fields
  | [] => rfl
  | (_, e) :: rest => by
    simp only [mapNotesOfFields, shapeOfFields, shape_mapNotes e, shapeOfFields_mapNotes rest]

end

@[simp] theorem height_mapNotes (e : Expr α) : (e.mapNotes f).height = e.height := by
  rw [← height_shape, shape_mapNotes, height_shape]

end

mutual

/-- The number of nodes depends on nothing but the shape. -/
theorem size_shape : ∀ e : Expr α, e.shape.size = e.size
  | constant .. | ident .. | rootIdent .. => rfl
  | list _ items => by simp only [shape, size, sizeOfAll_shape items]
  | map _ entries => by simp only [shape, size, sizeOfEntries_shape entries]
  | unary _ _ operand | member _ operand _ => by simp only [shape, size, size_shape operand]
  | binary _ _ left right => by simp only [shape, size, size_shape left, size_shape right]
  | ternary _ condition yes no => by
    simp only [shape, size, size_shape condition, size_shape yes, size_shape no]
  | index _ operand position => by simp only [shape, size, size_shape operand, size_shape position]
  | call _ callee args => by simp only [shape, size, size_shape callee, sizeOfAll_shape args]
  | struct _ typeName fields => by simp only [shape, size, size_shape typeName, sizeOfFields_shape fields]

theorem sizeOfAll_shape : ∀ items : List (Expr α), sizeOfAll (shapeOfAll items) = sizeOfAll items
  | [] => rfl
  | e :: rest => by simp only [shapeOfAll, sizeOfAll, size_shape e, sizeOfAll_shape rest]

theorem sizeOfEntries_shape :
    ∀ entries : List (Expr α × Expr α), sizeOfEntries (shapeOfEntries entries) = sizeOfEntries entries
  | [] => rfl
  | (key, value) :: rest => by
    simp only [shapeOfEntries, sizeOfEntries, size_shape key, size_shape value, sizeOfEntries_shape rest]

theorem sizeOfFields_shape :
    ∀ fields : List (String × Expr α), sizeOfFields (shapeOfFields fields) = sizeOfFields fields
  | [] => rfl
  | (_, e) :: rest => by
    simp only [shapeOfFields, sizeOfFields, size_shape e, sizeOfFields_shape rest]

end

@[simp] theorem size_mapNotes (f : α → β) (e : Expr α) : (e.mapNotes f).size = e.size := by
  rw [← size_shape, shape_mapNotes, size_shape]

mutual

@[simp] theorem mapNotes_id : ∀ e : Expr α, e.mapNotes id = e
  | constant .. | ident .. | rootIdent .. => rfl
  | list _ items => by simp only [mapNotes, id_eq, mapNotesOfAll_id items]
  | map _ entries => by simp only [mapNotes, id_eq, mapNotesOfEntries_id entries]
  | unary _ _ operand | member _ operand _ => by simp only [mapNotes, id_eq, mapNotes_id operand]
  | binary _ _ left right => by simp only [mapNotes, id_eq, mapNotes_id left, mapNotes_id right]
  | ternary _ condition yes no => by
    simp only [mapNotes, id_eq, mapNotes_id condition, mapNotes_id yes, mapNotes_id no]
  | index _ operand position => by simp only [mapNotes, id_eq, mapNotes_id operand, mapNotes_id position]
  | call _ callee args => by simp only [mapNotes, id_eq, mapNotes_id callee, mapNotesOfAll_id args]
  | struct _ typeName fields => by
    simp only [mapNotes, id_eq, mapNotes_id typeName, mapNotesOfFields_id fields]

theorem mapNotesOfAll_id : ∀ items : List (Expr α), mapNotesOfAll id items = items
  | [] => rfl
  | e :: rest => by simp only [mapNotesOfAll, mapNotes_id e, mapNotesOfAll_id rest]

theorem mapNotesOfEntries_id : ∀ entries : List (Expr α × Expr α), mapNotesOfEntries id entries = entries
  | [] => rfl
  | (key, value) :: rest => by
    simp only [mapNotesOfEntries, mapNotes_id key, mapNotes_id value, mapNotesOfEntries_id rest]

theorem mapNotesOfFields_id : ∀ fields : List (String × Expr α), mapNotesOfFields id fields = fields
  | [] => rfl
  | (_, e) :: rest => by simp only [mapNotesOfFields, mapNotes_id e, mapNotesOfFields_id rest]

end

section

variable (f : α → β) (g : β → γ)

mutual

theorem mapNotes_mapNotes : ∀ e : Expr α, (e.mapNotes f).mapNotes g = e.mapNotes (g ∘ f)
  | constant .. | ident .. | rootIdent .. => rfl
  | list _ items => by simp only [mapNotes, Function.comp_apply, mapNotesOfAll_mapNotes items]
  | map _ entries => by simp only [mapNotes, Function.comp_apply, mapNotesOfEntries_mapNotes entries]
  | unary _ _ operand | member _ operand _ => by
    simp only [mapNotes, Function.comp_apply, mapNotes_mapNotes operand]
  | binary _ _ left right => by
    simp only [mapNotes, Function.comp_apply, mapNotes_mapNotes left, mapNotes_mapNotes right]
  | ternary _ condition yes no => by
    simp only [mapNotes, Function.comp_apply, mapNotes_mapNotes condition, mapNotes_mapNotes yes,
      mapNotes_mapNotes no]
  | index _ operand position => by
    simp only [mapNotes, Function.comp_apply, mapNotes_mapNotes operand, mapNotes_mapNotes position]
  | call _ callee args => by
    simp only [mapNotes, Function.comp_apply, mapNotes_mapNotes callee, mapNotesOfAll_mapNotes args]
  | struct _ typeName fields => by
    simp only [mapNotes, Function.comp_apply, mapNotes_mapNotes typeName, mapNotesOfFields_mapNotes fields]

theorem mapNotesOfAll_mapNotes : ∀ items : List (Expr α),
    mapNotesOfAll g (mapNotesOfAll f items) = mapNotesOfAll (g ∘ f) items
  | [] => rfl
  | e :: rest => by simp only [mapNotesOfAll, mapNotes_mapNotes e, mapNotesOfAll_mapNotes rest]

theorem mapNotesOfEntries_mapNotes : ∀ entries : List (Expr α × Expr α),
    mapNotesOfEntries g (mapNotesOfEntries f entries) = mapNotesOfEntries (g ∘ f) entries
  | [] => rfl
  | (key, value) :: rest => by
    simp only [mapNotesOfEntries, mapNotes_mapNotes key, mapNotes_mapNotes value,
      mapNotesOfEntries_mapNotes rest]

theorem mapNotesOfFields_mapNotes : ∀ fields : List (String × Expr α),
    mapNotesOfFields g (mapNotesOfFields f fields) = mapNotesOfFields (g ∘ f) fields
  | [] => rfl
  | (_, e) :: rest => by
    simp only [mapNotesOfFields, mapNotes_mapNotes e, mapNotesOfFields_mapNotes rest]

end

end

/-! ### Numbers -/

theorem sizeOfAll_mapNotesOfAll (f : α → β) (items : List (Expr α)) :
    sizeOfAll (mapNotesOfAll f items) = sizeOfAll items := by
  rw [← sizeOfAll_shape, shapeOfAll_mapNotes, sizeOfAll_shape]

theorem sizeOfEntries_mapNotesOfEntries (f : α → β) (entries : List (Expr α × Expr α)) :
    sizeOfEntries (mapNotesOfEntries f entries) = sizeOfEntries entries := by
  rw [← sizeOfEntries_shape, shapeOfEntries_mapNotes, sizeOfEntries_shape]

theorem sizeOfFields_mapNotesOfFields (f : α → β) (fields : List (String × Expr α)) :
    sizeOfFields (mapNotesOfFields f fields) = sizeOfFields fields := by
  rw [← sizeOfFields_shape, shapeOfFields_mapNotes, sizeOfFields_shape]

section

variable (ids : Nat) (f : Span → Span)

mutual

/-- Numbering a tree with other spans from a later number on moves its marks. -/
theorem mapNotes_number : ∀ (first : Nat) (e : Expr Span),
    (e.number first).mapNotes (Mark.moved ids f) = (e.mapNotes f).number (first + ids)
  | _, constant .. | _, ident .. | _, rootIdent .. => rfl
  | first, list _ items => by
    simp only [number, mapNotes, Mark.moved, sizeOfAll_mapNotesOfAll, mapNotesOfAll_numberAll first items,
      Nat.add_right_comm _ _ ids]
  | first, map _ entries => by
    simp only [number, mapNotes, Mark.moved, sizeOfEntries_mapNotesOfEntries,
      mapNotesOfEntries_numberEntries first entries, Nat.add_right_comm _ _ ids]
  | first, unary _ _ operand | first, member _ operand _ => by
    simp only [number, mapNotes, Mark.moved, size_mapNotes, mapNotes_number first operand,
      Nat.add_right_comm _ _ ids]
  | first, binary _ _ left right => by
    simp only [number, mapNotes, Mark.moved, size_mapNotes, mapNotes_number _ left,
      mapNotes_number _ right, Nat.add_right_comm _ _ ids]
  | first, ternary _ condition yes no => by
    simp only [number, mapNotes, Mark.moved, size_mapNotes, mapNotes_number _ condition,
      mapNotes_number _ yes, mapNotes_number _ no, Nat.add_right_comm _ _ ids]
  | first, index _ operand position => by
    simp only [number, mapNotes, Mark.moved, size_mapNotes, mapNotes_number _ operand,
      mapNotes_number _ position, Nat.add_right_comm _ _ ids]
  | first, call _ callee args => by
    simp only [number, mapNotes, Mark.moved, size_mapNotes, sizeOfAll_mapNotesOfAll,
      mapNotes_number _ callee, mapNotesOfAll_numberAll _ args, Nat.add_right_comm _ _ ids]
  | first, struct _ typeName fields => by
    simp only [number, mapNotes, Mark.moved, size_mapNotes, sizeOfFields_mapNotesOfFields,
      mapNotes_number _ typeName, mapNotesOfFields_numberFields _ fields, Nat.add_right_comm _ _ ids]

theorem mapNotesOfAll_numberAll : ∀ (first : Nat) (items : List (Expr Span)),
    mapNotesOfAll (Mark.moved ids f) (numberAll first items) =
      numberAll (first + ids) (mapNotesOfAll f items)
  | _, [] => rfl
  | first, e :: rest => by
    simp only [numberAll, mapNotesOfAll, size_mapNotes, mapNotes_number first e,
      mapNotesOfAll_numberAll _ rest, Nat.add_right_comm _ _ ids]

theorem mapNotesOfEntries_numberEntries : ∀ (first : Nat) (entries : List (Expr Span × Expr Span)),
    mapNotesOfEntries (Mark.moved ids f) (numberEntries first entries) =
      numberEntries (first + ids) (mapNotesOfEntries f entries)
  | _, [] => rfl
  | first, (key, value) :: rest => by
    simp only [numberEntries, mapNotesOfEntries, size_mapNotes, mapNotes_number _ key,
      mapNotes_number _ value, mapNotesOfEntries_numberEntries _ rest, Nat.add_right_comm _ _ ids]

theorem mapNotesOfFields_numberFields : ∀ (first : Nat) (fields : List (String × Expr Span)),
    mapNotesOfFields (Mark.moved ids f) (numberFields first fields) =
      numberFields (first + ids) (mapNotesOfFields f fields)
  | _, [] => rfl
  | first, (_, e) :: rest => by
    simp only [numberFields, mapNotesOfFields, size_mapNotes, mapNotes_number _ e,
      mapNotesOfFields_numberFields _ rest, Nat.add_right_comm _ _ ids]

end

end

end Expr

end Cel
