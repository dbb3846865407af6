import Cel.Expr

/-! # Shapes

The shape of an expression is its tree without the notes. It has the same height, and numbering the
nodes does not change it.
-/

namespace Cel.Expr

variable {α : Type}

mutual

/-- The tree without its notes. -/
def shape : Expr α → Expr Unit
  | constant _ value => constant () value
  | ident _ name => ident () name
  | rootIdent _ name => rootIdent () name
  | list _ items => list () (shapeOfAll items)
  | map _ entries => map () (shapeOfEntries entries)
  | unary _ op operand => unary () op operand.shape
  | binary _ op left right => binary () op left.shape right.shape
  | ternary _ condition yes no => ternary () condition.shape yes.shape no.shape
  | member _ operand field => member () operand.shape field
  | index _ operand position => index () operand.shape position.shape
  | call _ callee args => call () callee.shape (shapeOfAll args)
  | struct _ typeName fields => struct () typeName.shape (shapeOfFields fields)

def shapeOfAll : List (Expr α) → List (Expr Unit)
  | [] => []
  | e :: rest => e.shape :: shapeOfAll rest

def shapeOfEntries : List (Expr α × Expr α) → List (Expr Unit × Expr Unit)
  | [] => []
  | (key, value) :: rest => (key.shape, value.shape) :: shapeOfEntries rest

def shapeOfFields : List (String × Expr α) → List (String × Expr Unit)
  | [] => []
  | (field, e) :: rest => (field, e.shape) :: shapeOfFields rest

end

/-- The shapes of the two sides of a map entry. -/
def shapeOfEntry (entry : Expr α × Expr α) : Expr Unit × Expr Unit :=
  (entry.1.shape, entry.2.shape)

/-- A struct field with the shape of its expression. -/
def shapeOfField (field : String × Expr α) : String × Expr Unit := (field.1, field.2.shape)

theorem shapeOfAll_eq_map (items : List (Expr α)) : shapeOfAll items = items.map shape := by
  induction items with
  | nil => rfl
  | cons e rest ih => rw [shapeOfAll, ih, List.map_cons]

theorem shapeOfEntries_eq_map (entries : List (Expr α × Expr α)) :
    shapeOfEntries entries = entries.map shapeOfEntry := by
  induction entries with
  | nil => rfl
  | cons entry rest ih =>
    rw [shapeOfEntries, ih, List.map_cons]
    rfl

theorem shapeOfFields_eq_map (fields : List (String × Expr α)) :
    shapeOfFields fields = fields.map shapeOfField := by
  induction fields with
  | nil => rfl
  | cons field rest ih =>
    rw [shapeOfFields, ih, List.map_cons]
    rfl

mutual

@[simp] theorem height_shape : ∀ e : Expr α, e.shape.height = e.height
  | constant .. | ident .. | rootIdent .. => rfl
  | list _ items => by simp only [shape, height, heightOfAll_shape items]
  | map _ entries => by simp only [shape, height, heightOfEntries_shape entries]
  | unary _ _ operand | member _ operand _ => by simp only [shape, height, height_shape operand]
  | binary _ _ left right => by simp only [shape, height, height_shape left, height_shape right]
  | ternary _ condition yes no => by
    simp only [shape, height, height_shape condition, height_shape yes, height_shape no]
  | index _ operand position => by
    simp only [shape, height, height_shape operand, height_shape position]
  | call _ callee args => by
    simp only [shape, height, height_shape callee, heightOfAll_shape args]
  | struct _ typeName fields => by
    simp only [shape, height, height_shape typeName, heightOfFields_shape fields]

theorem heightOfAll_shape : ∀ items : List (Expr α), heightOfAll (shapeOfAll items) = heightOfAll items
  | [] => rfl
  | e :: rest => by simp only [shapeOfAll, heightOfAll, height_shape e, heightOfAll_shape rest]

theorem heightOfEntries_shape :
    ∀ entries : List (Expr α × Expr α), heightOfEntries (shapeOfEntries entries) = heightOfEntries entries
  | [] => rfl
  | (key, value) :: rest => by
    simp only [shapeOfEntries, heightOfEntries, height_shape key, height_shape value,
      heightOfEntries_shape rest]

theorem heightOfFields_shape :
    ∀ fields : List (String × Expr α), heightOfFields (shapeOfFields fields) = heightOfFields fields
  | [] => rfl
  | (_, e) :: rest => by
    simp only [shapeOfFields, heightOfFields, height_shape e, heightOfFields_shape rest]

end

mutual

theorem shape_number : ∀ (first : Nat) (e : Expr Span), (e.number first).shape = e.shape
  | _, constant .. | _, ident .. | _, rootIdent .. => rfl
  | _, list _ items => by simp only [number, shape, shapeOfAll_number _ items]
  | _, map _ entries => by simp only [number, shape, shapeOfEntries_number _ entries]
  | _, unary _ _ operand | _, member _ operand _ => by
    simp only [number, shape, shape_number _ operand]
  | _, binary _ _ left right => by
    simp only [number, shape, shape_number _ left, shape_number _ right]
  | _, ternary _ condition yes no => by
    simp only [number, shape, shape_number _ condition, shape_number _ yes, shape_number _ no]
  | _, index _ operand position => by
    simp only [number, shape, shape_number _ operand, shape_number _ position]
  | _, call _ callee args => by
    simp only [number, shape, shape_number _ callee, shapeOfAll_number _ args]
  | _, struct _ typeName fields => by
    simp only [number, shape, shape_number _ typeName, shapeOfFields_number _ fields]

theorem shapeOfAll_number :
    ∀ (first : Nat) (items : List (Expr Span)), shapeOfAll (numberAll first items) = shapeOfAll items
  | _, [] => rfl
  | _, e :: rest => by
    simp only [numberAll, shapeOfAll, shape_number _ e, shapeOfAll_number _ rest]

theorem shapeOfEntries_number :
    ∀ (first : Nat) (entries : List (Expr Span × Expr Span)),
      shapeOfEntries (numberEntries first entries) = shapeOfEntries entries
  | _, [] => rfl
  | _, (key, value) :: rest => by
    simp only [numberEntries, shapeOfEntries, shape_number _ key, shape_number _ value,
      shapeOfEntries_number _ rest]

theorem shapeOfFields_number :
    ∀ (first : Nat) (fields : List (String × Expr Span)),
      shapeOfFields (numberFields first fields) = shapeOfFields fields
  | _, [] => rfl
  | _, (_, e) :: rest => by
    simp only [numberFields, shapeOfFields, shape_number _ e, shapeOfFields_number _ rest]

end

theorem height_number (first : Nat) (e : Expr Span) : (e.number first).height = e.height := by
  rw [← height_shape, shape_number, height_shape]

end Cel.Expr
