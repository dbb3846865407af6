import Cel.Expr
import Cel.Token

/-! # The grammar of expressions

Which lists of tokens are expressions, and the tree of each. A choice between two expressions has a
condition and a first branch that are no choices themselves. The binary operators stand on five tiers,
`||` on the loosest and `*` on the tightest; those of one tier are joined from the left. Signs stand
before an operand, calls, positions, members and struct fields behind one. Only names and members can
be called, and only names, members and names at the root can be the type of a struct. Items between
brackets are separated by commas, of which one more may follow the last item.
-/

namespace Cel

/-- The tier of an operator: the tighter it binds, the lower. -/
def BinaryOp.tier : BinaryOp → Nat
  | .mul | .div | .mod => 1
  | .add | .sub => 2
  | .eq | .ne | .lt | .le | .gt | .ge | .in => 3
  | .and => 4
  | .or => 5

def BinaryOp.token : BinaryOp → Token
  | .add => .symbol .plus
  | .sub => .symbol .minus
  | .mul => .symbol .star
  | .div => .symbol .slash
  | .mod => .symbol .percent
  | .eq => .symbol .equal
  | .ne => .symbol .notEqual
  | .lt => .symbol .less
  | .le => .symbol .lessEqual
  | .gt => .symbol .greater
  | .ge => .symbol .greaterEqual
  | .in => .keyword .in
  | .and => .symbol .and
  | .or => .symbol .or

def UnaryOp.token : UnaryOp → Token
  | .neg => .symbol .minus
  | .not => .symbol .not

/-- The literal that a constant is written as. -/
def Constant.token : Constant → Token
  | .null => .keyword .null
  | .bool true => .keyword .true
  | .bool false => .keyword .false
  | .int value => .int value
  | .uint value => .uint value
  | .double value => .double value
  | .string value => .string value
  | .bytes value => .bytes value

namespace Grammar

/-- Some tokens and the tree they stand for. -/
structure Phrase where
  tokens : List Token
  tree : Expr Unit

/-- The tokens of a map entry. -/
def entryTokens (entry : Phrase × Phrase) : List Token :=
  entry.1.tokens ++ .symbol .colon :: entry.2.tokens

/-- The tokens of a struct field. -/
def fieldTokens (field : String × Phrase) : List Token :=
  .ident field.1 :: .symbol .colon :: field.2.tokens

/-- Pieces of text separated by commas, of which one more may follow the last piece. -/
inductive Separated : List (List Token) → List Token → Prop where
  | empty : Separated [] []
  | last (piece : List Token) : Separated [piece] piece
  | lastComma (piece : List Token) : Separated [piece] (piece ++ [.symbol .comma])
  | more (piece : List Token) {next : List Token} {rest : List (List Token)} {tokens : List Token}
    (others : Separated (next :: rest) tokens) :
    Separated (piece :: next :: rest) (piece ++ .symbol .comma :: tokens)

inductive Category where
  | expression
  /-- Operands joined by operators of a tier and the tighter ones. On tier zero there are no binary
  operators, only signs. -/
  | operation (tier : Nat)
  /-- An atom with everything that follows it. -/
  | primary
  | atom
deriving DecidableEq

/-- What can be called: a function by its name, or a method of something. -/
inductive Callable : Expr Unit → Prop where
  | ident (name : String) : Callable (.ident () name)
  | member (operand : Expr Unit) (name : String) : Callable (.member () operand name)

/-- What can name the type of a struct. -/
inductive TypeName : Expr Unit → Prop where
  | ident (name : String) : TypeName (.ident () name)
  | rootIdent (name : String) : TypeName (.rootIdent () name)
  | member (operand : Expr Unit) (name : String) : TypeName (.member () operand name)

/-- `Derives category tokens tree` says that the tokens as a whole are of the category and stand for
the tree. -/
inductive Derives : Category → List Token → Expr Unit → Prop where
  | choice {condition yes no : List Token} {conditionTree yesTree noTree : Expr Unit}
    (first : Derives (.operation 5) condition conditionTree)
    (second : Derives (.operation 5) yes yesTree) (third : Derives .expression no noTree) :
    Derives .expression
      (condition ++ .symbol .question :: (yes ++ .symbol .colon :: no))
      (.ternary () conditionTree yesTree noTree)
  | operation {tokens : List Token} {tree : Expr Unit} (whole : Derives (.operation 5) tokens tree) :
    Derives .expression tokens tree
  | binary {tier : Nat} {left right : List Token} {leftTree rightTree : Expr Unit} {op : BinaryOp}
    (onTier : op.tier = tier + 1) (first : Derives (.operation (tier + 1)) left leftTree)
    (second : Derives (.operation tier) right rightTree) :
    Derives (.operation (tier + 1)) (left ++ op.token :: right) (.binary () op leftTree rightTree)
  | tighter {tier : Nat} {tokens : List Token} {tree : Expr Unit}
    (whole : Derives (.operation tier) tokens tree) : Derives (.operation (tier + 1)) tokens tree
  | unary {tokens : List Token} {tree : Expr Unit} (op : UnaryOp)
    (operand : Derives (.operation 0) tokens tree) :
    Derives (.operation 0) (op.token :: tokens) (.unary () op tree)
  | primary {tokens : List Token} {tree : Expr Unit} (whole : Derives .primary tokens tree) :
    Derives (.operation 0) tokens tree
  | member {tokens : List Token} {tree : Expr Unit} (operand : Derives .primary tokens tree)
    (name : String) :
    Derives .primary (tokens ++ [.symbol .dot, .ident name]) (.member () tree name)
  | index {tokens position : List Token} {tree positionTree : Expr Unit}
    (operand : Derives .primary tokens tree) (inside : Derives .expression position positionTree) :
    Derives .primary (tokens ++ .symbol .leftBracket :: (position ++ [.symbol .rightBracket]))
      (.index () tree positionTree)
  | call {tokens listed : List Token} {tree : Expr Unit} {args : List Phrase}
    (callee : Derives .primary tokens tree) (named : Callable tree)
    (each : ∀ arg ∈ args, Derives .expression arg.tokens arg.tree)
    (separated : Separated (args.map Phrase.tokens) listed) :
    Derives .primary (tokens ++ .symbol .leftParen :: (listed ++ [.symbol .rightParen]))
      (.call () tree (args.map Phrase.tree))
  | struct {tokens listed : List Token} {tree : Expr Unit} {fields : List (String × Phrase)}
    (typeName : Derives .primary tokens tree) (named : TypeName tree)
    (each : ∀ field ∈ fields, Derives .expression field.2.tokens field.2.tree)
    (separated : Separated (fields.map fieldTokens) listed) :
    Derives .primary (tokens ++ .symbol .leftBrace :: (listed ++ [.symbol .rightBrace]))
      (.struct () tree (fields.map fun field => (field.1, field.2.tree)))
  | atom {tokens : List Token} {tree : Expr Unit} (whole : Derives .atom tokens tree) :
    Derives .primary tokens tree
  | constant (value : Constant) : Derives .atom [value.token] (.constant () value)
  | ident (name : String) : Derives .atom [.ident name] (.ident () name)
  | rootIdent (name : String) : Derives .atom [.symbol .dot, .ident name] (.rootIdent () name)
  | parenthesized {tokens : List Token} {tree : Expr Unit}
    (inside : Derives .expression tokens tree) :
    Derives .atom (.symbol .leftParen :: (tokens ++ [.symbol .rightParen])) tree
  | list {listed : List Token} {items : List Phrase}
    (each : ∀ item ∈ items, Derives .expression item.tokens item.tree)
    (separated : Separated (items.map Phrase.tokens) listed) :
    Derives .atom (.symbol .leftBracket :: (listed ++ [.symbol .rightBracket]))
      (.list () (items.map Phrase.tree))
  | map {listed : List Token} {entries : List (Phrase × Phrase)}
    (keys : ∀ entry ∈ entries, Derives .expression entry.1.tokens entry.1.tree)
    (values : ∀ entry ∈ entries, Derives .expression entry.2.tokens entry.2.tree)
    (separated : Separated (entries.map entryTokens) listed) :
    Derives .atom (.symbol .leftBrace :: (listed ++ [.symbol .rightBrace]))
      (.map () (entries.map fun entry => (entry.1.tree, entry.2.tree)))

/-! ### The size of trees -/

theorem Separated.length_le {pieces : List (List Token)} {tokens : List Token}
    (separated : Separated pieces tokens) : ∀ piece ∈ pieces, piece.length ≤ tokens.length := by
  induction separated with
  | empty => exact nofun
  | last piece => exact List.forall_mem_singleton.mpr (Nat.le_refl _)
  | lastComma piece => exact List.forall_mem_singleton.mpr (by simp)
  | more piece others ih =>
    intro other member
    simp only [List.length_append, List.length_cons]
    rcases List.mem_cons.mp member with rfl | later
    · omega
    · have := ih other later
      omega

theorem heightOfAll_le {trees : List (Expr Unit)} {bound : Nat}
    (each : ∀ tree ∈ trees, tree.height ≤ bound) : Expr.heightOfAll trees ≤ bound := by
  induction trees with
  | nil => exact Nat.zero_le bound
  | cons tree rest ih =>
    obtain ⟨head, tail⟩ := List.forall_mem_cons.mp each
    exact Nat.max_le.mpr ⟨head, ih tail⟩

theorem heightOfEntries_le {trees : List (Expr Unit × Expr Unit)} {bound : Nat}
    (each : ∀ tree ∈ trees, tree.1.height ≤ bound ∧ tree.2.height ≤ bound) :
    Expr.heightOfEntries trees ≤ bound := by
  induction trees with
  | nil => exact Nat.zero_le bound
  | cons tree rest ih =>
    obtain ⟨head, tail⟩ := List.forall_mem_cons.mp each
    exact Nat.max_le.mpr ⟨Nat.max_le.mpr head, ih tail⟩

theorem heightOfFields_le {trees : List (String × Expr Unit)} {bound : Nat}
    (each : ∀ tree ∈ trees, tree.2.height ≤ bound) : Expr.heightOfFields trees ≤ bound := by
  induction trees with
  | nil => exact Nat.zero_le bound
  | cons tree rest ih =>
    obtain ⟨head, tail⟩ := List.forall_mem_cons.mp each
    exact Nat.max_le.mpr ⟨head, ih tail⟩

/-- No tree is higher than the number of its tokens. -/
theorem Derives.height_le {category : Category} {tokens : List Token} {tree : Expr Unit}
    (derived : Derives category tokens tree) : tree.height ≤ tokens.length := by
  induction derived with
  | choice first second third firstIh secondIh thirdIh =>
    simp only [Expr.height, List.length_append, List.length_cons]
    omega
  | operation whole ih | tighter whole ih | primary whole ih | atom whole ih => exact ih
  | binary onTier first second firstIh secondIh =>
    simp only [Expr.height, List.length_append, List.length_cons]
    omega
  | unary op operand ih =>
    simp only [Expr.height, List.length_cons]
    omega
  | member operand name ih =>
    simp only [Expr.height, List.length_append, List.length_cons]
    omega
  | index operand inside operandIh insideIh =>
    simp only [Expr.height, List.length_append, List.length_cons]
    omega
  | @call tokens listed tree args callee named each separated calleeIh ih =>
    have args : Expr.heightOfAll (args.map Phrase.tree) ≤ listed.length := by
      refine heightOfAll_le (List.forall_mem_map.mpr fun arg member => ?_)
      exact Nat.le_trans (ih arg member) (separated.length_le _ (List.mem_map_of_mem member))
    simp only [Expr.height, List.length_append, List.length_cons]
    omega
  | @struct tokens listed tree fields typeName named each separated typeIh ih =>
    have fields : Expr.heightOfFields (fields.map fun field => (field.1, field.2.tree)) ≤
        listed.length := by
      refine heightOfFields_le (List.forall_mem_map.mpr fun field member => ?_)
      have within := separated.length_le _ (List.mem_map_of_mem member)
      have inside := ih field member
      simp only [fieldTokens, List.length_cons] at within
      dsimp only
      omega
    simp only [Expr.height, List.length_append, List.length_cons]
    omega
  | constant | ident | rootIdent => simp [Expr.height]
  | parenthesized inside ih =>
    simp only [List.length_append, List.length_cons]
    omega
  | @list listed items each separated ih =>
    have items : Expr.heightOfAll (items.map Phrase.tree) ≤ listed.length := by
      refine heightOfAll_le (List.forall_mem_map.mpr fun item member => ?_)
      exact Nat.le_trans (ih item member) (separated.length_le _ (List.mem_map_of_mem member))
    simp only [Expr.height, List.length_append, List.length_cons]
    omega
  | @map listed entries keys values separated keysIh valuesIh =>
    have entries : Expr.heightOfEntries
        (entries.map fun entry => (entry.1.tree, entry.2.tree)) ≤ listed.length := by
      refine heightOfEntries_le (List.forall_mem_map.mpr fun entry member => ?_)
      have within := separated.length_le _ (List.mem_map_of_mem member)
      have key := keysIh entry member
      have value := valuesIh entry member
      simp only [entryTokens, List.length_append, List.length_cons] at within
      constructor <;> dsimp only <;> omega
    simp only [Expr.height, List.length_append, List.length_cons]
    omega

/-! ### First tokens -/

/-- Whether a token can begin an expression. -/
def Begins : Token → Prop
  | .symbol .dot | .symbol .leftParen | .symbol .leftBracket | .symbol .leftBrace
  | .symbol .minus | .symbol .not => True
  | .keyword .in | .reserved _ | .symbol _ => False
  | _ => True

theorem begins_constant (value : Constant) : Begins value.token := by
  cases value with
  | bool b => cases b <;> trivial
  | _ => trivial

/-- Every phrase begins with a token that can begin an expression. -/
theorem Derives.begins {category : Category} {tokens : List Token} {tree : Expr Unit}
    (derived : Derives category tokens tree) : ∃ first rest, tokens = first :: rest ∧ Begins first := by
  induction derived with
  | operation whole ih | tighter whole ih | primary whole ih | atom whole ih => exact ih
  | choice first second third firstIh | binary onTier first second firstIh =>
    obtain ⟨token, rest, rfl, begins⟩ := firstIh
    exact ⟨token, _, rfl, begins⟩
  | member operand name ih | index operand inside ih | call callee named each separated ih
  | struct typeName named each separated ih =>
    obtain ⟨token, rest, rfl, begins⟩ := ih
    exact ⟨token, _, rfl, begins⟩
  | unary op operand ih => exact ⟨op.token, _, rfl, by cases op <;> trivial⟩
  | constant value => exact ⟨value.token, [], rfl, begins_constant value⟩
  | ident | rootIdent | parenthesized | list | map => exact ⟨_, _, rfl, trivial⟩

end Grammar

end Cel
