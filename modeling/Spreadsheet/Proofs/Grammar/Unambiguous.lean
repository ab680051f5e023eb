import Spreadsheet.Proofs.Grammar.Acceptance

/-!
The grammar is unambiguous. Its trees can be rebuilt from their programs: each item takes as many
trees from a stack as it has operands. Since the reader finds one program for a list of tokens, two
derivations of the same tokens cannot differ in their trees.
-/

set_option autoImplicit false

namespace Spreadsheet

namespace Expression

/-- One item makes a tree of the topmost trees. What no postorder contains is dropped. -/
def grow : List Expression → Item → List Expression
  | stack, .literal value => .literal value :: stack
  | stack, .reference target => .reference target :: stack
  | stack, .resolved operand => .resolved operand :: stack
  | stack, .name given => .name given :: stack
  | operand :: below, .operator (.sign operator) => .sign operator operand :: below
  | right :: left :: below, .operator (.binary operator) => .binary operator left right :: below
  | _, .operator _ => []
  | stack, .call function count =>
      .call function (stack.take count).reverse :: stack.drop count

mutual

theorem foldl_grow_postorder (stack : List Expression) :
    (tree : Expression) → tree.postorder.foldl grow stack = tree :: stack
  | .literal value => rfl
  | .reference target => rfl
  | .resolved operand => rfl
  | .name given => rfl
  | .sign operator operand => by
      rw [postorder, List.foldl_append, foldl_grow_postorder stack operand]
      rfl
  | .binary operator left right => by
      rw [postorder, List.foldl_append, List.foldl_append, foldl_grow_postorder stack left,
        foldl_grow_postorder _ right]
      rfl
  | .call function arguments => by
      have taken : (arguments.reverse ++ stack).take arguments.length = arguments.reverse :=
        List.take_left' List.length_reverse
      have below : (arguments.reverse ++ stack).drop arguments.length = stack :=
        List.drop_left' List.length_reverse
      rw [postorder, List.foldl_append, foldl_grow_postorderAll stack arguments, List.foldl_cons,
        List.foldl_nil, grow, taken, below, List.reverse_reverse]

theorem foldl_grow_postorderAll (stack : List Expression) :
    (trees : List Expression) →
      (postorderAll trees).foldl grow stack = trees.reverse ++ stack
  | [] => rfl
  | first :: others => by
      rw [postorderAll, List.foldl_append, foldl_grow_postorder stack first,
        foldl_grow_postorderAll _ others, List.reverse_cons, List.append_assoc]
      rfl

end

theorem postorder_injective {left right : Expression} (same : left.postorder = right.postorder) :
    left = right := by
  have rebuilt := foldl_grow_postorder [] left
  rw [same, foldl_grow_postorder] at rebuilt
  cases rebuilt
  rfl

end Expression

theorem Derives.tree_unique {first second : Phrase} {tokens : List Token}
    {left right : Expression} (one : Derives first tokens left)
    (other : Derives second tokens right) : left = right := by
  have oneProgram := Program.ofTokens_of_derives (.looser (Nat.zero_le _) one)
  have otherProgram := Program.ofTokens_of_derives (.looser (Nat.zero_le _) other)
  rw [oneProgram] at otherProgram
  apply Expression.postorder_injective
  exact Except.ok.inj otherProgram

end Spreadsheet
