import Mathlib.Data.List.Forall2
import Spreadsheet.Interpolation
import Spreadsheet.Proofs.Cutting
import Spreadsheet.Proofs.Grammar.Joining

/-!
What an interpolated formula means. Its pieces of text become text constants, and the expressions in
braces are put between them as they are, without parentheses. Each piece is cut into tokens as if it
stood alone, since an ampersand follows it, and an ampersand is looser than anything in an
expression.

The main statement is that a formula in which every expression can be read can be read itself, and
that it stands for the text that results from putting the values of the expressions in their places.
-/

set_option autoImplicit false

namespace Spreadsheet

namespace Interpolation

theorem scanText_doubleQuotes (content after : List Char) (ends : after.head? ≠ some '"') :
    Token.scanText (doubleQuotes content ++ '"' :: after) = some (content, after) := by
  induction content with
  | nil =>
      show Token.scanText ('"' :: after) = some ([], after)
      rw [Token.scanText.eq_3]
      rintro rest rfl
      exact ends rfl
  | cons c content ih =>
      rw [doubleQuotes, List.flatMap_cons, List.append_assoc, ← doubleQuotes]
      split
      · rename_i quote
        show Token.scanText ('"' :: '"' :: (doubleQuotes content ++ '"' :: after)) = _
        rw [Token.scanText, ih, quote]
        rfl
      · rename_i other
        show Token.scanText (c :: (doubleQuotes content ++ '"' :: after)) = _
        rw [Token.scanText.eq_4 _ _ (fun _ same _ => other same) other, ih]
        rfl

theorem cuts_text (content after : List Char) (ends : after.head? ≠ some '"') :
    Token.Cuts ('"' :: (doubleQuotes content ++ '"' :: after)) [.text (String.ofList content)]
      after :=
  .token (by decide) (.text rfl rfl (scanText_doubleQuotes content after ends)) (.done after)

theorem hasAdjacentReferences_eq_true_iff (text : List Char) :
    hasAdjacentReferences text = true ↔ [']', '['] <:+: text := by
  fun_induction hasAdjacentReferences text with
  | case1 rest => exact iff_of_true rfl (List.prefix_append [']', '['] rest).isInfix
  | case2 c rest notAdjacent ih =>
      rw [ih, List.infix_cons_iff]
      refine ⟨.inr, fun found => found.resolve_left ?_⟩
      rintro ⟨others, same⟩
      cases same
      exact notAdjacent others rfl rfl
  | case3 => exact iff_of_false Bool.false_ne_true (by simp)

theorem hasAdjacentReferences_append {c : Char} (noClosing : c ≠ ']') (noOpening : c ≠ '[')
    (before after : List Char) :
    hasAdjacentReferences (before ++ c :: after) =
      (hasAdjacentReferences before || hasAdjacentReferences after) := by
  fun_induction hasAdjacentReferences before with
  | case1 rest => rfl
  | case2 first rest notAdjacent ih =>
      rw [List.cons_append, hasAdjacentReferences.eq_2, ih]
      intro tail closing opening
      cases rest with
      | nil => cases opening; exact noOpening rfl
      | cons second others => cases opening; exact notAdjacent others closing rfl
  | case3 =>
      rw [List.nil_append, hasAdjacentReferences.eq_2 _ _ fun _ closing _ => noClosing closing]
      rfl

theorem hasAdjacentReferences_doubleQuotes (content : List Char) :
    hasAdjacentReferences (doubleQuotes content) = hasAdjacentReferences content := by
  fun_induction hasAdjacentReferences content with
  | case1 rest => rfl
  | case2 c rest notAdjacent ih =>
      rw [doubleQuotes, List.flatMap_cons, ← doubleQuotes]
      split
      · exact ih
      · rw [List.singleton_append, hasAdjacentReferences.eq_2, ih]
        intro tail closing opening
        cases rest with
        | nil => cases opening
        | cons second others =>
            rw [doubleQuotes, List.flatMap_cons] at opening
            split at opening
            · cases opening
            · cases opening
              exact notAdjacent others closing rfl
  | case3 => rfl

theorem hasAdjacentReferences_quoted (content after : List Char) :
    hasAdjacentReferences ('"' :: (doubleQuotes content ++ '"' :: after)) =
      (hasAdjacentReferences content || hasAdjacentReferences after) := by
  have quoteApart (before after : List Char) :=
    hasAdjacentReferences_append (c := '"') (by decide) (by decide) before after
  calc hasAdjacentReferences ('"' :: (doubleQuotes content ++ '"' :: after))
      = hasAdjacentReferences (doubleQuotes content ++ '"' :: after) := quoteApart [] _
    _ = (hasAdjacentReferences (doubleQuotes content) || hasAdjacentReferences after) :=
        quoteApart _ _
    _ = (hasAdjacentReferences content || hasAdjacentReferences after) := by
        rw [hasAdjacentReferences_doubleQuotes]

theorem joined_cons (before inside : List Char) (rest : List (List Char × List Char))
    (last : List Char) :
    joined ((before, inside) :: rest) last =
      '"' :: (doubleQuotes before ++ '"' :: '&' :: (inside ++ '&' :: joined rest last)) := by
  rw [joined]
  simp only [List.cons_append, List.append_assoc, List.nil_append]

theorem hasAdjacentReferences_joined {groups : List (List Char × List Char)} {last : List Char}
    (groupsApart : ∀ group ∈ groups, hasAdjacentReferences group.1 = false ∧
      hasAdjacentReferences group.2 = false)
    (lastApart : hasAdjacentReferences last = false) :
    hasAdjacentReferences (joined groups last) = false := by
  have separated {c : Char} (noClosing : c ≠ ']') (noOpening : c ≠ '[') {before after : List Char}
      (front : hasAdjacentReferences before = false) (back : hasAdjacentReferences after = false) :
      hasAdjacentReferences (before ++ c :: after) = false := by
    rw [hasAdjacentReferences_append noClosing noOpening, front, back]
    rfl
  have quoted {content after : List Char} (apart : hasAdjacentReferences content = false)
      (back : hasAdjacentReferences after = false) :
      hasAdjacentReferences ('"' :: (doubleQuotes content ++ '"' :: after)) = false := by
    rw [hasAdjacentReferences_quoted, apart, back]
    rfl
  induction groups with
  | nil => exact quoted lastApart rfl
  | cons group rest ih =>
      obtain ⟨⟨beforeApart, insideApart⟩, others⟩ := List.forall_mem_cons.1 groupsApart
      rw [joined_cons]
      have following := separated (c := '&') (by decide) (by decide) insideApart (ih others)
      refine quoted beforeApart ?_
      rw [← List.nil_append ('&' :: _)]
      exact separated (by decide) (by decide) rfl following

/-- What an interpolated formula stands for: the pieces of text with the shown values between
them. -/
def filled : List (List Char × List Char) → List Value → List Char → String
  | (before, _) :: rest, value :: values, last =>
      String.ofList before ++ (value.display ++ filled rest values last)
  | _, _, last => String.ofList last

/-- A formula can be read when its references are not adjacent and it can be cut into the tokens of
a tree; its program is that of the tree. -/
theorem parse_eq_ok_iff {text : List Char} {program : Program} :
    Program.parse (String.ofList ('=' :: text)) = .ok program ↔
      hasAdjacentReferences text = false ∧ ∃ tokens tree, Token.Cuts text tokens [] ∧
        Derives .concat tokens tree ∧ tree.postorder = program := by
  have body : Program.body (String.ofList ('=' :: text)) = String.ofList text := by
    rw [Program.body, String.toList_ofList]
    rfl
  rw [Program.parse, body, Program.checkBrackets, String.toList_ofList]
  cases hasAdjacentReferences text with
  | true =>
      constructor
      · intro accepted
        cases accepted
      · intro found
        cases found.1
  | false =>
      rw [if_neg Bool.false_ne_true, Outcome.ok_bind, Outcome.bind_eq_ok_iff]
      simp only [true_and]
      constructor
      · rintro ⟨tokens, cut, accepted⟩
        obtain ⟨tree, derives, same⟩ := Program.derives_of_ofTokens accepted
        rw [Token.tokenize_eq_ok_iff, String.toList_ofList] at cut
        exact ⟨tokens, tree, cut, derives, same⟩
      · rintro ⟨tokens, tree, cuts, derives, rfl⟩
        refine ⟨tokens, ?_, Program.ofTokens_of_derives derives⟩
        rw [Token.tokenize_eq_ok_iff, String.toList_ofList]
        exact cuts

/-- The joined pieces are a formula, and it has a value exactly when all expressions have one. -/
theorem derives_joined {groups : List (List Char × List Char)} {programs : List Program}
    (read : List.Forall₂ (fun group program =>
      Program.parse (String.ofList ('=' :: group.2)) = .ok program) groups programs)
    (last : List Char) :
    ∃ tokens tree, Token.Cuts (joined groups last) tokens [] ∧ Derives .concat tokens tree ∧
      ((∀ part ∈ programs, Program.callsRandom part = false) →
        tree.postorder.callsRandom = false) ∧
      ∀ (resolver : Reference → Operand) (context : Context) (value : Value), context.Still →
        ((tree.substitute resolver).evaluate context = .ok value ↔
          ∃ values, List.Forall₂ (fun program value =>
              (Program.resolved resolver program).evaluate context = .ok value) programs values ∧
            value = .text (filled groups values last)) := by
  induction read with
  | nil =>
      refine ⟨[.text (String.ofList last)], _, cuts_text last [] nofun,
        .looser (Nat.zero_le _) (.text _), fun _ => rfl, ?_⟩
      intro resolver context value still
      constructor
      · intro found
        cases found
        exact ⟨[], .nil, rfl⟩
      · rintro ⟨values, none_there, rfl⟩
        cases none_there
        rfl
  | @cons group program rest programs first others ih =>
      obtain ⟨before, inside⟩ := group
      obtain ⟨-, insideTokens, insideTree, insideCuts, insideDerives, rfl⟩ :=
        parse_eq_ok_iff.1 first
      obtain ⟨restTokens, restTree, restCuts, restDerives, restCalm, restValue⟩ := ih
      have start : Derives .concat [.text (String.ofList before)]
          (.literal (.text (String.ofList before))) := .looser (Nat.zero_le _) (.text _)
      obtain ⟨behind, behindDerives, behindJoins⟩ := insideDerives.joined restDerives
      obtain ⟨whole, derives, joins⟩ := start.joined behindDerives
      refine ⟨_, whole, ?_, derives, ?_, ?_⟩
      · rw [joined_cons]
        refine (cuts_text before _ (by simp)).append ((Token.cuts_ampersand _).append ?_)
        exact (insideCuts.before _).append ((Token.cuts_ampersand _).append restCuts)
      · intro calm
        obtain ⟨calmInside, calmRest⟩ := List.forall_mem_cons.1 calm
        exact joins.calm rfl (behindJoins.calm calmInside (restCalm calmRest))
      · intro resolver context value still
        have insideValue := Expression.evaluate_resolved_postorder resolver context insideTree
        constructor
        · intro found
          obtain ⟨_, _, atStart, behindFound, rfl⟩ :=
            (joins.value_iff resolver value still).1 found
          obtain ⟨shown, _, insideFound, restFound, rfl⟩ :=
            (behindJoins.value_iff resolver _ still).1 behindFound
          obtain ⟨values, parts, rfl⟩ := (restValue resolver context _ still).1 restFound
          cases atStart
          exact ⟨shown :: values, .cons (insideValue.trans insideFound) parts, rfl⟩
        · rintro ⟨_, _ | ⟨insideFound, parts⟩, rfl⟩
          have restFound := (restValue resolver context _ still).2 ⟨_, parts, rfl⟩
          have behindFound := (behindJoins.value_iff resolver _ still).2
            ⟨_, _, insideValue.symm.trans insideFound, restFound, rfl⟩
          exact (joins.value_iff resolver _ still).2 ⟨_, _, rfl, behindFound, rfl⟩

theorem forall_left {α β : Type} {Relates : α → β → Prop} {Holds : α → Prop} {left : List α}
    {right : List β} (related : List.Forall₂ Relates left right)
    (each : ∀ item partner, Relates item partner → Holds item) : ∀ item ∈ left, Holds item :=
  ((List.forall₂_and_left _ _).1
    (related.imp fun item partner relates => ⟨each item partner relates, relates⟩)).1

theorem rewrite_of_pieces {body last : List Char} {groups : List (List Char × List Char)}
    (split : pieces body = (groups, last)) (interpolated : groups ≠ []) :
    rewrite (String.ofList ('=' :: body)) = String.ofList ('=' :: joined groups last) := by
  rw [rewrite, rewrite?, String.toList_ofList]
  simp only [split]
  cases groups with
  | nil => exact absurd rfl interpolated
  | cons group rest => rfl

/-- Interpolation means joining texts. When each expression in braces can be read by itself and no
piece of text has one reference right after another, the rewritten formula can be read. Whatever
the surroundings are and the references stand for, it stands for the pieces of text with the shown
values of the expressions between them, and it fails when an expression does. No expression may call
a random function, since it would be another call in the rewritten formula. -/
theorem evaluate_rewrite {body last : List Char} {groups : List (List Char × List Char)}
    {programs : List Program} (split : pieces body = (groups, last)) (interpolated : groups ≠ [])
    (apart : ∀ group ∈ groups, ¬ [']', '['] <:+: group.1) (lastApart : ¬ [']', '['] <:+: last)
    (parsed : List.Forall₂ (fun group program =>
      Program.parse (String.ofList ('=' :: group.2)) = .ok program) groups programs)
    (calm : ∀ part ∈ programs, Program.callsRandom part = false) :
    ∃ program, Program.parse (rewrite (String.ofList ('=' :: body))) = .ok program ∧
      ∀ (context : Context) (resolver : Reference → Operand),
        (∀ values, List.Forall₂ (fun part value =>
            (Program.resolved resolver part).evaluate context = .ok value) programs values →
          (Program.resolved resolver program).evaluate context =
            .ok (.text (filled groups values last))) ∧
        ∀ part ∈ programs, ∀ error,
          (Program.resolved resolver part).evaluate context = .error error →
            ∃ failed, (Program.resolved resolver program).evaluate context = .error failed := by
  obtain ⟨tokens, tree, cuts, derives, calmTree, value⟩ := derives_joined parsed last
  have noneAdjacent : hasAdjacentReferences (joined groups last) = false := by
    have insides := forall_left parsed fun group program read => (parse_eq_ok_iff.1 read).1
    simp only [← hasAdjacentReferences_eq_true_iff, Bool.not_eq_true] at apart lastApart
    refine hasAdjacentReferences_joined ?_ lastApart
    exact fun group member => ⟨apart group member, insides group member⟩
  refine ⟨tree.postorder, ?_, ?_⟩
  · rw [rewrite_of_pieces split interpolated, parse_eq_ok_iff]
    exact ⟨noneAdjacent, tokens, tree, cuts, derives, rfl⟩
  intro context resolver
  let stilled := context.drawing fun _ => .lowest
  have anyDraws {part : Program} (calmPart : part.callsRandom = false) :
      (part.resolved resolver).evaluate context = (part.resolved resolver).evaluate stilled := by
    rw [← Program.callsRandom_resolved resolver] at calmPart
    exact (Program.evaluate_drawing calmPart context _).symm
  have whole := fun found => value resolver stilled found (context.still_drawing _)
  rw [anyDraws (calmTree calm), Expression.evaluate_resolved_postorder]
  constructor
  · intro values parts
    have both := (List.forall₂_and_left _ _).2 ⟨calm, parts⟩
    refine (whole _).2 ⟨values, both.imp fun part shown succeeds => ?_, rfl⟩
    exact (anyDraws succeeds.1).symm.trans succeeds.2
  · intro part member error failed
    cases outcome : (tree.substitute resolver).evaluate stilled with
    | error cause => exact ⟨cause, rfl⟩
    | ok found =>
        obtain ⟨values, parts, -⟩ := (whole found).1 outcome
        obtain ⟨shown, succeeds⟩ :=
          forall_left parts (fun _ shown succeeds => Exists.intro shown succeeds) part member
        rw [anyDraws (calm part member)] at failed
        cases failed.symm.trans succeeds

def totalBody : List Char :=
  "Total: \x7bA1&\"!\"\x7d of \x7b-B1\x7d\"".toList

theorem evaluate_rewrite_totalBody :
    ∃ program, Program.parse (rewrite (String.ofList ('=' :: totalBody))) = .ok program ∧
      (Program.resolved (fun _ => .value (.int 7)) program).evaluate Context.bare =
        .ok (.text "Total: 7! of -7\"") ∧
      ∃ failed, (Program.resolved (fun _ => .range []) program).evaluate Context.bare =
        .error failed := by
  have split : pieces totalBody = ([("Total: ".toList, ['A', '1', '&', '"', '!', '"']),
      (" of ".toList, ['-', 'B', '1'])], ['"']) := by decide +kernel
  have first : Program.parse (String.ofList ('=' :: ['A', '1', '&', '"', '!', '"'])) =
      .ok [.reference (.cell ⟨0, 0⟩), .literal (.text "!"), .operator (.binary .concat)] := by
    decide +kernel
  have second : Program.parse (String.ofList ('=' :: ['-', 'B', '1'])) =
      .ok [.reference (.cell ⟨0, 1⟩), .operator (.sign .negate)] := by decide +kernel
  have text : filled [("Total: ".toList, ['A', '1', '&', '"', '!', '"']),
      (" of ".toList, ['-', 'B', '1'])] [.text "7!", .int (-7)] ['"'] = "Total: 7! of -7\"" := by
    decide +kernel
  obtain ⟨program, read, stands⟩ := evaluate_rewrite split (List.cons_ne_nil _ _)
    (by decide +kernel) (by decide +kernel) (.cons first (.cons second .nil)) (by decide +kernel)
  have joins := (stands Context.bare fun _ => .value (.int 7)).1 [.text "7!", .int (-7)]
    (.cons (by decide +kernel) (.cons (by decide +kernel) .nil))
  rw [text] at joins
  exact ⟨program, read, joins, (stands Context.bare fun _ => .range []).2 _ List.mem_cons_self
    (.writing .rangeAsValue) (by decide +kernel)⟩

end Interpolation

end Spreadsheet
