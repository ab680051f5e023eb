import Spreadsheet.Proofs.Grammar

/-!
What the reader of tokens accepts. The first half follows a derivation: whatever waits, reading the
tokens of a phrase adds operators to the stack, and together with the items found they say the tree
of the phrase. The second half follows the reading: what waits and what was found tell how the
tokens so far divide into complete phrases and the beginnings of phrases.

The main statement puts the halves together. The accepted lists of tokens are those of the grammar,
and the program is the postorder of the tree.
-/

set_option autoImplicit false

namespace Spreadsheet.Program

namespace Reading

open Expression (postorder postorderAll)

/-! ### Releasing operators -/

theorem release_operators {leaves : Operator → Bool} {operators : List Operator}
    (all : ∀ operator ∈ operators, leaves operator = true) (waiting : List Waiting)
    (found : List Item) :
    release leaves (operators.map .operator ++ waiting) found =
      release leaves waiting ((operators.map Item.operator).reverse ++ found) := by
  induction operators generalizing found with
  | nil => rfl
  | cons operator rest ih =>
      have first := all operator List.mem_cons_self
      rw [List.map_cons, List.cons_append, release, if_pos first,
        ih fun other member => all other (List.mem_cons_of_mem _ member)]
      simp only [List.map_cons, List.reverse_cons, List.append_assoc, List.singleton_append]

theorem release_eq_self {leaves : Operator → Bool} {waiting : List Waiting}
    (stays : ∀ operator rest, waiting = .operator operator :: rest → leaves operator = false)
    (found : List Item) : release leaves waiting found = (waiting, found) := by
  cases waiting with
  | nil => rfl
  | cons top rest =>
      cases top with
      | operator operator =>
          have stay := stays operator rest rfl
          rw [release, stay]
          rfl
      | group => rfl
      | arguments function complete => rfl

def Bare (waiting : List Waiting) : Prop :=
  ∀ operator rest, waiting ≠ .operator operator :: rest

theorem bare_nil : Bare [] := by
  intro operator rest same
  cases same

theorem bare_group (waiting : List Waiting) : Bare (.group :: waiting) := by
  intro operator rest same
  cases same

theorem bare_arguments (function : String) (complete : Nat) (waiting : List Waiting) :
    Bare (.arguments function complete :: waiting) := by
  intro operator rest same
  cases same

theorem Bare.stays {waiting : List Waiting} (bare : Bare waiting) {leaves : Operator → Bool}
    (operator : Operator) (rest : List Waiting) (same : waiting = .operator operator :: rest) :
    leaves operator = false :=
  absurd same (bare operator rest)

/-! ### From a derivation to a reading -/

/-- No operator of the phrase makes an operator leave that waits in front of the phrase. -/
def Undisturbed (phrase : Phrase) (waiting : List Waiting) : Prop :=
  ∀ next : BinaryOperator, phrase.level ≤ next.phrase.level →
    ∀ operator rest, waiting = .operator operator :: rest → goesFirst next operator = false

theorem Bare.undisturbed {waiting : List Waiting} (bare : Bare waiting) (phrase : Phrase) :
    Undisturbed phrase waiting := by
  intro next above
  exact bare.stays

theorem Undisturbed.mono {loose tight : Phrase} {waiting : List Waiting}
    (notAbove : loose.level ≤ tight.level) (undisturbed : Undisturbed loose waiting) :
    Undisturbed tight waiting :=
  fun next above => undisturbed next (Nat.le_trans notAbove above)

theorem undisturbed_rightPhrase (operator : Operator) (waiting : List Waiting) :
    Undisturbed operator.rightPhrase (.operator operator :: waiting) := by
  intro next inside top rest same
  cases same
  exact BinaryOperator.stays_of_rightPhrase_le inside

/-- After a phrase: the stack has grown by operators that leave with whatever may follow the
phrase, and once they have left the items are those of the tree. -/
structure AfterPhrase (phrase : Phrase) (items : List Item) (waiting : List Waiting)
    (reading : Reading) : Prop where
  complete : reading.expectsOperand = false
  grown : ∃ operators : List Operator,
    reading.waiting = operators.map .operator ++ waiting ∧
    (operators.map Item.operator).reverse ++ reading.found = items ∧
    ∀ next : BinaryOperator, next.leftPhrase.level ≤ phrase.level →
      ∀ operator ∈ operators, goesFirst next operator = true

theorem AfterPhrase.mono {loose tight : Phrase} {items : List Item} {waiting : List Waiting}
    {reading : Reading} (notAbove : loose.level ≤ tight.level)
    (after : AfterPhrase tight items waiting reading) :
    AfterPhrase loose items waiting reading := by
  obtain ⟨complete, operators, stack, said, leave⟩ := after
  exact ⟨complete, operators, stack, said, fun next follows =>
    leave next (Nat.le_trans follows notAbove)⟩

theorem AfterPhrase.ofPrimary (items : List Item) (waiting : List Waiting) :
    AfterPhrase .primary items waiting { found := items, waiting, expectsOperand := false } :=
  ⟨rfl, [], rfl, rfl, by intro next follows operator member; cases member⟩

theorem AfterPhrase.release_all {phrase : Phrase} {items : List Item} {waiting : List Waiting}
    {reading : Reading} (after : AfterPhrase phrase items waiting reading)
    (bare : Bare waiting) :
    release (fun _ => true) reading.waiting reading.found = (waiting, items) := by
  obtain ⟨-, operators, stack, said, -⟩ := after
  rw [stack, release_operators (fun _ _ => rfl), said]
  exact release_eq_self bare.stays items

theorem AfterPhrase.readOperator {operator : BinaryOperator} {items : List Item}
    {waiting : List Waiting} {reading : Reading}
    (after : AfterPhrase operator.leftPhrase items waiting reading)
    (undisturbed : Undisturbed operator.phrase waiting) :
    reading.readOperator operator =
      .ok { found := items, waiting := .operator (.binary operator) :: waiting,
            expectsOperand := true } := by
  obtain ⟨complete, operators, stack, said, leave⟩ := after
  have left : release (goesFirst operator) reading.waiting reading.found = (waiting, items) := by
    rw [stack, release_operators (leave operator (Nat.le_refl _)), said]
    exact release_eq_self (undisturbed operator (Nat.le_refl _)) items
  simp only [Reading.readOperator, complete, left]
  rfl

theorem AfterPhrase.ofRight (operator : Operator) {items : List Item} {waiting : List Waiting}
    {reading : Reading}
    (after : AfterPhrase operator.rightPhrase items (.operator operator :: waiting) reading) :
    AfterPhrase operator.phrase (.operator operator :: items) waiting reading := by
  obtain ⟨complete, operators, stack, said, leave⟩ := after
  refine ⟨complete, operators ++ [operator], ?_, ?_, ?_⟩
  · rw [stack, List.map_append, List.append_assoc]
    rfl
  · rw [List.map_append, List.reverse_append, List.append_assoc, said]
    rfl
  · intro next follows other member
    rcases List.mem_append.1 member with inside | last
    · exact leave next (BinaryOperator.leftPhrase_le_rightPhrase follows) other inside
    · cases List.mem_singleton.1 last
      exact BinaryOperator.leaves_of_leftPhrase_le follows

theorem run_cons_of_step {reading next : Reading} {token : Token}
    (stepped : reading.step token = .ok next) (rest : List Token) :
    reading.run (token :: rest) = next.run rest := by
  rw [run, stepped]

theorem run_append_of_run {reading next : Reading} {first : List Token}
    (first_run : reading.run first = .ok next) (rest : List Token) :
    reading.run (first ++ rest) = next.run rest := by
  rw [run_append, first_run]

/-- Wherever nothing is disturbed, reading the tokens comes to the state after the phrase. -/
def ReadAs (phrase : Phrase) (tokens : List Token) (tree : Expression) : Prop :=
  ∀ (waiting : List Waiting) (found : List Item), Undisturbed phrase waiting →
    ∃ reading : Reading,
      run { found, waiting, expectsOperand := true } tokens = .ok reading ∧
      AfterPhrase phrase (tree.postorder.reverse ++ found) waiting reading

theorem readAs_operand {token : Token} {item : Item} {tree : Expression}
    (alone : tree.postorder = [item])
    (reads : ∀ reading : Reading, reading.step token = reading.readOperand item) :
    ReadAs .primary [token] tree := by
  intro waiting found undisturbed
  rw [alone]
  refine ⟨{ found := item :: found, waiting, expectsOperand := false }, ?_, .ofPrimary _ _⟩
  rw [run_cons_of_step (reads _)]
  rfl

theorem run_group {tokens : List Token} {tree : Expression} (inside : ReadAs .concat tokens tree)
    (waiting : List Waiting) (found : List Item) :
    run { found, waiting, expectsOperand := true } (.opening :: (tokens ++ [.closing])) =
      .ok { found := tree.postorder.reverse ++ found, waiting, expectsOperand := false } := by
  have bare := bare_group waiting
  obtain ⟨reading, inner, after⟩ := inside (.group :: waiting) found (bare.undisturbed _)
  have released := after.release_all bare
  have closed : reading.step .closing =
      .ok { found := tree.postorder.reverse ++ found, waiting, expectsOperand := false } := by
    simp only [step, readClosing, after.complete, released]
    rfl
  have opened : step { found, waiting, expectsOperand := true } .opening =
      .ok { found, waiting := .group :: waiting, expectsOperand := true } := rfl
  rw [run_cons_of_step opened, run_append_of_run inner, run_cons_of_step closed]
  rfl

theorem readAs_group {tokens : List Token} {tree : Expression}
    (inside : ReadAs .concat tokens tree) :
    ReadAs .primary (.opening :: (tokens ++ [.closing])) tree := by
  intro waiting found undisturbed
  exact ⟨_, run_group inside waiting found, .ofPrimary _ _⟩

theorem readAs_sign {token : Token} {sign : SignOperator} {tokens : List Token}
    {tree : Expression} (operand : ReadAs .unary tokens tree)
    (reads : ∀ (waiting : List Waiting) (found : List Item),
      step { found, waiting, expectsOperand := true } token =
        .ok { found, waiting := .operator (.sign sign) :: waiting, expectsOperand := true }) :
    ReadAs .unary (token :: tokens) (.sign sign tree) := by
  intro waiting found undisturbed
  obtain ⟨reading, inner, after⟩ := operand (.operator (.sign sign) :: waiting) found
    (undisturbed_rightPhrase (.sign sign) waiting)
  refine ⟨reading, ?_, ?_⟩
  · rw [run_cons_of_step (reads waiting found), inner]
  · have whole := AfterPhrase.ofRight (.sign sign) after
    rw [postorder, List.reverse_append, List.append_assoc]
    exact whole

theorem readAs_binary (operator : BinaryOperator) {before after : List Token}
    {left right : Expression} (leftOperand : ReadAs operator.leftPhrase before left)
    (rightOperand : ReadAs operator.rightPhrase after right) :
    ReadAs operator.phrase (before ++ .operator operator :: after)
      (.binary operator left right) := by
  intro waiting found undisturbed
  obtain ⟨middle, leftRun, afterLeft⟩ := leftOperand waiting found
    (undisturbed.mono operator.phrase_level_le_leftPhrase)
  have joined : middle.step (.operator operator) = _ := afterLeft.readOperator undisturbed
  obtain ⟨reading, rightRun, afterRight⟩ := rightOperand
    (.operator (.binary operator) :: waiting) (left.postorder.reverse ++ found)
    (undisturbed_rightPhrase (.binary operator) waiting)
  refine ⟨reading, ?_, ?_⟩
  · rw [run_append_of_run leftRun, run_cons_of_step joined, rightRun]
  · have whole := AfterPhrase.ofRight (.binary operator) afterRight
    simp only [postorder, List.reverse_append, List.append_assoc]
    exact whole

theorem intercalate_comma (first second : List Token) (others : List (List Token)) :
    [Token.comma].intercalate (first :: second :: others) =
      first ++ .comma :: [Token.comma].intercalate (second :: others) :=
  rfl

theorem run_arguments (function : String) (first : List Token × Expression)
    (others : List (List Token × Expression))
    (each : ∀ argument ∈ first :: others, ReadAs .concat argument.1 argument.2)
    (complete : Nat) (waiting : List Waiting) (found : List Item) :
    ∃ reading : Reading,
      run { found, waiting := .arguments function complete :: waiting, expectsOperand := true }
          ([Token.comma].intercalate ((first :: others).map Prod.fst)) = .ok reading ∧
      AfterPhrase .concat ((postorderAll ((first :: others).map Prod.snd)).reverse ++ found)
        (.arguments function (complete + others.length) :: waiting) reading := by
  induction others generalizing first complete found with
  | nil =>
      have bare := bare_arguments function complete waiting
      obtain ⟨reading, ran, after⟩ := each first List.mem_cons_self
        (.arguments function complete :: waiting) found (bare.undisturbed _)
      refine ⟨reading, ?_, ?_⟩
      · simpa [List.intercalate] using ran
      · simpa [postorderAll] using after
  | cons second others ih =>
      have bare := bare_arguments function complete waiting
      obtain ⟨middle, ran, after⟩ := each first List.mem_cons_self
        (.arguments function complete :: waiting) found (bare.undisturbed _)
      have released := after.release_all bare
      have comma : middle.step .comma =
          .ok { found := first.2.postorder.reverse ++ found,
                waiting := .arguments function (complete + 1) :: waiting,
                expectsOperand := true } := by
        simp only [step, readComma, after.complete, released]
        rfl
      obtain ⟨reading, following, afterAll⟩ := ih second
        (fun argument member => each argument (List.mem_cons_of_mem _ member))
        (complete + 1) (first.2.postorder.reverse ++ found)
      refine ⟨reading, ?_, ?_⟩
      · rw [List.map_cons, List.map_cons, intercalate_comma, run_append_of_run ran,
          run_cons_of_step comma]
        exact following
      · rw [List.map_cons, postorderAll, List.reverse_append, List.append_assoc, List.length_cons]
        rw [Nat.add_right_comm, Nat.add_assoc] at afterAll
        exact afterAll

theorem readAs_call (function : String) {arguments : List (List Token × Expression)}
    (each : ∀ argument ∈ arguments, ReadAs .concat argument.1 argument.2) :
    ReadAs .primary
      (.function function :: ([Token.comma].intercalate (arguments.map Prod.fst) ++ [.closing]))
      (.call function (arguments.map Prod.snd)) := by
  intro waiting found undisturbed
  have opened : step { found, waiting, expectsOperand := true } (.function function) =
      .ok { found, waiting := .arguments function 0 :: waiting, expectsOperand := true } := rfl
  refine ⟨_, ?_, .ofPrimary _ _⟩
  rw [run_cons_of_step opened]
  cases arguments with
  | nil => rfl
  | cons first others =>
      obtain ⟨reading, ran, after⟩ := run_arguments function first others each 0 waiting found
      have released := after.release_all (bare_arguments _ _ _)
      have closed : reading.step .closing =
          .ok { found := .call function (0 + others.length + 1) ::
                  ((postorderAll ((first :: others).map Prod.snd)).reverse ++ found),
                waiting, expectsOperand := false } := by
        simp only [step, readClosing, after.complete, released]
        rfl
      rw [run_append_of_run ran, run_cons_of_step closed, run, postorder, List.reverse_append,
        List.append_assoc, List.length_map, List.length_cons, Nat.zero_add]
      rfl

/-- The tokens of a phrase are read as the phrase. -/
theorem readAs_of_derives {phrase : Phrase} {tokens : List Token} {tree : Expression}
    (derived : Derives phrase tokens tree) : ReadAs phrase tokens tree := by
  induction derived with
  | number n => exact readAs_operand rfl fun _ => rfl
  | text s => exact readAs_operand rfl fun _ => rfl
  | reference target => exact readAs_operand rfl fun _ => rfl
  | name given => exact readAs_operand rfl fun _ => rfl
  | group inside ih => exact readAs_group ih
  | call function each ih => exact readAs_call function ih
  | plus operand ih => exact readAs_sign ih fun _ _ => rfl
  | minus operand ih => exact readAs_sign ih fun _ _ => rfl
  | binary operator leftOperand rightOperand leftRead rightRead =>
      exact readAs_binary operator leftRead rightRead
  | looser notAbove phrase ih =>
      intro waiting found undisturbed
      obtain ⟨reading, ran, after⟩ := ih waiting found (undisturbed.mono notAbove)
      exact ⟨reading, ran, after.mono notAbove⟩

/-! ### From a reading to derivations -/

/-- The tokens before an operand: what waits is begun by them and lacks its last operand, and the
items found are those of the operands that are complete. -/
inductive Opened : List Waiting → List Token → List Item → Prop
  | start : Opened [] [] []
  | sign {waiting : List Waiting} {tokens : List Token} {found : List Item}
      {operator : BinaryOperator} {sign : SignOperator} (outer : Opened waiting tokens found)
      (written : operator.asSign? = some sign) :
      Opened (.operator (.sign sign) :: waiting) (tokens ++ [.operator operator]) found
  | binary {waiting : List Waiting} {tokens before : List Token} {found : List Item}
      {left : Expression} {operator : BinaryOperator} (outer : Opened waiting tokens found)
      (stays : ∀ below rest, waiting = .operator below :: rest →
        goesFirst operator below = false)
      (leftOperand : Derives operator.leftPhrase before left) :
      Opened (.operator (.binary operator) :: waiting) (tokens ++ before ++ [.operator operator])
        (left.postorder.reverse ++ found)
  | group {waiting : List Waiting} {tokens : List Token} {found : List Item}
      (outer : Opened waiting tokens found) :
      Opened (.group :: waiting) (tokens ++ [.opening]) found
  | arguments {waiting : List Waiting} {tokens : List Token} {found : List Item}
      (function : String) {complete : List (List Token × Expression)}
      (outer : Opened waiting tokens found)
      (each : ∀ argument ∈ complete, Derives .concat argument.1 argument.2) :
      Opened (.arguments function complete.length :: waiting)
        (tokens ++ .function function :: complete.flatMap fun argument => argument.1 ++ [.comma])
        ((postorderAll (complete.map Prod.snd)).reverse ++ found)

/-- A reading tells how the tokens so far divide: either an operand is to come, or the last of
them are a complete one. -/
inductive Divides : Reading → List Token → Prop
  | before {waiting : List Waiting} {tokens : List Token} {found : List Item}
      (opened : Opened waiting tokens found) :
      Divides { found, waiting, expectsOperand := true } tokens
  | after {waiting : List Waiting} {tokens inside : List Token} {found : List Item}
      {tree : Expression} (opened : Opened waiting tokens found)
      (operand : Derives .primary inside tree) :
      Divides { found := tree.postorder.reverse ++ found, waiting, expectsOperand := false }
        (tokens ++ inside)

/-- The waiting operator takes the phrase for its right operand, if an operator waits. -/
def Takes (waiting : List Waiting) (phrase : Phrase) : Prop :=
  ∀ operator rest, waiting = .operator operator :: rest →
    operator.rightPhrase.level ≤ phrase.level

/-- Where the last phrase stands once some operators have left: it has grown at its left end, and
its kind is that of the last operator to leave. -/
structure Released (leaves : Operator → Bool) (phrase : Phrase) (tokens : List Token)
    (result : List Waiting × List Item) : Prop where
  grown : ∃ (before inside : List Token) (found : List Item) (tree : Expression) (kind : Phrase),
    Opened result.1 before found ∧ Derives kind inside tree ∧ before ++ inside = tokens ∧
      result.2 = tree.postorder.reverse ++ found ∧
      (kind = phrase ∨ ∃ operator, leaves operator = true ∧ operator.phrase = kind)
  stays : ∀ operator rest, result.1 = .operator operator :: rest → leaves operator = false

theorem Released.of_operator {leaves : Operator → Bool} {phrase : Phrase} {operator : Operator}
    {tokens : List Token} {result : List Waiting × List Item} (left : leaves operator = true)
    (released : Released leaves operator.phrase tokens result) :
    Released leaves phrase tokens result := by
  obtain ⟨⟨before, inside, found, tree, kind, opened, derived, joined, items, from_⟩, stays⟩ :=
    released
  refine ⟨⟨before, inside, found, tree, kind, opened, derived, joined, items, .inr ?_⟩, stays⟩
  rcases from_ with same | other
  · exact ⟨operator, left, same.symm⟩
  · exact other

theorem derives_sign {operator : BinaryOperator} {sign : SignOperator} {tokens : List Token}
    {tree : Expression} (written : operator.asSign? = some sign)
    (operand : Derives .unary tokens tree) :
    Derives .unary (.operator operator :: tokens) (.sign sign tree) := by
  cases operator with
  | add => cases written; exact .plus operand
  | subtract => cases written; exact .minus operand
  | multiply => cases written
  | divide => cases written
  | power => cases written
  | concat => cases written

theorem Opened.released {waiting : List Waiting} {before : List Token} {found : List Item}
    (opened : Opened waiting before found) (leaves : Operator → Bool) {phrase : Phrase}
    {inside : List Token} {tree : Expression} (derived : Derives phrase inside tree)
    (takes : Takes waiting phrase) :
    Released leaves phrase (before ++ inside)
      (release leaves waiting (tree.postorder.reverse ++ found)) := by
  have unmoved {waiting : List Waiting} {before inside : List Token} {found : List Item}
      {phrase : Phrase} {tree : Expression} (opened : Opened waiting before found)
      (derived : Derives phrase inside tree)
      (stays : ∀ operator rest, waiting = .operator operator :: rest → leaves operator = false) :
      Released leaves phrase (before ++ inside)
        (release leaves waiting (tree.postorder.reverse ++ found)) := by
    rw [release_eq_self stays]
    exact ⟨⟨_, _, _, _, phrase, opened, derived, rfl, rfl, .inl rfl⟩, stays⟩
  induction opened generalizing phrase inside tree with
  | start => exact unmoved .start derived bare_nil.stays
  | group outer ih => exact unmoved (.group outer) derived (bare_group _).stays
  | arguments function outer each ih =>
      exact unmoved (.arguments function outer each) derived (bare_arguments _ _ _).stays
  | @sign waiting tokens found operator sign outer written ih =>
      cases leaving : leaves (.sign sign) with
      | false =>
          refine unmoved (.sign outer written) derived ?_
          rintro _ _ ⟨⟩
          exact leaving
      | true =>
          have operand : Derives .unary inside tree := .looser (takes _ _ rfl) derived
          have whole := ih (derives_sign written operand)
            (fun below rest _ => below.rightPhrase_level_le_unary)
          rw [postorder, List.reverse_append, List.append_assoc] at whole
          rw [release, if_pos leaving, List.append_assoc]
          exact Released.of_operator leaving whole
  | @binary waiting tokens before found left operator outer stays leftOperand ih =>
      cases leaving : leaves (.binary operator) with
      | false =>
          refine unmoved (.binary outer stays leftOperand) derived ?_
          rintro _ _ ⟨⟩
          exact leaving
      | true =>
          have rightOperand : Derives operator.rightPhrase inside tree :=
            .looser (takes _ _ rfl) derived
          have whole := ih (.binary operator leftOperand rightOperand)
            (fun below rest same => BinaryOperator.rightPhrase_le_of_stays (stays below rest same))
          simp only [postorder, List.reverse_append, List.append_assoc] at whole
          rw [release, if_pos leaving]
          simp only [List.append_assoc]
          exact Released.of_operator leaving whole

theorem Divides.released_all {reading : Reading} {tokens : List Token}
    (divides : Divides reading tokens) (complete : reading.expectsOperand = false) :
    ∃ (before inside : List Token) (found : List Item) (tree : Expression),
      Opened (release (fun _ => true) reading.waiting reading.found).1 before found ∧
      Derives .concat inside tree ∧ before ++ inside = tokens ∧
      (release (fun _ => true) reading.waiting reading.found).2 =
        tree.postorder.reverse ++ found := by
  cases divides with
  | before opened => cases complete
  | after opened operand =>
      obtain ⟨⟨before, inside, found, tree, kind, outer, derived, joined, items, -⟩, -⟩ :=
        opened.released (fun _ => true) operand (fun operator rest _ =>
          Nat.le_trans operator.rightPhrase_level_le_unary (by decide))
      exact ⟨before, inside, found, tree, outer, .looser (Nat.zero_le _) derived, joined, items⟩

theorem Divides.readOperand {reading next : Reading} {tokens : List Token} {token : Token}
    {item : Item} {tree : Expression} (divides : Divides reading tokens)
    (alone : tree.postorder = [item]) (operand : Derives .primary [token] tree)
    (read : reading.readOperand item = .ok next) : Divides next (tokens ++ [token]) := by
  cases divides with
  | before opened =>
      cases read
      have whole := Divides.after opened operand
      rw [alone] at whole
      exact whole
  | after opened operand => cases read

theorem Divides.readOpening {reading next : Reading} {tokens opening : List Token}
    {shown : String} {waiting : Waiting} (divides : Divides reading tokens)
    (opens : ∀ {outer : List Waiting} {found : List Item}, Opened outer tokens found →
      Opened (waiting :: outer) (tokens ++ opening) found)
    (read : reading.readOpening shown waiting = .ok next) : Divides next (tokens ++ opening) := by
  cases divides with
  | before opened =>
      cases read
      exact .before (opens opened)
  | after opened operand => cases read

theorem Divides.readOperator {reading next : Reading} {tokens : List Token}
    {operator : BinaryOperator} (divides : Divides reading tokens)
    (read : reading.readOperator operator = .ok next) :
    Divides next (tokens ++ [.operator operator]) := by
  cases divides with
  | before opened =>
      simp only [Reading.readOperator, if_true] at read
      split at read
      · rename_i sign written
        cases read
        exact .before (.sign opened written)
      · cases read
  | @after waiting tokens inside found tree opened operand =>
      obtain ⟨⟨before, left, items, tree, kind, outer, derived, joined, same, reason⟩, stays⟩ :=
        opened.released (goesFirst operator) operand (fun below rest _ =>
          Nat.le_trans below.rightPhrase_level_le_unary (by decide))
      have leftOperand : Derives operator.leftPhrase left tree := by
        rcases reason with unchanged | ⟨last, leaves, unchanged⟩
        · rw [unchanged] at derived
          exact .looser operator.leftPhrase_level_le_primary derived
        · rw [← unchanged] at derived
          exact .looser (BinaryOperator.leftPhrase_le_of_leaves leaves) derived
      simp only [Reading.readOperator, Bool.false_eq_true, if_false] at read
      cases read
      rw [same, ← joined]
      exact .before (.binary outer stays leftOperand)

theorem intercalate_comma_snoc (complete : List (List Token × Expression))
    (last : List Token × Expression) :
    [Token.comma].intercalate ((complete ++ [last]).map Prod.fst) =
      (complete.flatMap fun argument => argument.1 ++ [.comma]) ++ last.1 := by
  induction complete with
  | nil => exact List.append_nil _
  | cons first rest ih =>
      have following : ∃ second others, (rest ++ [last]).map Prod.fst = second :: others := by
        cases rest <;> exact ⟨_, _, rfl⟩
      obtain ⟨second, others, same⟩ := following
      rw [List.cons_append, List.map_cons, same, intercalate_comma, ← same, ih,
        List.flatMap_cons, List.append_assoc, List.append_assoc]
      rfl

theorem derives_snoc {complete : List (List Token × Expression)} {inside : List Token}
    {tree : Expression}
    (each : ∀ argument ∈ complete, Derives .concat argument.1 argument.2)
    (last : Derives .concat inside tree) :
    ∀ argument ∈ complete ++ [(inside, tree)], Derives .concat argument.1 argument.2 := by
  intro argument member
  rcases List.mem_append.1 member with earlier | new
  · exact each argument earlier
  · cases List.mem_singleton.1 new
    exact last

theorem Divides.readComma {reading next : Reading} {tokens : List Token}
    (divides : Divides reading tokens) (read : reading.readComma = .ok next) :
    Divides next (tokens ++ [.comma]) := by
  unfold Reading.readComma at read
  split at read
  · split at read <;> cases read
  · rename_i complete
    obtain ⟨before, inside, found, tree, opened, last, joined, items⟩ :=
      divides.released_all (Bool.eq_false_iff.2 complete)
    split at read
    · rename_i function count rest remaining released
      cases read
      rw [released] at opened items
      dsimp only at opened items
      cases opened with
      | @arguments _ outside earlierFound _ arguments outer each =>
          have one_more := Opened.arguments function outer (derives_snoc each last)
          rw [List.flatMap_append, List.map_append, Expression.postorderAll_append,
            List.length_append, List.reverse_append] at one_more
          rw [items, ← joined]
          refine .before ?_
          simpa [postorderAll] using one_more
    · cases read

theorem Divides.readClosing {reading next : Reading} {tokens : List Token}
    (divides : Divides reading tokens) (read : reading.readClosing = .ok next) :
    Divides next (tokens ++ [.closing]) := by
  unfold Reading.readClosing at read
  split at read
  · rename_i expected
    cases divides with
    | after opened operand => cases expected
    | before opened =>
        dsimp only at read
        split at read
        · rename_i function rest
          cases read
          generalize zero : (0 : Nat) = count at opened
          cases opened with
          | @arguments _ outside found _ arguments outer each =>
              cases List.length_eq_zero_iff.1 zero.symm
              have call : Derives .primary _ _ := .call function each
              have whole := Divides.after outer call
              rw [List.append_assoc]
              exact whole
        all_goals cases read
  · rename_i complete
    obtain ⟨before, inside, found, tree, opened, last, joined, items⟩ :=
      divides.released_all (Bool.eq_false_iff.2 complete)
    split at read
    · rename_i function count rest remaining released
      cases read
      rw [released] at opened items
      dsimp only at opened items
      cases opened with
      | @arguments _ outside earlierFound _ arguments outer each =>
          have call := Derives.call function (derives_snoc each last)
          have whole := Divides.after outer call
          rw [intercalate_comma_snoc, postorder, List.map_append, Expression.postorderAll_append]
            at whole
          rw [items, ← joined]
          simpa [postorderAll] using whole
    · rename_i rest remaining released
      cases read
      rw [released] at opened items
      dsimp only at opened items
      cases opened with
      | @group _ outside _ outer =>
          have whole := Divides.after outer (Derives.group last)
          rw [items, ← joined]
          simpa using whole
    · cases read

/-- One token further the reading still tells how the tokens divide. -/
theorem Divides.step {reading next : Reading} {tokens : List Token} {token : Token}
    (divides : Divides reading tokens) (stepped : reading.step token = .ok next) :
    Divides next (tokens ++ [token]) := by
  cases token with
  | number n => exact divides.readOperand rfl (.number n) stepped
  | text s => exact divides.readOperand rfl (.text s) stepped
  | reference target => exact divides.readOperand rfl (.reference target) stepped
  | name given => exact divides.readOperand rfl (.name given) stepped
  | function name =>
      refine divides.readOpening (fun outer => ?_) stepped
      have none_yet : ∀ argument ∈ ([] : List (List Token × Expression)),
          Derives .concat argument.1 argument.2 := fun argument member => by cases member
      exact Opened.arguments name outer none_yet
  | operator operator => exact divides.readOperator stepped
  | opening => exact divides.readOpening (fun outer => .group outer) stepped
  | closing => exact divides.readClosing stepped
  | comma => exact divides.readComma stepped

theorem Divides.run {reading next : Reading} {tokens : List Token} (rest : List Token)
    (divides : Divides reading tokens) (ran : reading.run rest = .ok next) :
    Divides next (tokens ++ rest) := by
  induction rest generalizing reading tokens with
  | nil =>
      cases ran
      rw [List.append_nil]
      exact divides
  | cons token others ih =>
      rw [Reading.run] at ran
      split at ran
      · cases ran
      · rename_i middle stepped
        have whole := ih (divides.step stepped) ran
        rw [List.append_assoc] at whole
        exact whole

theorem Divides.finish {reading : Reading} {tokens : List Token} {program : Program}
    (divides : Divides reading tokens) (finished : reading.finish = .ok program) :
    ∃ tree, Derives .concat tokens tree ∧ tree.postorder = program := by
  unfold Reading.finish at finished
  split at finished
  · cases finished
  · rename_i complete
    obtain ⟨before, inside, found, tree, opened, whole, joined, items⟩ :=
      divides.released_all (Bool.eq_false_iff.2 complete)
    split at finished
    · rename_i remaining released
      cases finished
      rw [released] at opened items
      dsimp only at opened items
      cases opened with
      | start =>
          refine ⟨tree, ?_, ?_⟩
          · rw [← joined]
            exact whole
          · rw [items, List.append_nil, List.reverse_reverse]
    · cases finished

end Reading

theorem derives_of_ofTokens {tokens : List Token} {program : Program}
    (accepted : ofTokens tokens = .ok program) :
    ∃ tree, Derives .concat tokens tree ∧ tree.postorder = program := by
  unfold ofTokens at accepted
  split at accepted
  · cases accepted
  · split at accepted
    · cases accepted
    · rename_i reading ran
      have divides := Reading.Divides.run _ (.before .start) ran
      exact divides.finish accepted

theorem ofTokens_of_derives {tokens : List Token} {tree : Expression}
    (derived : Derives .concat tokens tree) : ofTokens tokens = .ok tree.postorder := by
  obtain ⟨reading, ran, after⟩ := Reading.readAs_of_derives derived [] []
    (Reading.bare_nil.undisturbed _)
  have released := after.release_all Reading.bare_nil
  have finished : reading.finish = .ok tree.postorder := by
    rw [Reading.finish, after.complete, released, List.append_nil]
    exact congrArg Except.ok (List.reverse_reverse _)
  cases tokens with
  | nil =>
      cases ran
      cases after.complete
  | cons first rest =>
      simp only [ofTokens, Reading.start, ran]
      exact finished

/-- A list of tokens is accepted exactly when it is a formula of the grammar, and the program is
then the postorder of its tree. -/
theorem ofTokens_eq_ok_iff (tokens : List Token) (program : Program) :
    ofTokens tokens = .ok program ↔
      ∃ tree, Derives .concat tokens tree ∧ tree.postorder = program := by
  constructor
  · exact derives_of_ofTokens
  · intro formula
    obtain ⟨tree, derived, same⟩ := formula
    rw [← same]
    exact ofTokens_of_derives derived

end Spreadsheet.Program
