import Spreadsheet.Proofs.Grammar.Inlining
import Spreadsheet.Proofs.Interchange
import Spreadsheet.Proofs.Sheet.Comparison
import Spreadsheet.Proofs.Sheet.Consistency

/-!
References inlined. A formula that refers to a cell with a formula of its own can be written without
this reference: the other formula, in parentheses, takes its place. The cells that the other formula
refers to are found in the finished sheet as they were found for the other cell, and what the other
cell was told to be comes out of its program in place.

The main statement is that the longer formula is read and has the value of the shorter one, as long
as the other formula does not ask at which cell it stands.
-/

set_option autoImplicit false

namespace Spreadsheet

theorem Program.resolveWith_append_eq_ok_iff {resolver : Reference → Outcome Operand}
    {first second resolved : Program} :
    (first ++ second).resolveWith resolver = .ok resolved ↔
      ∃ front back, first.resolveWith resolver = .ok front ∧
        second.resolveWith resolver = .ok back ∧ resolved = front ++ back := by
  rw [resolveWith, resolveWith, resolveWith, List.mapM_append]
  simp only [Outcome.bind_eq_ok_iff]
  constructor
  · rintro ⟨front, found, back, foundBack, same⟩
    cases same
    exact ⟨front, back, found, foundBack, rfl⟩
  · rintro ⟨front, back, found, foundBack, rfl⟩
    exact ⟨front, found, back, foundBack, rfl⟩

theorem Item.asksPlace_of_resolveWith {resolver : Reference → Outcome Operand} {item found : Item}
    (placeless : item.asksPlace = false)
    (resolved : Item.resolveWith resolver item = .ok found) : found.asksPlace = false := by
  cases item with
  | reference target =>
      simp only [Item.resolveWith, Outcome.bind_eq_ok_iff] at resolved
      obtain ⟨operand, -, same⟩ := resolved
      cases same
      rfl
  | literal value => cases resolved; exact placeless
  | resolved operand => cases resolved; exact placeless
  | name given => cases resolved; exact placeless
  | operator operator => cases resolved; exact placeless
  | call function count => cases resolved; exact placeless

theorem Program.asksPlace_of_resolveWith {resolver : Reference → Outcome Operand}
    {program resolved : Program} (placeless : ∀ item ∈ program, item.asksPlace = false)
    (found : program.resolveWith resolver = .ok resolved) :
    ∀ item ∈ resolved, item.asksPlace = false := by
  induction program generalizing resolved with
  | nil =>
      cases found
      exact placeless
  | cons item rest ih =>
      obtain ⟨first, others⟩ := List.forall_mem_cons.1 placeless
      simp only [resolveWith, List.mapM_cons, Outcome.bind_eq_ok_iff] at found
      obtain ⟨filled, one, filledRest, following, same⟩ := found
      cases same
      exact List.forall_mem_cons.2 ⟨Item.asksPlace_of_resolveWith first one, ih others following⟩

namespace Sheet

/-- When visits find at least the values that are known, answers by visits are those from known
results, as long as these come to a result. -/
theorem Inquiry.walk_of_answer {α : Type} {look : Address → Outcome Value}
    {visit : Address → Walking Value} {Keeps : Walk → Prop}
    (finds : ∀ asked value walk, look asked = .ok value → Keeps walk →
      ((visit asked).run walk).1 = .ok value ∧ Keeps ((visit asked).run walk).2)
    {inquiry : Inquiry α} {result : α} {walk : Walk}
    (answered : inquiry.answer look = .ok result) (kept : Keeps walk) :
    ((inquiry.walk visit).run walk).1 = .ok result := by
  induction inquiry generalizing walk with
  | done outcome => exact answered
  | ask asked next ih =>
      cases known : look asked with
      | error error =>
          rw [answer_ask_error known] at answered
          cases answered
      | ok value =>
          rw [answer_ask_ok known] at answered
          have found := finds asked value walk known kept
          rw [Inquiry.walk, Walking.run_bind]
          generalize (visit asked).run walk = visited at found ⊢
          obtain ⟨outcome, after⟩ := visited
          obtain ⟨same, keptAfter⟩ := found
          dsimp only at same keptAfter
          subst same
          exact ih value answered keptAfter

namespace Source

def tokensOf (formula : String) : Outcome (List Token) :=
  Token.tokenize (Program.body (Interpolation.rewrite formula))

theorem ofTokens_of_programOf {formula : String} {program : Program}
    (read : programOf formula = .ok program) :
    ∃ tokens, tokensOf formula = .ok tokens ∧ Program.ofTokens tokens = .ok program := by
  simp only [programOf, Program.parse, Outcome.bind_eq_ok_iff] at read
  obtain ⟨_, -, tokens, cut, accepted⟩ := read
  exact ⟨tokens, cut, accepted⟩

theorem program_of_finished {source : Source} (steady : source.Steady) {address : Address}
    {formula : String} {value : Value} (present : source.FormulaAt address formula)
    (finished : source.finished address = .ok value) :
    ∃ tokens program resolved, tokensOf formula = .ok tokens ∧
      Program.ofTokens tokens = .ok program ∧ programOf formula = .ok program ∧
      program.resolveWith (source.lookUp source.finished) = .ok resolved ∧
      resolved.evaluate (source.context.withCell address) = .ok value := by
  have evaluated := (outcomeOf_finished steady.calm steady.enough present).trans finished
  simp only [outcomeOf, Outcome.bind_eq_ok_iff] at evaluated
  obtain ⟨program, read, resolved, found, value⟩ := evaluated
  obtain ⟨tokens, cut, accepted⟩ := ofTokens_of_programOf read
  exact ⟨tokens, program, resolved, cut, accepted, read, found, value⟩

theorem resolveWith_reference {source : Source} {look : Address → Outcome Value}
    {referred : Address} {back resolved : Program}
    (found : Program.resolveWith (source.lookUp look) (.reference (.cell referred) :: back) =
      .ok resolved) :
    ∃ known backFilled, look referred = .ok known ∧
      back.resolveWith (source.lookUp look) = .ok backFilled ∧
      resolved = .resolved (.value known) :: backFilled := by
  simp only [Program.resolveWith, List.mapM_cons, Item.resolveWith, lookUp,
    Outcome.bind_eq_ok_iff] at found
  obtain ⟨_, ⟨_, ⟨known, looked, first⟩, second⟩, backFilled, following, third⟩ := found
  cases first
  cases second
  cases third
  exact ⟨known, backFilled, looked, following, rfl⟩

theorem comesTo_finished {source : Source} (steady : source.Steady) (address : Address) :
    source.ComesTo address (source.finished address) := by
  have reported := (source.limit steady).account.reported address
  rw [finished]
  generalize source.results.1.get? address = result at reported ⊢
  cases reported with
  | missing absent => exact comesTo_of_resultOf (resultOf_missing absent)
  | literal present plain => exact comesTo_of_resultOf (resultOf_literal present plain)
  | computed present right => exact right

/-- References that have values in the finished sheet are resolved with these values by visiting
their cells, whatever is remembered of other visits. -/
theorem resolveWith_visit {source : Source} (steady : source.Steady) (calls : List Address)
    {program resolved : Program}
    (found : program.resolveWith (source.lookUp source.finished) = .ok resolved) :
    ((program.resolveWith (source.resolveReference (source.visit source.options.maxDepth []))).run
      ((source.visitRoots calls).run Walk.start).2).1 = .ok resolved := by
  have looked : (program.resolveWith source.inquire).answer source.finished = .ok resolved := by
    rw [← run_looking, (looking _).run_resolveWith]
    simp only [answer_inquire]
    exact found
  have asked : (program.resolveWith source.inquire).walk
      (source.visit source.options.maxDepth []) = program.resolveWith
        (source.resolveReference (source.visit source.options.maxDepth [])) := by
    rw [← run_walking, (walking _).run_resolveWith]
    simp only [walk_inquire]
  have finds (asked : Address) (value : Value) (walk : Walk)
      (known : source.finished asked = .ok value) (fits : (source.limit steady).Fits [] walk) :
      ((source.visit source.options.maxDepth [] asked).run walk).1 = .ok value ∧
        (source.limit steady).Fits []
          ((source.visit source.options.maxDepth [] asked).run walk).2 := by
    have comes : source.ComesTo asked (.ok value) := known ▸ comesTo_finished steady asked
    have right := Judgement.finds_visit ((source.limit steady).leadsTo_start asked) fits
    exact ⟨ComesTo.eq_ok right.1 comes, right.2⟩
  rw [← asked]
  exact Inquiry.walk_of_answer finds looked
    ((source.limit steady).account.carries_visitRoots calls).2.1

/-- A reference to a cell can be inlined. Where a formula with a value refers to a single cell, it
may have the formula of that cell in parentheses instead. The longer formula is read, its references
are resolved as the finished results say, by looking these up as well as by visiting the cells after
any other visits, and when it is then evaluated at its own cell it has the same value. The other
formula must not ask for the cell that it stands in, no formula may call a random function, and no
chain of formula cells may be too long. -/
theorem value_of_inlined_reference (source : Source) (calm : source.callsRandom = false)
    (enough : source.formulaCells.length < source.options.maxDepth)
    (address referred : Address) (formula other : String) (value : Value)
    (before after : List Token) (present : source.FormulaAt address formula)
    (presentOther : source.FormulaAt referred other)
    (evaluated : source.outcome? address = some (.ok value))
    (tokens : tokensOf formula = .ok (before ++ .reference (.cell referred) :: after))
    (placeless : ∀ program, programOf other = .ok program →
      ∀ item ∈ program, item.asksPlace = false) :
    ∃ inside program resolved, tokensOf other = .ok inside ∧
      Program.ofTokens (before ++ .opening :: (inside ++ .closing :: after)) = .ok program ∧
      program.resolveWith (source.lookUp source.finished) = .ok resolved ∧
      (∀ calls, ((program.resolveWith
        (source.resolveReference (source.visit source.options.maxDepth []))).run
          ((source.visitRoots calls).run Walk.start).2).1 = .ok resolved) ∧
      resolved.evaluate (source.context.withCell address) = .ok value := by
  have steady : source.Steady := ⟨calm, enough⟩
  have still : (source.context.withCell address).Still := fun _ => rfl
  obtain ⟨_, program, resolved, cut, accepted, -, found, result⟩ :=
    program_of_finished steady present (finished_of_outcome evaluated)
  cases tokens.symm.trans cut
  obtain ⟨front, back, rfl, inlined⟩ := Program.ofTokens_inlined accepted
  obtain ⟨frontFilled, restFilled, foundFront, foundRest, rfl⟩ :=
    Program.resolveWith_append_eq_ok_iff.1 found
  obtain ⟨known, backFilled, finished, foundBack, rfl⟩ := resolveWith_reference foundRest
  obtain ⟨inside, inner, innerFilled, cutOther, acceptedOther, readOther, foundOther,
    resultOther⟩ := program_of_finished steady presentOther finished
  have placelessFilled := Program.asksPlace_of_resolveWith (placeless inner readOther) foundOther
  have evaluatedHere : innerFilled.evaluate (source.context.withCell address) = .ok known := by
    rw [Program.evaluate_withCell placelessFilled] at resultOther ⊢
    exact resultOther
  have filled : Program.resolveWith (source.lookUp source.finished) (front ++ inner ++ back) =
      .ok (frontFilled ++ innerFilled ++ backFilled) := by
    apply Program.resolveWith_append_eq_ok_iff.2
    refine ⟨frontFilled ++ innerFilled, backFilled, ?_, foundBack, rfl⟩
    exact Program.resolveWith_append_eq_ok_iff.2
      ⟨frontFilled, innerFilled, foundFront, foundOther, rfl⟩
  exact ⟨inside, front ++ inner ++ back, frontFilled ++ innerFilled ++ backFilled, cutOther,
    inlined inside inner acceptedOther, filled, fun calls => resolveWith_visit steady calls filled,
    Program.evaluate_inlined still result evaluatedHere⟩

/-- A cell that holds a block of one cell, used as an argument and as an exponent. -/
def relaySheet : Source where
  grid := { rows := [["=SUM(B1,1)*2^B1", "=C1:C1", "=3-1"]] }
  tableId := "relay"
  options := { maxDepth := 4, maxRangeCells := 1 }
  draws _ _ := .lowest

theorem value_of_inlined_reference_relaySheet :
    relaySheet.callsRandom = false ∧ relaySheet.formulaCells.length < 4 ∧
      relaySheet.outcome? ⟨0, 0⟩ = some (.ok (.int 12)) ∧
      tokensOf "=SUM(B1,1)*2^B1" = .ok ([.function "SUM", .reference (.cell ⟨0, 1⟩), .comma,
        .number (.int 1), .closing, .operator .multiply, .number (.int 2), .operator .power] ++
          .reference (.cell ⟨0, 1⟩) :: []) ∧
      ∃ inside program resolved, tokensOf "=C1:C1" = .ok inside ∧
        Program.ofTokens ([.function "SUM", .reference (.cell ⟨0, 1⟩), .comma, .number (.int 1),
          .closing, .operator .multiply, .number (.int 2), .operator .power] ++
            .opening :: (inside ++ .closing :: [])) = .ok program ∧
        program.resolveWith (relaySheet.lookUp relaySheet.finished) = .ok resolved ∧
        (∀ calls, ((program.resolveWith
          (relaySheet.resolveReference (relaySheet.visit relaySheet.options.maxDepth []))).run
            ((relaySheet.visitRoots calls).run Walk.start).2).1 = .ok resolved) ∧
        resolved.evaluate (relaySheet.context.withCell ⟨0, 0⟩) = .ok (.int 12) := by
  have calm : relaySheet.callsRandom = false := by decide +kernel
  have enough : relaySheet.formulaCells.length < 4 := by decide +kernel
  have evaluated : relaySheet.outcome? ⟨0, 0⟩ = some (.ok (.int 12)) := by decide +kernel
  have tokens : tokensOf "=SUM(B1,1)*2^B1" = .ok ([.function "SUM", .reference (.cell ⟨0, 1⟩),
      .comma, .number (.int 1), .closing, .operator .multiply, .number (.int 2),
      .operator .power] ++ .reference (.cell ⟨0, 1⟩) :: []) := by decide +kernel
  have placeless : ∀ program, programOf "=C1:C1" = .ok program →
      ∀ item ∈ program, item.asksPlace = false := by
    have read : programOf "=C1:C1" = .ok [.reference (.range (.spanning ⟨0, 2⟩ ⟨0, 2⟩))] := by
      decide +kernel
    intro program same
    cases read.symm.trans same
    exact List.forall_mem_singleton.2 rfl
  exact ⟨calm, enough, evaluated, tokens,
    value_of_inlined_reference relaySheet calm enough ⟨0, 0⟩ ⟨0, 1⟩ "=SUM(B1,1)*2^B1" "=C1:C1"
      (.int 12) _ _ ⟨rfl, by decide +kernel⟩ ⟨rfl, by decide +kernel⟩ evaluated tokens placeless⟩

end Source

end Sheet

end Spreadsheet
