import Spreadsheet.Program.Parser

/-!
The errors that a computation can end with. A computation that is put together from others fails
only as these fail, so it is enough to look at the errors where they arise.

Some errors are internal: they say that the parts of a program do not fit together, that a name or a
reference was left without what it stands for, or that a function looked for an argument that it was
not given. They are there for programs and arguments that nobody has checked before.

The main statement of this part is that reading a formula fails with a fault of writing only, which
is never an internal one.
-/

set_option autoImplicit false

namespace Spreadsheet

def FailsOnly {α : Type} (kind : FormulaError → Prop) (outcome : Outcome α) : Prop :=
  ∀ error, outcome = .error error → kind error

/-- An error that is only described could say the same as one of the internal ones, so it counts as
internal. -/
def FormulaError.isInternal : FormulaError → Bool
  | .writing .malformed | .writing (.described _) => true
  | .reference (.unresolved _) | .reference (.outsideCell _) | .reference (.described _) => true
  | .function (.missingArgument _) | .function .noValues | .function (.described _) => true
  | _ => false

def FormulaError.OfWriting (error : FormulaError) : Prop :=
  ∃ fault, error = .writing fault ∧ error.isInternal = false

def FormulaError.OfComputing (error : FormulaError) : Prop :=
  ∃ fault, error = .function fault ∧ error.isInternal = false

section

variable {α β : Type} {kind : FormulaError → Prop}

theorem failsOnly_ok (result : α) : FailsOnly kind (.ok result) := by
  intro error failed
  cases failed

theorem failsOnly_error {error : FormulaError} (fits : kind error) :
    FailsOnly kind (.error error : Outcome α) := by
  intro other failed
  cases failed
  exact fits

theorem failsOnly_writing (fault : SyntaxFault)
    (plain : (FormulaError.writing fault).isInternal = false) :
    FailsOnly FormulaError.OfWriting (.error (.writing fault) : Outcome α) :=
  failsOnly_error ⟨fault, rfl, plain⟩

theorem failsOnly_function (fault : FunctionFault)
    (plain : (FormulaError.function fault).isInternal = false) :
    FailsOnly FormulaError.OfComputing (.error (.function fault) : Outcome α) :=
  failsOnly_error ⟨fault, rfl, plain⟩

theorem FailsOnly.mono {wider : FormulaError → Prop} {outcome : Outcome α}
    (fails : FailsOnly kind outcome) (weaker : ∀ error, kind error → wider error) :
    FailsOnly wider outcome :=
  fun error failed => weaker error (fails error failed)

theorem FailsOnly.bind {outcome : Outcome α} {next : α → Outcome β}
    (first : FailsOnly kind outcome) (second : ∀ result, FailsOnly kind (next result)) :
    FailsOnly kind (outcome >>= next) := by
  intro error failed
  cases outcome with
  | error cause =>
      cases failed
      exact first _ rfl
  | ok result => exact second result error failed

theorem FailsOnly.bindOk {outcome : Outcome α} {next : α → Outcome β}
    (first : FailsOnly kind outcome)
    (second : ∀ result, outcome = .ok result → FailsOnly kind (next result)) :
    FailsOnly kind (outcome >>= next) := by
  intro error failed
  cases outcome with
  | error cause =>
      cases failed
      exact first _ rfl
  | ok result => exact second result rfl error failed

theorem FailsOnly.map {outcome : Outcome α} (fails : FailsOnly kind outcome) (change : α → β) :
    FailsOnly kind (outcome.map change) := by
  intro error failed
  cases outcome with
  | error cause =>
      cases failed
      exact fails _ rfl
  | ok result => cases failed

theorem FailsOnly.ite {condition : Prop} [Decidable condition] {first second : Outcome α}
    (holds : FailsOnly kind first) (fails : FailsOnly kind second) :
    FailsOnly kind (if condition then first else second) := by
  split
  · exact holds
  · exact fails

theorem FailsOnly.guard {condition : Prop} [Decidable condition] {error : FormulaError}
    {next : Unit → Outcome α} (refused : FailsOnly kind (.error error : Outcome Unit))
    (goes : FailsOnly kind (next ())) :
    FailsOnly kind (if condition then throw error >>= next else next ()) := by
  refine .ite ?_ goes
  exact failsOnly_error (refused error rfl)

theorem failsOnly_mapM {act : α → Outcome β} (items : List α)
    (each : ∀ item ∈ items, FailsOnly kind (act item)) : FailsOnly kind (items.mapM act) := by
  induction items with
  | nil => exact failsOnly_ok []
  | cons item rest ih =>
      rw [List.mapM_cons]
      apply (each item List.mem_cons_self).bind
      intro first
      have rest := ih fun other member => each other (List.mem_cons_of_mem _ member)
      exact rest.bind fun others => failsOnly_ok _

theorem failsOnly_foldlM {act : β → α → Outcome β}
    (each : ∀ start item, FailsOnly kind (act start item)) (items : List α) (start : β) :
    FailsOnly kind (items.foldlM act start) := by
  induction items generalizing start with
  | nil => exact failsOnly_ok start
  | cons item rest ih =>
      rw [List.foldlM_cons]
      exact (each start item).bind ih

end

/-! ### Reading a formula -/

open FormulaError (OfWriting)

theorem Reference.failsOnly_parseAddress (whole : String) (text : List Char) :
    FailsOnly OfWriting (Reference.parseAddress whole text) := by
  unfold Reference.parseAddress
  refine .ite ?_ (failsOnly_writing _ rfl)
  split
  · exact failsOnly_ok _
  · exact failsOnly_writing _ rfl

theorem Reference.failsOnly_parse (source : String) :
    FailsOnly OfWriting (Reference.parse source) := by
  unfold Reference.parse
  split
  · exact failsOnly_writing _ rfl
  split
  · exact (Reference.failsOnly_parseAddress _ _).bind fun address => failsOnly_ok _
  · apply (Reference.failsOnly_parseAddress _ _).bind
    intro first
    exact (Reference.failsOnly_parseAddress _ _).bind fun second => failsOnly_ok _

namespace Token

theorem failsOnly_scan (size : Nat) (c : Char) (rest : List Char) :
    FailsOnly OfWriting (scan size c rest) := by
  unfold scan
  split
  · exact failsOnly_ok _
  refine .ite ?text (.ite ?number (.ite ?bracketed (.ite ?word (.ite ?equals ?other))))
  case text =>
    split
    · exact failsOnly_ok _
    · exact failsOnly_writing _ rfl
  case number =>
    unfold scanNumber
    dsimp only
    split
    · exact failsOnly_ok _
    · exact failsOnly_writing _ rfl
  case bracketed =>
    unfold scanBracketed
    split
    · exact failsOnly_writing _ rfl
    · exact (Reference.failsOnly_parse _).map _
  case word =>
    unfold scanWord
    dsimp only
    split
    · exact failsOnly_ok _
    · exact .ite ((Reference.failsOnly_parse _).map _) (failsOnly_ok _)
    · exact .ite ((Reference.failsOnly_parse _).map _) (failsOnly_ok _)
  case equals => exact failsOnly_writing _ rfl
  case other => exact failsOnly_writing _ rfl

theorem failsOnly_scanAll (size : Nat) (text : List Char) :
    FailsOnly OfWriting (scanAll size text) := by
  fun_induction scanAll size text with
  | case1 text blank => exact failsOnly_ok []
  | case2 text c rest found error failed =>
      exact failsOnly_error (failsOnly_scan size c rest error failed)
  | case3 text c rest found token after scanned error failed ih =>
      exact failsOnly_error (ih error failed)
  | case4 text c rest found token after scanned tokens following ih => exact failsOnly_ok _

theorem failsOnly_tokenize (formula : String) : FailsOnly OfWriting (tokenize formula) :=
  failsOnly_scanAll _ _

end Token

namespace Program

namespace Reading

theorem failsOnly_missingOperand {α : Type} (waiting : List Waiting) :
    FailsOnly OfWriting (.error (missingOperand waiting) : Outcome α) := by
  unfold missingOperand
  split
  · exact failsOnly_writing _ rfl
  · exact failsOnly_writing _ rfl

theorem failsOnly_step (reading : Reading) (token : Token) :
    FailsOnly OfWriting (reading.step token) := by
  have operand (item : Item) : FailsOnly OfWriting (reading.readOperand item) :=
    .ite (failsOnly_ok _) (failsOnly_writing _ rfl)
  have opening (shown : String) (waiting : Waiting) :
      FailsOnly OfWriting (reading.readOpening shown waiting) :=
    .ite (failsOnly_ok _) (failsOnly_writing _ rfl)
  cases token with
  | number n => exact operand _
  | text s => exact operand _
  | reference target => exact operand _
  | name given => exact operand _
  | function name => exact opening _ _
  | opening => exact opening _ _
  | operator next =>
      refine .ite ?_ (failsOnly_ok _)
      split
      · exact failsOnly_ok _
      · exact failsOnly_writing _ rfl
  | comma =>
      refine .ite ?_ ?_
      · split
        · exact failsOnly_writing _ rfl
        · exact failsOnly_missingOperand _
      · split
        · exact failsOnly_ok _
        · exact failsOnly_writing _ rfl
  | closing =>
      refine .ite ?_ ?_
      · split
        · exact failsOnly_ok _
        all_goals exact failsOnly_writing _ rfl
      · split
        · exact failsOnly_ok _
        · exact failsOnly_ok _
        · exact failsOnly_writing _ rfl

theorem failsOnly_run (reading : Reading) (tokens : List Token) :
    FailsOnly OfWriting (reading.run tokens) := by
  induction tokens generalizing reading with
  | nil => exact failsOnly_ok _
  | cons token rest ih =>
      rw [run]
      cases stepped : reading.step token with
      | error error => exact failsOnly_error (failsOnly_step reading token error stepped)
      | ok next => exact ih next

theorem failsOnly_finish (reading : Reading) : FailsOnly OfWriting reading.finish := by
  refine .ite (failsOnly_missingOperand _) ?_
  split
  · exact failsOnly_ok _
  · exact failsOnly_writing _ rfl

end Reading

theorem failsOnly_ofTokens (tokens : List Token) : FailsOnly OfWriting (ofTokens tokens) := by
  unfold ofTokens
  split
  · exact failsOnly_writing _ rfl
  split
  · rename_i error failed
    exact failsOnly_error (Reading.failsOnly_run _ _ error failed)
  · exact Reading.failsOnly_finish _

/-- A formula that cannot be read has a fault of writing. -/
theorem failsOnly_parse (formula : String) : FailsOnly OfWriting (parse formula) := by
  have brackets : FailsOnly OfWriting (checkBrackets (body formula)) :=
    .ite (failsOnly_writing _ rfl) (failsOnly_ok _)
  apply brackets.bind
  intro _
  exact (Token.failsOnly_tokenize _).bind fun tokens => failsOnly_ofTokens tokens

end Program

end Spreadsheet
