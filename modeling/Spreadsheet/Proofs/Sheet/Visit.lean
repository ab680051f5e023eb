import Mathlib.Data.List.Perm.Subperm
import Spreadsheet.Proofs.Grid
import Spreadsheet.Proofs.Sheet.Inquiry

/-!
What one visit does. A visit of a cell finds a result that is remembered, or a cell that is on the
path, or no room; or it looks at the sheet, and then at most computes the formula of the cell
between entering and leaving it. Whatever is proved about walks rests on this list of cases and on
what entering and leaving do to one remembered cell.
-/

set_option autoImplicit false

namespace Spreadsheet.Sheet

namespace Walk

theorem progress_start (address : Address) : start.progress[address]? = none :=
  Std.TreeMap.getElem?_emptyc

theorem progress_enter (walk : Walk) (entered asked : Address) :
    (walk.enter entered).progress[asked]? =
      if entered = asked then some .pending else walk.progress[asked]? := by
  simp only [enter, Std.TreeMap.getElem?_insert, Std.compare_eq_iff_eq]

theorem progress_enter_self (walk : Walk) (entered : Address) :
    (walk.enter entered).progress[entered]? = some .pending := by
  rw [progress_enter, if_pos rfl]

theorem progress_leave (walk : Walk) (left asked : Address) (outcome : Outcome Value) :
    (walk.leave left outcome).progress[asked]? =
      if left = asked then
        if walk.depthLimited && !outcome.toBool then none else some (.settled outcome)
      else walk.progress[asked]? := by
  rw [leave]
  cases walk.depthLimited && !outcome.toBool with
  | true => simp [Std.TreeMap.getElem?_erase]
  | false => simp [Std.TreeMap.getElem?_insert]

end Walk

namespace Source

def FormulaAt (source : Source) (address : Address) (formula : String) : Prop :=
  source.grid.get? address = some formula ∧ isFormula formula = true

theorem FormulaAt.not_plain {source : Source} {address : Address} {formula text : String}
    (present : source.FormulaAt address formula) (there : source.grid.get? address = some text)
    (plain : isFormula text = false) : False := by
  cases present.1.symm.trans there
  rw [present.2] at plain
  cases plain

def formulaCells (source : Source) : List Address :=
  (source.grid.addressed.rows.flatten.filter fun cell => isFormula cell.2).map Prod.fst

theorem mem_formulaCells {source : Source} {address : Address} {text : String}
    (present : source.FormulaAt address text) : address ∈ source.formulaCells := by
  have listed : (address, text) ∈ source.grid.addressed.rows.flatten := by
    apply Grid.mem_flatten_of_get?
    rw [Grid.get?_addressed, present.1]
    rfl
  exact List.mem_map.2 ⟨(address, text), List.mem_filter.2 ⟨listed, present.2⟩, rfl⟩

theorem length_le_formulaCells {source : Source} {path : List Address} (once : path.Nodup)
    (formulas : ∀ passed ∈ path, ∃ text, source.FormulaAt passed text) :
    path.length ≤ source.formulaCells.length := by
  have inside : path ⊆ source.formulaCells := by
    intro passed member
    obtain ⟨text, present⟩ := formulas passed member
    exact mem_formulaCells present
  exact (List.subperm_of_subset once inside).length_le

/-- The result of visiting a cell over a path with room for some more cells. -/
inductive Visited (source : Source) (path : List Address) (address : Address) (walk : Walk) :
    Nat → Outcome Value × Walk → Prop
  | settled {room : Nat} {outcome : Outcome Value}
      (known : walk.progress[address]? = some (.settled outcome)) :
      Visited source path address walk room (outcome, walk)
  | pending {room : Nat} (known : walk.progress[address]? = some .pending) :
      Visited source path address walk room (.error (.circular address), walk)
  | circular {room : Nat} (unknown : walk.progress[address]? = none) (onPath : address ∈ path) :
      Visited source path address walk room (.error (.circular address), walk)
  | tooLong (unknown : walk.progress[address]? = none) (offPath : address ∉ path) :
      Visited source path address walk 0
        (.error (.reference (.chainTooLong address source.options.maxDepth)),
          { walk with depthLimited := true })
  | missing {room : Nat} (unknown : walk.progress[address]? = none) (offPath : address ∉ path)
      (absent : source.grid.get? address = none) :
      Visited source path address walk (room + 1)
        (.error (.reference (.missingCell address)), walk)
  | literal {room : Nat} {text : String} (unknown : walk.progress[address]? = none)
      (offPath : address ∉ path) (present : source.grid.get? address = some text)
      (plain : isFormula text = false) :
      Visited source path address walk (room + 1) (.ok (Value.ofLiteral text), walk)
  | formula {room : Nat} {text : String} {outcome : Outcome Value} {after : Walk}
      (unknown : walk.progress[address]? = none) (offPath : address ∉ path)
      (present : source.FormulaAt address text)
      (computed : (source.compute (source.visit room (address :: path)) address text).run
        (walk.enter address) = (outcome, after)) :
      Visited source path address walk (room + 1) (outcome, after.leave address outcome)

private theorem run_visit (source : Source) (room : Nat) (path : List Address)
    (address : Address) (walk : Walk) :
    (source.visit room path address).run walk =
      match walk.progress[address]? with
      | some (.settled outcome) => (outcome, walk)
      | some .pending => (.error (.circular address), walk)
      | none =>
          if address ∈ path then (.error (.circular address), walk)
          else
            match room with
            | 0 =>
                (.error (.reference (.chainTooLong address source.options.maxDepth)),
                  { walk with depthLimited := true })
            | roomBelow + 1 =>
                match source.grid.get? address with
                | none => (.error (.reference (.missingCell address)), walk)
                | some text =>
                    if isFormula text then
                      let (outcome, after) :=
                        (source.compute (source.visit roomBelow (address :: path)) address
                          text).run (walk.enter address)
                      (outcome, after.leave address outcome)
                    else (.ok (Value.ofLiteral text), walk) := by
  cases room with
  | zero =>
      delta visit
      rfl
  | succ roomBelow =>
      delta visit
      rfl

theorem visited (source : Source) (room : Nat) (path : List Address) (address : Address)
    (walk : Walk) :
    source.Visited path address walk room ((source.visit room path address).run walk) := by
  rw [run_visit]
  split
  · rename_i outcome known
    exact .settled known
  · rename_i known
    exact .pending known
  rename_i unknown
  split
  · rename_i onPath
    exact .circular unknown onPath
  rename_i offPath
  split
  · exact .tooLong unknown offPath
  split
  · rename_i absent
    exact .missing unknown offPath absent
  rename_i text present
  split
  · rename_i formula
    exact .formula unknown offPath ⟨present, formula⟩ rfl
  · rename_i plain
    exact .literal unknown offPath present (Bool.eq_false_iff.2 plain)

/-- The cases exclude each other: each of them says what the visit does. -/
theorem Visited.run_eq {source : Source} {room : Nat} {path : List Address} {address : Address}
    {walk : Walk} {found : Outcome Value × Walk}
    (visited : source.Visited path address walk room found) :
    (source.visit room path address).run walk = found := by
  rw [run_visit]
  cases visited with
  | settled known => rw [known]
  | pending known => rw [known]
  | circular unknown onPath => simp only [unknown, onPath, if_true]
  | tooLong unknown offPath => simp only [unknown, offPath, if_false]
  | missing unknown offPath absent => simp only [unknown, offPath, if_false, absent]
  | literal unknown offPath present plain =>
      simp only [unknown, offPath, if_false, present, plain, Bool.false_eq_true]
  | formula unknown offPath present computed =>
      simp only [unknown, offPath, if_false, present.1, present.2, if_true, computed]

end Source

end Spreadsheet.Sheet
