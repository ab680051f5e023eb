import Mathlib.Logic.Basic
import Spreadsheet.Function.Registry

/-!
Registries with a history. Every change of a registry binds at most one name to one function: a
function is bound under its own name, and a further name to what its target stands for at the
moment. So a history of changes comes down to the bindings that it makes, in their order, and names
that differ in the case of ASCII letters only are one name.

The main statement is that a look-up finds the last binding of the name, and that the listed names
are the bound ones in upper case, each of them once.
-/

set_option autoImplicit false

namespace Spreadsheet.Registry

inductive Change where
  | register (function : Function)
  | registerAlias (other target : String)

/-- A name and the function that it stands for. -/
abbrev Binding := String × Function

def apply (registry : Registry) : Change → Registry
  | .register function => registry.register function
  | .registerAlias other target => registry.registerAlias other target

def after (registry : Registry) (history : List Change) : Registry :=
  history.foldl apply registry

/-- What a change binds. A further name is bound to what its target stands for at the moment, and
to nothing without a target. -/
def binds? (registry : Registry) : Change → Option Binding
  | .register function => some (function.name, function)
  | .registerAlias other target => (registry.get? target).map fun function => (other, function)

def binds (registry : Registry) : List Change → List Binding
  | [] => []
  | change :: later => (registry.binds? change).toList ++ (registry.apply change).binds later

/-- The names differ in the case of ASCII letters only. -/
def SameName (name other : String) : Prop :=
  Text.upper name = Text.upper other

def Unbound (bound : List Binding) (name : String) : Prop :=
  ∀ binding ∈ bound, ¬ SameName binding.1 name

/-- The last binding of a name, in whichever case it is written, is to this function. -/
def LastBound (bound : List Binding) (name : String) (function : Function) : Prop :=
  ∃ earlier other later, bound = earlier ++ (other, function) :: later ∧ SameName other name ∧
    Unbound later name

section Bindings

variable {binding : Binding} {bound later : List Binding} {name : String} {function : Function}

theorem unbound_cons_iff :
    Unbound (binding :: later) name ↔ ¬ SameName binding.1 name ∧ Unbound later name :=
  List.forall_mem_cons

theorem lastBound_nil : ¬ LastBound [] name function := by
  rintro ⟨earlier, other, later, same, -⟩
  cases earlier <;> cases same

theorem lastBound_cons_iff :
    LastBound (binding :: later) name function ↔
      LastBound later name function ∨
        Unbound later name ∧ SameName binding.1 name ∧ binding.2 = function := by
  constructor
  · rintro ⟨earlier, other, rest, same, named, last⟩
    cases earlier with
    | nil =>
        cases same
        exact .inr ⟨last, named, rfl⟩
    | cons first earlier =>
        cases same
        exact .inl ⟨earlier, other, rest, rfl, named, last⟩
  · rintro (⟨earlier, other, rest, rfl, named, last⟩ | ⟨last, named, rfl⟩)
    · exact ⟨binding :: earlier, other, rest, rfl, named, last⟩
    · exact ⟨[], binding.1, later, rfl, named, last⟩

end Bindings

variable (registry : Registry)

def bindAll (bound : List Binding) : Registry :=
  bound.foldl (fun changed binding => changed.bind binding.1 binding.2) registry

/-- A change does what its binding says, and nothing else. -/
theorem apply_eq_bindAll (change : Change) :
    registry.apply change = registry.bindAll (registry.binds? change).toList := by
  cases change with
  | register function => rfl
  | registerAlias other target =>
      rw [apply, registerAlias, binds?]
      cases registry.get? target <;> rfl

theorem after_eq_bindAll (history : List Change) :
    registry.after history = registry.bindAll (registry.binds history) := by
  induction history generalizing registry with
  | nil => rfl
  | cons change later ih =>
      rw [binds, bindAll, List.foldl_append]
      have changed := registry.apply_eq_bindAll change
      rw [bindAll] at changed
      rw [← changed]
      exact ih (registry.apply change)

theorem get?_bind_eq_some_iff {name asked : String} {function found : Function} :
    (registry.bind name function).get? asked = some found ↔
      SameName name asked ∧ function = found ∨
        ¬ SameName name asked ∧ registry.get? asked = some found := by
  rw [get?_bind, SameName]
  by_cases same : Text.upper name = Text.upper asked
  · rw [if_pos same, Option.some.injEq]
    exact ⟨fun equal => .inl ⟨same, equal⟩, fun either =>
      either.elim And.right fun other => absurd same other.1⟩
  · rw [if_neg same]
    exact ⟨fun found => .inr ⟨same, found⟩, fun either =>
      either.elim (fun this => absurd this.1 same) And.right⟩

theorem get?_bindAll_eq_some_iff (bound : List Binding) (name : String) (function : Function) :
    (registry.bindAll bound).get? name = some function ↔
      LastBound bound name function ∨ Unbound bound name ∧ registry.get? name = some function := by
  induction bound generalizing registry with
  | nil =>
      rw [or_iff_right lastBound_nil]
      exact (and_iff_right (List.forall_mem_nil _)).symm
  | cons binding later ih =>
      have step := ih (registry.bind binding.1 binding.2)
      rw [get?_bind_eq_some_iff] at step
      rw [lastBound_cons_iff, unbound_cons_iff]
      refine Iff.trans step ?_
      grind

theorem mem_names_bind_iff {name listed : String} {function : Function} :
    listed ∈ (registry.bind name function).names ↔
      listed ∈ registry.names ∨ Text.upper name = listed := by
  rw [names, names, bind, Std.TreeMap.mem_keys, Std.TreeMap.mem_keys, Std.TreeMap.mem_insert,
    Std.compare_eq_iff_eq, or_comm]

theorem mem_names_bindAll_iff (bound : List Binding) (listed : String) :
    listed ∈ (registry.bindAll bound).names ↔
      listed ∈ registry.names ∨ ∃ binding ∈ bound, Text.upper binding.1 = listed := by
  induction bound generalizing registry with
  | nil => exact (or_iff_left (by simp)).symm
  | cons binding later ih =>
      have step := ih (registry.bind binding.1 binding.2)
      rw [mem_names_bind_iff, or_assoc] at step
      simp only [List.mem_cons, exists_eq_or_imp]
      exact step

theorem nodup_names : registry.names.Nodup :=
  Std.TreeMap.distinct_keys.imp fun different same =>
    different (Std.compare_eq_iff_eq.2 same)

theorem after_append (earlier later : List Change) :
    registry.after (earlier ++ later) = (registry.after earlier).after later :=
  List.foldl_append

theorem after_cons (change : Change) (later : List Change) :
    registry.after (change :: later) = (registry.apply change).after later :=
  rfl

theorem apply_registerAlias_of_none {other target : String}
    (missing : registry.get? target = none) :
    registry.apply (.registerAlias other target) = registry := by
  rw [apply, registerAlias, missing]

/-- A further name keeps what its target stood for until it is bound again itself. -/
theorem get?_after_registerAlias {other target : String} {function : Function}
    (there : registry.get? target = some function) {later : List Change}
    (unbound : Unbound ((registry.apply (.registerAlias other target)).binds later) other) :
    (registry.after (.registerAlias other target :: later)).get? other = some function := by
  have bound : (registry.apply (.registerAlias other target)).get? other = some function := by
    rw [apply, get?_registerAlias, if_pos rfl, there]
    rfl
  rw [after_cons, after_eq_bindAll, get?_bindAll_eq_some_iff]
  exact .inr ⟨unbound, bound⟩

section Standard

theorem contains_apply {name : String} (there : registry.contains name = true) (change : Change) :
    (registry.apply change).contains name = true := by
  rw [contains, apply_eq_bindAll]
  cases registry.binds? change with
  | none => exact there
  | some binding =>
      change ((registry.bind binding.1 binding.2).get? name).isSome = true
      rw [get?_bind]
      split
      · rfl
      · exact there

theorem binds_append (earlier later : List Change) :
    registry.binds (earlier ++ later) =
      registry.binds earlier ++ (registry.after earlier).binds later := by
  induction earlier generalizing registry with
  | nil => rfl
  | cons change earlier ih => rw [List.cons_append, binds, binds, ih, List.append_assoc, after_cons]

theorem binds_register (functions : List Function) :
    registry.binds (functions.map .register) =
      functions.map fun function => (function.name, function) := by
  induction functions generalizing registry with
  | nil => rfl
  | cons function rest ih =>
      rw [List.map_cons, List.map_cons, binds, ih]
      rfl

theorem map_fst_binds_registerAlias {pairs : List (String × String)}
    (there : ∀ pair ∈ pairs, registry.contains pair.2 = true) :
    (registry.binds (pairs.map fun pair => .registerAlias pair.1 pair.2)).map Prod.fst =
      pairs.map Prod.fst := by
  induction pairs generalizing registry with
  | nil => rfl
  | cons pair rest ih =>
      rw [List.forall_mem_cons] at there
      obtain ⟨function, found⟩ := Option.isSome_iff_exists.1 there.1
      have bound : registry.binds? (.registerAlias pair.1 pair.2) = some (pair.1, function) := by
        rw [binds?, found]
        rfl
      have others := ih (registry.apply (.registerAlias pair.1 pair.2)) fun other member =>
        registry.contains_apply (there.2 other member) _
      rw [List.map_cons, List.map_cons, binds, bound, List.map_append, others]
      rfl

def builtinChanges : List Change :=
  builtins.map .register ++ builtinAliases.map fun pair => .registerAlias pair.1 pair.2

theorem standard_eq_after : standard = empty.after builtinChanges := by
  rw [builtinChanges, after_append, after, after, List.foldl_map, List.foldl_map]
  rfl

theorem mem_names_standard_iff (listed : String) :
    listed ∈ standard.names ↔
      (∃ function ∈ builtins, Text.upper function.name = listed) ∨
        ∃ pair ∈ builtinAliases, Text.upper pair.1 = listed := by
  have targets : ∀ pair ∈ builtinAliases,
      (empty.after (builtins.map .register)).contains pair.2 = true := by decide
  have none : listed ∉ empty.names := by
    rw [names, empty, Std.TreeMap.mem_keys]
    exact Std.TreeMap.not_mem_emptyc
  have named (bound : List Binding) : (∃ binding ∈ bound, Text.upper binding.1 = listed) ↔
      ∃ name ∈ bound.map Prod.fst, Text.upper name = listed := by
    simp only [List.mem_map, exists_exists_and_eq_and]
  rw [standard_eq_after, after_eq_bindAll, mem_names_bindAll_iff, or_iff_right none, builtinChanges,
    binds_append, binds_register, named, List.map_append, map_fst_binds_registerAlias _ targets]
  simp only [List.mem_append, List.mem_map, or_and_right, exists_or, exists_exists_and_eq_and]

end Standard

/-- Whatever has been registered after the built-in functions: a name stands for the function of its
last binding, or for the built-in one if it has not been bound since; a further name keeps what its
target stood for when it was given, until it is bound again, and without a target it changes
nothing; and the listed names are the bound ones in upper case, each of them once. -/
theorem registry_history (history : List Change) :
    (∀ name function, (standard.after history).get? name = some function ↔
        LastBound (standard.binds history) name function ∨
          Unbound (standard.binds history) name ∧ standard.get? name = some function) ∧
      (∀ name, (standard.after history).contains name = true ↔
        ∃ function, (standard.after history).get? name = some function) ∧
      (∀ earlier other target later,
        history = earlier ++ .registerAlias other target :: later →
          ((standard.after earlier).get? target = none →
            standard.after history = standard.after (earlier ++ later)) ∧
          ∀ function, (standard.after earlier).get? target = some function →
            Unbound ((standard.after (earlier ++ [.registerAlias other target])).binds later)
                other →
              (standard.after history).get? other = some function) ∧
      (standard.after history).names.Nodup ∧
      ∀ listed, listed ∈ (standard.after history).names ↔
        (∃ function ∈ builtins, Text.upper function.name = listed) ∨
          (∃ pair ∈ builtinAliases, Text.upper pair.1 = listed) ∨
          ∃ binding ∈ standard.binds history, Text.upper binding.1 = listed := by
  refine ⟨fun name function => ?_, fun name => Option.isSome_iff_exists, ?_, nodup_names _,
    fun listed => ?_⟩
  · rw [after_eq_bindAll]
    exact standard.get?_bindAll_eq_some_iff _ name function
  · rintro earlier other target later rfl
    rw [after_append, after_append, after_append, after_cons]
    refine ⟨fun missing => ?_, fun function there unbound => ?_⟩
    · rw [apply_registerAlias_of_none _ missing]
    · exact (standard.after earlier).get?_after_registerAlias there unbound
  · rw [after_eq_bindAll, mem_names_bindAll_iff, mem_names_standard_iff, or_assoc]

def sumHistory : List Change :=
  [.registerAlias "Total" "sum", .registerAlias "Other" "unknown", .registerAlias "Sum" "max"]

theorem registry_history_sumHistory :
    (standard.after []).get? "sum" = some ⟨"SUM", 1, none, Function.sum⟩ ∧
      Unbound ((standard.after [.registerAlias "Total" "sum"]).binds
        [.registerAlias "Other" "unknown", .registerAlias "Sum" "max"]) "Total" ∧
      (standard.after sumHistory).get? "Total" = some ⟨"SUM", 1, none, Function.sum⟩ ∧
      (standard.after sumHistory).get? "sUM" = some ⟨"MAX", 1, none, Function.maximum⟩ ∧
      (standard.after [.registerAlias "Total" "sum"]).get? "unknown" = none ∧
      standard.after sumHistory =
        standard.after [.registerAlias "Total" "sum", .registerAlias "Sum" "max"] ∧
      "TOTAL" ∈ (standard.after sumHistory).names := by
  have sum : (standard.after []).get? "sum" = some ⟨"SUM", 1, none, Function.sum⟩ := rfl
  have missing : (standard.after [.registerAlias "Total" "sum"]).get? "unknown" = none := rfl
  have later : (standard.after [.registerAlias "Total" "sum"]).binds
      [.registerAlias "Other" "unknown", .registerAlias "Sum" "max"] =
        [("Sum", ⟨"MAX", 1, none, Function.maximum⟩)] := rfl
  have all : standard.binds sumHistory =
      [("Total", ⟨"SUM", 1, none, Function.sum⟩),
        ("Sum", ⟨"MAX", 1, none, Function.maximum⟩)] := rfl
  have unbound : Unbound ((standard.after [.registerAlias "Total" "sum"]).binds
      [.registerAlias "Other" "unknown", .registerAlias "Sum" "max"]) "Total" := by
    rw [later, unbound_cons_iff]
    exact ⟨by unfold SameName; decide, List.forall_mem_nil _⟩
  have last : LastBound (standard.binds sumHistory) "sUM" ⟨"MAX", 1, none, Function.maximum⟩ :=
    ⟨[("Total", ⟨"SUM", 1, none, Function.sum⟩)], "Sum", [], all, by unfold SameName; decide,
      List.forall_mem_nil _⟩
  obtain ⟨found, -, further, -, listed⟩ := registry_history sumHistory
  refine ⟨sum, unbound, ?_, (found _ _).2 (.inl last), missing, ?_, ?_⟩
  · exact (further [] "Total" "sum" _ rfl).2 _ sum unbound
  · exact (further [.registerAlias "Total" "sum"] "Other" "unknown" _ rfl).1 missing
  · refine (listed "TOTAL").2 (.inr (.inr ⟨_, all ▸ List.mem_cons_self, ?_⟩))
    decide

end Spreadsheet.Registry
