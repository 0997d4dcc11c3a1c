import FeatureStore.Job.Runner
import FeatureStore.Proofs.Bindings
import FeatureStore.Proofs.Text.Utf8
import Mathlib.Data.List.Induction

/-!
Registries in use. What a name is bound to follows from the calls so far: the first registration of the
name since the last reset, whatever key has spelled it.
-/
namespace FeatureStore

namespace Bindings
variable {κ ν : Type} [DecidableEq κ]

theorem memKeys {b : Bindings κ ν} {key : κ} : key ∈ b.keys ↔ (b.find? key).isSome := by
  simp [keys, find?]

theorem insertNewKeys {b : Bindings κ ν} {key : κ} (value : ν) (new : b.contains key = false) :
    (b.insert key value).keys = b.keys ++ [key] := by
  rw [keys, insertNewEntries value new, List.map_append]
  rfl

end Bindings

namespace Registry
variable {κ φ : Type}

inductive Call (κ φ : Type) where
  | register (key : κ) (factory : φ)
  | reset
  | lookup (key : κ)

namespace Call

def isReset : Call κ φ → Bool
  | reset => true
  | _ => false

def given (name : κ → String) (wanted : String) : Call κ φ → Option φ
  | register key factory => if name key = wanted then some factory else none
  | _ => none

def run (title : String) (name : κ → String) (r : Registry φ) : Call κ φ → Except Error Unit × Registry φ
  | register key factory =>
    match Registry.register title r (name key) factory with
    | .ok next => (.ok (), next)
    | .error e => (.error e, r)
  | reset => (.ok (), .empty)
  | lookup _ => (.ok (), r)

end Call

def after (title : String) (name : κ → String) (calls : List (Call κ φ)) : Registry φ :=
  calls.foldl (fun r call => (call.run title name r).2) .empty

def sinceReset (calls : List (Call κ φ)) : List (Call κ φ) :=
  (calls.reverse.takeWhile fun call => !call.isReset).reverse

def bound (name : κ → String) (wanted : String) (calls : List (Call κ φ)) : Option φ :=
  (sinceReset calls).findSome? (Call.given name wanted)

section
variable {title : String} {name : κ → String}

theorem afterSnoc (calls : List (Call κ φ)) (call : Call κ φ) :
    after title name (calls ++ [call]) = (call.run title name (after title name calls)).2 := by
  simp [after]

theorem boundSnoc (calls : List (Call κ φ)) (call : Call κ φ) (wanted : String) :
    bound name wanted (calls ++ [call]) =
      if call.isReset then none else (bound name wanted calls).or (call.given name wanted) := by
  cases call <;> simp [bound, sinceReset, Call.isReset, List.findSome?_append]

theorem runRegister (r : Registry φ) (key : κ) (factory : φ) :
    (Call.register key factory).run title name r =
      if r.contains (name key) then (.error (.duplicateRegistration title (name key)), r)
      else (.ok (), r.insert (name key) factory) := by
  simp only [Call.run, Registry.register]
  by_cases taken : r.contains (name key) = true <;> simp only [taken, if_true, if_false, Bool.false_eq_true]

theorem findRegistered (r : Registry φ) (key : κ) (factory : φ) (wanted : String) :
    Bindings.find? ((Call.register key factory).run title name r).2 wanted =
      (r.find? wanted).or (if name key = wanted then some factory else none) := by
  rw [runRegister]
  by_cases taken : r.contains (name key) = true
  · rw [if_pos taken]
    split
    · rename_i same
      subst same
      obtain ⟨old, found⟩ := Option.isSome_iff_exists.mp taken
      rw [found, Option.some_or]
    · rw [Option.or_none]
  · rw [if_neg taken, Bindings.findInsert]
    have free := Bindings.notContainsIff.mp ((Bool.not_eq_true _).mp taken)
    split
    · rename_i same
      subst same
      rw [free, Option.none_or]
    · rw [Option.or_none]

theorem findAfter (calls : List (Call κ φ)) (wanted : String) :
    (after title name calls).find? wanted = bound name wanted calls := by
  -- By the last call: the calls before it have settled what the name has until then.
  induction calls using List.reverseRecOn with
  | nil => rfl
  | append_singleton calls call ih =>
    rw [afterSnoc, boundSnoc, ← ih]
    cases call with
    | register key factory => exact findRegistered _ key factory wanted
    | reset => rfl
    | lookup key => exact Option.or_none.symm

theorem keysAfter (calls : List (Call κ φ)) : (after title name calls).keys.Nodup := by
  induction calls using List.reverseRecOn with
  | nil => exact List.nodup_nil
  | append_singleton calls call ih =>
    rw [afterSnoc]
    cases call with
    | register key factory =>
      rw [runRegister]
      split
      · exact ih
      · rename_i free
        have new := (Bool.not_eq_true _).mp free
        have apart : name key ∉ (after title name calls).keys := by
          rw [Bindings.memKeys, Bindings.notContainsIff.mp new]
          simp
        rw [Bindings.insertNewKeys factory new]
        refine List.nodup_append.mpr ⟨ih, by simp, fun n mem other single same => apart ?_⟩
        rwa [← List.mem_singleton.mp single, ← same]
    | reset => exact List.nodup_nil
    | lookup key => exact ih

theorem memNames {r : Registry φ} {n : String} : n ∈ r.names ↔ (r.find? n).isSome := by
  rw [names, List.mem_mergeSort, Bindings.memKeys]

theorem namesAscend {r : Registry φ} (once : r.keys.Nodup) :
    r.names.Nodup ∧ r.names.Pairwise fun a b => Text.utf8 a < Text.utf8 b := by
  have sorted : r.names.Pairwise fun a b => decide (a ≤ b) = true :=
    List.pairwise_mergeSort (fun a b c => by simpa using String.le_trans)
      (fun a b => by simpa using String.le_total a b) r.keys
  have nodup : r.names.Nodup := (List.mergeSort_perm _ _).nodup_iff.mpr once
  refine ⟨nodup, (sorted.and nodup).imp fun {a b} both => Text.utf8Lt ?_⟩
  have le : a ≤ b := of_decide_eq_true both.1
  exact Std.lt_of_le_of_ne le both.2

structure Rules (title : String) (name : κ → String) (calls : List (Call κ φ)) (r : Registry φ) : Prop where
  taken {key : κ} (factory : φ) : (bound name (name key) calls).isSome →
    (Call.register key factory).run title name r = (.error (.duplicateRegistration title (name key)), r)
  free {key : κ} (factory : φ) : bound name (name key) calls = none →
    ((Call.register key factory).run title name r).1 = .ok ()
  listed {n : String} : n ∈ r.names ↔ (bound name n calls).isSome
  once : r.names.Nodup
  ascending : r.names.Pairwise fun a b => Text.utf8 a < Text.utf8 b

theorem rulesAfter (calls : List (Call κ φ)) : Rules title name calls (after title name calls) := by
  have found (n : String) : (after title name calls).find? n = bound name n calls := findAfter calls n
  have distinct : (after title name calls).keys.Nodup := keysAfter calls
  obtain ⟨once, ascending⟩ := namesAscend distinct
  refine ⟨fun {key} factory taken => ?_, fun {key} factory free => ?_, fun {n} => ?_, once, ascending⟩
  · rw [runRegister, Bindings.contains, found, if_pos taken]
  · rw [runRegister, Bindings.contains, found, free]
    rfl
  · rw [memNames, found]

end
end Registry

/-- In the registries of providers and of runners a name has the factory of its first registration since
the last reset, whatever keys are used for it: a known one, its name, or what a name is read as. To register
it again fails and changes nothing. The names that are listed are those that have a factory, each once and
in the order of their bytes. -/
theorem firstRegistrationStays {m : Type → Type} [Monad m] :
    (∀ calls : List (Registry.Call ProviderType (ProviderFactory m)),
      let r : ProviderRegistry m := Registry.after "provider" ProviderType.name calls
      Registry.Rules "provider" ProviderType.name calls r ∧
      (∀ type config, r.get type config =
        match Registry.bound ProviderType.name type.name calls with
        | some factory => factory config
        | none => Task.fail (.unknownProviderType type.name)) ∧
      (∀ a b config, (a == b) = true → r.get a config = r.get b config) ∧
      ∀ text config, r.get (.ofName text) config = r.get (.other text) config) ∧
    ∀ calls : List (Registry.Call JobKind (RunnerFactory m)),
      let r : RunnerRegistry m := Registry.after "runner" JobKind.name calls
      Registry.Rules "runner" JobKind.name calls r ∧
      (∀ providers kind config, r.create providers kind config =
        match Registry.bound JobKind.name kind.name calls with
        | some factory => factory providers config
        | none => Task.fail (.unknownJobKind kind.name)) ∧
      (∀ providers a b config, (a == b) = true → r.create providers a config = r.create providers b config) ∧
      ∀ providers text config, r.create providers (.ofName text) config =
        r.create providers (.other text) config := by
  refine ⟨fun calls => ⟨Registry.rulesAfter calls, fun type config => ?_, fun a b config same => ?_,
    fun text config => ?_⟩, fun calls => ⟨Registry.rulesAfter calls, fun providers kind config => ?_,
    fun providers a b config same => ?_, fun providers text config => ?_⟩⟩
  · cases given : Registry.bound ProviderType.name type.name calls <;>
      simp only [ProviderRegistry.get, Registry.findAfter, given]
  · have named : a.name = b.name := eq_of_beq same
    simp only [ProviderRegistry.get, named]
  · have named : (ProviderType.ofName text).name = (ProviderType.other text).name :=
      ProviderType.nameOfName text
    simp only [ProviderRegistry.get, named]
  · cases given : Registry.bound JobKind.name kind.name calls <;>
      simp only [RunnerRegistry.create, Registry.findAfter, given]
  · have named : a.name = b.name := eq_of_beq same
    simp only [RunnerRegistry.create, named]
  · have named : (JobKind.ofName text).name = (JobKind.other text).name := JobKind.nameOfName text
    simp only [RunnerRegistry.create, named]

example : (Registry.after "provider" ProviderType.name
    [.register .localOnline 1, .reset, .register (.other "LOCAL_ONLINE") 2, .register .localOnline 3]).find?
      "LOCAL_ONLINE" = some 2 := rfl

end FeatureStore
