import FeatureStore.Host
import FeatureStore.Job.Registry
import FeatureStore.Proofs.Registries
import Mathlib.Data.List.Nodup

/-!
Registering what comes with the library. The names are bound one after another up to the first that is
taken. Nothing is lost or replaced that was bound before, but what was bound on the way there stays bound.
-/
namespace FeatureStore

namespace Registry
variable {φ : Type} {entries : List (String × φ)} {r after : Registry φ}

structure Extends (entries : List (String × φ)) (r after : Registry φ) : Prop where
  added : ∀ p ∈ entries, r.find? p.1 = none ∧ after.find? p.1 = some p.2
  others : ∀ name, (∀ p ∈ entries, p.1 ≠ name) → after.find? name = r.find? name

theorem insertedExtends (distinct : (entries.map Prod.fst).Nodup)
    (free : ∀ p ∈ entries, r.find? p.1 = none) : Extends entries r (r.insertAll entries) where
  added := by
    intro p mem
    refine ⟨free p mem, Bindings.insertAllAgreed (fun q other same => ?_) (.inl ⟨p, mem, rfl⟩)⟩
    rw [List.inj_on_of_nodup_map distinct other mem same]
  others := fun name absent => Bindings.insertAllAbsent absent

theorem Extends.kept (extended : Extends entries r after) {name : String} {factory : φ}
    (held : r.find? name = some factory) : after.find? name = some factory := by
  rw [extended.others name fun p mem same => ?_, held]
  have free := (extended.added p mem).1
  rw [same, held] at free
  cases free

theorem registerAllCases (title : String) (distinct : (entries.map Prod.fst).Nodup) (r : Registry φ) :
    ((∀ p ∈ entries, r.find? p.1 = none) ∧ registerAll title entries r = (.ok (), r.insertAll entries)) ∨
    ∃ before name factory rest, entries = before ++ (name, factory) :: rest ∧
      (∀ p ∈ before, r.find? p.1 = none) ∧ (r.find? name).isSome ∧
      registerAll title entries r = (.error (.duplicateRegistration title name), r.insertAll before) := by
  induction entries generalizing r with
  | nil => exact .inl ⟨by simp, rfl⟩
  | cons p rest ih =>
    obtain ⟨name, factory⟩ := p
    obtain ⟨new, others⟩ := List.nodup_cons.mp distinct
    by_cases taken : r.contains name = true
    · refine .inr ⟨[], name, factory, rest, rfl, by simp, taken, ?_⟩
      simp [registerAll, register, taken, Bindings.insertAll]
    have free : r.find? name = none := Bindings.notContainsIff.mp ((Bool.not_eq_true _).mp taken)
    have next : registerAll title ((name, factory) :: rest) r =
        registerAll title rest (r.insert name factory) := by
      simp [registerAll, register, taken]
    have apart (p : String × φ) (mem : p ∈ rest) : (r.insert name factory).find? p.1 = r.find? p.1 := by
      rw [Bindings.findInsert, if_neg]
      intro same
      exact new (List.mem_map.mpr ⟨p, mem, same.symm⟩)
    have ahead {part : List (String × φ)} (inside : part ⊆ rest)
        (all : ∀ p ∈ part, (r.insert name factory).find? p.1 = none) :
        ∀ p ∈ (name, factory) :: part, r.find? p.1 = none := by
      intro p mem
      rcases List.mem_cons.mp mem with rfl | later
      · exact free
      · rw [← apart p (inside later)]
        exact all p later
    rcases ih others (r.insert name factory) with ⟨all, ended⟩ | ⟨before, held, f, behind, rfl, all, bound, ended⟩
    · exact .inl ⟨ahead (List.Subset.refl _) all, next.trans ended⟩
    · refine .inr ⟨(name, factory) :: before, held, f, behind, rfl, ?_, ?_, next.trans ended⟩
      · exact ahead (List.subset_append_left _ _) all
      · rwa [← apart (held, f) (by simp)]

structure Bulk (title : String) (entries : List (String × φ)) (r : Registry φ)
    (result : Except Error Unit × Registry φ) : Prop where
  okIff : result.1 = .ok () ↔ ∀ p ∈ entries, r.find? p.1 = none
  whole : result.1 = .ok () → Extends entries r result.2
  stopped : ∀ e, result.1 = .error e → ∃ before name factory rest,
    entries = before ++ (name, factory) :: rest ∧ e = .duplicateRegistration title name ∧
      (r.find? name).isSome ∧ Extends before r result.2
  kept : ∀ name factory, r.find? name = some factory → result.2.find? name = some factory
  -- A call that fails has changed nothing only if it fails at once.
  unchangedIff : ∀ e, result.1 = .error e →
    ((∀ name, result.2.find? name = r.find? name) ↔
      ∃ p rest, entries = p :: rest ∧ (r.find? p.1).isSome)

theorem bulkOf (title : String) (distinct : (entries.map Prod.fst).Nodup) (r : Registry φ) :
    Bulk title entries r (registerAll title entries r) := by
  rcases registerAllCases title distinct r with ⟨free, ended⟩ | ⟨before, name, factory, rest, rfl, free, held, ended⟩
  · have extended := insertedExtends distinct free
    rw [ended]
    constructor
    case okIff => exact ⟨fun _ => free, fun _ => rfl⟩
    case whole => exact fun _ => extended
    case stopped =>
      intro e failed
      cases failed
    case kept => exact fun name factory => extended.kept
    case unchangedIff =>
      intro e failed
      cases failed
  · rw [List.map_append] at distinct
    have extended := insertedExtends (List.nodup_append.mp distinct).1 free
    rw [ended]
    constructor
    case okIff =>
      constructor
      · intro ok
        cases ok
      · intro all
        rw [all (name, factory) (by simp)] at held
        cases held
    case whole =>
      intro ok
      cases ok
    case stopped =>
      intro e failed
      cases failed
      exact ⟨before, name, factory, rest, rfl, rfl, held, extended⟩
    case kept => exact fun name factory => extended.kept
    case unchangedIff =>
      intro e failed
      cases before with
      | nil => exact ⟨fun _ => ⟨_, rest, rfl, held⟩, fun _ _ => rfl⟩
      | cons p before =>
        obtain ⟨new, added⟩ := extended.added p List.mem_cons_self
        constructor
        · intro same
          rw [same, new] at added
          cases added
        · rintro ⟨q, others, split, taken⟩
          cases split
          rw [new] at taken
          cases taken

end Registry

theorem bulkRegistration :
    (∀ r : ProviderRegistry (StateM Host), Registry.Bulk "provider" Host.backends r (Host.registerBackends r)) ∧
    ∀ {m : Type → Type} [Monad m] (r : RunnerRegistry m),
      Registry.Bulk "runner" RunnerRegistry.defaults r (RunnerRegistry.registerDefaults r) :=
  ⟨Registry.bulkOf _ (by decide), Registry.bulkOf _ (by simp [RunnerRegistry.defaults, JobKind.name])⟩

theorem bulkRegistrationNotAtomic :
    let r : ProviderRegistry (StateM Host) := Bindings.empty.insert "REDIS_ONLINE" Host.memoryFactory
    let s : RunnerRegistry (StateM Host) := Bindings.empty.insert "MATERIALIZE" Copy.factory
    ((Host.registerBackends r).1 = .error (.duplicateRegistration "provider" "REDIS_ONLINE") ∧
      r.keys = ["REDIS_ONLINE"] ∧
      (Host.registerBackends r).2.keys = ["REDIS_ONLINE", "LOCAL_ONLINE", "MEMORY_OFFLINE"]) ∧
    (RunnerRegistry.registerDefaults s).1 = .error (.duplicateRegistration "runner" "MATERIALIZE") ∧
      s.keys = ["MATERIALIZE"] ∧
      (RunnerRegistry.registerDefaults s).2.keys =
        ["MATERIALIZE", "CREATE_TRANSFORMATION", "CREATE_TRAINING_SET"] :=
  ⟨⟨rfl, rfl, rfl⟩, rfl, rfl, rfl⟩

end FeatureStore
