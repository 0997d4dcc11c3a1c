import FeatureStore.Proofs.Transformation.Placeholders
import Mathlib.Data.List.Nodup

/-!
The order of mappings. Templates are replaced one after another, each in the result of those before; when
none of them can touch another one, or what is put in for another one, that is the same as replacing all
of them at once, in whatever order they are listed.
-/
namespace FeatureStore.TransformationConfig
open Text (NoneIn)

/- In some text, a place of the pattern and a place of `x` have a character in common; an empty `x` is
touched inside the pattern. -/
def Meets (p x : List Char) : Prop :=
  ∃ before after front back, before ++ (x ++ after) = front ++ (p ++ back) ∧
    front.length < before.length + x.length ∧ before.length < front.length + p.length

section
variable {p x inner other : List Char}

theorem noneInApart (nonempty : p ≠ []) (apart : ¬ Meets p x) (rest : List Char) : NoneIn p x rest := by
  rintro front back rfl remains ⟨after, whole⟩
  have atBack := List.length_pos_iff.mpr remains
  have inside := List.length_pos_iff.mpr nonempty
  refine apart ⟨[], rest, front, after, by simp [whole], ?_, ?_⟩
  · simp only [List.length_nil, List.length_append]
    omega
  · simp only [List.length_nil]
    omega

theorem startsMeet (nonempty : p ≠ []) (nonemptyX : x ≠ []) {s : List Char} (starts : p <+: s)
    (startsX : x <+: s) : Meets p x := by
  obtain ⟨back, rfl⟩ := starts
  obtain ⟨after, whole⟩ := startsX
  exact ⟨[], after, [], back, whole, by simpa using List.length_pos_iff.mpr nonemptyX,
    by simpa using List.length_pos_iff.mpr nonempty⟩

theorem meetsCases (meets : Meets p x) :
    (∃ rest, ¬ NoneIn p x rest) ∨ ∃ c s rest, p = c :: s ∧ ¬ NoneIn x s rest := by
  obtain ⟨before, after, front, back, whole, first, last⟩ := meets
  have begins {t : List Char} (there : x ++ after = t ++ (p ++ back)) (short : t.length < x.length) :
      ∃ rest, ¬ NoneIn p x rest := by
    obtain ⟨w, rfl⟩ := List.prefix_of_prefix_length_le ⟨_, there.symm⟩ (List.prefix_append x after)
      (Nat.le_of_lt short)
    rw [List.append_assoc] at there
    have remains : w ≠ [] := by
      rintro rfl
      simp at short
    exact ⟨after, fun none => none t w rfl remains ⟨back, (List.append_cancel_left there).symm⟩⟩
  rcases List.append_eq_append_iff.mp whole with ⟨t, rfl, there⟩ | ⟨t, rfl, there⟩
  · rw [List.length_append] at first
    exact .inl (begins there (by omega))
  · cases t with
    | nil =>
      simp only [List.append_nil] at first
      exact .inl (begins (t := []) there.symm (by simpa using first))
    | cons c t =>
      rw [List.length_append] at last
      obtain ⟨w, rfl⟩ := List.prefix_of_prefix_length_le ⟨_, there.symm⟩ (List.prefix_append p back)
        (by omega)
      have remains : w ≠ [] := by
        rintro rfl
        simp at last
      rw [List.append_assoc] at there
      exact .inr ⟨c, t ++ w, back, rfl, fun none => none t w rfl remains
        ⟨after, (List.append_cancel_left there).symm⟩⟩

theorem bracedMeets (plain : BraceFree inner) (plainOther : BraceFree other)
    (meets : Meets (braced other) (braced inner)) : other = inner := by
  rcases meetsCases meets with ⟨rest, begins⟩ | ⟨c, s, rest, split, begins⟩
  · by_cases same : other = inner
    · exact same
    · exact absurd (noneInOther plain plainOther same rest) begins
  · cases split
    exact absurd (noneInside plainOther rest) begins

end

def starting? (sources : List SourceMapping) (s : List Char) : Option SourceMapping :=
  sources.find? fun m => m.template.toList.isPrefixOf s

/- Replaces the templates in one pass after passing over `skip` characters; what is put in is not read
again. -/
def atOnceFrom (quote : String → String) (sources : List SourceMapping) : Nat → List Char → List Char
  | _, [] => []
  | skip + 1, _ :: rest => atOnceFrom quote sources skip rest
  | 0, c :: rest =>
    match starting? sources (c :: rest) with
    | some m => (quote m.source).toList ++ atOnceFrom quote sources (m.template.toList.length - 1) rest
    | none => c :: atOnceFrom quote sources 0 rest

def atOnce (quote : String → String) (sources : List SourceMapping) (query : List Char) : List Char :=
  atOnceFrom quote sources 0 query

structure Apart (quote : String → String) (sources : List SourceMapping) : Prop where
  nonempty : ∀ m ∈ sources, m.template ≠ ""
  distinct : (sources.map (·.template)).Nodup
  templates : ∀ m ∈ sources, ∀ other ∈ sources, other ≠ m →
    ¬ Meets other.template.toList m.template.toList
  inserted : ∀ m ∈ sources, ∀ other ∈ sources, other ≠ m →
    ¬ Meets other.template.toList (quote m.source).toList

section
variable {quote : String → String} {sources rest : List SourceMapping} {m : SourceMapping}
  {p x s : List Char}

theorem startingNone : starting? sources s = none ↔ ∀ m ∈ sources, ¬ m.template.toList <+: s := by
  simp [starting?, List.isPrefixOf_iff_prefix]

theorem startingMem (found : starting? sources s = some m) : m ∈ sources ∧ m.template.toList <+: s := by
  rw [starting?] at found
  have begins := List.find?_some found
  exact ⟨List.mem_of_find?_eq_some found, List.isPrefixOf_iff_prefix.mp begins⟩

namespace Apart

theorem chars (apart : Apart quote sources) (mem : m ∈ sources) : m.template.toList ≠ [] := fun empty =>
  apart.nonempty m mem (String.toList_injective empty)

theorem tail (apart : Apart quote (m :: rest)) : Apart quote rest where
  nonempty o mem := apart.nonempty o (List.mem_cons_of_mem m mem)
  distinct := (List.nodup_cons.mp apart.distinct).2
  templates o mem other inside :=
    apart.templates o (List.mem_cons_of_mem m mem) other (List.mem_cons_of_mem m inside)
  inserted o mem other inside :=
    apart.inserted o (List.mem_cons_of_mem m mem) other (List.mem_cons_of_mem m inside)

theorem differs (apart : Apart quote (m :: rest)) {o : SourceMapping} (mem : o ∈ rest) : o ≠ m := by
  rintro rfl
  exact (List.nodup_cons.mp apart.distinct).1 (List.mem_map_of_mem mem)

theorem reordered {order : List SourceMapping} (apart : Apart quote sources) (perm : order.Perm sources) :
    Apart quote order where
  nonempty m mem := apart.nonempty m (perm.subset mem)
  distinct := (perm.map _).nodup_iff.mpr apart.distinct
  templates m mem other inside := apart.templates m (perm.subset mem) other (perm.subset inside)
  inserted m mem other inside := apart.inserted m (perm.subset mem) other (perm.subset inside)

theorem starting (apart : Apart quote sources) (mem : m ∈ sources) (starts : m.template.toList <+: s) :
    starting? sources s = some m := by
  cases found : starting? sources s with
  | none => exact absurd starts (startingNone.mp found m mem)
  | some other =>
    obtain ⟨inside, begins⟩ := startingMem found
    by_cases same : other = m
    · rw [same]
    · exact absurd (startsMeet (apart.chars inside) (apart.chars mem) begins starts)
        (apart.templates m mem other inside same)

theorem startingReordered {order : List SourceMapping} (apart : Apart quote sources)
    (perm : order.Perm sources) (s : List Char) : starting? order s = starting? sources s := by
  cases found : starting? sources s with
  | some m =>
    obtain ⟨mem, starts⟩ := startingMem found
    exact (apart.reordered perm).starting (perm.symm.subset mem) starts
  | none => exact startingNone.mpr fun m mem => startingNone.mp found m (perm.subset mem)

end Apart

theorem atOnceSkipped (s : List Char) (skip : Nat) :
    atOnceFrom quote sources skip s = atOnce quote sources (s.drop skip) := by
  induction skip generalizing s with
  | zero => rfl
  | succ skip ih =>
    cases s with
    | nil => rfl
    | cons c rest => exact ih rest

theorem atOnceHere (nonempty : m.template.toList ≠ []) {rest : List Char}
    (found : starting? sources (m.template.toList ++ rest) = some m) :
    atOnce quote sources (m.template.toList ++ rest) =
      (quote m.source).toList ++ atOnce quote sources rest := by
  rcases split : m.template.toList with _ | ⟨c, tail⟩
  · exact absurd split nonempty
  · rw [split, List.cons_append] at found
    rw [List.cons_append, atOnce, atOnceFrom, found]
    simp only [atOnceSkipped, split]
    simp

theorem atOnceStep {c : Char} {rest : List Char} (other : starting? sources (c :: rest) = none) :
    atOnce quote sources (c :: rest) = c :: atOnce quote sources rest := by
  rw [atOnce, atOnceFrom, other]
  rfl

theorem atOncePast {rest : List Char} (none : ∀ m ∈ sources, NoneIn m.template.toList s rest) :
    atOnce quote sources (s ++ rest) = s ++ atOnce quote sources rest := by
  induction s with
  | nil => rfl
  | cons c s ih =>
    have head : starting? sources (c :: (s ++ rest)) = .none :=
      startingNone.mpr fun m mem => (Text.noneInCons.mp (none m mem)).1
    rw [List.cons_append, atOnceStep head, ih fun m mem => (Text.noneInCons.mp (none m mem)).2,
      List.cons_append]

theorem atOnceNothing (q : List Char) : atOnce quote [] q = q := by
  induction q with
  | nil => rfl
  | cons c q ih => rw [atOnceStep rfl, ih]

theorem prefixUnreplaced {t q : List Char} (nonempty : p ≠ []) (apart : ¬ Meets t x) (other : ¬ p <+: q)
    (starts : t <+: Text.replace p x q) : t <+: q := by
  rcases Text.replaceFirst nonempty x q with same | ⟨before, after, rfl, replaced⟩
  · exact same ▸ starts
  · rw [replaced] at starts
    have remains : before ≠ [] := by
      rintro rfl
      exact other (List.prefix_append p after)
    by_cases short : t.length ≤ before.length
    · exact (List.prefix_of_prefix_length_le starts (List.prefix_append before _) short).trans
        (List.prefix_append before _)
    · obtain ⟨back, whole⟩ := starts
      have ahead := List.length_pos_iff.mpr remains
      refine absurd ⟨before, _, [], back, whole.symm, ?_, ?_⟩ apart
      · simp only [List.length_nil]
        omega
      · simp only [List.length_nil]
        omega

theorem Apart.next (apart : Apart quote (m :: rest)) (q : List Char) :
    atOnce quote rest (Text.replace m.template.toList (quote m.source).toList q) =
      atOnce quote (m :: rest) q := by
  have nonempty := apart.chars List.mem_cons_self
  have others {o : SourceMapping} (mem : o ∈ rest) : o ∈ m :: rest := List.mem_cons_of_mem m mem
  -- A step passes over a whole template, so that the induction is on the length of the text.
  induction size : q.length using Nat.strongRecOn generalizing q with
  | _ size ih =>
  subst size
  have shorter {t r : List Char} (nonempty : t ≠ []) : r.length < (t ++ r).length := by
    have := List.length_pos_iff.mpr nonempty
    rw [List.length_append]
    omega
  cases found : starting? (m :: rest) q with
  | some o =>
    obtain ⟨mem, r, rfl⟩ := startingMem found
    have behind := ih r.length (shorter (apart.chars mem)) r rfl
    rw [atOnceHere (apart.chars mem) found, ← behind]
    rcases List.mem_cons.mp mem with rfl | inRest
    · rw [Text.replaceHere nonempty]
      refine atOncePast fun other inside => ?_
      exact noneInApart (apart.chars (others inside))
        (apart.inserted o mem other (others inside) (apart.differs inside)) _
    · have passed : NoneIn m.template.toList o.template.toList r := noneInApart nonempty
        (apart.templates o mem m List.mem_cons_self (apart.differs inRest).symm) r
      rw [Text.replacePast passed]
      exact atOnceHere (apart.chars mem) (apart.tail.starting inRest (List.prefix_append _ _))
  | none =>
    cases q with
    | nil => rfl
    | cons c r =>
      have unstarted := startingNone.mp found
      have other := unstarted m List.mem_cons_self
      have still : starting? rest (c :: Text.replace m.template.toList (quote m.source).toList r) = none := by
        refine startingNone.mpr fun o mem starts => unstarted o (others mem) ?_
        rw [← Text.replaceStep other] at starts
        exact prefixUnreplaced nonempty
          (apart.inserted m List.mem_cons_self o (others mem) (apart.differs mem)) other starts
      rw [Text.replaceStep other, atOnceStep still, atOnceStep found, ih r.length (by simp) r rfl]

theorem substituteAtOnce (apart : Apart quote sources) (q : List Char) :
    substitute quote sources q = .ok (atOnce quote sources q) := by
  induction sources generalizing q with
  | nil => rw [substitute, atOnceNothing]
  | cons m rest ih =>
    rw [substituteNext (apart.chars List.mem_cons_self), ih apart.tail, apart.next]

theorem atOnceReordered {order : List SourceMapping} (apart : Apart quote sources)
    (perm : order.Perm sources) (q : List Char) : atOnce quote order q = atOnce quote sources q := by
  have each (skip : Nat) : atOnceFrom quote order skip q = atOnceFrom quote sources skip q := by
    induction q generalizing skip with
    | nil => cases skip <;> rfl
    | cons c r ih =>
      cases skip with
      | zero => simp only [atOnceFrom, apart.startingReordered perm, ih]
      | succ skip => exact ih skip
  exact each 0

end

/-! Names between quotes, in which every quote is doubled. -/

section
variable {p s : List Char}

theorem notAtQuote (nonempty : p ≠ []) (plain : '"' ∉ p) (rest : List Char) : ¬ p <+: '"' :: rest := by
  cases p with
  | nil => exact absurd rfl nonempty
  | cons d p =>
    intro begins
    have head : d = '"' := (List.cons_prefix_cons.mp begins).1
    exact plain (head ▸ List.mem_cons_self)

theorem doubleQuotesCons (c : Char) (s : List Char) :
    Postgres.doubleQuotes (c :: s) =
      (if c = '"' then ['"', '"'] else [c]) ++ Postgres.doubleQuotes s := List.flatMap_cons

theorem prefixUndoubled {rest : List Char} (plain : '"' ∉ p)
    (begins : p <+: Postgres.doubleQuotes s ++ '"' :: rest) : p <+: s := by
  induction s generalizing p with
  | nil =>
    by_cases empty : p = []
    · exact empty ▸ List.nil_prefix
    · exact absurd begins (notAtQuote empty plain rest)
  | cons c s ih =>
    rw [doubleQuotesCons] at begins
    by_cases quoted : c = '"'
    · rw [if_pos quoted] at begins
      by_cases empty : p = []
      · exact empty ▸ List.nil_prefix
      · exact absurd begins (notAtQuote empty plain _)
    · rw [if_neg quoted] at begins
      cases p with
      | nil => exact List.nil_prefix
      | cons d p =>
        obtain ⟨rfl, behind⟩ := List.cons_prefix_cons.mp begins
        exact List.cons_prefix_cons.mpr ⟨rfl, ih (fun mem => plain (List.mem_cons_of_mem d mem)) behind⟩

theorem noneInDoubled (nonempty : p ≠ []) (plain : '"' ∉ p) (absent : ¬ p <:+: s) (rest : List Char) :
    NoneIn p (Postgres.doubleQuotes s ++ ['"']) rest := by
  induction s with
  | nil =>
    refine Text.noneInCons.mpr ⟨notAtQuote nonempty plain _, ?_⟩
    rintro front back split remains
    exact absurd (List.append_eq_nil_iff.mp split.symm).2 remains
  | cons c s ih =>
    have later := ih fun inside => absent (inside.trans (List.suffix_cons c s).isInfix)
    rw [doubleQuotesCons]
    by_cases quoted : c = '"'
    · rw [if_pos quoted]
      exact Text.noneInCons.mpr ⟨notAtQuote nonempty plain _,
        Text.noneInCons.mpr ⟨notAtQuote nonempty plain _, later⟩⟩
    · rw [if_neg quoted]
      refine Text.noneInCons.mpr ⟨fun begins => absent ?_, later⟩
      have doubled : Postgres.doubleQuotes (c :: s) ++ '"' :: rest =
          c :: ((Postgres.doubleQuotes s ++ ['"']) ++ rest) := by
        simp [doubleQuotesCons, quoted]
      exact (prefixUndoubled plain (doubled ▸ begins)).isInfix

theorem meetsQuoted {name : String} (nonempty : p ≠ []) (plain : '"' ∉ p)
    (meets : Meets p (Postgres.quoteIdent name).toList) : p <:+: name.toList := by
  rw [Postgres.quoteIdent, String.toList_ofList] at meets
  rcases meetsCases meets with ⟨rest, begins⟩ | ⟨c, t, rest, rfl, begins⟩
  · by_cases inside : p <:+: name.toList
    · exact inside
    · refine absurd (Text.noneInCons.mpr ⟨notAtQuote nonempty plain _, ?_⟩) begins
      exact noneInDoubled nonempty plain inside rest
  · have unquoted : '"' ∉ t := fun mem => plain (List.mem_cons_of_mem c mem)
    exact absurd (Text.noneInWithout unquoted) begins

end

def named (v : NameVariant) : String := "\x7b\x7b " ++ v.name ++ "." ++ v.variant ++ " \x7d\x7d"

def names (v : NameVariant) : List Char := ' ' :: (v.name.toList ++ '.' :: (v.variant.toList ++ [' ']))

theorem namedBraced (v : NameVariant) : (named v).toList = braced (names v) := by
  simp [named, names, braced, opening, closing]

def IsNamed (m : SourceMapping) : Prop :=
  ∃ v, m.template = named v ∧ BraceFree v.name.toList ∧ BraceFree v.variant.toList

section
variable {quote : String → String} {sources : List SourceMapping}

theorem IsNamed.braced {m : SourceMapping} (isNamed : IsNamed m) :
    ∃ inner, BraceFree inner ∧ m.template.toList = braced inner := by
  obtain ⟨v, template, name, variant⟩ := isNamed
  refine ⟨names v, ?_, template ▸ namedBraced v⟩
  simp only [BraceFree] at name variant
  simp [BraceFree, names, name, variant]

theorem Apart.ofNamed (isNamed : ∀ m ∈ sources, IsNamed m) (distinct : (sources.map (·.template)).Nodup)
    (inserted : ∀ m ∈ sources, ∀ other ∈ sources, other ≠ m →
      ¬ Meets other.template.toList (quote m.source).toList) : Apart quote sources where
  nonempty m mem empty := by
    obtain ⟨inner, -, template⟩ := (isNamed m mem).braced
    rw [empty] at template
    exact bracedNonempty template.symm
  distinct := distinct
  templates m mem other inside differs meets := by
    obtain ⟨inner, plain, template⟩ := (isNamed m mem).braced
    obtain ⟨innerOther, plainOther, templateOther⟩ := (isNamed other inside).braced
    rw [template, templateOther] at meets
    have same : other.template = m.template := String.toList_injective <| by
      rw [template, templateOther, bracedMeets plain plainOther meets]
    exact differs (List.inj_on_of_nodup_map distinct inside mem same)
  inserted := inserted

theorem Apart.ofQuoted (isNamed : ∀ m ∈ sources, IsNamed m) (distinct : (sources.map (·.template)).Nodup)
    (unquoted : ∀ m ∈ sources, '"' ∉ m.template.toList)
    (without : ∀ m ∈ sources, ∀ other ∈ sources, other ≠ m →
      ¬ other.template.toList <:+: m.source.toList) : Apart Postgres.quoteIdent sources := by
  refine .ofNamed isNamed distinct fun m mem other inside differs meets => ?_
  obtain ⟨inner, -, template⟩ := (isNamed other inside).braced
  have nonempty : other.template.toList ≠ [] := template ▸ bracedNonempty
  exact without m mem other inside differs (meetsQuoted nonempty (unquoted other inside) meets)

end

/-- As long as no template can touch another one, or what is put in for another one, the order of the
mappings does not matter, and what has been put in stays: all templates are replaced at once. -/
theorem orderIrrelevant (c : TransformationConfig) (quote : String → String)
    (apart : Apart quote c.sources) (order : List SourceMapping) (perm : order.Perm c.sources) :
    { c with sources := order }.render quote = c.render quote ∧
      c.render quote =
        { c with query := String.ofList (atOnce quote c.sources c.query.toList), sources := [] }.render
          quote := by
  have replaced := substituteAtOnce apart c.query.toList
  constructor
  · have reordered := substituteAtOnce (apart.reordered perm) c.query.toList
    rw [atOnceReordered apart perm] at reordered
    simp only [render, replaced, reordered]
  · simp only [render, replaced, substitute, String.toList_ofList]

def crossed : List SourceMapping :=
  [⟨named ⟨"users", "v1"⟩, "orders.v1"⟩, ⟨named ⟨"orders", "v1"⟩, "users.v1"⟩]

theorem orderIrrelevantCrossed :
    (joinQuery crossed.reverse).render Postgres.quoteIdent =
        (joinQuery crossed).render Postgres.quoteIdent ∧
      (joinQuery crossed).render Postgres.quoteIdent =
        .ok "SELECT * FROM \"orders.v1\" JOIN \"users.v1\"" := by
  have first : IsNamed ⟨named ⟨"users", "v1"⟩, "orders.v1"⟩ :=
    ⟨⟨"users", "v1"⟩, rfl, by decide, by decide⟩
  have second : IsNamed ⟨named ⟨"orders", "v1"⟩, "users.v1"⟩ :=
    ⟨⟨"orders", "v1"⟩, rfl, by decide, by decide⟩
  have isNamed : ∀ m ∈ crossed, IsNamed m := by
    simp only [crossed, List.forall_mem_cons, List.not_mem_nil, false_implies, implies_true, and_true]
    exact ⟨first, second⟩
  have apart : Apart Postgres.quoteIdent (joinQuery crossed).sources :=
    .ofQuoted isNamed (by decide +kernel) (by decide +kernel) (by decide +kernel)
  obtain ⟨same, once⟩ := orderIrrelevant _ _ apart crossed.reverse (List.reverse_perm crossed)
  exact ⟨same, once.trans rfl⟩

def chained : TransformationConfig :=
  ⟨.sql, ⟨"out", "v1", .transformation⟩, named ⟨"a", "v"⟩,
    [⟨named ⟨"a", "v"⟩, named ⟨"b", "v"⟩⟩, ⟨named ⟨"b", "v"⟩, "t"⟩]⟩

theorem sourceRewritten :
    chained.render Postgres.quoteIdent = .ok "\"\"t\"\"" ∧
      { chained with sources := chained.sources.reverse }.render Postgres.quoteIdent =
        .error (.invalidInput
          ("transformation transformation/out.v1 references unmapped source " ++ named ⟨"b", "v"⟩)) :=
  ⟨rfl, rfl⟩

end FeatureStore.TransformationConfig
