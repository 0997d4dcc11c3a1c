import FeatureStore.Offline.Postgres.Statement
import FeatureStore.Proofs.Text.Replace
import FeatureStore.Transformation

/-!
Rendering, placeholder by placeholder. A query whose braces all belong to placeholders is rendered as one
reads it: each placeholder gives way to the table of the first mapping for it, and the leftmost one that
has no mapping is the error.
-/
namespace FeatureStore.TransformationConfig
open Text (NoneIn)

def BraceFree (s : List Char) : Prop := '\x7b' ∉ s ∧ '\x7d' ∉ s

instance (s : List Char) : Decidable (BraceFree s) := inferInstanceAs (Decidable (_ ∧ _))

def braced (inner : List Char) : List Char := opening ++ (inner ++ closing)

section
variable {inner other : List Char}

theorem bracedNonempty : braced inner ≠ [] := by simp [braced, opening]

theorem bracedInj (same : braced inner = braced other) : inner = other :=
  List.append_cancel_right (List.append_cancel_left same)

theorem noneInside (plain : BraceFree inner) (rest : List Char) :
    NoneIn (braced other) ('\x7b' :: (inner ++ closing)) rest := by
  have unopened : '\x7b' ∉ inner ++ closing := by simp [closing, plain.1]
  have second : NoneIn ('\x7b' :: (other ++ closing)) (inner ++ closing) rest := Text.noneInWithout unopened
  refine Text.noneInCons.mpr ⟨fun begins => ?_, Text.noneInWithout unopened⟩
  exact second [] _ rfl (by simp [closing]) (List.cons_prefix_cons.mp begins).2

theorem bracedPrefix (plain : BraceFree inner) (plainOther : BraceFree other) {rest : List Char}
    (begins : braced other <+: braced inner ++ rest) : other = inner := by
  obtain ⟨after, whole⟩ := begins
  have behind : other ++ '\x7d' :: ('\x7d' :: after) = inner ++ '\x7d' :: ('\x7d' :: rest) := by
    simpa [braced, opening, closing] using whole
  rw [← (Text.aroundFirst plainOther.2 ('\x7d' :: after)).1, behind, (Text.aroundFirst plain.2 _).1]

theorem noneInOther (plain : BraceFree inner) (plainOther : BraceFree other) (apart : other ≠ inner)
    (rest : List Char) : NoneIn (braced other) (braced inner) rest :=
  Text.noneInCons.mpr ⟨fun begins => apart (bracedPrefix plain plainOther begins), noneInside plain rest⟩

theorem placeholderHere (plain : BraceFree inner) (rest : List Char) :
    placeholder? (braced inner ++ rest) = some (braced inner) := by
  have opened : Text.fromFirst? opening (braced inner ++ rest) = some (braced inner ++ rest) := by
    rw [braced, List.append_assoc]
    exact Text.fromFirstHere (by simp [opening]) _
  have unclosed : NoneIn closing (opening ++ inner) (closing ++ rest) :=
    Text.noneInWithout (by simp [opening, plain.2])
  have closed : Text.throughFirst closing (braced inner ++ rest) = braced inner := by
    have split : braced inner ++ rest = (opening ++ inner) ++ (closing ++ rest) := by simp [braced]
    rw [split, Text.throughFirstPast unclosed, Text.throughFirstHere (by simp [closing]), braced,
      List.append_assoc]
  rw [placeholder?, opened, Option.map_some, closed]

theorem placeholderPast {s : List Char} (plain : BraceFree s) (rest : List Char) :
    placeholder? (s ++ rest) = placeholder? rest := by
  have unopened : NoneIn opening s rest := Text.noneInWithout plain.1
  rw [placeholder?, Text.fromFirstPast unopened, placeholder?]

end

inductive Piece where
  | text (s : List Char)
  | placeholder (inner : List Char)

def mapping? (sources : List SourceMapping) (inner : List Char) : Option SourceMapping :=
  sources.find? fun m => m.template.toList = braced inner

namespace Piece

def Plain : Piece → Prop
  | text s => BraceFree s
  | placeholder inner => BraceFree inner

def written : Piece → List Char
  | text s => s
  | placeholder inner => braced inner

def isUnmapped (sources : List SourceMapping) : Piece → Bool
  | text _ => false
  | placeholder inner => (mapping? sources inner).isNone

def fill (quote : String → String) (sources : List SourceMapping) : Piece → Piece
  | text s => text s
  | placeholder inner =>
    match mapping? sources inner with
    | some m => text (quote m.source).toList
    | none => placeholder inner

end Piece

def spell (pieces : List Piece) : List Char := pieces.flatMap Piece.written

section
variable {quote : String → String} {sources : List SourceMapping} {pieces : List Piece}

theorem spellCons (p : Piece) (pieces : List Piece) : spell (p :: pieces) = p.written ++ spell pieces :=
  List.flatMap_cons

theorem fillNothing (p : Piece) : p.fill quote [] = p := by
  cases p <;> rfl

theorem fillNext (m : SourceMapping) (rest : List SourceMapping) (p : Piece) :
    (p.fill quote [m]).fill quote rest = p.fill quote (m :: rest) := by
  cases p with
  | text s => rfl
  | placeholder inner =>
    by_cases here : m.template.toList = braced inner
    · simp [Piece.fill, mapping?, here]
    · simp [Piece.fill, mapping?, here]

theorem fillPlain (quoted : ∀ m ∈ sources, BraceFree (quote m.source).toList) {p : Piece}
    (plain : p.Plain) : (p.fill quote sources).Plain := by
  cases p with
  | text s => exact plain
  | placeholder inner =>
    simp only [Piece.fill]
    cases found : mapping? sources inner with
    | some m => exact quoted m (List.mem_of_find?_eq_some found)
    | none => exact plain

theorem replaceSpelled {m : SourceMapping} {inner : List Char} (plainInner : BraceFree inner)
    (template : m.template.toList = braced inner) (plain : ∀ p ∈ pieces, p.Plain) :
    Text.replace m.template.toList (quote m.source).toList (spell pieces) =
      spell (pieces.map (Piece.fill quote [m])) := by
  rw [template]
  induction pieces with
  | nil => rfl
  | cons p rest ih =>
    obtain ⟨first, others⟩ := List.forall_mem_cons.mp plain
    rw [List.map_cons, spellCons, spellCons, ← ih others]
    cases p with
    | text s =>
      have without : NoneIn (braced inner) s (spell rest) := Text.noneInWithout first.1
      exact Text.replacePast without _
    | placeholder k =>
      by_cases here : inner = k
      · have filled : (Piece.placeholder k).fill quote [m] = .text (quote m.source).toList := by
          simp [Piece.fill, mapping?, template, here]
        rw [filled]
        exact here ▸ Text.replaceHere bracedNonempty _ _
      · have left : (Piece.placeholder k).fill quote [m] = .placeholder k := by
          have other : braced inner ≠ braced k := fun same => here (bracedInj same)
          simp [Piece.fill, mapping?, template, other]
        rw [left]
        exact Text.replacePast (noneInOther first plainInner here _) _

theorem placeholderSpelled (plain : ∀ p ∈ pieces, p.Plain)
    (quoted : ∀ m ∈ sources, BraceFree (quote m.source).toList) :
    placeholder? (spell (pieces.map (Piece.fill quote sources))) =
      (pieces.find? (Piece.isUnmapped sources)).map Piece.written := by
  induction pieces with
  | nil => rfl
  | cons p rest ih =>
    obtain ⟨first, others⟩ := List.forall_mem_cons.mp plain
    have kept := fillPlain quoted first
    rw [List.map_cons, spellCons, List.find?_cons]
    cases p with
    | text s => exact (placeholderPast first _).trans (ih others)
    | placeholder inner =>
      cases found : mapping? sources inner with
      | some m =>
        simp only [Piece.fill, Piece.isUnmapped, found] at kept ⊢
        exact (placeholderPast kept _).trans (ih others)
      | none =>
        simp only [Piece.fill, Piece.isUnmapped, found]
        exact placeholderHere first _

theorem substituteNext {m : SourceMapping} (some : m.template.toList ≠ []) (rest : List SourceMapping)
    (query : List Char) : substitute quote (m :: rest) query =
      substitute quote rest (Text.replace m.template.toList (quote m.source).toList query) := by
  have nonempty : ¬ m.template.isEmpty = true := fun empty =>
    some (congrArg String.toList (String.isEmpty_iff.mp empty))
  rw [substitute, if_neg nonempty]

theorem substituteSpelled (plain : ∀ p ∈ pieces, p.Plain)
    (templates : ∀ m ∈ sources, ∃ inner, BraceFree inner ∧ m.template.toList = braced inner)
    (quoted : ∀ m ∈ sources, BraceFree (quote m.source).toList) :
    substitute quote sources (spell pieces) = .ok (spell (pieces.map (Piece.fill quote sources))) := by
  induction sources generalizing pieces with
  | nil =>
    have same : Piece.fill quote [] = id := funext fillNothing
    rw [same, List.map_id, substitute]
  | cons m rest ih =>
    obtain ⟨⟨inner, plainInner, template⟩, later⟩ := List.forall_mem_cons.mp templates
    obtain ⟨first, others⟩ := List.forall_mem_cons.mp quoted
    have some : m.template.toList ≠ [] := template ▸ bracedNonempty
    have next : ∀ p ∈ pieces.map (Piece.fill quote [m]), p.Plain := by
      intro p mem
      obtain ⟨q, inside, rfl⟩ := List.mem_map.mp mem
      exact fillPlain (by simpa using first) (plain q inside)
    rw [substituteNext some, replaceSpelled plainInner template plain, ih next later others, List.map_map]
    congr 2
    exact List.map_congr_left fun p _ => fillNext m rest p

end

/-- Rendering puts into each placeholder of a query the table of the first mapping for it and leaves all
other text alone; when placeholders are without a mapping, the leftmost of them is the error. -/
theorem rendersByPlaceholder (c : TransformationConfig) (quote : String → String) (pieces : List Piece)
    (plain : ∀ p ∈ pieces, p.Plain) (spelled : c.query.toList = spell pieces)
    (templates : ∀ m ∈ c.sources, ∃ inner, BraceFree inner ∧ m.template.toList = braced inner)
    (quoted : ∀ m ∈ c.sources, BraceFree (quote m.source).toList) :
    c.render quote =
      match pieces.find? (Piece.isUnmapped c.sources) with
      | none => .ok (String.ofList (spell (pieces.map (Piece.fill quote c.sources))))
      | some p => .error (.invalidInput ("transformation " ++ c.target.text ++
          " references unmapped source " ++ String.ofList p.written)) := by
  have scanned := placeholderSpelled plain quoted
  rw [render, spelled, substituteSpelled plain templates quoted]
  simp only [bind, Except.bind, scanned]
  cases pieces.find? (Piece.isUnmapped c.sources) <;> rfl

def users : SourceMapping := ⟨String.ofList (braced " users.v1 ".toList), "t_users"⟩

def orders : SourceMapping := ⟨String.ofList (braced " orders.v1 ".toList), "t_orders"⟩

def joined : List Piece :=
  [.text "SELECT * FROM ".toList, .placeholder " users.v1 ".toList, .text " JOIN ".toList,
    .placeholder " orders.v1 ".toList]

def joinQuery (sources : List SourceMapping) : TransformationConfig :=
  ⟨.sql, ⟨"out", "v1", .transformation⟩, String.ofList (spell joined), sources⟩

theorem rendersByPlaceholderJoin :
    (joinQuery [users, orders]).render Postgres.quoteIdent =
        .ok "SELECT * FROM \"t_users\" JOIN \"t_orders\"" ∧
      (joinQuery [users]).render Postgres.quoteIdent =
        .error (.invalidInput ("transformation transformation/out.v1 references unmapped source " ++
          orders.template)) := by
  have plain : ∀ p ∈ joined, p.Plain := by
    simp [joined, Piece.Plain, BraceFree]
  have both : ∀ m ∈ [users, orders], ∃ inner, BraceFree inner ∧ m.template.toList = braced inner := by
    simp only [List.forall_mem_cons, List.not_mem_nil, false_implies, implies_true, and_true]
    exact ⟨⟨" users.v1 ".toList, by decide, String.toList_ofList⟩,
      ⟨" orders.v1 ".toList, by decide, String.toList_ofList⟩⟩
  have quoted : ∀ m ∈ [users, orders], BraceFree (Postgres.quoteIdent m.source).toList := by
    decide
  have first : ∀ m ∈ (joinQuery [users]).sources, m ∈ [users, orders] := by
    simp [joinQuery]
  constructor
  · exact rendersByPlaceholder (joinQuery [users, orders]) Postgres.quoteIdent joined plain
      String.toList_ofList both quoted
  · exact rendersByPlaceholder (joinQuery [users]) Postgres.quoteIdent joined plain String.toList_ofList
      (fun m mem => both m (first m mem)) (fun m mem => quoted m (first m mem))

end FeatureStore.TransformationConfig
