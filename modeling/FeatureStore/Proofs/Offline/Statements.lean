import FeatureStore.Proofs.Offline.Targets

/-!
What a statement says about its request. A quoted name ends at its last character, so a statement is
made of names and the words between them in one way only, and two requests with one statement ask for
the same tables, columns and types.
-/
namespace FeatureStore.Postgres

def Unquoted (words : String) : Prop := '"' ∉ words.toList

def Apart (text : String) : Prop := text.toList.head? ≠ some '"'

def leadingName? (text : String) : Option (String × String) :=
  match text.toList with
  | '"' :: rest => (closing rest).map fun (name, more) => (String.ofList name, String.ofList more)
  | _ => none

theorem leadingQuoted (name : String) {more : String} (apart : Apart more) :
    leadingName? (quoteIdent name ++ more) = some (name, more) := by
  have chars : (quoteIdent name ++ more).toList = '"' :: (doubleQuotes name.toList ++ '"' :: more.toList) := by
    simp [quoteIdent]
  unfold leadingName?
  rw [chars]
  simp only [closingDoubled name.toList apart, Option.map_some, String.ofList_toList]

theorem apartWords {words : String} (nonempty : words ≠ "") (plain : Unquoted words) (more : String) :
    Apart (words ++ more) := by
  unfold Apart
  rw [String.toList_append]
  cases chars : words.toList with
  | nil => exact absurd (String.toList_eq_nil_iff.mp chars) nonempty
  | cons c rest =>
    intro quote
    obtain rfl : c = '"' := Option.some.inj quote
    exact plain (chars ▸ List.mem_cons_self)

theorem nameUnique {a b x y : String} (first : Apart x) (second : Apart y)
    (same : quoteIdent a ++ x = quoteIdent b ++ y) : a = b ∧ x = y := by
  have read := congrArg leadingName? same
  rw [leadingQuoted a first, leadingQuoted b second] at read
  exact Prod.mk.inj (Option.some.inj read)

theorem quoteIdentChars (name : String) :
    ∃ rest, (quoteIdent name).toList = '"' :: rest := ⟨_, String.toList_ofList ..⟩

theorem wordsUnique {v w a b x y : String} (plain : Unquoted v) (other : Unquoted w)
    (same : v ++ (quoteIdent a ++ x) = w ++ (quoteIdent b ++ y)) :
    v = w ∧ quoteIdent a ++ x = quoteIdent b ++ y := by
  obtain ⟨first, firstChars⟩ := quoteIdentChars a
  obtain ⟨second, secondChars⟩ := quoteIdentChars b
  have words : v = w := by
    have upTo := congrArg (fun s : String => s.toList.takeWhile (· ≠ '"')) same
    simp only [String.toList_append, firstChars, secondChars, List.cons_append,
      (Text.aroundFirst plain _).1, (Text.aroundFirst other _).1] at upTo
    exact String.toList_inj.mp upTo
  subst words
  exact ⟨rfl, (String.append_right_inj v).mp same⟩

theorem nameThenWords {a b words x y : String} (nonempty : words ≠ "") (plain : Unquoted words)
    (same : quoteIdent a ++ (words ++ x) = quoteIdent b ++ (words ++ y)) : a = b ∧ x = y := by
  obtain ⟨names, same⟩ := nameUnique (apartWords nonempty plain x) (apartWords nonempty plain y) same
  exact ⟨names, (String.append_right_inj words).mp same⟩

theorem nameLast {a b : String} (same : quoteIdent a = quoteIdent b) : a = b :=
  (nameUnique (x := "") (y := "") (by simp [Apart]) (by simp [Apart]) (by rw [same])).1

theorem wordsNameless {v w a x : String} (plain : Unquoted v) : v ≠ w ++ (quoteIdent a ++ x) := by
  intro same
  obtain ⟨rest, chars⟩ := quoteIdentChars a
  refine plain ?_
  rw [same]
  simp [chars]

theorem unquotedAppend {v w : String} : Unquoted (v ++ w) ↔ Unquoted v ∧ Unquoted w := by
  simp [Unquoted, not_or]

theorem unquotedIntercalate {sep : String} {items : List String} (between : Unquoted sep)
    (plain : ∀ s ∈ items, Unquoted s) : Unquoted (sep.intercalate items) := by
  induction items with
  | nil => simp [Unquoted]
  | cons s rest ih =>
    have others := ih fun t mem => plain t (List.mem_cons_of_mem s mem)
    cases rest with
    | nil => simpa using plain s List.mem_cons_self
    | cons t rest =>
      rw [String.intercalate_cons_cons, unquotedAppend, unquotedAppend]
      exact ⟨⟨plain s List.mem_cons_self, between⟩, others⟩

theorem unquotedDigits (n : Nat) : Unquoted (toString n) := by
  intro mem
  rw [Nat.toString_eq_ofList_toDigits, String.toList_ofList] at mem
  have digit := Nat.isDigit_of_mem_toDigits (by decide) (by decide) mem
  simp at digit

structure Entry where
  name : String
  words : String
  plain : Unquoted words
  nonempty : words ≠ ""

def listing (opening sep : String) (entries : List Entry) : String :=
  sep.intercalate (entries.map fun e => opening ++ quoteIdent e.name ++ e.words)

section Listing
variable {opening sep last : String}

def separator (sep : String) : List Entry → String
  | [] => ""
  | _ :: _ => sep

theorem listingCons (before : String) (e : Entry) (rest : List Entry) (last : String) :
    before ++ (listing opening sep (e :: rest) ++ last) = before ++ opening ++
      (quoteIdent e.name ++ (e.words ++ separator sep rest ++ (listing opening sep rest ++ last))) := by
  cases rest with
  | nil => simp [listing, separator, String.append_assoc]
  | cons other rest => simp [listing, separator, String.intercalate_cons_cons, String.append_assoc]

theorem listingUnique (opens : Unquoted opening) (separates : Unquoted sep) (ends : Unquoted last)
    {entries others : List Entry} {before after : String} (plain : Unquoted before) (other : Unquoted after)
    (same : before ++ (listing opening sep entries ++ last) = after ++ (listing opening sep others ++ last)) :
    before = after ∧ entries = others := by
  have between (entries : List Entry) : Unquoted (separator sep entries) := by
    cases entries with
    | nil => simp [separator, Unquoted]
    | cons e rest => exact separates
  -- A first name ends the words before it, and the words behind it go on into the rest of the list.
  induction entries generalizing others before after with
  | nil =>
    cases others with
    | nil => exact ⟨(String.append_left_inj _).mp same, rfl⟩
    | cons e rest =>
      rw [listingCons] at same
      refine absurd same (wordsNameless ?_)
      simp [listing, unquotedAppend, plain, ends]
  | cons e rest ih =>
    cases others with
    | nil =>
      rw [listingCons] at same
      refine absurd same.symm (wordsNameless ?_)
      simp [listing, unquotedAppend, other, ends]
    | cons f more =>
      rw [listingCons, listingCons] at same
      obtain ⟨words, same⟩ := wordsUnique (unquotedAppend.mpr ⟨plain, opens⟩)
        (unquotedAppend.mpr ⟨other, opens⟩) same
      have apart (e : Entry) (rest : List Entry) (more : String) :
          Apart (e.words ++ separator sep rest ++ more) := by
        rw [String.append_assoc]
        exact apartWords e.nonempty e.plain _
      obtain ⟨name, same⟩ := nameUnique (apart e rest _) (apart f more _) same
      obtain ⟨behind, rfl⟩ := ih (unquotedAppend.mpr ⟨e.plain, between rest⟩)
        (unquotedAppend.mpr ⟨f.plain, between more⟩) same
      have words' : e.words = f.words := (String.append_left_inj _).mp behind
      refine ⟨(String.append_left_inj _).mp words, ?_⟩
      cases e
      cases f
      cases name
      cases words'
      rfl

end Listing

theorem columnTypeUnique {a b : ValueType} (same : columnType a = columnType b) : a = b := by
  cases a <;> cases b <;> simp [columnType] at same <;> rfl

def columnEntry (c : TableColumn) : Entry where
  name := c.name
  words := " " ++ columnType c.type
  plain := by cases c.type <;> simp [Unquoted, columnType]
  nonempty := by cases c.type <;> simp [columnType]

theorem columnEntryUnique : Function.Injective columnEntry := by
  intro a b same
  have words : " " ++ columnType a.type = " " ++ columnType b.type := congrArg Entry.words same
  have name : a.name = b.name := congrArg Entry.name same
  have type : a.type = b.type := columnTypeUnique ((String.append_right_inj _).mp words)
  cases a
  cases b
  cases name
  cases type
  rfl

theorem createPrimaryListing (table : String) (schema : TableSchema) :
    createPrimary table schema = "CREATE TABLE " ++ (quoteIdent table ++
      (" (" ++ (listing "" ", " (schema.columns.map columnEntry) ++ ")"))) := by
  have texts : schema.columns.map columnText =
      (schema.columns.map columnEntry).map fun e => "" ++ quoteIdent e.name ++ e.words := by
    simp [columnText, columnEntry, Function.comp_def, String.append_assoc]
  unfold createPrimary listing
  rw [texts]
  simp only [String.append_assoc]

theorem createPrimaryUnique {table other : String} {schema another : TableSchema}
    (same : createPrimary table schema = createPrimary other another) :
    table = other ∧ schema = another := by
  rw [createPrimaryListing, createPrimaryListing, String.append_right_inj] at same
  obtain ⟨tables, same⟩ := nameUnique (by simp [Apart]) (by simp [Apart]) same
  obtain ⟨-, entries⟩ := listingUnique (by simp [Unquoted]) (by simp [Unquoted]) (by simp [Unquoted])
    (by simp [Unquoted]) (by simp [Unquoted]) same
  refine ⟨tables, ?_⟩
  cases schema
  cases another
  cases List.map_injective_iff.mpr columnEntryUnique entries
  rfl

def viewTimes (ts : String) : String :=
  if ts.isEmpty then "to_timestamp(0)" else quoteIdent ts ++ "::timestamptz"

theorem viewTimesUnique {ts other source another : String}
    (same : viewTimes ts ++ (" AS ts FROM " ++ quoteIdent source) =
      viewTimes other ++ (" AS ts FROM " ++ quoteIdent another)) :
    ts = other ∧ source = another := by
  unfold viewTimes at same
  split at same <;> split at same
  · rename_i empty none
    rw [String.append_right_inj, String.append_right_inj] at same
    rw [String.isEmpty_iff] at empty none
    exact ⟨empty.trans none.symm, nameLast same⟩
  · -- one text begins with a letter, the other with a quote
    obtain ⟨rest, chars⟩ := quoteIdentChars other
    have letters := congrArg String.toList same
    simp [chars] at letters
  · obtain ⟨rest, chars⟩ := quoteIdentChars ts
    have letters := congrArg String.toList same
    simp [chars] at letters
  · rw [String.append_assoc, String.append_assoc] at same
    obtain ⟨times, same⟩ := nameThenWords (by simp) (by simp [Unquoted]) same
    rw [String.append_right_inj] at same
    exact ⟨times, nameLast same⟩

theorem resourceViewWords (view : String) (schema : ResourceSchema) :
    resourceView view schema = "CREATE VIEW " ++ (quoteIdent view ++ (" AS SELECT " ++
      (quoteIdent schema.entity ++ ("::text AS entity, to_jsonb(" ++ (quoteIdent schema.value ++
        (") AS value, " ++ (viewTimes schema.ts ++ (" AS ts FROM " ++ quoteIdent schema.sourceTable)))))))) := by
  unfold resourceView viewTimes
  simp only [String.append_assoc]

theorem resourceViewUnique {view other : String} {schema another : ResourceSchema}
    (same : resourceView view schema = resourceView other another) :
    view = other ∧ schema = another := by
  rw [resourceViewWords, resourceViewWords, String.append_right_inj] at same
  obtain ⟨views, same⟩ := nameThenWords (by simp) (by simp [Unquoted]) same
  obtain ⟨entities, same⟩ := nameThenWords (by simp) (by simp [Unquoted]) same
  obtain ⟨values, same⟩ := nameThenWords (by simp) (by simp [Unquoted]) same
  obtain ⟨times, sources⟩ := viewTimesUnique same
  refine ⟨views, ?_⟩
  cases schema
  cases another
  cases entities
  cases values
  cases times
  cases sources
  rfl

theorem materializationUnique {table other source another : String}
    (same : materialization table source = materialization other another) :
    table = other ∧ source = another := by
  unfold materialization at same
  simp only [String.append_assoc, String.append_right_inj] at same
  obtain ⟨tables, same⟩ := nameThenWords (by simp) (by simp [Unquoted]) same
  obtain ⟨sources, -⟩ := nameUnique (by simp [Apart]) (by simp [Apart]) same
  exact ⟨tables, sources⟩

def joinEntry (index : Nat) (table : String) : Entry where
  name := table
  words := " WHERE entity = l.entity AND ts <= l.ts ORDER BY ts DESC LIMIT 1) AS f" ++ toString index ++
    " ON TRUE"
  plain := unquotedAppend.mpr ⟨unquotedAppend.mpr ⟨by simp [Unquoted], unquotedDigits index⟩,
    by simp [Unquoted]⟩
  nonempty := by simp

def trainingColumns (count : Nat) : String :=
  " AS SELECT " ++ ", ".intercalate ((List.range count).map featureColumn ++ ["l.value AS label"]) ++ " FROM "

theorem unquotedColumns (count : Nat) : Unquoted (trainingColumns count) := by
  have columns : Unquoted
      (", ".intercalate ((List.range count).map featureColumn ++ ["l.value AS label"])) := by
    refine unquotedIntercalate (by simp [Unquoted]) fun s mem => ?_
    rcases List.mem_append.mp mem with feature | label
    · obtain ⟨index, -, rfl⟩ := List.mem_map.mp feature
      have digits := unquotedDigits index
      simp only [featureColumn, unquotedAppend]
      exact ⟨⟨⟨by simp [Unquoted], digits⟩, by simp [Unquoted]⟩, digits⟩
    · obtain rfl := List.mem_singleton.mp label
      simp [Unquoted]
  exact unquotedAppend.mpr ⟨unquotedAppend.mpr ⟨by simp [Unquoted], columns⟩, by simp [Unquoted]⟩

theorem featureJoinWords (index : Nat) (feature : ResourceId) :
    featureJoin index feature = "LEFT JOIN LATERAL (SELECT value FROM " ++
      quoteIdent (joinEntry index (tableName feature)).name ++ (joinEntry index (tableName feature)).words := by
  unfold featureJoin joinEntry
  dsimp only
  simp only [String.append_assoc]

theorem trainingSetListing (table : String) (d : TrainingSetDef) :
    trainingSet table d = "CREATE TABLE " ++ (quoteIdent table ++
      (trainingColumns (d.features.map tableName).length ++ (quoteIdent (tableName d.label) ++ (" AS l " ++
        (listing "LEFT JOIN LATERAL (SELECT value FROM " " "
          ((d.features.map tableName).mapIdx joinEntry) ++ ""))))) := by
  have texts : d.features.mapIdx featureJoin = ((d.features.map tableName).mapIdx joinEntry).map fun e =>
      "LEFT JOIN LATERAL (SELECT value FROM " ++ quoteIdent e.name ++ e.words := by
    refine List.ext_getElem? fun index => ?_
    simp only [List.getElem?_mapIdx, List.getElem?_map]
    cases d.features[index]? with
    | none => rfl
    | some feature => exact congrArg some (featureJoinWords index feature)
  unfold trainingSet trainingColumns listing
  rw [texts, List.length_map]
  simp only [String.append_assoc, String.append_empty]

theorem trainingSetUnique {table other : String} {d e : TrainingSetDef}
    (same : trainingSet table d = trainingSet other e) :
    table = other ∧ tableName d.label = tableName e.label ∧
      d.features.map tableName = e.features.map tableName := by
  have names (tables : List String) : (tables.mapIdx joinEntry).map Entry.name = tables := by
    refine List.ext_getElem? fun index => ?_
    simp [joinEntry, Function.comp_def]
  rw [trainingSetListing, trainingSetListing, String.append_right_inj] at same
  have apart (count : Nat) (more : String) : Apart (trainingColumns count ++ more) :=
    apartWords (by simp [trainingColumns]) (unquotedColumns count) more
  obtain ⟨tables, same⟩ := nameUnique (apart _ _) (apart _ _) same
  obtain ⟨-, same⟩ := wordsUnique (unquotedColumns _) (unquotedColumns _) same
  obtain ⟨labels, same⟩ := nameUnique (by simp [Apart]) (by simp [Apart]) same
  obtain ⟨-, entries⟩ := listingUnique (by simp [Unquoted]) (by simp [Unquoted]) (by simp [Unquoted])
    (by simp [Unquoted]) (by simp [Unquoted]) same
  exact ⟨tables, labels, by rw [← names (d.features.map tableName), entries, names]⟩

theorem statementsDetermineRequests :
    (∀ name more : String, more.toList.head? ≠ some '"' →
      leadingName? (quoteIdent name ++ more) = some (name, more)) ∧
    (∀ a b x y : String, x.toList.head? ≠ some '"' → y.toList.head? ≠ some '"' →
      quoteIdent a ++ x = quoteIdent b ++ y → a = b ∧ x = y) ∧
    (∀ (table other : String) (schema another : TableSchema),
      createPrimary table schema = createPrimary other another ↔ table = other ∧ schema = another) ∧
    (∀ (view other : String) (schema another : ResourceSchema),
      resourceView view schema = resourceView other another ↔ view = other ∧ schema = another) ∧
    (∀ table other source another : String,
      materialization table source = materialization other another ↔ table = other ∧ source = another) ∧
    ∀ (table other : String) (d e : TrainingSetDef),
      trainingSet table d = trainingSet other e ↔
        table = other ∧ tableName d.label = tableName e.label ∧
          d.features.map tableName = e.features.map tableName := by
  refine ⟨fun name more => leadingQuoted name, fun a b x y => nameUnique, ?primary, ?view, ?latest, ?training⟩
  case primary =>
    intro table other schema another
    exact ⟨createPrimaryUnique, fun ⟨tables, schemas⟩ => by rw [tables, schemas]⟩
  case view =>
    intro view other schema another
    exact ⟨resourceViewUnique, fun ⟨views, schemas⟩ => by rw [views, schemas]⟩
  case latest =>
    intro table other source another
    exact ⟨materializationUnique, fun ⟨tables, sources⟩ => by rw [tables, sources]⟩
  case training =>
    intro table other d e
    refine ⟨trainingSetUnique, ?_⟩
    intro ⟨tables, labels, features⟩
    rw [trainingSetListing, trainingSetListing, tables, labels, features]

theorem columnNameNeverSplits :
    leadingName? (quoteIdent "id\" BIGINT, \"x" ++ " BIGINT)") = some ("id\" BIGINT, \"x", " BIGINT)") ∧
      quoteIdent "id" ++ " BIGINT" ≠ quoteIdent "id\" BIGINT" ++ "" ∧
      createPrimary "t" ⟨[⟨"id\" BIGINT, \"x", .int⟩]⟩ ≠
        createPrimary "t" ⟨[⟨"id", .int⟩, ⟨"x", .int⟩]⟩ := by
  obtain ⟨leading, cancels, primary, -⟩ := statementsDetermineRequests
  refine ⟨leading _ _ (by simp), fun same => ?_, fun same => ?_⟩
  · have names := (cancels _ _ _ _ (by simp) (by simp) same).1
    simp at names
  · have schemas := ((primary _ _ _ _).mp same).2
    simp at schemas

end FeatureStore.Postgres
