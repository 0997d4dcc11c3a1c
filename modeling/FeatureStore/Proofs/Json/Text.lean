import FeatureStore.Proofs.Json.Numbers

/-!
Reading the text of a value gives the value back, whatever follows it, except that each floating-point
number becomes what its digits are read as.
-/
namespace FeatureStore.Json
open Text (Symbol)

namespace Reader

theorem hexDigitRead : ∀ d < 16,
    hexValue? (.char (hexDigit d)) = some d ∧ (Symbol.char (hexDigit d)).size = 1 := by
  decide +kernel

theorem controlRead {n : Nat} (control : n < 0x20) (rest : List Symbol) :
    hexUnit (.char '0' :: .char '0' :: .char (hexDigit (n / 16)) :: .char (hexDigit (n % 16)) :: rest) =
      .ok (n, rest) := by
  obtain ⟨zero, zeroSize⟩ := hexDigitRead 0 (by omega)
  obtain ⟨high, highSize⟩ := hexDigitRead (n / 16) (by omega)
  obtain ⟨low, lowSize⟩ := hexDigitRead (n % 16) (by omega)
  have digit : hexDigit 0 = '0' := rfl
  rw [digit] at zero zeroSize
  have whole : n / 16 * 16 + n % 16 = n := by omega
  simp [hexUnit, zero, zeroSize, high, highSize, low, lowSize, whole]

theorem escapedRead (fuel : Nat) (held : Held) (c : Char) (rest : List Symbol) :
    stringFrom (fuel + 1) held (symbolsOf (escapeChar c) ++ rest) =
      stringFrom fuel (held.add (.ok c)) rest := by
  unfold escapeChar
  split
  · subst c; rfl
  split
  · subst c; rfl
  split
  · subst c; rfl
  split
  · subst c; rfl
  split
  · subst c; rfl
  split
  · subst c; rfl
  split
  · subst c; rfl
  split
  · rename_i control
    have unit : unicodeEscape (.char '0' :: .char '0' :: .char (hexDigit (c.toNat / 16)) ::
        .char (hexDigit (c.toNat % 16)) :: rest) = .ok ⟨.ok c, rest⟩ := by
      have low : ¬ (0xDC00 ≤ c.toNat ∧ c.toNat ≤ 0xDFFF) := by omega
      have high : ¬ (0xD800 ≤ c.toNat ∧ c.toNat ≤ 0xDBFF) := by omega
      simp only [unicodeEscape, controlRead control, if_neg low, if_neg high, Char.ofNat_toNat]
    simp [stringFrom, escape, unit]
  · rename_i quote backslash _ _ _ _ _ control
    simp [stringFrom, quote, backslash, control]

theorem stringFromRead (cs : List Char) (held : List Char) (rest : List Symbol) {fuel : Nat}
    (enough : cs.length < fuel) :
    stringFrom fuel ⟨held, false, none⟩ (symbolsOf (cs.flatMap escapeChar) ++ .char '"' :: rest) =
      (.of (String.ofList (held.reverse ++ cs)), some rest) := by
  induction cs generalizing held fuel with
  | nil =>
    cases fuel with
    | zero => simp at enough
    | succ fuel => simp [stringFrom, Held.text, Literal.of]
  | cons c cs ih =>
    cases fuel with
    | zero => simp at enough
    | succ fuel =>
      have next := ih (c :: held) (show cs.length < fuel by simpa using enough)
      rw [List.flatMap_cons, symbolsOfAppend, List.append_assoc, escapedRead]
      simpa [Held.add] using next

theorem escapedLength (cs : List Char) : cs.length ≤ (cs.flatMap escapeChar).length := by
  induction cs with
  | nil => simp
  | cons c cs ih =>
    have one : 1 ≤ (escapeChar c).length := by
      unfold escapeChar
      repeat' split
      all_goals simp
    simp only [List.flatMap_cons, List.length_append, List.length_cons]
    omega

theorem stringRead (s : String) (rest : List Symbol) :
    string (symbolsOf (s.toList.flatMap escapeChar) ++ .char '"' :: rest) = (.of s, some rest) := by
  have enough : s.toList.length <
      (symbolsOf (s.toList.flatMap escapeChar) ++ .char '"' :: rest).length + 1 := by
    have escaped := escapedLength s.toList
    simp only [List.length_append, symbolsOfLength, List.length_cons]
    omega
  have read := stringFromRead s.toList [] rest enough
  simpa [string] using read

end Reader

def rereadNumber (n : Number) : Number :=
  match (Reader.value 1 (symbolsOf (Number.chars n))).1 with
  | .number (.ok m) _ => m
  | _ => n

mutual
def reread : Json → Json
  | .null => .null
  | .bool b => .bool b
  | .number n => .number (rereadNumber n)
  | .string s => .string s
  | .array items => .array (rereadItems items)
  | .object members => .object (rereadMembers members)
def rereadItems : List Json → List Json
  | [] => []
  | j :: rest => reread j :: rereadItems rest
def rereadMembers : List (String × Json) → List (String × Json)
  | [] => []
  | (k, j) :: rest => (k, reread j) :: rereadMembers rest
end

namespace Reader

theorem rereadAs {n m : Number} (read : RereadAs n m) : rereadNumber n = m := by
  have alone := read [] (.inl rfl) 0
  rw [List.append_nil] at alone
  rw [rereadNumber, alone]

theorem numberReread (n : Number) : RereadAs n (rereadNumber n) := by
  cases n with
  | whole n => rw [rereadAs (wholeReread n)]; exact wholeReread n
  | float x finite =>
    obtain ⟨y, h, read⟩ := floatReread x finite
    rw [rereadAs read]
    exact read

def starts (c : Char) : Bool :=
  c.isDigit || c == 'n' || c == 't' || c == 'f' || c == '-' || c == '"' || c == '[' || c == '\x7b'

theorem digitStarts {c : Char} (digit : c.isDigit = true) : starts c = true := by
  simp [starts, digit]

theorem numberStart (n : Number) : ∃ c cs, Number.chars n = c :: cs ∧ starts c = true := by
  cases n with
  | whole n =>
    simp only [Number.chars, intChars]
    split
    · exact ⟨_, _, rfl, by decide⟩
    · have digits := toDigitsDigits n.val.natAbs
      cases lead : Nat.toDigits 10 n.val.natAbs with
      | nil => exact absurd lead Nat.toDigits_ne_nil
      | cons c cs => exact ⟨c, cs, rfl, digitStarts (digits c (by simp [lead]))⟩
  | float x finite =>
    obtain ⟨body, s, text, lexes, -⟩ := doubleLexes finite
    obtain ⟨c, cs, rfl, digit⟩ := lexes.start
    rw [Number.chars, text]
    split
    · exact ⟨_, _, rfl, by decide⟩
    · exact ⟨c, cs, rfl, digitStarts digit⟩

theorem charsStart (j : Json) : ∃ c cs, chars j = c :: cs ∧ starts c = true := by
  cases j with
  | null => exact ⟨_, _, rfl, by decide⟩
  | bool b => cases b <;> exact ⟨_, _, rfl, by decide⟩
  | string s => exact ⟨_, _, rfl, by decide⟩
  | array items => exact ⟨_, _, rfl, by decide⟩
  | object members => exact ⟨_, _, rfl, by decide⟩
  | number n =>
    rw [chars]
    exact numberStart n

theorem startsPlain {c : Char} (h : starts c = true) :
    isBlank (.char c) = false ∧ c ≠ ']' ∧ c ≠ '\x7d' := by
  refine ⟨?_, ?_, ?_⟩
  · cases blank : isBlank (.char c) with
    | false => rfl
    | true =>
      simp only [isBlank, Bool.or_eq_true, beq_iff_eq] at blank
      rcases blank with ((rfl | rfl) | rfl) | rfl <;> exact absurd h (by decide)
  · rintro rfl
    exact absurd h (by decide)
  · rintro rfl
    exact absurd h (by decide)

theorem skipStarts {c : Char} (h : starts c = true) (more : List Symbol) :
    skipBlank (.char c :: more) = .char c :: more := by
  simp [skipBlank, (startsPlain h).1]

theorem skipMark {c : Char} (mark : c = ',' ∨ c = ':' ∨ c = ']' ∨ c = '\x7d') (more : List Symbol) :
    skipBlank (.char c :: more) = .char c :: more := by
  rcases mark with rfl | rfl | rfl | rfl <;> rfl

theorem itemCharsStart (j : Json) (more : List Json) :
    ∃ c cs, itemChars (j :: more) = c :: cs ∧ starts c = true := by
  obtain ⟨c, cs, lead, start⟩ := charsStart j
  cases more with
  | nil => exact ⟨c, cs, lead, start⟩
  | cons k more => exact ⟨c, cs ++ ',' :: itemChars (k :: more), by simp [itemChars, lead], start⟩

theorem memberCharsStart (k : String) (j : Json) (more : List (String × Json)) :
    ∃ cs, memberChars ((k, j) :: more) = '"' :: cs := by
  cases more with
  | nil => exact ⟨_, by simp [memberChars, stringChars]; rfl⟩
  | cons m more => exact ⟨_, by simp [memberChars, stringChars]; rfl⟩

-- By induction on the value. Two units of fuel for each character of its text are enough: what holds a
-- value spends one on it, and writes at least one character of its own.
mutual

theorem valueRead : ∀ (j : Json) (rest : List Symbol) (_ : Ends rest)
    (fuel : Nat) (_ : 2 * (chars j).length ≤ fuel),
    value fuel (symbolsOf (chars j) ++ rest) = (Tree.ofJson j.reread, some rest)
  | .null, rest, _, fuel + 1, _ => by simp [chars, value, word, reread, Tree.ofJson]
  | .bool true, rest, _, fuel + 1, _ => by simp [chars, value, word, reread, Tree.ofJson]
  | .bool false, rest, _, fuel + 1, _ => by simp [chars, value, word, reread, Tree.ofJson]
  | .number n, rest, ends, fuel + 1, _ => by
    rw [chars, reread, Tree.ofJson]
    exact numberReread n rest ends fuel
  | .string s, rest, _, fuel + 1, _ => by
    have read := stringRead s rest
    simp [chars, stringChars, value, read, reread, Tree.ofJson]
  | .array [], rest, _, fuel + 1, enough => by
    have enough : 3 ≤ fuel := by simp [chars, itemChars] at enough; omega
    obtain ⟨fuel, rfl⟩ := Nat.exists_eq_add_of_le' enough
    simp [chars, itemChars, value, skipMark, arrayFrom, reread, rereadItems, Tree.ofJson, Tree.ofItems]
  | .array (j :: more), rest, _, fuel + 1, enough => by
    have enough : 2 * (itemChars (j :: more)).length + 3 ≤ fuel := by
      simp only [chars, List.length_cons, List.length_append, List.length_nil] at enough
      omega
    obtain ⟨fuel, rfl⟩ := Nat.exists_eq_add_of_le' (Nat.le_trans (by omega : 1 ≤ _) enough)
    have items := itemsRead (j :: more) (by simp) rest fuel (by omega)
    obtain ⟨c, cs, lead, start⟩ := itemCharsStart j more
    obtain ⟨-, bracket, -⟩ := startsPlain start
    rw [lead] at items
    simp only [symbolsOfCons, List.cons_append] at items
    simp [chars, lead, value, skipStarts start, arrayFrom, bracket, items, reread, Tree.ofJson]
  | .object [], rest, _, fuel + 1, enough => by
    have enough : 3 ≤ fuel := by simp [chars, memberChars] at enough; omega
    obtain ⟨fuel, rfl⟩ := Nat.exists_eq_add_of_le' enough
    simp [chars, memberChars, value, skipMark, objectFrom, reread, rereadMembers, Tree.ofJson,
      Tree.ofMembers]
  | .object ((k, j) :: more), rest, _, fuel + 1, enough => by
    obtain ⟨cs, lead⟩ := memberCharsStart k j more
    have enough : 2 * cs.length + 5 ≤ fuel := by
      simp only [chars, lead, List.length_cons, List.length_append, List.length_nil] at enough
      omega
    obtain ⟨fuel, rfl⟩ := Nat.exists_eq_add_of_le' (Nat.le_trans (by omega : 1 ≤ _) enough)
    have members := membersRead ((k, j) :: more) cs lead rest fuel (by omega)
    have quote := skipStarts (show starts '"' = true by decide)
    simp [chars, lead, value, quote, objectFrom, members, reread, Tree.ofJson]
  | j, _, _, 0, enough => by
    obtain ⟨c, cs, lead, -⟩ := charsStart j
    simp [lead] at enough

theorem itemsRead : ∀ (js : List Json) (_ : js ≠ [])
    (rest : List Symbol) (fuel : Nat) (_ : 2 * (itemChars js).length + 1 ≤ fuel),
    items fuel (symbolsOf (itemChars js) ++ .char ']' :: rest) =
      (Tree.ofItems (rereadItems js), .closed, some rest)
  | [j], _, rest, fuel + 1, enough => by
    have ends : Ends (.char ']' :: rest) := .inr ⟨_, _, rfl, by simp⟩
    have read := valueRead j _ ends fuel (by simp only [itemChars] at enough; omega)
    simp [itemChars, items, read, skipMark, rereadItems, Tree.ofItems]
  | j :: k :: more, _, rest, fuel + 1, enough => by
    simp only [itemChars, List.length_append, List.length_cons] at enough
    have ends : Ends (.char ',' :: (symbolsOf (itemChars (k :: more)) ++ .char ']' :: rest)) :=
      .inr ⟨_, _, rfl, by simp⟩
    have read := valueRead j _ ends fuel (by omega)
    have next := itemsRead (k :: more) (by simp) rest fuel (by omega)
    obtain ⟨c, cs, lead, start⟩ := itemCharsStart k more
    obtain ⟨-, bracket, -⟩ := startsPlain start
    rw [lead] at read next
    simp only [symbolsOfCons, List.cons_append] at read next
    simp [itemChars, lead, items, read, skipMark, skipStarts start, bracket, next, rereadItems,
      Tree.ofItems]
  | [], absent, _, _, _ => absurd rfl absent
  | _, _, _, 0, enough => by simp at enough

theorem membersRead : ∀ (ms : List (String × Json))
    (cs : List Char) (_ : memberChars ms = '"' :: cs)
    (rest : List Symbol) (fuel : Nat) (_ : 2 * cs.length + 1 ≤ fuel),
    members fuel (symbolsOf cs ++ .char '\x7d' :: rest) =
      (Tree.ofMembers (rereadMembers ms), .closed, some rest)
  | [(k, j)], cs, lead, rest, fuel + 1, enough => by
    have ends : Ends (.char '\x7d' :: rest) := .inr ⟨_, _, rfl, by simp⟩
    simp only [memberChars, stringChars, List.cons_append, List.cons.injEq, true_and] at lead
    subst cs
    simp only [List.length_append, List.length_cons] at enough
    have read := valueRead j _ ends fuel (by omega)
    have key := stringRead k (.char ':' :: (symbolsOf (chars j) ++ .char '\x7d' :: rest))
    obtain ⟨c, cs, lead, start⟩ := charsStart j
    rw [lead] at read key
    simp only [symbolsOfCons, List.cons_append] at read key
    simp [lead, members, key, skipMark, skipStarts start, read, rereadMembers, Tree.ofMembers]
  | (k, j) :: (l, i) :: more, cs, lead, rest, fuel + 1, enough => by
    obtain ⟨next, nextLead⟩ := memberCharsStart l i more
    simp only [memberChars, stringChars, List.cons_append, List.cons.injEq, true_and] at lead
    subst cs
    rw [nextLead] at enough ⊢
    simp only [List.length_append, List.length_cons] at enough
    have tail := membersRead ((l, i) :: more) next nextLead rest fuel (by omega)
    have ends : Ends (.char ',' :: .char '"' :: (symbolsOf next ++ .char '\x7d' :: rest)) :=
      .inr ⟨_, _, rfl, by simp⟩
    have read := valueRead j _ ends fuel (by omega)
    have key := stringRead k (.char ':' :: (symbolsOf (chars j) ++
      .char ',' :: .char '"' :: (symbolsOf next ++ .char '\x7d' :: rest)))
    have quote := skipStarts (show starts '"' = true by decide)
    obtain ⟨c, cs, lead, start⟩ := charsStart j
    rw [lead] at read key
    simp only [symbolsOfCons, List.cons_append] at read key
    simp [lead, members, key, skipMark, skipStarts start, quote, read, tail, rereadMembers,
      Tree.ofMembers]
  | [], _, lead, _, _, _ => by simp [memberChars] at lead
  | _, _, _, _, 0, enough => by simp at enough

end

end Reader

theorem treeRead (j : Json) : Tree.read (symbolsOf (chars j)) = (Tree.ofJson j.reread, some []) := by
  obtain ⟨c, cs, lead, start⟩ := Reader.charsStart j
  have enough : 2 * (chars j).length ≤ 2 * (symbolsOf (chars j)).length + 4 := by
    rw [symbolsOfLength]
    omega
  have read := Reader.valueRead j [] (.inl rfl) _ enough
  rw [List.append_nil] at read
  have unblanked : Reader.skipBlank (symbolsOf (chars j)) = symbolsOf (chars j) := by
    rw [lead, symbolsOfCons, Reader.skipStarts start]
  rw [Tree.read, unblanked, read]

theorem decodeReread (d : Decoder α) (j : Json) :
    decodeBytes d (Text.utf8 j.text) = d maxDepth (Tree.ofJson j.reread) := by
  have read := treeRead j
  have chars : (j.text.toList.map Symbol.char) = symbolsOf (chars j) := by
    simp [text, symbolsOf]
  simp only [decodeBytes, Text.symbolsUtf8, chars, decodeSymbols, read]
  cases d maxDepth (Tree.ofJson j.reread) with
  | error fault => rfl
  | ok value => rfl

mutual

theorem rereadHeight : ∀ j : Json, j.reread.height = j.height
  | .null | .bool _ | .number _ | .string _ => by simp only [reread, height]
  | .array items => by simp only [reread, height, rereadItemsHeight items]
  | .object members => by simp only [reread, height, rereadMembersHeight members]

theorem rereadItemsHeight : ∀ js : List Json, heightItems (rereadItems js) = heightItems js
  | [] => rfl
  | j :: more => by simp only [rereadItems, heightItems, rereadHeight j, rereadItemsHeight more]

theorem rereadMembersHeight : ∀ ms : List (String × Json),
    heightMembers (rereadMembers ms) = heightMembers ms
  | [] => rfl
  | (_, j) :: more => by simp only [rereadMembers, heightMembers, rereadHeight j, rereadMembersHeight more]

end

mutual
def FloatFree : Json → Bool
  | .number (.float _ _) => false
  | .array items => FloatFreeItems items
  | .object members => FloatFreeMembers members
  | _ => true
def FloatFreeItems : List Json → Bool
  | [] => true
  | j :: rest => FloatFree j && FloatFreeItems rest
def FloatFreeMembers : List (String × Json) → Bool
  | [] => true
  | (_, j) :: rest => FloatFree j && FloatFreeMembers rest
end

theorem floatFreeItemsCons {j : Json} {more : List Json} :
    FloatFreeItems (j :: more) = true ↔ j.FloatFree = true ∧ FloatFreeItems more = true := by
  rw [FloatFreeItems, Bool.and_eq_true]

theorem floatFreeMembersCons {k : String} {j : Json} {more : List (String × Json)} :
    FloatFreeMembers ((k, j) :: more) = true ↔ j.FloatFree = true ∧ FloatFreeMembers more = true := by
  rw [FloatFreeMembers, Bool.and_eq_true]

mutual

theorem rereadFree : ∀ (j : Json) (_ : j.FloatFree = true), j.reread = j
  | .null, _ => by rw [reread]
  | .bool _, _ => by rw [reread]
  | .string _, _ => by rw [reread]
  | .number (.whole n), _ => by rw [reread, Reader.rereadAs (Reader.wholeReread n)]
  | .number (.float _ _), whole => by simp [FloatFree] at whole
  | .array items, whole => by rw [reread, rereadItemsFree items (by simpa [FloatFree] using whole)]
  | .object members, whole => by
    rw [reread, rereadMembersFree members (by simpa [FloatFree] using whole)]

theorem rereadItemsFree : ∀ (js : List Json) (_ : FloatFreeItems js = true), rereadItems js = js
  | [], _ => by rw [rereadItems]
  | j :: more, whole => by
    obtain ⟨first, others⟩ := floatFreeItemsCons.mp whole
    rw [rereadItems, rereadFree j first, rereadItemsFree more others]

theorem rereadMembersFree : ∀ (ms : List (String × Json)) (_ : FloatFreeMembers ms = true),
    rereadMembers ms = ms
  | [], _ => by rw [rereadMembers]
  | (k, j) :: more, whole => by
    obtain ⟨first, others⟩ := floatFreeMembersCons.mp whole
    rw [rereadMembers, rereadFree j first, rereadMembersFree more others]

end

theorem decodeText (d : Decoder α) (j : Json) (whole : j.FloatFree = true) :
    decodeBytes d (Text.utf8 j.text) = d maxDepth (Tree.ofJson j) := by
  rw [decodeReread, rereadFree j whole]

end FeatureStore.Json
