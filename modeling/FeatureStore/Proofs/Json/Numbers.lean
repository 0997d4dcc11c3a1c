import FeatureStore.Json.Decode
import FeatureStore.Proofs.Number.Shortest

/-!
Reading the text of a number. A whole number comes back as it was, whatever ends it. A floating-point
number comes back as some finite one: its digits are scaled in steps, each with a rounding of its own,
and the digits that are written for a double leave room for these.
-/
namespace FeatureStore.Json
open Text (Symbol)

def symbolsOf (cs : List Char) : List Symbol := cs.map .char

@[simp] theorem symbolsOfNil : symbolsOf [] = [] := rfl

@[simp] theorem symbolsOfCons (c : Char) (cs : List Char) :
    symbolsOf (c :: cs) = .char c :: symbolsOf cs := rfl

@[simp] theorem symbolsOfAppend (a b : List Char) : symbolsOf (a ++ b) = symbolsOf a ++ symbolsOf b :=
  List.map_append

@[simp] theorem symbolsOfLength (cs : List Char) : (symbolsOf cs).length = cs.length :=
  List.length_map _

namespace Reader

def Ends (rest : List Symbol) : Prop :=
  rest = [] ∨ ∃ c more, rest = .char c :: more ∧ (c = ',' ∨ c = ']' ∨ c = '\x7d')

def Digitless (rest : List Symbol) : Prop := ∀ s more, rest = s :: more → isDigit s = false

theorem Ends.digitless {rest : List Symbol} (ends : Ends rest) : Digitless rest := by
  rintro s more rfl
  rcases ends with none | ⟨c, others, first, rfl | rfl | rfl⟩
  · cases none
  all_goals cases first; rfl

theorem markDigitless {c : Char} (mark : c.isDigit = false) (more : List Symbol) :
    Digitless (.char c :: more) := by
  rintro s others ⟨⟩
  exact mark

theorem digitsTaken {digits : List Char} (all : ∀ c ∈ digits, c.isDigit = true) {rest : List Symbol}
    (digitless : Digitless rest) :
    (symbolsOf digits ++ rest).takeWhile isDigit = symbolsOf digits ∧
      (symbolsOf digits ++ rest).dropWhile isDigit = rest := by
  have every : ∀ s ∈ symbolsOf digits, isDigit s = true := by
    intro s mem
    obtain ⟨c, inside, rfl⟩ := List.mem_map.mp mem
    exact all c inside
  rw [List.takeWhile_append_of_pos every, List.dropWhile_append_of_pos every]
  cases rest with
  | nil => simp
  | cons s more => simp [digitless s more rfl]

theorem toDigitsDigits (n : Nat) : ∀ c ∈ Nat.toDigits 10 n, c.isDigit = true :=
  fun _ mem => Nat.isDigit_of_mem_toDigits (by decide) (by decide) mem

theorem digitsGrow (digits : List Char) (n : Nat) : n ≤ Nat.ofDigitChars 10 digits n := by
  induction digits generalizing n with
  | nil => simp
  | cons c cs ih =>
    rw [Nat.ofDigitChars_cons]
    exact Nat.le_trans (by omega) (ih _)

theorem digitNext (n : Nat) (c : Char) :
    n * 10 + digitValue (.char c) = 10 * n + (c.toNat - '0'.toNat) := by
  simp only [digitValue]
  omega

theorem absorbDigits (digits : List Char) (n : Nat)
    (fits : Nat.ofDigitChars 10 digits n < 18446744073709551616) :
    absorb n (symbolsOf digits) = (Nat.ofDigitChars 10 digits n, []) := by
  induction digits generalizing n with
  | nil => rfl
  | cons c cs ih =>
    rw [Nat.ofDigitChars_cons] at fits
    have small := Nat.lt_of_le_of_lt (digitsGrow cs _) fits
    simp only [symbolsOfCons, absorb, digitNext, if_pos small, Nat.ofDigitChars_cons]
    exact ih _ fits

theorem natOfDigits (digits : List Char) : natOf (symbolsOf digits) = Nat.ofDigitChars 10 digits 0 := by
  have from' (n : Nat) : (symbolsOf digits).foldl (fun n d => n * 10 + digitValue d) n =
      Nat.ofDigitChars 10 digits n := by
    induction digits generalizing n with
    | nil => rfl
    | cons c cs ih => rw [symbolsOfCons, List.foldl_cons, ih, digitNext, Nat.ofDigitChars_cons]
  exact from' 0

theorem scaledFits (whole fraction : List Char)
    (fits : Nat.ofDigitChars 10 (whole ++ fraction) 0 < 18446744073709551616) :
    scaled (symbolsOf whole) (symbolsOf fraction) =
      ⟨Nat.ofDigitChars 10 (whole ++ fraction) 0, -fraction.length⟩ := by
  rw [Nat.ofDigitChars_append] at fits ⊢
  have first := absorbDigits whole 0 (Nat.lt_of_le_of_lt (digitsGrow fraction _) fits)
  have second := absorbDigits fraction _ fits
  simp [scaled, first, second]

theorem wholeRead {n : Int} (least : -9223372036854775808 ≤ n) (most : n < 18446744073709551616) :
    wholeOf (decide (n < 0)) (symbolsOf (Nat.toDigits 10 n.natAbs)) = .ok (.whole ⟨n, least, most⟩) := by
  have value := Nat.ofDigitChars_ten_toDigits (n := n.natAbs)
  have absorbed := absorbDigits (Nat.toDigits 10 n.natAbs) 0 (by omega)
  rw [value] at absorbed
  simp only [wholeOf, absorbed, List.isEmpty_nil, if_true]
  by_cases negative : n < 0
  · have bounds : 0 < n.natAbs ∧ n.natAbs ≤ 9223372036854775808 := by omega
    have same : -(n.natAbs : Int) = n := by omega
    simp only [negative, decide_true, if_true, WholeNumber.ofNegative?, dif_pos bounds, same]
  · have bounds : n.natAbs < 18446744073709551616 := by omega
    have same : (n.natAbs : Int) = n := by omega
    simp only [negative, decide_false, Bool.false_eq_true, if_false, WholeNumber.ofNat?, dif_pos bounds,
      same]

theorem leadingDigit {n : Nat} (positive : 0 < n) :
    ∃ c cs, Nat.toDigits 10 n = c :: cs ∧ c ≠ '0' := by
  induction n using Nat.strongRecOn with
  | ind n ih =>
    by_cases small : n < 10
    · have nonzero : ∀ d < 10, 0 < d → d.digitChar ≠ '0' := by decide
      exact ⟨n.digitChar, [], Nat.toDigits_of_lt_base small, nonzero n small positive⟩
    · obtain ⟨c, cs, lead, nonzero⟩ := ih (n / 10) (by omega) (by omega)
      refine ⟨c, cs ++ [(n % 10).digitChar], ?_, nonzero⟩
      rw [Nat.toDigits_of_base_le (by decide) (by omega), lead, List.cons_append]

structure Leads (whole : List Char) : Prop where
  digits : ∀ c ∈ whole, c.isDigit = true
  some : whole ≠ []
  plain : ∀ more, whole = '0' :: more → more = []

theorem Leads.nonzero {c : Char} {cs : List Char} (digits : ∀ d ∈ c :: cs, d.isDigit = true)
    (lead : c ≠ '0') : Leads (c :: cs) where
  digits := digits
  some := List.cons_ne_nil c cs
  plain _ same := absurd (List.cons.inj same).1 lead

theorem toDigitsLead {n : Nat} (positive : 0 < n) : Leads (Nat.toDigits 10 n) := by
  obtain ⟨c, cs, first, nonzero⟩ := leadingDigit positive
  have digits := toDigitsDigits n
  rw [first] at digits ⊢
  exact .nonzero digits nonzero

theorem zeroLeads : Leads ['0'] where
  digits := by simp
  some := by decide
  plain _ same := (List.cons.inj same).2.symm

theorem digitsLead (n : Nat) : Leads (Nat.toDigits 10 n) := by
  rcases Nat.eq_zero_or_pos n with rfl | positive
  · exact zeroLeads
  · exact toDigitsLead positive

def afterWhole (negative : Bool) (whole rest : List Symbol) : Tree × Option (List Symbol) :=
  match rest with
  | .char '.' :: rest =>
    let fraction := rest.takeWhile isDigit
    let rest := rest.dropWhile isDigit
    if fraction.isEmpty then brokenNumber rest
    else
      match startsExponent rest with
      | some rest => exponentFrom negative whole fraction rest
      | none => (.number (floatOf negative (scaled whole fraction)) none, some rest)
  | _ =>
    match startsExponent rest with
    | some rest => exponentFrom negative whole [] rest
    | none => (.number (wholeOf negative whole) none, some rest)

theorem unsignedWhole (negative : Bool) {whole : List Char} (leads : Leads whole) {rest : List Symbol}
    (digitless : Digitless rest) :
    unsigned negative (symbolsOf whole ++ rest) = afterWhole negative (symbolsOf whole) rest := by
  obtain ⟨taken, left⟩ := digitsTaken leads.digits digitless
  simp only [unsigned, taken, left]
  split
  · rename_i none
    exact absurd (List.map_eq_nil_iff.mp none) leads.some
  · rename_i two
    obtain ⟨c, cs, same, first, more⟩ := List.map_eq_cons_iff.mp two
    obtain rfl := Symbol.char.inj first
    rw [leads.plain cs same] at more
    cases more
  · rfl

theorem unsignedRead {n : Int} (least : -9223372036854775808 ≤ n) (most : n < 18446744073709551616)
    {rest : List Symbol} (ends : Ends rest) :
    unsigned (decide (n < 0)) (symbolsOf (Nat.toDigits 10 n.natAbs) ++ rest) =
      (.number (.ok (.whole ⟨n, least, most⟩)) none, some rest) := by
  rw [unsignedWhole _ (digitsLead n.natAbs) ends.digitless]
  have read := wholeRead least most
  rcases ends with rfl | ⟨c, more, rfl, rfl | rfl | rfl⟩ <;> simp [afterWhole, startsExponent, read]

theorem pointRead (negative : Bool) {whole fraction : List Char} (leads : Leads whole)
    (digits : ∀ c ∈ fraction, c.isDigit = true) (some : fraction ≠ []) {rest : List Symbol}
    (digitless : Digitless rest) :
    unsigned negative (symbolsOf whole ++ .char '.' :: (symbolsOf fraction ++ rest)) =
      match startsExponent rest with
      | .some rest => exponentFrom negative (symbolsOf whole) (symbolsOf fraction) rest
      | none =>
        (.number (floatOf negative (scaled (symbolsOf whole) (symbolsOf fraction))) none, .some rest) := by
  obtain ⟨taken, left⟩ := digitsTaken digits digitless
  have nonempty : (symbolsOf fraction).isEmpty = false := by simpa [symbolsOf] using some
  rw [unsignedWhole negative leads (markDigitless rfl _)]
  simp only [afterWhole, taken, left, nonempty, Bool.false_eq_true, if_false]

theorem exponentRead (negative : Bool) (whole fraction : List Symbol) (e : Int) {rest : List Symbol}
    (ends : Ends rest) :
    exponentFrom negative whole fraction
        (symbolsOf ((if e < 0 then '-' else '+') :: Nat.toDigits 10 e.natAbs) ++ rest) =
      (.number (floatOf negative ⟨(scaled whole fraction).significand,
        (scaled whole fraction).exponent + e⟩) none, some rest) := by
  obtain ⟨taken, left⟩ := digitsTaken (toDigitsDigits e.natAbs) ends.digitless
  have nonempty : (symbolsOf (Nat.toDigits 10 e.natAbs)).isEmpty = false := by
    simp [symbolsOf, Nat.toDigits_ne_nil]
  have value : natOf (symbolsOf (Nat.toDigits 10 e.natAbs)) = e.natAbs := by
    rw [natOfDigits, Nat.ofDigitChars_ten_toDigits]
  by_cases down : e < 0
  · simp [exponentFrom, down, taken, left, nonempty, value, abs_of_neg down]
  · simp [exponentFrom, down, taken, left, nonempty, value, abs_of_nonneg (not_lt.mp down)]

/- What the reader makes of digits and a power of ten: either all is in the digits and no positive
power is left, or both stay as they were. -/
def Reads (d : Decimal) (s : Scaled) : Prop :=
  (s.significand < 18446744073709551616 ∧ s.exponent ≤ 0) ∨ s = ⟨d.digits, d.exponent⟩

def Lexes (text : List Char) (s : Scaled) : Prop :=
  ∀ negative rest, Ends rest →
    unsigned negative (symbolsOf text ++ rest) = (.number (floatOf negative s) none, some rest)

theorem pointLexes {whole : List Char} (leads : Leads whole) (fraction : List Char)
    (digits : ∀ c ∈ fraction, c.isDigit = true) (some : fraction ≠ [])
    (fits : Nat.ofDigitChars 10 (whole ++ fraction) 0 < 18446744073709551616) :
    Lexes (whole ++ '.' :: fraction)
      ⟨Nat.ofDigitChars 10 (whole ++ fraction) 0, -fraction.length⟩ := by
  intro negative rest ends
  have read := pointRead negative leads digits some ends.digitless
  rw [symbolsOfAppend, symbolsOfCons, List.append_assoc, List.cons_append, read, scaledFits _ _ fits]
  rcases ends with rfl | ⟨c, more, rfl, rfl | rfl | rfl⟩ <;> rfl

def pointed : List Char → List Char
  | [] => []
  | c :: cs => '.' :: c :: cs

theorem exponentLexes {c : Char} {cs : List Char} (digits : ∀ d ∈ c :: cs, d.isDigit = true)
    (lead : c ≠ '0') (fits : Nat.ofDigitChars 10 (c :: cs) 0 < 18446744073709551616) (e : Int) :
    Lexes (c :: (pointed cs ++ 'e' :: (if e < 0 then '-' else '+') :: Nat.toDigits 10 e.natAbs))
      ⟨Nat.ofDigitChars 10 (c :: cs) 0, -cs.length + e⟩ := by
  intro negative rest ends
  have leads : Leads [c] := .nonzero (fun d mem => digits d (by simp_all)) lead
  have scaled := scaledFits [c] cs fits
  have read := exponentRead negative (symbolsOf [c]) (symbolsOf cs) e ends
  rw [scaled] at read
  cases cs with
  | nil => exact (unsignedWhole negative leads (markDigitless rfl _)).trans read
  | cons d ds =>
    have fraction : ∀ x ∈ d :: ds, x.isDigit = true := fun x mem => digits x (List.mem_cons_of_mem c mem)
    have point := pointRead negative leads fraction (List.cons_ne_nil d ds)
      (markDigitless (c := 'e') rfl (symbolsOf ((if e < 0 then '-' else '+') :: Nat.toDigits 10 e.natAbs) ++ rest))
    simp only [pointed, symbolsOfCons, symbolsOfAppend, List.cons_append, List.append_assoc] at point read ⊢
    exact point.trans read

theorem replicateDigits (n : Nat) : ∀ c ∈ List.replicate n '0', c.isDigit = true := by
  intro c mem
  rw [List.eq_of_mem_replicate mem]
  rfl

section
variable {n : Nat}

theorem zerosLex {e : Nat} (positive : 0 < n) (short : e + (Nat.toDigits 10 n).length ≤ 16) :
    Lexes (Nat.toDigits 10 n ++ List.replicate e '0' ++ ['.', '0']) ⟨10 * (10 ^ e * n), -1⟩ ∧
      10 * (10 ^ e * n) < 18446744073709551616 := by
  obtain ⟨c, cs, first, nonzero⟩ := leadingDigit positive
  have leads : Leads (Nat.toDigits 10 n ++ List.replicate e '0') := by
    have digits : ∀ d ∈ Nat.toDigits 10 n ++ List.replicate e '0', d.isDigit = true :=
      List.forall_mem_append.mpr ⟨toDigitsDigits n, replicateDigits e⟩
    rw [first] at digits ⊢
    exact .nonzero digits nonzero
  have value : Nat.ofDigitChars 10 (Nat.toDigits 10 n ++ List.replicate e '0' ++ ['0']) 0 =
      10 * (10 ^ e * n) := by
    rw [Nat.ofDigitChars_append, Nat.ofDigitChars_append, Nat.ofDigitChars_ten_toDigits,
      Nat.ofDigitChars_replicate_zero]
    rfl
  have fits : 10 * (10 ^ e * n) < 18446744073709551616 := by
    have small : n < 10 ^ (Nat.toDigits 10 n).length :=
      (Nat.length_toDigits_le_iff (by decide) (by simp [first])).mp le_rfl
    calc 10 * (10 ^ e * n) ≤ 10 * (10 ^ e * 10 ^ (Nat.toDigits 10 n).length) := by gcongr
      _ = 10 ^ (e + (Nat.toDigits 10 n).length + 1) := by ring
      _ ≤ 10 ^ 17 := Nat.pow_le_pow_right (by decide) (by omega)
      _ < 18446744073709551616 := by norm_num
  have read := pointLexes leads ['0'] zeroLeads.digits (by decide) (value ▸ fits)
  rw [value] at read
  exact ⟨by simpa using read, fits⟩

theorem splitLexes {places : Nat} (positive : 0 < n) (few : n ≤ 10 ^ 19) (some : 0 < places)
    (proper : places < (Nat.toDigits 10 n).length) :
    Lexes ((Nat.toDigits 10 n).take places ++ '.' :: (Nat.toDigits 10 n).drop places)
      ⟨n, -((Nat.toDigits 10 n).drop places).length⟩ := by
  obtain ⟨c, cs, first, nonzero⟩ := leadingDigit positive
  have leads : Leads ((Nat.toDigits 10 n).take places) := by
    have digits : ∀ d ∈ (Nat.toDigits 10 n).take places, d.isDigit = true :=
      fun d mem => toDigitsDigits n d (List.mem_of_mem_take mem)
    obtain ⟨k, rfl⟩ := Nat.exists_eq_add_of_lt some
    rw [first] at digits ⊢
    exact .nonzero digits nonzero
  have value := Nat.ofDigitChars_ten_toDigits (n := n)
  have whole := List.take_append_drop places (Nat.toDigits 10 n)
  have rest : (Nat.toDigits 10 n).drop places ≠ [] := by simpa using proper
  have read := pointLexes leads _ (fun d mem => toDigitsDigits n d (List.mem_of_mem_drop mem)) rest
    (by rw [whole, value]; omega)
  rwa [whole, value] at read

theorem smallLexes (zeros : Nat) (few : n ≤ 10 ^ 19) :
    Lexes ('0' :: '.' :: (List.replicate zeros '0' ++ Nat.toDigits 10 n))
      ⟨n, -(List.replicate zeros '0' ++ Nat.toDigits 10 n).length⟩ := by
  have digits : ∀ d ∈ List.replicate zeros '0' ++ Nat.toDigits 10 n, d.isDigit = true :=
    List.forall_mem_append.mpr ⟨replicateDigits zeros, toDigitsDigits n⟩
  have value : Nat.ofDigitChars 10 (['0'] ++ (List.replicate zeros '0' ++ Nat.toDigits 10 n)) 0 = n := by
    have one : Nat.ofDigitChars 10 ['0'] 0 = 0 := rfl
    rw [Nat.ofDigitChars_append, Nat.ofDigitChars_append, one, Nat.ofDigitChars_replicate_zero, mul_zero,
      Nat.ofDigitChars_ten_toDigits]
  have read := pointLexes zeroLeads _ digits (by simp [Nat.toDigits_ne_nil]) (by rw [value]; omega)
  rwa [value] at read

theorem scientificLexes {leading : Int} (positive : 0 < n) (few : n ≤ 10 ^ 19) :
    Lexes (Decimal.scientific Json.floatLayout (Nat.toDigits 10 n) leading)
      ⟨n, leading - ((Nat.toDigits 10 n).length - 1 : Nat)⟩ := by
  obtain ⟨c, cs, first, nonzero⟩ := leadingDigit positive
  have digits := toDigitsDigits n
  have value := Nat.ofDigitChars_ten_toDigits (n := n)
  rw [first] at digits value ⊢
  have read := exponentLexes digits nonzero (by rw [value]; omega) leading
  have mark : (if leading < 0 then ['-'] else if Json.floatLayout.plus then ['+'] else []) =
      [if leading < 0 then '-' else '+'] := by split <;> rfl
  have exponent : leading - ((c :: cs).length - 1 : Nat) = -cs.length + leading := by
    rw [List.length_cons, Nat.add_sub_cancel]
    ring
  have text : Decimal.scientific Json.floatLayout (c :: cs) leading =
      c :: (pointed cs ++ 'e' :: (if leading < 0 then '-' else '+') :: Nat.toDigits 10 leading.natAbs) := by
    rw [Decimal.scientific, mark, Nat.toList_repr]
    cases cs <;> simp [pointed]
  rwa [text, exponent, ← value]

end

theorem writeLexes {d : Decimal} (positive : 0 < d.digits) (few : d.digits ≤ 10 ^ 19) :
    ∃ s, Lexes (d.write Json.floatLayout) s ∧ Reads d s := by
  unfold Decimal.write
  rw [Nat.toList_repr]
  have word : d.digits < 18446744073709551616 := by omega
  extract_lets ds leading
  split
  · rename_i plain
    unfold Decimal.positional
    extract_lets n
    split
    · rename_i up
      have short : d.exponent.toNat + ds.length ≤ 16 := by
        have most : leading ≤ 15 := plain.2
        have some : 0 < ds.length := List.length_pos_iff.mpr (toDigitsLead positive).some
        omega
      obtain ⟨read, fits⟩ := zerosLex positive short
      exact ⟨_, read, .inl ⟨fits, by norm_num⟩⟩
    split
    · rename_i up inside
      have proper : (n + d.exponent).toNat < ds.length := by omega
      exact ⟨_, splitLexes positive few (by omega) proper, .inl ⟨word, by simp⟩⟩
    · exact ⟨_, smallLexes _ few, .inl ⟨word, by simp⟩⟩
  · refine ⟨_, scientificLexes positive few, .inr ?_⟩
    have exponent : leading - (ds.length - 1 : Nat) = d.exponent := by omega
    rw [exponent]

theorem scaleDown {x : Binary64} {e : Int} {fuel : Nat} (finite : x.isFinite = true) (down : e ≤ 0)
    (enough : e.natAbs < fuel) : ∃ y, scaleFrom fuel x e = .ok y ∧ y.isFinite = true := by
  induction fuel generalizing x e with
  | zero => omega
  | succ fuel ih =>
    rw [scaleFrom]
    split
    · rename_i near
      split
      · exact ⟨_, rfl, Binary64.overFinite finite near⟩
      · obtain rfl : e = 0 := by omega
        exact ⟨_, if_pos (Binary64.timesOne finite), Binary64.timesOne finite⟩
    split
    · exact ⟨x, rfl, finite⟩
    split
    · omega
    · exact ih (Binary64.overFinite finite (by norm_num)) (by omega) (by omega)

theorem scaleUp {digits power : Nat} (positive : 0 < digits) (held : power ≤ 308)
    (few : digits ≤ Decimal.mostDigits power) (fuel : Nat) :
    ∃ y, scaleFrom (fuel + 1) (.ofNat digits) power = .ok y ∧ y.isFinite = true := by
  have finite := Decimal.writtenFinite positive held few
  rw [scaleFrom, if_pos (by omega), if_neg (by omega)]
  exact ⟨_, if_pos finite, finite⟩

theorem wordFinite (negative : Bool) {n : Nat} (word : n < 18446744073709551616) :
    (Binary64.ofRatio negative n 1).isFinite = true := by
  refine (Binary64.ofRatioFinite negative one_pos).mpr ?_
  have small : (n : ℚ) < (10 ^ 20 : Nat) := Nat.cast_lt.mpr (by omega)
  rw [Nat.cast_one, div_one]
  exact small.trans (Binary64.tenInside (by norm_num))

theorem toNumberRead (negative : Bool) {y : Binary64} (finite : y.isFinite = true) :
    ∃ z h, toNumber negative y = .ok (.float z h) := by
  have signed : (if negative then y.negate else y).isFinite = true := by
    cases negative
    · exact finite
    · exact (Binary64.negateFinite y).trans finite
  exact ⟨_, signed, dif_pos signed⟩

theorem floatScaled (negative : Bool) {s : Scaled} (scales : ∃ x,
    scaleFrom (s.exponent.natAbs + 1) (.ofNat s.significand) s.exponent = .ok x ∧ x.isFinite = true) :
    ∃ y h, floatOf negative s = .ok (.float y h) := by
  obtain ⟨x, scaled, finite⟩ := scales
  obtain ⟨y, h, signed⟩ := toNumberRead negative finite
  exact ⟨y, h, by simp only [floatOf, scaled, bind, Except.bind, signed]⟩

theorem floatDown (negative : Bool) {s : Scaled} (word : s.significand < 18446744073709551616)
    (down : s.exponent ≤ 0) : ∃ y h, floatOf negative s = .ok (.float y h) :=
  floatScaled negative (scaleDown (wordFinite false word) down (by omega))

theorem floatRead (negative : Bool) {d : Decimal} {s : Scaled} (reads : Reads d s)
    (positive : 0 < d.digits) (few : d.digits ≤ 10 ^ 19)
    (held : ∀ power : Nat, d.exponent = power → power ≤ 308 ∧ d.digits ≤ Decimal.mostDigits power) :
    ∃ y h, floatOf negative s = .ok (.float y h) := by
  rcases reads with ⟨word, down⟩ | rfl
  · exact floatDown negative word down
  rcases le_or_gt d.exponent 0 with down | up
  · exact floatDown negative (show d.digits < 18446744073709551616 by omega) down
  · obtain ⟨power, same⟩ := Int.eq_ofNat_of_zero_le up.le
    obtain ⟨near, fewer⟩ := held power same
    refine floatScaled negative ?_
    dsimp only
    rw [same]
    exact scaleUp positive near fewer _

theorem unsignedDigitless (negative : Bool) {s : List Symbol} (digitless : s.takeWhile isDigit = []) :
    (unsigned negative s).2 = none := by
  simp only [unsigned, digitless]
  rfl

theorem Lexes.start {text : List Char} {s : Scaled} (lexes : Lexes text s) :
    ∃ c cs, text = c :: cs ∧ c.isDigit = true := by
  have goesOn := congrArg Prod.snd (lexes false [] (.inl rfl))
  cases text with
  | nil => cases (unsignedDigitless false rfl).symm.trans goesOn
  | cons c cs =>
    cases digit : c.isDigit with
    | true => exact ⟨c, cs, rfl, digit⟩
    | false =>
      have digitless : ((symbolsOf (c :: cs)) ++ []).takeWhile isDigit = [] := by simp [isDigit, digit]
      cases (unsignedDigitless false digitless).symm.trans goesOn

theorem doubleLexes {x : Binary64} (finite : x.isFinite = true) :
    ∃ body s, (x.text Json.floatLayout).toList = (if x.isNegative then '-' :: body else body) ∧
      Lexes body s ∧ ∃ y h, floatOf x.isNegative s = .ok (.float y h) := by
  obtain ⟨m, q, meaning, most, least, greatest⟩ := Binary64.finiteMeaning finite
  have text (body : List Char) (here : (if m = 0 then ['0', '.', '0'] else
      (Decimal.shortest m q).write Json.floatLayout) = body) :
      (x.text Json.floatLayout).toList = if x.isNegative then '-' :: body else body := by
    rw [Binary64.text, meaning]
    dsimp only
    rw [here, String.toList_ofList]
  rcases Nat.eq_zero_or_pos m with rfl | positive
  · have lexes := pointLexes zeroLeads ['0'] zeroLeads.digits (by decide) (by decide)
    exact ⟨_, _, text _ (if_pos rfl), lexes, floatDown x.isNegative (by decide) (by decide)⟩
  · obtain ⟨some, few, -⟩ := Decimal.shortestFits positive most least greatest
    obtain ⟨s, lexes, reads⟩ := writeLexes some few
    exact ⟨_, s, text _ (if_neg positive.ne'), lexes, floatRead x.isNegative reads some few
      fun power => Decimal.shortestMost positive most least greatest⟩

theorem valueDigit {c : Char} (digit : c.isDigit = true) (fuel : Nat) (more : List Symbol) :
    value (fuel + 1) (.char c :: more) = unsigned false (.char c :: more) := by
  have letter : c ≠ 'n' ∧ c ≠ 't' ∧ c ≠ 'f' ∧ c ≠ '-' := by
    refine ⟨?_, ?_, ?_, ?_⟩ <;> (rintro rfl; exact absurd digit (by decide))
  simp [value, digit, letter]

theorem valueSigned (fuel : Nat) (more : List Symbol) :
    value (fuel + 1) (.char '-' :: more) = unsigned true more := by
  simp [value]

def RereadAs (n m : Number) : Prop :=
  ∀ rest, Ends rest → ∀ fuel,
    value (fuel + 1) (symbolsOf (Number.chars n) ++ rest) = (.number (.ok m) none, some rest)

theorem wholeReread (n : WholeNumber) : RereadAs (.whole n) (.whole n) := by
  intro rest ends fuel
  have read := unsignedRead n.least n.most ends
  rw [Number.chars, intChars]
  split
  · rename_i negative
    rw [decide_eq_true negative] at read
    rw [symbolsOfCons, List.cons_append, valueSigned, read]
  · rename_i negative
    rw [decide_eq_false negative] at read
    have digits := toDigitsDigits n.val.natAbs
    cases lead : Nat.toDigits 10 n.val.natAbs with
    | nil => exact absurd lead Nat.toDigits_ne_nil
    | cons c cs =>
      rw [lead] at digits read
      rw [symbolsOfCons, List.cons_append] at read ⊢
      rw [valueDigit (digits c List.mem_cons_self), read]

theorem floatReread (x : Binary64) (finite : x.isFinite = true) :
    ∃ y h, RereadAs (.float x finite) (.float y h) := by
  obtain ⟨body, s, text, lexes, y, h, float⟩ := doubleLexes finite
  refine ⟨y, h, fun rest ends fuel => ?_⟩
  have read := lexes x.isNegative rest ends
  rw [float] at read
  rw [Number.chars, text]
  cases sign : x.isNegative with
  | true =>
    rw [sign] at read
    rw [if_pos rfl, symbolsOfCons, List.cons_append, valueSigned, read]
  | false =>
    rw [sign] at read
    obtain ⟨c, cs, rfl, digit⟩ := lexes.start
    rw [if_neg Bool.false_ne_true]
    rw [symbolsOfCons, List.cons_append] at read ⊢
    rw [valueDigit digit, read]

end Reader
end FeatureStore.Json
