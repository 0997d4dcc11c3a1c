import FeatureStore.Text.Utf8

/-!
Texts in the order of their bytes. UTF-8 keeps the order of the characters, so that it is one whether
texts are compared or their bytes.
-/
namespace FeatureStore.Text

def units (code : Nat) : List Nat :=
  if code ≤ 0x7f then [code]
  else if code ≤ 0x7ff then [code / 64 % 32 + 192, code % 64 + 128]
  else if code ≤ 0xffff then [code / 4096 % 16 + 224, code / 64 % 64 + 128, code % 64 + 128]
  else [code / 262144 % 8 + 240, code / 4096 % 64 + 128, code / 64 % 64 + 128, code % 64 + 128]

theorem encodedUnits (c : Char) : String.utf8EncodeChar c = (units c.val.toNat).map UInt8.ofNat := by
  simp only [String.utf8EncodeChar, units]
  split
  · rfl
  · split
    · rfl
    · split <;> rfl

def Below : List Nat → List Nat → Prop
  | m :: ms, n :: ns => m < n ∨ m = n ∧ Below ms ns
  | _, _ => False

theorem quotientsLt {m n size : Nat} (less : m / size < n / size) :
    m / (size * 64) < n / (size * 64) ∨
      m / (size * 64) = n / (size * 64) ∧ m / size % 64 < n / size % 64 := by
  rw [← Nat.div_div_eq_div_mul, ← Nat.div_div_eq_div_mul]
  omega

theorem unitsBelow {v w : Nat} (less : v < w) (bound : w < 0x110000) : Below (units v) (units w) := by
  -- From the last byte to the first: what is less stays so without its last six bits, or the rest is the same.
  have first : v / 1 < w / 1 → _ := quotientsLt
  have second : v / 64 < w / 64 → _ := quotientsLt
  have third : v / 4096 < w / 4096 → _ := quotientsLt
  have top {n : Nat} (small : n < 0x110000) : n / 262144 % 8 = n / 262144 := Nat.mod_eq_of_lt (by omega)
  simp only [Nat.div_one] at first second third
  simp only [units]
  repeat' split
  all_goals
    simp only [Below, top bound, top (Nat.lt_trans less bound)]
    omega

theorem unitsSmall {code n : Nat} (mem : n ∈ units code) : n < 256 := by
  simp only [units] at mem
  split at mem
  · simp only [List.mem_singleton] at mem
    omega
  · split at mem
    · simp only [List.mem_cons, List.not_mem_nil, or_false] at mem
      omega
    · split at mem <;> simp only [List.mem_cons, List.not_mem_nil, or_false] at mem <;> omega

theorem bytesLt {ms ns : List Nat} (below : Below ms ns) (small : ∀ n ∈ ns, n < 256) (s t : List UInt8) :
    ms.map UInt8.ofNat ++ s < ns.map UInt8.ofNat ++ t := by
  induction ms generalizing ns with
  | nil => cases below
  | cons m ms ih =>
    cases ns with
    | nil => cases below
    | cons n ns =>
      obtain ⟨first, rest⟩ := List.forall_mem_cons.mp small
      refine List.cons_lt_cons_iff.mpr ?_
      rcases below with less | ⟨rfl, below⟩
      · have ofSmall {k : Nat} (small : k < 256) : (UInt8.ofNat k).toNat = k := UInt8.toNat_ofNat_of_lt' small
        refine .inl (UInt8.lt_iff_toNat_lt.mpr ?_)
        rwa [ofSmall first, ofSmall (Nat.lt_trans less first)]
      · exact .inr ⟨rfl, ih below rest⟩

theorem encodedLt {c d : Char} (less : c < d) (s t : List UInt8) :
    String.utf8EncodeChar c ++ s < String.utf8EncodeChar d ++ t := by
  have bound : d.val.toNat < 0x110000 := by
    rcases d.valid with small | ⟨-, small⟩
    · exact Nat.lt_trans small (by decide)
    · exact small
  rw [encodedUnits, encodedUnits]
  exact bytesLt (unitsBelow less bound) (fun n => unitsSmall) s t

theorem utf8Encoded (s : String) : utf8 s = s.toList.flatMap String.utf8EncodeChar := by
  have chars : s.toByteArray = s.toList.utf8Encode := by
    rw [← String.toByteArray_ofList, String.ofList_toList]
  rw [utf8, String.toUTF8_eq_toByteArray, chars, List.utf8Encode, List.toList_data_toByteArray]

theorem charsLt {a b : List Char} (less : a < b) :
    a.flatMap String.utf8EncodeChar < b.flatMap String.utf8EncodeChar := by
  induction a generalizing b with
  | nil =>
    cases b with
    | nil => cases less
    | cons d b =>
      rcases encoded : String.utf8EncodeChar d with _ | ⟨byte, more⟩
      · exact absurd encoded String.utf8EncodeChar_ne_nil
      · simp [encoded]
  | cons c a ih =>
    cases b with
    | nil => cases less
    | cons d b =>
      rw [List.flatMap_cons, List.flatMap_cons]
      rcases List.cons_lt_cons_iff.mp less with less | ⟨rfl, rest⟩
      · exact encodedLt less _ _
      · exact List.append_left_lt (ih rest)

theorem utf8Lt {a b : String} (less : a < b) : utf8 a < utf8 b := by
  rw [utf8Encoded, utf8Encoded]
  exact charsLt less

end FeatureStore.Text
