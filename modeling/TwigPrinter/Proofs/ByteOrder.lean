/-!
The order of texts by their bytes. Texts are compared by characters; in UTF-8 this is the same as to
compare their bytes, because the code of a character is cut into bytes from the highest bits down.
-/
namespace TwigPrinter.Text

/-- The bytes of a text in UTF-8. -/
def bytes (s : String) : List UInt8 := s.toByteArray.data.toList

theorem bytes_eq_flatMap (s : String) : bytes s = s.toList.flatMap String.utf8EncodeChar := by
  have hencoded : s.toByteArray = s.toList.utf8Encode := by
    rw [← String.toByteArray_ofList, String.ofList_toList]
  rw [bytes, hencoded, List.utf8Encode, List.toList_data_toByteArray]

theorem cons_ofNat_lt_iff {a b : Nat} (ha : a < 256) (hb : b < 256) {r s : List UInt8} :
    UInt8.ofNat a :: r < UInt8.ofNat b :: s ↔ a < b ∨ a = b ∧ r < s := by
  rw [List.cons_lt_cons_iff, UInt8.lt_iff_toNat_lt, ← UInt8.toNat_inj, UInt8.toNat_ofNat',
    UInt8.toNat_ofNat', Nat.mod_eq_of_lt ha, Nat.mod_eq_of_lt hb]

theorem lt_iff_six_bits (v w : Nat) :
    v < w ↔ v / 64 < w / 64 ∨ v / 64 = w / 64 ∧ v % 64 < w % 64 := by
  omega

/-- Two characters are told apart by their own bytes, whatever comes behind. -/
theorem utf8EncodeChar_append_lt {c d : Char} (h : c < d) (r s : List UInt8) :
    String.utf8EncodeChar c ++ r < String.utf8EncodeChar d ++ s := by
  have hlt : c.val.toNat < d.val.toNat := h
  have hd : d.val.toNat < 1114112 := by
    rcases d.valid with hd | hd
    · exact Nat.lt_trans hd (by decide)
    · exact hd.2
  generalize hv : c.val.toNat = v at hlt
  generalize hw : d.val.toNat = w at hlt hd
  have hbits := (lt_iff_six_bits v w).1 hlt
  rw [lt_iff_six_bits (v / 64), lt_iff_six_bits (v / 64 / 64)] at hbits
  simp only [Nat.div_div_eq_div_mul, Nat.reduceMul] at hbits
  have hfirst : v / 262144 % 8 = v / 262144 := by omega
  have hfirst' : w / 262144 % 8 = w / 262144 := by omega
  unfold String.utf8EncodeChar
  simp only [hv, hw, hfirst, hfirst']
  -- one case for each pair of lengths; the first byte decides unless the lengths are equal
  repeat' split
  all_goals
    simp (disch := omega) only [List.cons_append, cons_ofNat_lt_iff]
    omega

theorem flatMap_utf8EncodeChar_lt {cs ds : List Char} (h : cs < ds) :
    cs.flatMap String.utf8EncodeChar < ds.flatMap String.utf8EncodeChar := by
  induction h with
  | @nil d ds =>
    obtain ⟨b, bs, hbytes⟩ := List.exists_cons_of_ne_nil (String.utf8EncodeChar_ne_nil (c := d))
    rw [List.flatMap_nil, List.flatMap_cons, hbytes]
    exact List.nil_lt_cons b _
  | rel hcd =>
    rw [List.flatMap_cons, List.flatMap_cons]
    exact utf8EncodeChar_append_lt hcd _ _
  | cons _ ih =>
    rw [List.flatMap_cons, List.flatMap_cons]
    exact List.append_left_lt ih

theorem bytes_lt_of_lt {s t : String} (h : s < t) : bytes s < bytes t := by
  rw [bytes_eq_flatMap, bytes_eq_flatMap]
  exact flatMap_utf8EncodeChar_lt h

/-- The order by characters is the order by bytes. -/
theorem bytes_lt_bytes_iff {s t : String} : bytes s < bytes t ↔ s < t := by
  refine ⟨fun h => ?_, bytes_lt_of_lt⟩
  have hts : ¬ t < s := fun hts => List.lt_asymm (bytes_lt_of_lt hts) h
  have hne : s ≠ t := fun hst => List.lt_irrefl _ (hst ▸ h)
  exact String.not_le.1 fun hle => hne (String.le_antisymm (String.not_lt.1 hts) hle)

end TwigPrinter.Text
