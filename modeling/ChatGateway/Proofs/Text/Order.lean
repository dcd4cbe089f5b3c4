import ChatGateway.Proofs.Text.Utf8

/-!
# Texts in order

Texts are ordered by the codes of their characters, and this is the order of their bytes
(`bytes_lt_bytes_iff`): an encoding begins with the larger byte if it is the longer one,
and two of one length are compared by the digits of the codes to base 64.
-/

namespace ChatGateway.Utf8

theorem ofNat_cons_lt_iff {m n : Nat} (hm : m < 256) (hn : n < 256) (more more' : List UInt8) :
    UInt8.ofNat m :: more < UInt8.ofNat n :: more' ↔ m < n ∨ m = n ∧ more < more' := by
  rw [List.cons_lt_cons_iff, UInt8.lt_iff_toNat_lt, ← UInt8.toNat_inj, UInt8.toNat_ofNat',
    UInt8.toNat_ofNat', Nat.mod_eq_of_lt hm, Nat.mod_eq_of_lt hn]

/-- A code is put together from its digits to base 64. -/
theorem eq_digits {n : Nat} (h : n < 0x110000) :
    n = n / 262144 % 8 * 262144 + n / 4096 % 64 * 4096 + n / 64 % 64 * 64 + n % 64 := by
  omega

/-- Of two codes in order, the first digits that differ are in order. -/
theorem digits_lt {m n : Nat} (h : m < n) (hn : n < 0x110000) :
    m / 262144 % 8 < n / 262144 % 8 ∨ m / 262144 % 8 = n / 262144 % 8 ∧
      (m / 4096 % 64 < n / 4096 % 64 ∨ m / 4096 % 64 = n / 4096 % 64 ∧
        (m / 64 % 64 < n / 64 % 64 ∨ m / 64 % 64 = n / 64 % 64 ∧ m % 64 < n % 64)) := by
  have hm := eq_digits (h.trans hn)
  have hn := eq_digits hn
  have hdigit (k : Nat) : k % 64 < 64 := Nat.mod_lt k (by decide)
  have hn₂ := hdigit (n / 4096)
  have hn₃ := hdigit (n / 64)
  have hn₄ := hdigit n
  generalize m / 262144 % 8 = a₁, m / 4096 % 64 = a₂, m / 64 % 64 = a₃, m % 64 = a₄ at *
  generalize n / 262144 % 8 = b₁, n / 4096 % 64 = b₂, n / 64 % 64 = b₃, n % 64 = b₄ at *
  omega

/-- The encodings of two characters come in the order of their codes, whatever follows. -/
theorem encode_append_lt {c d : Char} (h : c.toNat < d.toNat) (more more' : List UInt8) :
    String.utf8EncodeChar c ++ more < String.utf8EncodeChar d ++ more' := by
  have hc : c.val.toNat = c.toNat := rfl
  have hd : d.val.toNat = d.toNat := rfl
  have hlt := toNat_lt d
  have hdigits := digits_lt h hlt
  unfold String.utf8EncodeChar
  simp only [hc, hd]
  -- one case for each pair of lengths
  split_ifs <;> simp (disch := omega) only [List.cons_append, List.nil_append, ofNat_cons_lt_iff,
      Nat.add_lt_add_iff_right, Nat.add_right_cancel_iff]
    <;> omega

theorem flatMap_encode_lt {cs ds : List Char} (h : cs < ds) :
    cs.flatMap String.utf8EncodeChar < ds.flatMap String.utf8EncodeChar := by
  induction cs generalizing ds with
  | nil =>
      cases ds with
      | nil => exact absurd h (List.not_lt_nil _)
      | cons d ds =>
          obtain ⟨b, more, hb⟩ := List.exists_cons_of_ne_nil (encode_ne_nil d)
          rw [List.flatMap_nil, List.flatMap_cons, hb, List.cons_append]
          exact List.nil_lt_cons b _
  | cons c cs ih =>
      cases ds with
      | nil => exact absurd h (List.not_lt_nil _)
      | cons d ds =>
          rw [List.flatMap_cons, List.flatMap_cons]
          rcases List.cons_lt_cons_iff.mp h with hlt | ⟨rfl, hmore⟩
          · exact encode_append_lt hlt _ _
          · exact List.append_left_lt (ih hmore)

theorem bytes_lt_bytes {s t : String} (h : s < t) : bytes s < bytes t := by
  rw [bytes_eq_flatMap, bytes_eq_flatMap]
  exact flatMap_encode_lt (String.lt_iff_toList_lt.mp h)

/-- **Texts are ordered by their bytes.** -/
theorem bytes_lt_bytes_iff {s t : String} : bytes s < bytes t ↔ s < t := by
  refine ⟨fun h => ?_, bytes_lt_bytes⟩
  rcases lt_trichotomy s t with hlt | rfl | hgt
  · exact hlt
  · exact absurd h (List.lt_irrefl _)
  · exact absurd h (List.lt_asymm (bytes_lt_bytes hgt))

end ChatGateway.Utf8
