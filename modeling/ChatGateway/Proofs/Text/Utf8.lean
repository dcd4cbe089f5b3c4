import ChatGateway.Text.Utf8
import Mathlib

/-!
# Texts as bytes

The bytes of a text are those of its characters, one after the other
(`bytes_ofList`), so they follow how a text is put together.  `decodeChar?` takes the
encoding of a character off the front of any bytes (`decodeChar?_encode`), which is
what a reader of texts relies on, and it takes nothing else (`eq_encode_of_decodeChar?`).
-/

namespace ChatGateway.Utf8

/-! ## Putting texts together -/

theorem bytes_ofList (cs : List Char) :
    bytes (String.ofList cs) = cs.flatMap String.utf8EncodeChar := by
  simp [bytes, List.utf8Encode, List.data_toByteArray]

theorem bytes_eq_flatMap (s : String) : bytes s = s.toList.flatMap String.utf8EncodeChar := by
  rw [← bytes_ofList, String.ofList_toList]

theorem bytes_append (s t : String) : bytes (s ++ t) = bytes s ++ bytes t := by
  simp only [bytes_eq_flatMap, String.toList_append, List.flatMap_append]

theorem bytes_singleton (c : Char) : bytes (String.singleton c) = String.utf8EncodeChar c := by
  simp [bytes_eq_flatMap]

theorem bytes_join (texts : List String) : bytes (String.join texts) = texts.flatMap bytes := by
  induction texts with
  | nil => rfl
  | cons s texts ih => rw [String.join_cons, bytes_append, ih, List.flatMap_cons]

/-! ## Taking a character off -/

theorem continuation?_ofNat :
    ∀ n < 0x40, continuation? (UInt8.ofNat (n + 0x80)) = some n := by decide

theorem lead?_one : ∀ n < 0x80, lead? (UInt8.ofNat n) = some (n, 0, 0) := by decide

theorem lead?_two : ∀ n < 0x20, lead? (UInt8.ofNat (n + 0xC0)) = some (n, 1, 0x80) := by decide

theorem lead?_three : ∀ n < 0x10, lead? (UInt8.ofNat (n + 0xE0)) = some (n, 2, 0x800) := by decide

theorem lead?_four : ∀ n < 0x08, lead? (UInt8.ofNat (n + 0xF0)) = some (n, 3, 0x10000) := by decide

theorem gather_ofNat {n : Nat} (h : n < 0x40) (value count : Nat) (rest : List UInt8) :
    gather value (count + 1) (UInt8.ofNat (n + 0x80) :: rest) =
      gather (value * 64 + n) count rest := by
  rw [gather, continuation?_ofNat n h]

theorem scalar?_toNat {c : Char} {least : Nat} (h : least ≤ c.toNat) :
    scalar? least c.toNat = some c := by
  rw [scalar?, dif_pos ⟨h, c.valid⟩]
  rfl

theorem toNat_lt (c : Char) : c.toNat < 0x110000 := by
  have hvalid : c.toNat < 0xD800 ∨ 0xDFFF < c.toNat ∧ c.toNat < 0x110000 := c.valid
  omega

/-- An encoding is read back once its first byte and its gathered value are known. -/
theorem decodeChar?_cons {b : UInt8} {more rest : List UInt8} {payload count least : Nat}
    {c : Char} (hlead : lead? b = some (payload, count, least))
    (hgather : gather payload count more = some (c.toNat, rest)) (hleast : least ≤ c.toNat) :
    decodeChar? (b :: more) = some (c, rest) := by
  simp [decodeChar?, hlead, hgather, scalar?_toNat hleast]

/-- The encoding of a character is read back, whatever follows it. -/
theorem decodeChar?_encode (c : Char) (rest : List UInt8) :
    decodeChar? (String.utf8EncodeChar c ++ rest) = some (c, rest) := by
  have hlt := toNat_lt c
  have hval : c.val.toNat = c.toNat := rfl
  -- one case for each length of an encoding
  unfold String.utf8EncodeChar
  simp only [hval]
  split
  next hone => exact decodeChar?_cons (lead?_one _ (by omega)) rfl (Nat.zero_le _)
  split
  next htwo =>
    simp only [List.cons_append, List.nil_append]
    refine decodeChar?_cons (lead?_two _ (Nat.mod_lt _ (by decide))) ?_ (by omega)
    rw [gather_ofNat (Nat.mod_lt _ (by decide)), gather]
    congr 2
    omega
  split
  next hthree =>
    simp only [List.cons_append, List.nil_append]
    refine decodeChar?_cons (lead?_three _ (Nat.mod_lt _ (by decide))) ?_ (by omega)
    rw [gather_ofNat (Nat.mod_lt _ (by decide)), gather_ofNat (Nat.mod_lt _ (by decide)), gather]
    congr 2
    omega
  next hfour =>
    simp only [List.cons_append, List.nil_append]
    refine decodeChar?_cons (lead?_four _ (Nat.mod_lt _ (by decide))) ?_ (by omega)
    rw [gather_ofNat (Nat.mod_lt _ (by decide)), gather_ofNat (Nat.mod_lt _ (by decide)),
      gather_ofNat (Nat.mod_lt _ (by decide)), gather]
    congr 2
    omega

/-! ## What is taken off -/

theorem eq_of_continuation? {b : UInt8} {n : Nat} (h : continuation? b = some n) :
    n < 64 ∧ b = UInt8.ofNat (n + 0x80) := by
  unfold continuation? at h
  split at h
  next hb =>
    obtain rfl := Option.some.inj h
    simp only [UInt8.le_iff_toNat_le, UInt8.lt_iff_toNat_lt, UInt8.reduceToNat] at hb
    refine ⟨Nat.mod_lt _ (by decide), ?_⟩
    rw [← UInt8.toNat_inj, UInt8.toNat_ofNat']
    omega
  · contradiction

/-- The first byte of an encoding is settled by its length and its payload. -/
theorem eq_of_lead? {b : UInt8} {payload count least : Nat}
    (h : lead? b = some (payload, count, least)) :
    (payload < 0x80 ∧ count = 0 ∧ least = 0 ∧ b = UInt8.ofNat payload) ∨
    (payload < 0x20 ∧ count = 1 ∧ least = 0x80 ∧ b = UInt8.ofNat (payload + 0xC0)) ∨
    (payload < 0x10 ∧ count = 2 ∧ least = 0x800 ∧ b = UInt8.ofNat (payload + 0xE0)) ∨
    (payload < 0x08 ∧ count = 3 ∧ least = 0x10000 ∧ b = UInt8.ofNat (payload + 0xF0)) := by
  have heq (n : Nat) (hn : b.toNat = n % 256) : b = UInt8.ofNat n := by
    rw [← UInt8.toNat_inj, UInt8.toNat_ofNat', hn]
  unfold lead? at h
  simp only [UInt8.lt_iff_toNat_lt, UInt8.reduceToNat] at h
  split_ifs at h <;> simp only [Option.some.injEq, Prod.mk.injEq] at h <;>
    obtain ⟨rfl, rfl, rfl⟩ := h
  · exact Or.inl ⟨by omega, rfl, rfl, heq _ (by omega)⟩
  · exact Or.inr (Or.inl ⟨by omega, rfl, rfl, heq _ (by omega)⟩)
  · exact Or.inr (Or.inr (Or.inl ⟨by omega, rfl, rfl, heq _ (by omega)⟩))
  · exact Or.inr (Or.inr (Or.inr ⟨by omega, rfl, rfl, heq _ (by omega)⟩))

theorem exists_of_gather_succ {value count : Nat} {bytes rest : List UInt8} {v : Nat}
    (h : gather value (count + 1) bytes = some (v, rest)) :
    ∃ n more, n < 64 ∧ bytes = UInt8.ofNat (n + 0x80) :: more ∧
      gather (value * 64 + n) count more = some (v, rest) := by
  cases bytes with
  | nil => simp [gather] at h
  | cons b more =>
      rw [gather] at h
      split at h
      next n hn =>
        obtain ⟨hlt, rfl⟩ := eq_of_continuation? hn
        exact ⟨n, more, hlt, rfl, h⟩
      · contradiction

theorem of_scalar? {least value : Nat} {c : Char} (h : scalar? least value = some c) :
    least ≤ value ∧ c.toNat = value := by
  unfold scalar? at h
  split at h
  next hvalid =>
    obtain rfl := Option.some.inj h
    exact ⟨hvalid.1, Char.toNat_ofNatAux hvalid.2⟩
  · contradiction

/-- Only the encoding of a character is taken off as that character. -/
theorem eq_encode_of_decodeChar? {bytes rest : List UInt8} {c : Char}
    (h : decodeChar? bytes = some (c, rest)) : bytes = String.utf8EncodeChar c ++ rest := by
  cases bytes with
  | nil => simp [decodeChar?] at h
  | cons b bytes =>
      simp only [decodeChar?, Option.bind_eq_bind, Option.bind_eq_some_iff, Option.pure_def,
        Option.some.injEq, Prod.mk.injEq, Prod.exists] at h
      obtain ⟨payload, count, least, hlead, value, more, hgather, c', hscalar, rfl, rfl⟩ := h
      obtain ⟨hleast, hvalue⟩ := of_scalar? hscalar
      have hval : c'.val.toNat = c'.toNat := rfl
      unfold String.utf8EncodeChar
      simp only [hval, hvalue]
      rcases eq_of_lead? hlead with ⟨hpayload, rfl, rfl, rfl⟩ | ⟨hpayload, rfl, rfl, rfl⟩ |
        ⟨hpayload, rfl, rfl, rfl⟩ | ⟨hpayload, rfl, rfl, rfl⟩
      case inl =>
        rw [gather, Option.some.injEq, Prod.mk.injEq] at hgather
        obtain ⟨rfl, rfl⟩ := hgather
        rw [if_pos (by omega)]
        rfl
      case inr.inl =>
        obtain ⟨n, _, hn, rfl, hend⟩ := exists_of_gather_succ hgather
        rw [gather, Option.some.injEq, Prod.mk.injEq] at hend
        obtain ⟨rfl, rfl⟩ := hend
        have hfirst : (payload * 64 + n) / 64 % 32 = payload := by omega
        have hsecond : (payload * 64 + n) % 64 = n := by omega
        rw [if_neg (by omega), if_pos (by omega), hfirst, hsecond]
        rfl
      case inr.inr.inl =>
        obtain ⟨m, _, hm, rfl, hmore⟩ := exists_of_gather_succ hgather
        obtain ⟨n, _, hn, rfl, hend⟩ := exists_of_gather_succ hmore
        rw [gather, Option.some.injEq, Prod.mk.injEq] at hend
        obtain ⟨rfl, rfl⟩ := hend
        have hfirst : ((payload * 64 + m) * 64 + n) / 4096 % 16 = payload := by omega
        have hsecond : ((payload * 64 + m) * 64 + n) / 64 % 64 = m := by omega
        have hthird : ((payload * 64 + m) * 64 + n) % 64 = n := by omega
        rw [if_neg (by omega), if_neg (by omega), if_pos (by omega), hfirst, hsecond, hthird]
        rfl
      case inr.inr.inr =>
        obtain ⟨l, _, hl, rfl, hmore⟩ := exists_of_gather_succ hgather
        obtain ⟨m, _, hm, rfl, hmore'⟩ := exists_of_gather_succ hmore
        obtain ⟨n, _, hn, rfl, hend⟩ := exists_of_gather_succ hmore'
        rw [gather, Option.some.injEq, Prod.mk.injEq] at hend
        obtain ⟨rfl, rfl⟩ := hend
        have hfirst : (((payload * 64 + l) * 64 + m) * 64 + n) / 262144 % 8 = payload := by omega
        have hsecond : (((payload * 64 + l) * 64 + m) * 64 + n) / 4096 % 64 = l := by omega
        have hthird : (((payload * 64 + l) * 64 + m) * 64 + n) / 64 % 64 = m := by omega
        have hfourth : (((payload * 64 + l) * 64 + m) * 64 + n) % 64 = n := by omega
        rw [if_neg (by omega), if_neg (by omega), if_neg (by omega), hfirst, hsecond, hthird,
          hfourth]
        rfl

/-! ## Bytes of an encoding -/

theorem encode_ne_nil (c : Char) : String.utf8EncodeChar c ≠ [] := by
  unfold String.utf8EncodeChar
  simp only
  split_ifs <;> exact List.cons_ne_nil _ _

/-- A character of ASCII is its own byte. -/
theorem encode_of_lt {c : Char} (h : c.toNat < 0x80) :
    String.utf8EncodeChar c = [UInt8.ofNat c.toNat] := by
  have hval : c.val.toNat = c.toNat := rfl
  simp only [String.utf8EncodeChar, hval]
  rw [if_pos (by omega)]

theorem le_toNat_ofNat {n : Nat} (hle : 0x80 ≤ n) (hlt : n < 0x100) :
    0x80 ≤ (UInt8.ofNat n).toNat := by
  rwa [UInt8.toNat_ofNat', Nat.mod_eq_of_lt hlt]

/-- An encoding is the code of its character, or all of its bytes are past ASCII. -/
theorem of_mem_encode {c : Char} {b : UInt8} (h : b ∈ String.utf8EncodeChar c) :
    b.toNat = c.toNat ∨ 0x80 ≤ b.toNat := by
  have hval : c.val.toNat = c.toNat := rfl
  unfold String.utf8EncodeChar at h
  simp only [hval] at h
  split at h
  next hone =>
    obtain rfl := List.mem_singleton.mp h
    exact Or.inl (by rw [UInt8.toNat_ofNat', Nat.mod_eq_of_lt (by omega)])
  -- every byte of a longer encoding has its first bit set
  · refine Or.inr ?_
    split at h
    · simp only [List.mem_cons, List.not_mem_nil, or_false] at h
      rcases h with rfl | rfl <;> exact le_toNat_ofNat (by omega) (by omega)
    split at h
    · simp only [List.mem_cons, List.not_mem_nil, or_false] at h
      rcases h with rfl | rfl | rfl <;> exact le_toNat_ofNat (by omega) (by omega)
    · simp only [List.mem_cons, List.not_mem_nil, or_false] at h
      rcases h with rfl | rfl | rfl | rfl <;> exact le_toNat_ofNat (by omega) (by omega)

/-- The byte of a digit. -/
def digitByte (d : Nat) : UInt8 := UInt8.ofNat d.digitChar.toNat

theorem encode_digitChar :
    ∀ d < 16, String.utf8EncodeChar d.digitChar = [digitByte d] := by decide

end ChatGateway.Utf8
