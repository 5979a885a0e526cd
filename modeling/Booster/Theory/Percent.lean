import Mathlib.Data.List.Basic

/-!
# Percent-encoding and query parameters

A text is percent-encoded character by character: a character allowed stays, and of any
other each byte of its UTF-8 encoding becomes `%` and two hexadecimal digits
(`percentEncode`). Read back, the escapes are bytes again, and the bytes a text
(`percentDecode`, `decodeText`). Reading back an encoded text gives the text as long as `%` itself
is not allowed (`decodeText_percentEncode`).

A query is `name=value` parts with `&` between them; a part is split at its first `=`
(`parameters`). Parts without `&` are read back one by one (`parameters_append`), and a part with an `&` in
it is read as more parts than one (`length_parameters`).
-/

namespace Booster.Theory

/-! ### Encoding -/

/-- The hexadecimal digits. -/
def hexDigits : List Char := "0123456789ABCDEF".toList

/-- A hexadecimal digit. -/
def hexDigit (n : ℕ) : Char := hexDigits.getD n '0'

/-- The value of a hexadecimal digit, in either case. -/
def hexValue (c : Char) : Option ℕ := hexDigits.findIdx? (· = c.toUpper)

/-- A byte as an escape. -/
def escapeByte (b : UInt8) : List Char := ['%', hexDigit (b.toNat / 16), hexDigit (b.toNat % 16)]

/-- The bytes of a text. -/
def utf8 (cs : List Char) : List UInt8 := cs.flatMap String.utf8EncodeChar

/-- A text with every character that is not allowed escaped. -/
def percentEncode (allowed : Char → Bool) (cs : List Char) : List Char :=
  cs.flatMap fun c => if allowed c then [c] else (String.utf8EncodeChar c).flatMap escapeByte

/-- The bytes of a text with escapes, if each `%` has two digits after it. -/
def percentDecode : List Char → Option (List UInt8)
  | [] => some []
  | c :: cs =>
    if c = '%' then
      match cs with
      | h :: l :: cs => do
        let high ← hexValue h
        let low ← hexValue l
        let bs ← percentDecode cs
        return UInt8.ofNat (16 * high + low) :: bs
      | _ => none
    else (percentDecode cs).map (String.utf8EncodeChar c ++ ·)

/-- The text that bytes encode, if they encode one. -/
def ofUtf8 (bs : List UInt8) : Option (List Char) := bs.toByteArray.utf8Decode?.map Array.toList

/-- A text with escapes, read back. -/
def decodeText (cs : List Char) : Option (List Char) := (percentDecode cs).bind ofUtf8

theorem hexValue_hexDigit : ∀ n : Fin 16, hexValue (hexDigit n) = some n.val := by decide

theorem hexDigit_mem : ∀ n : Fin 16, hexDigit n ∈ hexDigits := by decide

theorem ofUtf8_utf8 (cs : List Char) : ofUtf8 (utf8 cs) = some cs := by
  have h : (utf8 cs).toByteArray = cs.utf8Encode := rfl
  rw [ofUtf8, h, List.utf8Decode?_utf8Encode, Option.map_some]

theorem percentDecode_escapeByte (b : UInt8) (cs : List Char) :
    percentDecode (escapeByte b ++ cs) = (percentDecode cs).map (b :: ·) := by
  have hb : b.toNat < 256 := b.toNat_lt
  have hh := hexValue_hexDigit ⟨b.toNat / 16, by omega⟩
  have hl := hexValue_hexDigit ⟨b.toNat % 16, by omega⟩
  have hv : UInt8.ofNat (16 * (b.toNat / 16) + b.toNat % 16) = b := by
    rw [Nat.div_add_mod, UInt8.ofNat_toNat]
  simp only [escapeByte, List.cons_append, List.nil_append, percentDecode, if_true] at hh hl ⊢
  rw [hh, hl]
  cases percentDecode cs with
  | none => rfl
  | some bs =>
    show some (UInt8.ofNat (16 * (b.toNat / 16) + b.toNat % 16) :: bs) = some (b :: bs)
    rw [hv]

theorem percentDecode_cons {c : Char} (h : c ≠ '%') (cs : List Char) :
    percentDecode (c :: cs) = (percentDecode cs).map (String.utf8EncodeChar c ++ ·) := by
  rw [percentDecode.eq_def]
  exact if_neg h

theorem percentDecode_escape (bs : List UInt8) (cs : List Char) :
    percentDecode (bs.flatMap escapeByte ++ cs) = (percentDecode cs).map (bs ++ ·) := by
  induction bs with
  | nil => simp
  | cons b bs ih =>
    rw [List.flatMap_cons, List.append_assoc, percentDecode_escapeByte, ih, Option.map_map]
    rfl

/-- **What is encoded is read back**, when `%` is not allowed. -/
theorem percentDecode_percentEncode {allowed : Char → Bool} (h : allowed '%' = false) (cs : List Char) :
    percentDecode (percentEncode allowed cs) = some (utf8 cs) := by
  induction cs with
  | nil => rfl
  | cons c cs ih =>
    have hc : percentEncode allowed (c :: cs) =
        (if allowed c then [c] else (String.utf8EncodeChar c).flatMap escapeByte) ++ percentEncode allowed cs :=
      List.flatMap_cons
    rw [hc]
    by_cases ha : allowed c = true
    · have hne : c ≠ '%' := fun e => by simp [e, h] at ha
      rw [if_pos ha, List.singleton_append, percentDecode_cons hne, ih]
      rfl
    · rw [if_neg ha, percentDecode_escape, ih]
      rfl

theorem decodeText_percentEncode {allowed : Char → Bool} (h : allowed '%' = false) (cs : List Char) :
    decodeText (percentEncode allowed cs) = some cs := by
  rw [decodeText, percentDecode_percentEncode h, Option.bind_some, ofUtf8_utf8]

/-- A text without `%` is read back as it is. -/
theorem decodeText_of_notMem {cs : List Char} (h : '%' ∉ cs) : decodeText cs = some cs := by
  have he : percentEncode (· ≠ '%') cs = cs := by
    induction cs with
    | nil => rfl
    | cons c cs ih =>
      have hc : c ≠ '%' := fun e => h (e ▸ List.mem_cons_self)
      have := ih fun hm => h (List.mem_cons_of_mem _ hm)
      simp only [percentEncode, List.flatMap_cons] at this ⊢
      rw [this]
      simp [hc]
  calc decodeText cs = decodeText (percentEncode (· ≠ '%') cs) := by rw [he]
    _ = some cs := decodeText_percentEncode (by decide) cs

/-- A character that is allowed and no part of an escape is in the encoded text exactly when it is in
the text. -/
theorem mem_percentEncode_iff {allowed : Char → Bool} {a : Char} (ha : allowed a = true)
    (hesc : a ∉ '%' :: hexDigits) (cs : List Char) : a ∈ percentEncode allowed cs ↔ a ∈ cs := by
  rw [percentEncode, List.mem_flatMap]
  constructor
  · rintro ⟨c, hc, hm⟩
    by_cases hac : allowed c = true
    · rw [if_pos hac, List.mem_singleton] at hm
      exact hm ▸ hc
    · rw [if_neg hac, List.mem_flatMap] at hm
      obtain ⟨b, -, hm⟩ := hm
      have hb : b.toNat < 256 := b.toNat_lt
      refine absurd ?_ hesc
      simp only [escapeByte, List.mem_cons, List.not_mem_nil, or_false] at hm
      rcases hm with rfl | rfl | rfl
      · exact List.mem_cons_self
      · exact List.mem_cons_of_mem _ (hexDigit_mem ⟨b.toNat / 16, by omega⟩)
      · exact List.mem_cons_of_mem _ (hexDigit_mem ⟨b.toNat % 16, by omega⟩)
  · intro hm
    exact ⟨a, hm, by simp [ha]⟩

/-! ### Parameters -/

/-- A text split at the first `c` in it, if there is one. -/
def splitFirst (c : Char) : List Char → Option (List Char × List Char)
  | [] => none
  | d :: cs => if d = c then some ([], cs) else (splitFirst c cs).map fun p => (d :: p.1, p.2)

/-- The name and the value of a part of a query. -/
def parameter (part : List Char) : Option (List Char × List Char) := do
  let (name, value) ← splitFirst '=' part
  let name ← decodeText name
  let value ← decodeText value
  return (name, value)

/-- The parameters of a query, if each part is one. -/
def parameters (query : List Char) : Option (List (List Char × List Char)) :=
  (query.splitOn '&').mapM parameter

theorem splitFirst_append {c : Char} {name : List Char} (h : c ∉ name) (value : List Char) :
    splitFirst c (name ++ c :: value) = some (name, value) := by
  induction name with
  | nil => simp [splitFirst]
  | cons d name ih =>
    have hd : d ≠ c := fun e => h (e ▸ List.mem_cons_self)
    simp [splitFirst, hd, ih fun hm => h (List.mem_cons_of_mem _ hm)]

/-- A part is read as its name and its value. -/
theorem parameter_append {name value value' : List Char} (hn : '=' ∉ name) (hn' : '%' ∉ name)
    (hv : decodeText value = some value') : parameter (name ++ '=' :: value) = some (name, value') := by
  simp [parameter, splitFirst_append hn, decodeText_of_notMem hn', hv]

/-- The parts before an `&` are read, and then those after it. -/
theorem parameters_append {part query : List Char} (h : '&' ∉ part) :
    parameters (part ++ '&' :: query) = (parameter part).bind fun p => (parameters query).map (p :: ·) := by
  rw [parameters, List.splitOn_append_cons_self_of_not_mem h, List.mapM_cons]
  cases parameter part with
  | none => rfl
  | some p =>
    unfold parameters
    cases (query.splitOn '&').mapM parameter <;> rfl

theorem parameters_of_notMem {part : List Char} (h : '&' ∉ part) :
    parameters part = (parameter part).map ([·]) := by
  rw [parameters, List.splitOn_eq_singleton h, List.mapM_cons, List.mapM_nil]
  cases parameter part <;> rfl

theorem length_of_mapM_eq_some {α β : Type} {f : α → Option β} {xs : List α} {ys : List β}
    (h : xs.mapM f = some ys) : ys.length = xs.length := by
  induction xs generalizing ys with
  | nil =>
    cases h
    rfl
  | cons x xs ih =>
    rw [List.mapM_cons] at h
    obtain ⟨y, -, h⟩ := Option.bind_eq_some_iff.mp h
    obtain ⟨zs, hz, h⟩ := Option.bind_eq_some_iff.mp h
    cases h
    rw [List.length_cons, List.length_cons, ih hz]

theorem length_splitOn {α : Type} [BEq α] (a : α) (xs : List α) : (xs.splitOn a).length = xs.count a + 1 := by
  induction xs with
  | nil => rfl
  | cons x xs ih =>
    rw [List.splitOn_cons_eq_if_modifyHead, List.count_cons]
    split
    · rw [List.length_cons, ih]
    · rw [List.length_modifyHead, ih]

/-- A query has as many parameters as it has `&`s, and one more. -/
theorem length_parameters {query : List Char} {ps : List (List Char × List Char)}
    (h : parameters query = some ps) : ps.length = query.count '&' + 1 := by
  rw [length_of_mapM_eq_some h, length_splitOn]

end Booster.Theory
