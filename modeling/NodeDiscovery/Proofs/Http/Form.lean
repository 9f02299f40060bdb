import NodeDiscovery.Http.Url

/-! Reading an encoded query gives back the pairs it was made of, whatever characters they hold. -/
namespace NodeDiscovery.Http.Form
open NodeDiscovery.Text

theorem isPlain_byte {b : UInt8} (h : isPlain b = true) :
    Char.ofNat b.toNat ≠ '+' ∧ Char.ofNat b.toNat ≠ '%' ∧
      Utf8.encodeChar (Char.ofNat b.toNat) = [b] := by
  have hall : ∀ n : Fin 256, isPlain (UInt8.ofNat n) = true →
      Char.ofNat n ≠ '+' ∧ Char.ofNat n ≠ '%' ∧
        Utf8.encodeChar (Char.ofNat n) = [UInt8.ofNat n] := by decide +kernel
  have hb := hall ⟨b.toNat, b.toNat_lt⟩
  simp only [UInt8.ofNat_toNat] at hb
  exact hb h

theorem decodeBytes_cons {c : Char} (hplus : c ≠ '+') (hpercent : c ≠ '%') (rest : List Char) :
    decodeBytes (c :: rest) = Utf8.encodeChar c ++ decodeBytes rest := by
  rw [decodeBytes]
  · exact hplus
  · rintro a b rest' rfl
    exact absurd rfl hpercent

theorem decodeBytes_encodeByte (b : UInt8) (rest : List Char) :
    decodeBytes (encodeByte b ++ rest) = b :: decodeBytes rest := by
  rw [encodeByte]
  split
  · next h =>
    obtain ⟨hplus, hpercent, hbyte⟩ := isPlain_byte h
    rw [List.singleton_append, decodeBytes_cons hplus hpercent, hbyte, List.singleton_append]
  · split
    · next h =>
      subst h
      rfl
    · have hb := b.toNat_lt
      have hhigh : hexValue? (hexDigit .upper (b.toNat / 16)) = some (b.toNat / 16) :=
        hexValue_hexDigit .upper (by omega)
      have hlow : hexValue? (hexDigit .upper (b.toNat % 16)) = some (b.toNat % 16) :=
        hexValue_hexDigit .upper (by omega)
      have hsum : 16 * (b.toNat / 16) + b.toNat % 16 = b.toNat := Nat.div_add_mod ..
      simp only [List.cons_append, List.nil_append, decodeBytes, hhigh, hlow, hsum,
        UInt8.ofNat_toNat]

theorem decodeBytes_flatMap (bytes : List UInt8) :
    decodeBytes (bytes.flatMap encodeByte) = bytes := by
  induction bytes with
  | nil => rfl
  | cons b bytes ih => rw [List.flatMap_cons, decodeBytes_encodeByte, ih]

theorem decodeText_encodeText (s : String) : decodeText (encodeText s) = s := by
  rw [decodeText, encodeText, decodeBytes_flatMap, Utf8.decode_encode, String.ofList_toList]

/-- No encoded text holds one of the characters that hold a query together. -/
theorem not_mem_encodeText (s : String) : '&' ∉ encodeText s ∧ '=' ∉ encodeText s := by
  have hbyte (b : UInt8) : '&' ∉ encodeByte b ∧ '=' ∉ encodeByte b := by
    have hall : ∀ n : Fin 256,
        '&' ∉ encodeByte (UInt8.ofNat n) ∧ '=' ∉ encodeByte (UInt8.ofNat n) := by decide +kernel
    have hb := hall ⟨b.toNat, b.toNat_lt⟩
    rwa [UInt8.ofNat_toNat] at hb
  constructor
  · intro h
    obtain ⟨b, _, hb⟩ := List.mem_flatMap.1 h
    exact (hbyte b).1 hb
  · intro h
    obtain ⟨b, _, hb⟩ := List.mem_flatMap.1 h
    exact (hbyte b).2 hb

theorem decodePair_encodePair (pair : String × String) : decodePair (encodePair pair) = pair := by
  obtain ⟨hbefore, hafter⟩ := before_append (not_mem_encodeText pair.1).2 (encodeText pair.2)
  rw [decodePair, encodePair, hbefore, hafter, List.drop_one, List.tail_cons,
    decodeText_encodeText, decodeText_encodeText]

theorem encodePair_ne_nil (pair : String × String) : encodePair pair ≠ [] := by
  simp [encodePair]

theorem not_mem_encodePair (pair : String × String) : '&' ∉ encodePair pair := by
  simp [encodePair, not_mem_encodeText]

/-- Reading undoes encoding, for any names and values. -/
theorem decode_encode (pairs : List (String × String)) : decode (encode pairs) = pairs := by
  cases pairs with
  | nil => rfl
  | cons pair pairs =>
    have hsplit : splitAt '&' (encode (pair :: pairs)) = (pair :: pairs).map encodePair := by
      refine splitAt_intercalate fun x hx => ?_
      obtain ⟨p, _, rfl⟩ := List.mem_map.1 (show x ∈ (pair :: pairs).map encodePair from hx)
      exact not_mem_encodePair p
    have hne : ((pair :: pairs).map encodePair).filter (· ≠ []) =
        (pair :: pairs).map encodePair := by
      refine List.filter_eq_self.2 fun x hx => ?_
      obtain ⟨p, _, rfl⟩ := List.mem_map.1 hx
      exact decide_eq_true (encodePair_ne_nil p)
    rw [decode, hsplit, hne, List.map_map]
    exact List.map_id'' decodePair_encodePair _

theorem decode_nil : decode [] = [] := rfl

theorem decode_append (x y : List Char) : decode (x ++ '&' :: y) = decode x ++ decode y := by
  rw [decode, splitAt_append, List.filter_append, List.map_append, decode, decode]

end NodeDiscovery.Http.Form

namespace NodeDiscovery.Http.Url

/-- Pairs that are added to a query are read from it after those that were there. -/
theorem decode_addQuery (u : Url) (pairs : List (String × String)) :
    Form.decode ((u.addQuery pairs).query.getD []) =
      Form.decode (u.query.getD []) ++ pairs := by
  rw [addQuery]
  split
  · next h => simp [h, Form.decode_encode, Form.decode_nil]
  · next h => simp [h, Form.decode_encode, Form.decode_nil]
  · next old _ h => simp [h, Form.decode_append, Form.decode_encode]

end NodeDiscovery.Http.Url
