import NodeDiscovery.Address.V4

/-! Addresses of version 4: their texts, and the blocks of them that are set aside. -/
namespace NodeDiscovery.Address
open NodeDiscovery.Text

namespace V4
variable {x : V4}

/-- An octet is written in its decimal digits, and in no other way. -/
theorem octet?_eq_some_iff {digits : List Char} {n : UInt8} :
    octet? digits = some n ↔ digits = Nat.toDigits 10 n.toNat := by
  constructor
  · intro h
    unfold octet? at h
    split at h
    · cases h
    next hform =>
    split at h
    · next m hread =>
      have hm : m < 256 := readDigits_lt (by decide) hread
      obtain rfl := Option.some.inj h
      rw [UInt8.toNat_ofNat_of_lt' hm]
      cases digits with
      | nil => simp at hform
      | cons c rest =>
        by_cases hc : c = '0'
        · -- A zero stands alone.
          subst hc
          obtain ⟨rfl, -⟩ : rest = [] ∧ _ := by simpa using hform
          obtain rfl : 0 = m := Except.ok.inj hread
          rfl
        · exact eq_toDigits_of_readDigits hc hread
    · cases h
  · rintro rfl
    have hall : ∀ m : Fin 256, octet? (Nat.toDigits 10 m) = some (UInt8.ofNat m) := by
      decide +kernel
    rw [hall ⟨n.toNat, n.toNat_lt⟩, UInt8.ofNat_toNat]

def pieces (x : V4) : List (List Char) :=
  [x.a, x.b, x.c, x.d].map fun n => Nat.toDigits 10 n.toNat

theorem toList_text (x : V4) : x.text.toList = ['.'].intercalate x.pieces := by
  have hdigits (n : Nat) : (toString n).toList = Nat.toDigits 10 n := Nat.toList_repr
  rw [text, String.toList_intercalate, List.map_map, pieces]
  simp only [Function.comp_def, hdigits]
  rfl

theorem splitAt_text (x : V4) : splitAt '.' x.text.toList = x.pieces := by
  have hdigit : ∀ piece ∈ x.pieces, '.' ∉ piece := by
    intro piece hpiece hdot
    obtain ⟨n, -, rfl⟩ := List.mem_map.mp hpiece
    exact absurd (Nat.isDigit_of_mem_toDigits (by decide) (by decide) hdot) (by decide)
  rw [toList_text]
  exact splitAt_intercalate hdigit

/-- An address is read from its text, and from no other. -/
theorem ofText?_eq_some_iff {s : String} : ofText? s = some x ↔ s = x.text := by
  rw [ofText?, ofChars?]
  constructor
  · intro h
    split at h
    · next a b c d hsplit =>
      simp only [bind, Option.bind_eq_some_iff, pure] at h
      obtain ⟨na, ha, nb, hb, nc, hc, nd, hd, hx⟩ := h
      obtain rfl := Option.some.inj hx
      apply String.toList_inj.mp
      rw [toList_text, ← intercalate_splitAt '.' s.toList, hsplit, octet?_eq_some_iff.mp ha,
        octet?_eq_some_iff.mp hb, octet?_eq_some_iff.mp hc, octet?_eq_some_iff.mp hd]
      rfl
    · cases h
  · rintro rfl
    simp only [splitAt_text, pieces, List.map_cons, List.map_nil, octet?_eq_some_iff.mpr rfl]
    rfl

def number (x : V4) : Nat := ((x.a.toNat * 256 + x.b.toNat) * 256 + x.c.toNat) * 256 + x.d.toNat

end V4

/-- The addresses that have the first bits, `length` of them, in common with the address `first`. -/
structure Block where
  first : V4
  length : Nat

namespace Block

def Holds (block : Block) (x : V4) : Prop :=
  x.number >>> (32 - block.length) = block.first.number >>> (32 - block.length)

/-- The blocks 10.0.0.0/8, 172.16.0.0/12 and 192.168.0.0/16. -/
def privateNetworks : List Block :=
  [⟨⟨10, 0, 0, 0⟩, 8⟩, ⟨⟨172, 16, 0, 0⟩, 12⟩, ⟨⟨192, 168, 0, 0⟩, 16⟩]

end Block

/-- The private addresses are those of the three blocks. -/
theorem V4.isPrivate_iff {x : V4} :
    x.isPrivate = true ↔ ∃ block ∈ Block.privateNetworks, block.Holds x := by
  have hoctets : x.isPrivate = true ↔ x.a.toNat = 10 ∨
      (x.a.toNat = 172 ∧ 16 ≤ x.b.toNat ∧ x.b.toNat < 32) ∨
      (x.a.toNat = 192 ∧ x.b.toNat = 168) := by
    simp [isPrivate, ← UInt8.toNat_inj, UInt8.le_iff_toNat_le, UInt8.lt_iff_toNat_lt, and_assoc,
      or_assoc]
  have hblocks : (∃ block ∈ Block.privateNetworks, block.Holds x) ↔
      x.number / 2 ^ 24 = 10 ∨ x.number / 2 ^ 20 = 172 * 16 + 1 ∨
        x.number / 2 ^ 16 = 192 * 256 + 168 := by
    simp [Block.privateNetworks, Block.Holds, number, Nat.shiftRight_eq_div_pow]
  have hb := x.b.toNat_lt
  have hc := x.c.toNat_lt
  have hd := x.d.toNat_lt
  rw [hoctets, hblocks, number]
  omega

end NodeDiscovery.Address
