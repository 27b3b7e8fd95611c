import Federation.Text.Hexadecimal

/-!
# Universally unique identifiers

An identifier is a value of 128 bits. It is written with 32 hexadecimal digits in groups of 8, 4,
4, 4 and 12, and read from that form, from that form after `urn:uuid:`, or from the bare digits.

* `Uuid.length_chars`: the written form has 36 characters;
* `Uuid.ofChars?_chars`: the written form reads back as the identifier it was written for.

Fresh identifiers come from random bits, of which `Uuid.ofRandomBits` fixes the six that say so.
-/

namespace Federation

/-- An identifier of 128 bits. -/
structure Uuid where
  value : BitVec 128
  deriving DecidableEq, Inhabited

namespace Uuid

/-- The identifier whose value is the given number, modulo `2 ^ 128`. -/
def ofNat (n : Nat) : Uuid :=
  ⟨BitVec.ofNat 128 n⟩

/-! ## Written form -/

/-- The 32 digits of the identifier. -/
def hexDigits (u : Uuid) : List Char :=
  Hex.digits 32 u.value.toNat

/-- Puts the hyphens between the groups of 8, 4, 4, 4 and 12 digits. -/
def hyphenate (ds : List Char) : List Char :=
  ds.take 8 ++ '-' :: ((ds.drop 8).take 4 ++ '-' :: ((ds.drop 12).take 4 ++
    '-' :: ((ds.drop 16).take 4 ++ '-' :: ds.drop 20)))

/-- The characters of the written form. -/
def chars (u : Uuid) : List Char :=
  hyphenate u.hexDigits

/-- The written form: lower case digits in hyphenated groups. -/
def text (u : Uuid) : String :=
  String.ofList u.chars

@[simp]
theorem length_hexDigits (u : Uuid) : u.hexDigits.length = 32 :=
  Hex.length_digits 32 _

/-- The written form has 36 characters. -/
@[simp]
theorem length_chars (u : Uuid) : u.chars.length = 36 := by
  simp [chars, hyphenate]

/-! ## Reading -/

/-- The digits of a hyphenated or bare form; the hyphens must stand between the groups. -/
def groupedDigits? (cs : List Char) : Option (List Char) :=
  if cs.length = 36 then
    if cs[8]? = some '-' ∧ cs[13]? = some '-' ∧ cs[18]? = some '-' ∧ cs[23]? = some '-' then
      some (cs.take 8 ++ ((cs.drop 9).take 4 ++ ((cs.drop 14).take 4 ++
        ((cs.drop 19).take 4 ++ cs.drop 24))))
    else none
  else if cs.length = 32 then some cs
  else none

/-- The marker that may stand before a hyphenated form. -/
def urnMarker : List Char :=
  ['u', 'r', 'n', ':', 'u', 'u', 'i', 'd', ':']

/-- Reads an identifier: hyphenated digits in any case, with or without the marker, or bare digits
without it. -/
def ofChars? (cs : List Char) : Option Uuid :=
  let marked := cs.length = urnMarker.length + 36 && urnMarker.isPrefixOf cs
  let body := if marked then cs.drop urnMarker.length else cs
  (groupedDigits? body).bind fun ds => (Hex.read? ds).map ofNat

/-- Reads an identifier from its text. -/
def ofText? (s : String) : Option Uuid :=
  ofChars? s.toList

theorem ofNat_toNat (u : Uuid) : ofNat u.value.toNat = u := by
  simp [ofNat]

/-- Cutting the written groups of 32 digits gives the digits back. -/
theorem groupedDigits?_hyphenate {ds : List Char} (h : ds.length = 32) :
    groupedDigits? (hyphenate ds) = some ds := by
  match ds, h with
  | [a0, a1, a2, a3, a4, a5, a6, a7, b0, b1, b2, b3, c0, c1, c2, c3, d0, d1, d2, d3,
      e0, e1, e2, e3, e4, e5, e6, e7, e8, e9, ea, eb], _ =>
    simp [groupedDigits?, hyphenate]

/-- The written form reads back. -/
theorem ofChars?_chars (u : Uuid) : ofChars? u.chars = some u := by
  have hv : u.value.toNat < Nat.pow 16 32 := by
    have := u.value.isLt
    omega
  have hm : (u.chars.length = urnMarker.length + 36) = False := by
    simp [urnMarker]
  simp only [ofChars?, hm, decide_false, Bool.false_and, Bool.false_eq_true, if_false]
  rw [chars, groupedDigits?_hyphenate u.length_hexDigits]
  simp [hexDigits, Hex.read?_digits hv, ofNat_toNat]

/-! ## Random identifiers -/

/-- The identifier made of random bits: the version is set to four and the variant to the
standard one. -/
def ofRandomBits (bits : BitVec 128) : Uuid :=
  let free : BitVec 128 := 0xffffffffffff0fff3fffffffffffffff#128
  let marks : BitVec 128 := 0x00000000000040008000000000000000#128
  ⟨bits &&& free ||| marks⟩

/-- The version: the first digit of the third group. -/
def version (u : Uuid) : Nat :=
  (u.value >>> 76).toNat % 16

/-- Whether the variant is the standard one: the fourth group starts with the bits `10`. -/
def isStandardVariant (u : Uuid) : Bool :=
  (u.value >>> 62).toNat % 4 = 2

/-- A source of pseudo-random words. -/
structure Entropy where
  state : UInt64

/-- The next word of a source: its state advances by an odd constant and is then mixed. -/
def Entropy.next (e : Entropy) : UInt64 × Entropy :=
  let s := e.state + 0x9e3779b97f4a7c15
  let a := (s ^^^ (s >>> 30)) * 0xbf58476d1ce4e5b9
  let b := (a ^^^ (a >>> 27)) * 0x94d049bb133111eb
  (b ^^^ (b >>> 31), ⟨s⟩)

/-- A fresh identifier from the next two words of a source. -/
def fresh (e : Entropy) : Uuid × Entropy :=
  let (high, e) := e.next
  let (low, e) := e.next
  (ofRandomBits (high.toBitVec ++ low.toBitVec), e)

end Uuid

end Federation
