import Mathlib

/-!
# Self-delimiting encodings

Where an encoding ends can be told from its own bytes: no matter what follows, two encodings that
start the same stream are equal. Parts of a known length and parts preceded by their length are of
this kind, and so is a sequence of them, which makes the encoding of the whole injective.
-/

namespace SubscriptionVault

universe u v w

variable {α : Type u} {β : Type v} {γ : Type w}

/-- Whatever follows, the value and the rest of the stream can be told apart. -/
def SelfDelimiting (encode : α → List β) : Prop :=
  ∀ ⦃a b : α⦄ ⦃r r' : List β⦄, encode a ++ r = encode b ++ r' → a = b ∧ r = r'

namespace SelfDelimiting

variable {encode : α → List β} {encode' : γ → List β}

theorem injective (h : SelfDelimiting encode) : Function.Injective encode := by
  intro a b hab
  have hstream : encode a ++ [] = encode b ++ [] := by rw [hab]
  exact (h hstream).1

/-- An injective encoding of a fixed length. -/
theorem of_length {n : Nat} (hlength : ∀ a, (encode a).length = n)
    (hinjective : Function.Injective encode) : SelfDelimiting encode := by
  intro a b r r' hstream
  obtain ⟨hhead, hrest⟩ := List.append_inj hstream ((hlength a).trans (hlength b).symm)
  exact ⟨hinjective hhead, hrest⟩

/-- One part after the other. -/
theorem append (h : SelfDelimiting encode) (h' : SelfDelimiting encode') :
    SelfDelimiting fun p : α × γ => encode p.1 ++ encode' p.2 := by
  intro p q r r' hstream
  simp only [List.append_assoc] at hstream
  obtain ⟨hfst, hstream⟩ := h hstream
  obtain ⟨hsnd, hrest⟩ := h' hstream
  exact ⟨Prod.ext hfst hsnd, hrest⟩

/-- A part that is always the same. -/
theorem const_append (h : SelfDelimiting encode) (tag : List β) :
    SelfDelimiting fun a => tag ++ encode a := by
  intro a b r r' hstream
  simp only [List.append_assoc] at hstream
  exact h (List.append_cancel_left hstream)

theorem comp {f : γ → α} (h : SelfDelimiting encode) (hf : Function.Injective f) :
    SelfDelimiting fun c => encode (f c) := by
  intro c c' r r' hstream
  obtain ⟨hvalue, hrest⟩ := h hstream
  exact ⟨hf hvalue, hrest⟩

/-- A list that is preceded by its length. -/
theorem prefixed {bound : Nat} {encodeLength : Fin bound → List β}
    (h : SelfDelimiting encodeLength) {content : γ → List β} (hfits : ∀ c, (content c).length < bound)
    (hcontent : Function.Injective content) :
    SelfDelimiting fun c => encodeLength ⟨(content c).length, hfits c⟩ ++ content c := by
  intro c c' r r' hstream
  simp only [List.append_assoc] at hstream
  obtain ⟨hlength, hstream⟩ := h hstream
  obtain ⟨hbytes, hrest⟩ := List.append_inj hstream (Fin.mk.inj hlength)
  exact ⟨hcontent hbytes, hrest⟩

end SelfDelimiting

/-! ## Numbers -/

/-- The last `width` bytes of a number, the most significant one first. -/
def bigEndian : (width : Nat) → Nat → List UInt8
  | 0, _ => []
  | width + 1, n => UInt8.ofNat (n / 256 ^ width) :: bigEndian width n

theorem bigEndian_length (width n : Nat) : (bigEndian width n).length = width := by
  induction width with
  | zero => rfl
  | succ width ih => simp [bigEndian, ih]

theorem bigEndian_mod {width n m : Nat} (h : bigEndian width n = bigEndian width m) :
    n % 256 ^ width = m % 256 ^ width := by
  induction width with
  | zero => rw [pow_zero, Nat.mod_one, Nat.mod_one]
  | succ width ih =>
    obtain ⟨hfirst, hrest⟩ := List.cons.inj h
    have hbyte : n / 256 ^ width % 256 = m / 256 ^ width % 256 := by
      have hnat := congrArg UInt8.toNat hfirst
      rwa [UInt8.toNat_ofNat', UInt8.toNat_ofNat'] at hnat
    rw [Nat.mod_pow_succ, Nat.mod_pow_succ, ih hrest, hbyte]

/-- The numbers that fit are told apart. -/
theorem selfDelimiting_bigEndian (width : Nat) :
    SelfDelimiting fun n : Fin (256 ^ width) => bigEndian width n := by
  refine .of_length (fun n => bigEndian_length width n) fun n m h => Fin.ext ?_
  have hmod := bigEndian_mod h
  rwa [Nat.mod_eq_of_lt n.isLt, Nat.mod_eq_of_lt m.isLt] at hmod

end SubscriptionVault
