import SubscriptionVault.Contract.Metadata

/-!
# Texts of metadata entries

Which byte strings the check of metadata keys and values lets through. The documented set is one
of characters, while the code walks over the bytes of their encoding: a byte below 128 there is
always a character of its own.
-/

namespace SubscriptionVault

/-! ## Encoded characters -/

/-- The text is the UTF-8 encoding of the characters. -/
def HostString.Spells (text : HostString) (chars : List Char) : Prop :=
  text.bytes = chars.flatMap String.utf8EncodeChar

theorem utf8EncodeChar_ascii {c : Char} (hc : c.toNat < 128) :
    String.utf8EncodeChar c = [UInt8.ofNat c.toNat] := by
  have hvalue : c.val.toNat ≤ 127 := Nat.le_of_lt_succ hc
  unfold String.utf8EncodeChar
  exact if_pos hvalue

/-- Every byte of a longer encoding has its high bit set. -/
theorem utf8EncodeChar_octets {c : Char} (hc : 128 ≤ c.toNat) :
    ∀ byte ∈ String.utf8EncodeChar c, 128 ≤ byte.toNat := by
  have hvalue : c.val.toNat = c.toNat := rfl
  fun_cases String.utf8EncodeChar c
  case case1 => omega
  all_goals
    simp only [List.forall_mem_cons, UInt8.toNat_ofNat', List.not_mem_nil, false_imp_iff,
      implies_true, and_true]
    omega

theorem mem_utf8EncodeChar {c : Char} {byte : UInt8} (hbyte : byte.toNat < 128) :
    byte ∈ String.utf8EncodeChar c ↔ c.toNat = byte.toNat := by
  by_cases hc : c.toNat < 128
  · rw [utf8EncodeChar_ascii hc, List.mem_singleton, ← UInt8.toNat_inj, UInt8.toNat_ofNat']
    omega
  · constructor
    · intro hmem
      have hoctet := utf8EncodeChar_octets (by omega) byte hmem
      omega
    · intro h
      omega

namespace HostString

variable {text : HostString} {chars : List Char} {byte : UInt8}

/-- Bytes below 128 stand for themselves. -/
theorem Spells.mem (htext : text.Spells chars) (hbyte : byte.toNat < 128) :
    byte ∈ text.bytes ↔ ∃ c ∈ chars, c.toNat = byte.toNat := by
  rw [htext, List.mem_flatMap]
  simp only [mem_utf8EncodeChar hbyte]

theorem Spells.unique {chars' : List Char} (htext : text.Spells chars)
    (htext' : text.Spells chars') : chars = chars' := by
  have hencoded : chars.utf8Encode = chars'.utf8Encode := by
    unfold List.utf8Encode
    rw [← htext, ← htext']
  have hdecoded := congrArg ByteArray.utf8Decode? hencoded
  rw [List.utf8Decode?_utf8Encode, List.utf8Decode?_utf8Encode] at hdecoded
  simpa using hdecoded

theorem validateUTF8_iff :
    (ByteArray.mk text.bytes.toArray).validateUTF8 = true ↔ ∃ chars, text.Spells chars := by
  rw [ByteArray.validateUTF8_eq_true_iff]
  constructor
  · rintro ⟨chars, hchars⟩
    have hdata := congrArg ByteArray.data hchars
    unfold List.utf8Encode at hdata
    rw [List.data_toByteArray] at hdata
    exact ⟨chars, List.toArray_inj hdata⟩
  · rintro ⟨chars, hchars⟩
    refine ⟨chars, ByteArray.ext ?_⟩
    unfold List.utf8Encode
    rw [List.data_toByteArray, ← hchars]

/-- Whether a byte from 32 on occurs is seen by the characters. -/
theorem Spells.printable (htext : text.Spells chars) :
    (∃ byte ∈ text.bytes, 32 ≤ byte.toNat) ↔ ∃ c ∈ chars, 32 ≤ c.toNat := by
  constructor
  · rintro ⟨byte, hmem, hbyte⟩
    rw [htext, List.mem_flatMap] at hmem
    obtain ⟨c, hc, hmem⟩ := hmem
    by_cases hsmall : c.toNat < 128
    · rw [utf8EncodeChar_ascii hsmall, List.mem_singleton] at hmem
      rw [hmem, UInt8.toNat_ofNat'] at hbyte
      exact ⟨c, hc, by omega⟩
    · exact ⟨c, hc, by omega⟩
  · rintro ⟨c, hc, hlarge⟩
    by_cases hsmall : c.toNat < 128
    · refine ⟨UInt8.ofNat c.toNat, (htext.mem ?_).mpr ⟨c, hc, ?_⟩, ?_⟩
      all_goals
        rw [UInt8.toNat_ofNat']
        omega
    · obtain ⟨byte, hmem⟩ := List.exists_mem_of_ne_nil _ (String.utf8EncodeChar_ne_nil (c := c))
      have hoctet := utf8EncodeChar_octets (by omega) byte hmem
      refine ⟨byte, ?_, by omega⟩
      rw [htext, List.mem_flatMap]
      exact ⟨c, hc, hmem⟩

end HostString

/-! ## What is let through -/

/-- The bytes below 32 are tabs, newlines and carriage returns. -/
def HostString.Uncontrolled (text : HostString) : Prop :=
  ∀ byte ∈ text.bytes, byte < 32 → byte = 9 ∨ byte = 10 ∨ byte = 13

theorem validateUtf8String_ok {text : HostString} : validateUtf8String text = .ok () ↔
    text.bytes ≠ [] ∧ (∃ chars, text.Spells chars) ∧ 0 ∉ text.bytes ∧ text.Uncontrolled ∧
      ∃ byte ∈ text.bytes, 32 ≤ byte.toNat := by
  rw [← HostString.validateUTF8_iff]
  unfold validateUtf8String HostString.Uncontrolled
  simp only [List.length_eq_zero_iff]
  by_cases hempty : text.bytes = []
  · simp [hempty]
  by_cases hvalid : (ByteArray.mk text.bytes.toArray).validateUTF8 = false
  · simp [hempty, hvalid]
  by_cases hnul : 0 ∈ text.bytes
  · simp [hempty, hvalid, hnul]
  by_cases hcontrol : text.bytes.any fun byte => byte < 32 ∧ byte ≠ 9 ∧ byte ≠ 10 ∧ byte ≠ 13
  · rw [if_neg hempty, if_neg hvalid, if_neg hnul, if_pos hcontrol]
    obtain ⟨byte, hmem, hbyte⟩ := List.any_eq_true.mp hcontrol
    simp only [decide_eq_true_eq] at hbyte
    constructor
    · nofun
    · rintro ⟨-, -, -, hallowed, -⟩
      have hcases := hallowed byte hmem hbyte.1
      tauto
  have hallowed : ∀ byte ∈ text.bytes, byte < 32 → byte = 9 ∨ byte = 10 ∨ byte = 13 := by
    intro byte hmem hbyte
    by_contra hother
    push Not at hother
    exact hcontrol (List.any_eq_true.mpr ⟨byte, hmem, decide_eq_true ⟨hbyte, hother⟩⟩)
  rw [if_neg hempty, if_neg hvalid, if_neg hnul, if_neg hcontrol]
  by_cases hlow : text.bytes.all (· < 32)
  · rw [if_pos hlow]
    constructor
    · nofun
    · rintro ⟨-, -, -, -, byte, hmem, hbyte⟩
      have hsmall := UInt8.lt_iff_toNat_lt.mp
        (of_decide_eq_true (List.all_eq_true.mp hlow byte hmem))
      exact absurd hsmall (Nat.not_lt.mpr hbyte)
  · rw [if_neg hlow]
    have hsome : ∃ byte ∈ text.bytes, 32 ≤ byte.toNat := by
      by_contra hnone
      push Not at hnone
      exact hlow (List.all_eq_true.mpr fun byte hmem =>
        decide_eq_true (UInt8.lt_iff_toNat_lt.mpr (hnone byte hmem)))
    simp only [Bool.not_eq_false] at hvalid
    exact ⟨fun _ => ⟨hempty, hvalid, hnul, hallowed, hsome⟩, fun _ => rfl⟩

/-! ## What is documented -/

section Documented

variable {blank : Char → Bool} {text : HostString} {chars : List Char}

/-- Well-formed text without other controls and with a printable character that is not blank. -/
structure HostString.Documented (blank : Char → Bool) (text : HostString) : Prop where
  nonempty : text.bytes ≠ []
  noNul : 0 ∉ text.bytes
  uncontrolled : text.Uncontrolled
  printable : ∃ chars, text.Spells chars ∧ ∃ c ∈ chars, 32 ≤ c.toNat ∧ blank c = false

/-- Blanks, tabs and line ends only, with at least one character from 32 on. -/
structure HostString.IsBlank (blank : Char → Bool) (text : HostString) : Prop where
  spelled : ∃ chars, text.Spells chars ∧ (∃ c ∈ chars, 32 ≤ c.toNat) ∧
    ∀ c ∈ chars, (c.toNat = 9 ∨ c.toNat = 10 ∨ c.toNat = 13) ∨ 32 ≤ c.toNat ∧ blank c = true

theorem HostString.Spells.uncontrolled (htext : text.Spells chars) : text.Uncontrolled ↔
    ∀ c ∈ chars, c.toNat < 32 → c.toNat = 9 ∨ c.toNat = 10 ∨ c.toNat = 13 := by
  unfold HostString.Uncontrolled
  constructor
  · intro hbytes c hc hsmall
    have hoctet : (UInt8.ofNat c.toNat).toNat = c.toNat := by
      rw [UInt8.toNat_ofNat']
      omega
    have hmem : UInt8.ofNat c.toNat ∈ text.bytes :=
      (htext.mem (by omega)).mpr ⟨c, hc, hoctet.symm⟩
    have hlow : UInt8.ofNat c.toNat < 32 := by
      rw [UInt8.lt_iff_toNat_lt, hoctet]
      exact hsmall
    rcases hbytes _ hmem hlow with h | h | h
    all_goals
      rw [h] at hoctet
      simp [← hoctet]
  · intro hchars byte hmem hsmall
    have hbyte := UInt8.lt_iff_toNat_lt.mp hsmall
    have hlimit : (32 : UInt8).toNat = 32 := rfl
    obtain ⟨c, hc, hvalue⟩ := (htext.mem (by omega)).mp hmem
    rw [← UInt8.toNat_inj, ← UInt8.toNat_inj, ← UInt8.toNat_inj, ← hvalue]
    exact hchars c hc (by omega)

/-- What is documented is let through. -/
theorem HostString.Documented.accepted (h : text.Documented blank) :
    validateUtf8String text = .ok () := by
  obtain ⟨chars, hspells, c, hc, hlarge, -⟩ := h.printable
  exact validateUtf8String_ok.mpr ⟨h.nonempty, ⟨chars, hspells⟩, h.noNul, h.uncontrolled,
    hspells.printable.mpr ⟨c, hc, hlarge⟩⟩

theorem HostString.IsBlank.accepted (h : text.IsBlank blank) :
    validateUtf8String text = .ok () := by
  obtain ⟨chars, hspells, hprintable, hall⟩ := h.spelled
  obtain ⟨byte, hmem, hbyte⟩ := hspells.printable.mpr hprintable
  refine validateUtf8String_ok.mpr ⟨List.ne_nil_of_mem hmem, ⟨chars, hspells⟩, ?_,
    hspells.uncontrolled.mpr ?_, byte, hmem, hbyte⟩
  · intro hnul
    obtain ⟨c, hc, hzero⟩ := (hspells.mem (by decide)).mp hnul
    have hvalue : c.toNat = 0 := hzero
    have hcases := hall c hc
    omega
  · intro c hc hsmall
    have hcases := hall c hc
    omega

theorem HostString.IsBlank.not_documented (h : text.IsBlank blank) : ¬ text.Documented blank := by
  intro hdocumented
  obtain ⟨chars, hspells, -, hall⟩ := h.spelled
  obtain ⟨chars', hspells', c, hc, hlarge, hvisible⟩ := hdocumented.printable
  obtain rfl := hspells.unique hspells'
  rcases hall c hc with hcontrol | ⟨-, hblank⟩
  · omega
  · rw [hvisible] at hblank
    cases hblank

/-- The check agrees with its documentation just on the texts that are not blank, whatever
characters count as whitespace. -/
theorem metadata_text_documented_iff (blank : Char → Bool) (text : HostString) :
    (validateUtf8String text = .ok () ↔ text.Documented blank) ↔ ¬ text.IsBlank blank := by
  constructor
  · intro h hblank
    exact hblank.not_documented (h.mp hblank.accepted)
  · intro hvisible
    refine ⟨fun hok => ?_, HostString.Documented.accepted⟩
    obtain ⟨hne, ⟨chars, hspells⟩, hnul, hallowed, hlarge⟩ := validateUtf8String_ok.mp hok
    refine ⟨hne, hnul, hallowed, chars, hspells, ?_⟩
    by_contra hnone
    push Not at hnone
    refine hvisible ⟨chars, hspells, hspells.printable.mp hlarge, fun c hc => ?_⟩
    by_cases hsmall : c.toNat < 32
    · exact .inl (hspells.uncontrolled.mp hallowed c hc hsmall)
    · exact .inr ⟨by omega, by simpa using hnone c hc (by omega)⟩

end Documented

/-! ## Three spaces -/

/-- The characters with the Unicode property `White_Space`. -/
def isUnicodeWhitespace (c : Char) : Bool :=
  (9 ≤ c.toNat ∧ c.toNat ≤ 13) ∨ (0x2000 ≤ c.toNat ∧ c.toNat ≤ 0x200A) ∨
    c.toNat ∈ [0x20, 0x85, 0xA0, 0x1680, 0x2028, 0x2029, 0x202F, 0x205F, 0x3000]

private def threeSpaces : HostString := ⟨[32, 32, 32], by decide⟩

/-- Spaces alone are let through, although they hold nothing printable but whitespace. -/
theorem metadata_text_blank_accepted :
    ¬ (validateUtf8String threeSpaces = .ok () ↔
      threeSpaces.Documented isUnicodeWhitespace) := by
  have hspells : threeSpaces.Spells [' ', ' ', ' '] := by
    unfold HostString.Spells
    decide
  have hspace : ∀ c ∈ [' ', ' ', ' '], c = ' ' := by simp
  have hblank : threeSpaces.IsBlank isUnicodeWhitespace := by
    refine ⟨[' ', ' ', ' '], hspells, ⟨' ', List.mem_cons_self, by decide⟩, fun c hc => ?_⟩
    obtain rfl := hspace c hc
    exact .inr ⟨by decide, by decide⟩
  intro h
  exact hblank.not_documented (h.mp hblank.accepted)

end SubscriptionVault
