import Mathlib.Tactic.SplitIfs
import Rulebook.Text.Utf8

/-!
UTF-8 in both directions: a byte sequence is the encoding of a text exactly if no part of it is
broken, and then the text is what it decodes to.
-/

namespace Rulebook.Text.Utf8

namespace Decoder

variable {found : List (Option Char)} {b : UInt8}

/-! ## The first byte of a character -/

/-- The same with numbers in the place of bytes. -/
theorem begin_eq (found : List (Option Char)) (b : UInt8) : begin found b =
    if b.toNat < 0x80 then ⟨some (Char.ofNat b.toNat) :: found, none⟩
    else if b.toNat < 0xC2 then ⟨none :: found, none⟩
    else if b.toNat < 0xE0 then ⟨found, some ⟨b.toNat % 32, 1, 0x80, 0xBF⟩⟩
    else if b.toNat = 0xE0 then ⟨found, some ⟨b.toNat % 16, 2, 0xA0, 0xBF⟩⟩
    else if b.toNat = 0xED then ⟨found, some ⟨b.toNat % 16, 2, 0x80, 0x9F⟩⟩
    else if b.toNat < 0xF0 then ⟨found, some ⟨b.toNat % 16, 2, 0x80, 0xBF⟩⟩
    else if b.toNat = 0xF0 then ⟨found, some ⟨b.toNat % 8, 3, 0x90, 0xBF⟩⟩
    else if b.toNat < 0xF4 then ⟨found, some ⟨b.toNat % 8, 3, 0x80, 0xBF⟩⟩
    else if b.toNat = 0xF4 then ⟨found, some ⟨b.toNat % 8, 3, 0x80, 0x8F⟩⟩
    else ⟨none :: found, none⟩ := by
  simp only [begin, UInt8.lt_iff_toNat_lt, ← UInt8.toNat_inj, UInt8.reduceToNat]

theorem begin_one (h : b.toNat < 0x80) :
    begin found b = ⟨some (Char.ofNat b.toNat) :: found, none⟩ := by
  rw [begin_eq, if_pos h]

theorem begin_two (h : 0xC2 ≤ b.toNat ∧ b.toNat < 0xE0) :
    begin found b = ⟨found, some ⟨b.toNat % 32, 1, 0x80, 0xBF⟩⟩ := by
  rw [begin_eq, if_neg (by omega), if_neg (by omega), if_pos h.2]

/-- The least second byte of three leaves out longer forms. -/
def lowOfThree (b : UInt8) : UInt8 := if b.toNat = 0xE0 then 0xA0 else 0x80

/-- The greatest second byte of three leaves out surrogates. -/
def highOfThree (b : UInt8) : UInt8 := if b.toNat = 0xED then 0x9F else 0xBF

def lowOfFour (b : UInt8) : UInt8 := if b.toNat = 0xF0 then 0x90 else 0x80

def highOfFour (b : UInt8) : UInt8 := if b.toNat = 0xF4 then 0x8F else 0xBF

theorem begin_three (h : 0xE0 ≤ b.toNat ∧ b.toNat < 0xF0) :
    begin found b = ⟨found, some ⟨b.toNat % 16, 2, lowOfThree b, highOfThree b⟩⟩ := by
  rw [begin_eq, if_neg (by omega), if_neg (by omega), if_neg (by omega)]
  unfold lowOfThree highOfThree
  by_cases hlow : b.toNat = 0xE0
  · rw [if_pos hlow, if_pos hlow, if_neg (by omega)]
  by_cases hhigh : b.toNat = 0xED
  · rw [if_neg hlow, if_neg hlow, if_pos hhigh, if_pos hhigh]
  · rw [if_neg hlow, if_neg hlow, if_neg hhigh, if_neg hhigh, if_pos h.2]

theorem begin_four (h : 0xF0 ≤ b.toNat ∧ b.toNat ≤ 0xF4) :
    begin found b = ⟨found, some ⟨b.toNat % 8, 3, lowOfFour b, highOfFour b⟩⟩ := by
  rw [begin_eq, if_neg (by omega), if_neg (by omega), if_neg (by omega), if_neg (by omega),
    if_neg (by omega), if_neg (by omega)]
  unfold lowOfFour highOfFour
  by_cases hlow : b.toNat = 0xF0
  · rw [if_pos hlow, if_pos hlow, if_neg (by omega)]
  by_cases hhigh : b.toNat = 0xF4
  · rw [if_neg hlow, if_neg hlow, if_neg (by omega), if_pos hhigh, if_pos hhigh]
  · rw [if_neg hlow, if_neg hlow, if_pos (by omega), if_neg hhigh]

theorem begin_other (h : (0x80 ≤ b.toNat ∧ b.toNat < 0xC2) ∨ 0xF4 < b.toNat) :
    begin found b = ⟨none :: found, none⟩ := by
  rcases h with h | h
  · rw [begin_eq, if_neg (by omega), if_pos h.2]
  · rw [begin_eq, if_neg (by omega), if_neg (by omega), if_neg (by omega), if_neg (by omega),
      if_neg (by omega), if_neg (by omega), if_neg (by omega), if_neg (by omega),
      if_neg (by omega)]

/-! ## The other bytes -/

theorem next_none (b : UInt8) : next ⟨found, none⟩ b = begin found b := rfl

theorem next_last {bits missing : Nat} {low high : UInt8} (hmissing : missing ≤ 1)
    (h : low.toNat ≤ b.toNat ∧ b.toNat ≤ high.toNat) :
    next ⟨found, some ⟨bits, missing, low, high⟩⟩ b =
      ⟨some (Char.ofNat (bits * 64 + b.toNat % 64)) :: found, none⟩ := by
  have hb : low ≤ b ∧ b ≤ high := ⟨UInt8.le_iff_toNat_le.2 h.1, UInt8.le_iff_toNat_le.2 h.2⟩
  exact (if_pos hb).trans (if_pos hmissing)

theorem next_more {bits missing : Nat} {low high : UInt8}
    (h : low.toNat ≤ b.toNat ∧ b.toNat ≤ high.toNat) :
    next ⟨found, some ⟨bits, missing + 2, low, high⟩⟩ b =
      ⟨found, some ⟨bits * 64 + b.toNat % 64, missing + 1, 0x80, 0xBF⟩⟩ := by
  have hb : low ≤ b ∧ b ≤ high := ⟨UInt8.le_iff_toNat_le.2 h.1, UInt8.le_iff_toNat_le.2 h.2⟩
  have hmissing : ¬ missing + 2 ≤ 1 := by omega
  exact (if_pos hb).trans (if_neg hmissing)

theorem next_last_plain {bits : Nat} (h : 0x80 ≤ b.toNat ∧ b.toNat ≤ 0xBF) :
    next ⟨found, some ⟨bits, 1, 0x80, 0xBF⟩⟩ b =
      ⟨some (Char.ofNat (bits * 64 + b.toNat % 64)) :: found, none⟩ :=
  next_last (Nat.le_refl 1) h

theorem next_more_plain {bits missing : Nat} (h : 0x80 ≤ b.toNat ∧ b.toNat ≤ 0xBF) :
    next ⟨found, some ⟨bits, missing + 2, 0x80, 0xBF⟩⟩ b =
      ⟨found, some ⟨bits * 64 + b.toNat % 64, missing + 1, 0x80, 0xBF⟩⟩ :=
  next_more h

/-! ## The forms of characters -/

/-- `Form bytes v`: the bytes have the form of one character, and `v` is what its bits say. -/
inductive Form : List UInt8 → Nat → Prop
  | one {b : UInt8} (hb : b.toNat < 0x80) : Form [b] b.toNat
  | two {b d : UInt8} (hb : 0xC2 ≤ b.toNat ∧ b.toNat < 0xE0)
      (hd : 0x80 ≤ d.toNat ∧ d.toNat ≤ 0xBF) :
      Form [b, d] (b.toNat % 32 * 64 + d.toNat % 64)
  | three {b d e : UInt8} (hb : 0xE0 ≤ b.toNat ∧ b.toNat < 0xF0)
      (hd : (lowOfThree b).toNat ≤ d.toNat ∧ d.toNat ≤ (highOfThree b).toNat)
      (he : 0x80 ≤ e.toNat ∧ e.toNat ≤ 0xBF) :
      Form [b, d, e] ((b.toNat % 16 * 64 + d.toNat % 64) * 64 + e.toNat % 64)
  | four {b d e f : UInt8} (hb : 0xF0 ≤ b.toNat ∧ b.toNat ≤ 0xF4)
      (hd : (lowOfFour b).toNat ≤ d.toNat ∧ d.toNat ≤ (highOfFour b).toNat)
      (he : 0x80 ≤ e.toNat ∧ e.toNat ≤ 0xBF) (hf : 0x80 ≤ f.toNat ∧ f.toNat ≤ 0xBF) :
      Form [b, d, e, f]
        (((b.toNat % 8 * 64 + d.toNat % 64) * 64 + e.toNat % 64) * 64 + f.toNat % 64)

/-- What the second byte of three leaves out, in numbers. -/
theorem second_of_three {b d : UInt8} :
    (lowOfThree b).toNat ≤ d.toNat ∧ d.toNat ≤ (highOfThree b).toNat ↔
      0x80 ≤ d.toNat ∧ d.toNat ≤ 0xBF ∧ (b.toNat = 0xE0 → 0xA0 ≤ d.toNat) ∧
        (b.toNat = 0xED → d.toNat ≤ 0x9F) := by
  unfold lowOfThree highOfThree
  split_ifs <;> simp only [UInt8.reduceToNat] <;> omega

/-- What the second byte of four leaves out, in numbers. -/
theorem second_of_four {b d : UInt8} :
    (lowOfFour b).toNat ≤ d.toNat ∧ d.toNat ≤ (highOfFour b).toNat ↔
      0x80 ≤ d.toNat ∧ d.toNat ≤ 0xBF ∧ (b.toNat = 0xF0 → 0x90 ≤ d.toNat) ∧
        (b.toNat = 0xF4 → d.toNat ≤ 0x8F) := by
  unfold lowOfFour highOfFour
  split_ifs <;> simp only [UInt8.reduceToNat] <;> omega

theorem toNat_ofNat_of_lt {n : Nat} (h : n < 256) : (UInt8.ofNat n).toNat = n := by
  rw [UInt8.toNat_ofNat']
  omega

theorem ofNat_eq_of_toNat {n : Nat} {b : UInt8} (h : n = b.toNat) : UInt8.ofNat n = b := by
  rw [h, UInt8.ofNat_toNat]

theorem toNat_ofNat_char {n : Nat} (h : n < 0xD800 ∨ 0xDFFF < n ∧ n < 0x110000) :
    (Char.ofNat n).val.toNat = n := by
  have hn : n.isValidChar := h
  rw [Char.ofNat, dif_pos hn]
  rfl

section Forms

variable {bytes : List UInt8} {v : Nat}

theorem Form.foldl_next (h : Form bytes v) :
    bytes.foldl next ⟨found, none⟩ = ⟨some (Char.ofNat v) :: found, none⟩ := by
  cases h with
  | one hb =>
    rw [List.foldl_cons, next_none, begin_one hb]
    rfl
  | two hb hd =>
    rw [List.foldl_cons, next_none, begin_two hb, List.foldl_cons, next_last_plain hd]
    rfl
  | three hb hd he =>
    rw [List.foldl_cons, next_none, begin_three hb, List.foldl_cons, next_more hd, List.foldl_cons,
      next_last_plain he]
    rfl
  | four hb hd he hf =>
    rw [List.foldl_cons, next_none, begin_four hb, List.foldl_cons, next_more hd, List.foldl_cons,
      next_more_plain he, List.foldl_cons, next_last_plain hf]
    rfl

theorem Form.utf8EncodeChar (h : Form bytes v) : String.utf8EncodeChar (Char.ofNat v) = bytes := by
  rw [String.utf8EncodeChar]
  cases h with
  | one hb => rw [toNat_ofNat_char (by omega), if_pos (by omega), UInt8.ofNat_toNat]
  | @two b d hb hd =>
    rw [toNat_ofNat_char (by omega), if_neg (by omega), if_pos (by omega),
      ofNat_eq_of_toNat (b := b) (by omega), ofNat_eq_of_toNat (b := d) (by omega)]
  | @three b d e hb hd he =>
    obtain ⟨hlow, hhigh, hshort, hsurrogate⟩ := second_of_three.1 hd
    clear hd
    rw [toNat_ofNat_char (by omega), if_neg (by omega), if_neg (by omega), if_pos (by omega),
      ofNat_eq_of_toNat (b := b) (by omega), ofNat_eq_of_toNat (b := d) (by omega),
      ofNat_eq_of_toNat (b := e) (by omega)]
  | @four b d e f hb hd he hf =>
    obtain ⟨hlow, hhigh, hshort, hlarge⟩ := second_of_four.1 hd
    clear hd
    rw [toNat_ofNat_char (by omega), if_neg (by omega), if_neg (by omega), if_neg (by omega),
      ofNat_eq_of_toNat (b := b) (by omega), ofNat_eq_of_toNat (b := d) (by omega),
      ofNat_eq_of_toNat (b := e) (by omega), ofNat_eq_of_toNat (b := f) (by omega)]

theorem form_utf8EncodeChar (c : Char) : Form (String.utf8EncodeChar c) c.val.toNat := by
  have hvalid : c.val.toNat < 0xD800 ∨ 0xDFFF < c.val.toNat ∧ c.val.toNat < 0x110000 := c.valid
  rw [String.utf8EncodeChar]
  generalize c.val.toNat = v at hvalid
  -- The bounds that choose the length keep every byte below 256, so no bits are lost.
  split_ifs with h1 h2 h3
  · have hb : (UInt8.ofNat v).toNat = v := toNat_ofNat_of_lt (by omega)
    generalize UInt8.ofNat v = b at hb
    subst hb
    exact .one (by omega)
  · have hb : (UInt8.ofNat (v / 64 % 32 + 192)).toNat = v / 64 + 192 := by
      rw [toNat_ofNat_of_lt (by omega)]
      omega
    have hd : (UInt8.ofNat (v % 64 + 128)).toNat = v % 64 + 128 := toNat_ofNat_of_lt (by omega)
    generalize UInt8.ofNat (v / 64 % 32 + 192) = b at hb
    generalize UInt8.ofNat (v % 64 + 128) = d at hd
    obtain rfl : v = b.toNat % 32 * 64 + d.toNat % 64 := by omega
    exact .two (by omega) (by omega)
  · have hb : (UInt8.ofNat (v / 4096 % 16 + 224)).toNat = v / 4096 + 224 := by
      rw [toNat_ofNat_of_lt (by omega)]
      omega
    have hd : (UInt8.ofNat (v / 64 % 64 + 128)).toNat = v / 64 % 64 + 128 :=
      toNat_ofNat_of_lt (by omega)
    have he : (UInt8.ofNat (v % 64 + 128)).toNat = v % 64 + 128 := toNat_ofNat_of_lt (by omega)
    generalize UInt8.ofNat (v / 4096 % 16 + 224) = b at hb
    generalize UInt8.ofNat (v / 64 % 64 + 128) = d at hd
    generalize UInt8.ofNat (v % 64 + 128) = e at he
    have hsecond := second_of_three.2 (show 0x80 ≤ d.toNat ∧ d.toNat ≤ 0xBF ∧
      (b.toNat = 0xE0 → 0xA0 ≤ d.toNat) ∧ (b.toNat = 0xED → d.toNat ≤ 0x9F) by omega)
    have hv : v = (b.toNat % 16 * 64 + d.toNat % 64) * 64 + e.toNat % 64 := by omega
    rw [hv]
    exact .three (by omega) hsecond (by omega)
  · have hb : (UInt8.ofNat (v / 262144 % 8 + 240)).toNat = v / 262144 + 240 := by
      rw [toNat_ofNat_of_lt (by omega)]
      omega
    have hd : (UInt8.ofNat (v / 4096 % 64 + 128)).toNat = v / 4096 % 64 + 128 :=
      toNat_ofNat_of_lt (by omega)
    have he : (UInt8.ofNat (v / 64 % 64 + 128)).toNat = v / 64 % 64 + 128 :=
      toNat_ofNat_of_lt (by omega)
    have hf : (UInt8.ofNat (v % 64 + 128)).toNat = v % 64 + 128 := toNat_ofNat_of_lt (by omega)
    generalize UInt8.ofNat (v / 262144 % 8 + 240) = b at hb
    generalize UInt8.ofNat (v / 4096 % 64 + 128) = d at hd
    generalize UInt8.ofNat (v / 64 % 64 + 128) = e at he
    generalize UInt8.ofNat (v % 64 + 128) = f at hf
    have hsecond := second_of_four.2 (show 0x80 ≤ d.toNat ∧ d.toNat ≤ 0xBF ∧
      (b.toNat = 0xF0 → 0x90 ≤ d.toNat) ∧ (b.toNat = 0xF4 → d.toNat ≤ 0x8F) by omega)
    have hv : v = ((b.toNat % 8 * 64 + d.toNat % 64) * 64 + e.toNat % 64) * 64 + f.toNat % 64 := by
      omega
    rw [hv]
    exact .four (by omega) hsecond (by omega) (by omega)

end Forms

/-! ## Characters that have begun -/

/-- `Begun pending bytes`: after `bytes`, which are no whole character yet, the decoder waits for
what `pending` says. -/
inductive Begun : Option Pending → List UInt8 → Prop
  | nothing : Begun none []
  | two {b : UInt8} (h : 0xC2 ≤ b.toNat ∧ b.toNat < 0xE0) :
      Begun (some ⟨b.toNat % 32, 1, 0x80, 0xBF⟩) [b]
  | three {b : UInt8} (h : 0xE0 ≤ b.toNat ∧ b.toNat < 0xF0) :
      Begun (some ⟨b.toNat % 16, 2, lowOfThree b, highOfThree b⟩) [b]
  | four {b : UInt8} (h : 0xF0 ≤ b.toNat ∧ b.toNat ≤ 0xF4) :
      Begun (some ⟨b.toNat % 8, 3, lowOfFour b, highOfFour b⟩) [b]
  | more {bits missing : Nat} {low high b : UInt8} {bytes : List UInt8}
      (begun : Begun (some ⟨bits, missing + 2, low, high⟩) bytes)
      (h : low.toNat ≤ b.toNat ∧ b.toNat ≤ high.toNat) :
      Begun (some ⟨bits * 64 + b.toNat % 64, missing + 1, 0x80, 0xBF⟩) (bytes ++ [b])

theorem Begun.missing_le {p : Pending} {bytes : List UInt8} (h : Begun (some p) bytes) :
    p.missing ≤ 3 := by
  generalize hp : some p = pending at h
  induction h generalizing p with
  | nothing => cases hp
  | two | three | four => cases hp; simp
  | more _ _ ih =>
    cases hp
    have := ih rfl
    simp only at this ⊢
    omega

/-- The last byte finishes a form. -/
theorem Begun.form {bits : Nat} {low high b : UInt8} {bytes : List UInt8}
    (h : Begun (some ⟨bits, 1, low, high⟩) bytes)
    (hb : low.toNat ≤ b.toNat ∧ b.toNat ≤ high.toNat) :
    Form (bytes ++ [b]) (bits * 64 + b.toNat % 64) := by
  cases h with
  | two h => exact .two h hb
  | more h hd =>
    cases h with
    | three h => exact .three h hd hb
    | more h hc =>
      -- Three bytes at most are missing, so there is no fourth step back.
      cases h with
      | four h => exact .four h hc hd hb
      | more h _ =>
        have := h.missing_le
        simp only at this
        omega

/-- What the decoder has found, if nothing is broken, are the characters whose encoding it has
read; the bytes after it have begun another one. -/
def Holds (d : Decoder) (bytes : List UInt8) : Prop :=
  ∀ chars : List Char, d.found = chars.map some →
    ∃ rest, bytes = chars.reverse.flatMap String.utf8EncodeChar ++ rest ∧ Begun d.pending rest

theorem holds_broken {pending : Option Pending} {bytes : List UInt8} :
    Holds ⟨none :: found, pending⟩ bytes := by
  intro chars h
  cases chars <;> cases h

/-- A whole character leaves nothing begun. -/
theorem holds_char {bytes : List UInt8} {c : Char}
    (h : ∀ chars : List Char, found = chars.map some →
      bytes = chars.reverse.flatMap String.utf8EncodeChar ++ String.utf8EncodeChar c) :
    Holds ⟨some c :: found, none⟩ bytes := by
  intro chars hchars
  obtain ⟨_, chars', rfl, hc, hfound⟩ := List.map_eq_cons_iff.1 hchars.symm
  cases hc
  refine ⟨[], ?_, .nothing⟩
  simp [h chars' hfound.symm]

theorem holds_begin {bytes : List UInt8} (h : Holds ⟨found, none⟩ bytes) (b : UInt8) :
    Holds (begin found b) (bytes ++ [b]) := by
  -- Nothing has begun, so all the bytes belong to whole characters.
  have whole : ∀ chars : List Char, found = chars.map some →
      bytes = chars.reverse.flatMap String.utf8EncodeChar := by
    intro chars hchars
    obtain ⟨rest, hbytes, begun⟩ := h chars hchars
    cases begun
    simpa using hbytes
  have first {p : Pending} (begun : Begun (some p) [b]) : Holds ⟨found, some p⟩ (bytes ++ [b]) :=
    fun chars hchars => ⟨[b], by rw [whole chars hchars], begun⟩
  by_cases h0 : b.toNat < 0x80
  · rw [begin_one h0]
    exact holds_char fun chars hchars => by rw [whole chars hchars, (Form.one h0).utf8EncodeChar]
  by_cases h1 : 0xC2 ≤ b.toNat ∧ b.toNat < 0xE0
  · rw [begin_two h1]
    exact first (.two h1)
  by_cases h2 : 0xE0 ≤ b.toNat ∧ b.toNat < 0xF0
  · rw [begin_three h2]
    exact first (.three h2)
  by_cases h3 : 0xF0 ≤ b.toNat ∧ b.toNat ≤ 0xF4
  · rw [begin_four h3]
    exact first (.four h3)
  · rw [begin_other (by omega)]
    exact holds_broken

theorem Begun.missing_pos {p : Pending} {bytes : List UInt8} (h : Begun (some p) bytes) :
    0 < p.missing := by
  cases h <;> simp

theorem holds_next {d : Decoder} {bytes : List UInt8} (h : Holds d bytes) (b : UInt8) :
    Holds (next d b) (bytes ++ [b]) := by
  obtain ⟨found, _ | ⟨bits, missing, low, high⟩⟩ := d
  · exact holds_begin h b
  -- The byte finishes the character that has begun, goes on with it, or leaves it broken.
  by_cases hb : low.toNat ≤ b.toNat ∧ b.toNat ≤ high.toNat
  · by_cases hmissing : missing ≤ 1
    · rw [next_last hmissing hb]
      refine holds_char fun chars hchars => ?_
      obtain ⟨rest, hbytes, begun⟩ := h chars hchars
      have hone : missing = 1 := Nat.le_antisymm hmissing begun.missing_pos
      subst hone
      rw [(begun.form hb).utf8EncodeChar, hbytes, List.append_assoc]
    · obtain ⟨missing, rfl⟩ := Nat.exists_eq_add_of_le' (Nat.lt_of_not_le hmissing)
      rw [next_more hb]
      intro chars hchars
      obtain ⟨rest, hbytes, begun⟩ := h chars hchars
      exact ⟨rest ++ [b], by rw [hbytes, List.append_assoc], .more begun hb⟩
  · have hnext : next ⟨found, some ⟨bits, missing, low, high⟩⟩ b = begin (none :: found) b := by
      exact if_neg fun h => hb ⟨UInt8.le_iff_toNat_le.1 h.1, UInt8.le_iff_toNat_le.1 h.2⟩
    rw [hnext]
    exact holds_begin holds_broken b

theorem holds_foldl {d : Decoder} {read : List UInt8} (h : Holds d read) (bytes : List UInt8) :
    Holds (bytes.foldl next d) (read ++ bytes) := by
  induction bytes generalizing d read with
  | nil => rwa [List.append_nil]
  | cons b bytes ih =>
    rw [List.append_cons]
    exact ih (holds_next h b)

theorem holds_idle : Holds idle [] := by
  intro chars h
  cases chars with
  | nil => exact ⟨[], rfl, .nothing⟩
  | cons c chars => cases h

end Decoder

/-! ## Both directions -/

@[simp] theorem parts_flatMap_utf8EncodeChar (chars : List Char) :
    parts (chars.flatMap String.utf8EncodeChar) = chars.map some := by
  have go (found : List (Option Char)) :
      (chars.flatMap String.utf8EncodeChar).foldl Decoder.next ⟨found, none⟩ =
        ⟨(chars.map some).reverse ++ found, none⟩ := by
    induction chars generalizing found with
    | nil => rfl
    | cons c chars ih =>
      have hc := @Decoder.Form.foldl_next found _ _ (Decoder.form_utf8EncodeChar c)
      have hchar : Char.ofNat c.val.toNat = c := Char.ofNat_toNat c
      rw [hchar] at hc
      rw [List.flatMap_cons, List.foldl_append, hc, ih]
      simp
  rw [parts, Decoder.idle, go []]
  simp [Decoder.finish]

theorem flatMap_utf8EncodeChar_of_parts {bytes : List UInt8} {chars : List Char}
    (h : parts bytes = chars.map some) : chars.flatMap String.utf8EncodeChar = bytes := by
  have holds := Decoder.holds_foldl Decoder.holds_idle bytes
  rw [parts, Decoder.finish] at h
  revert h
  cases hpending : (bytes.foldl Decoder.next Decoder.idle).pending with
  | none =>
    intro h
    obtain ⟨rest, hbytes, begun⟩ := holds chars.reverse (by
      rw [List.map_reverse, ← h, List.reverse_reverse])
    rw [hpending] at begun
    cases begun
    rw [← List.nil_append bytes, hbytes, List.reverse_reverse, List.append_nil]
  | some p =>
    -- A character left unfinished is a broken part.
    intro h
    have : none ∈ chars.map some := by
      rw [← h]; simp
    simp at this

theorem map_some_filterMap_id {found : List (Option Char)} (h : found.all Option.isSome) :
    (found.filterMap id).map some = found := by
  induction found with
  | nil => rfl
  | cons c found ih =>
    obtain ⟨hc, hfound⟩ := Bool.and_eq_true_iff.1 (List.all_cons ▸ h)
    obtain ⟨c, rfl⟩ := Option.isSome_iff_exists.1 hc
    rw [List.filterMap_cons_some (f := id) rfl, List.map_cons, ih hfound]

/-- A byte sequence decodes to a text exactly if it is the encoding of the text. -/
theorem decode?_eq_some_iff {bytes : List UInt8} {s : String} :
    decode? bytes = some s ↔ encode s = bytes := by
  constructor
  · intro h
    simp only [decode?] at h
    split_ifs at h with hall
    cases h
    rw [encode, String.toList_ofList]
    exact flatMap_utf8EncodeChar_of_parts (map_some_filterMap_id hall).symm
  · rintro rfl
    rw [decode?, encode, parts_flatMap_utf8EncodeChar]
    simp

@[simp] theorem decode?_encode (s : String) : decode? (encode s) = some s :=
  decode?_eq_some_iff.2 rfl

theorem encode_injective : Function.Injective encode := by
  intro s t h
  have := decode?_encode s
  rw [h, decode?_encode] at this
  exact (Option.some.inj this).symm

theorem byteCount_eq (s : String) : byteCount s = (encode s).length := by
  unfold byteCount encode
  induction s using String.push_induction with
  | empty => rfl
  | push s c ih =>
    rw [String.utf8ByteSize_push, ih, String.toList_push, List.flatMap_append, List.length_append,
      List.flatMap_singleton, String.length_utf8EncodeChar]

end Rulebook.Text.Utf8
