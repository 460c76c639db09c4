import MappingMarkers.Text.Utf8
import Mathlib.Data.List.Infix
import Mathlib.Tactic.SplitIfs

namespace MappingMarkers.Proofs.Utf8RoundTrip

open Text Utf8

section Characters

variable {position : Nat} {b : UInt8} {bytes : List UInt8} {u : Unfinished}

theorem decodeFrom_ascii (h : b.toNat < 0x80) :
    decodeFrom position none (b :: bytes) =
      (Char.ofNat b.toNat :: ·) <$> decodeFrom (position + 1) none bytes := by
  rw [decodeFrom, if_pos h]

theorem decodeFrom_begin (h : 0x80 ≤ b.toNat) (hbegin : begin? b position = some u) :
    decodeFrom position none (b :: bytes) = decodeFrom (position + 1) (some u) bytes := by
  rw [decodeFrom, if_neg (by omega), hbegin]

theorem decodeFrom_continue (h : u.low ≤ b.toNat ∧ b.toNat ≤ u.high) (hmissing : u.missing ≠ 1) :
    decodeFrom position (some u) (b :: bytes) =
      decodeFrom (position + 1)
        (some { first := u.first, start := u.start, count := u.count + 1,
                value := u.value * 64 + (b.toNat - 0x80), missing := u.missing - 1 }) bytes := by
  rw [decodeFrom, if_pos h]
  exact if_neg hmissing

theorem decodeFrom_finish (h : u.low ≤ b.toNat ∧ b.toNat ≤ u.high) (hmissing : u.missing = 1) :
    decodeFrom position (some u) (b :: bytes) =
      (Char.ofNat (u.value * 64 + (b.toNat - 0x80)) :: ·) <$>
        decodeFrom (position + 1) none bytes := by
  rw [decodeFrom, if_pos h]
  exact if_pos hmissing

theorem toNat_ofNat {n : Nat} (h : n < 256) : (UInt8.ofNat n).toNat = n :=
  UInt8.toNat_ofNat_of_lt' h

theorem lt_surrogate_or {c : Char} : c.toNat < 0xD800 ∨ 0xDFFF < c.toNat ∧ c.toNat < 0x110000 :=
  c.valid

theorem decodeFrom_two {n : Nat} (hlow : 0x80 ≤ n) (hhigh : n < 0x800) (position : Nat)
    (rest : List UInt8) :
    decodeFrom position none (.ofNat (0xC0 + n / 64) :: .ofNat (0x80 + n % 64) :: rest) =
      (Char.ofNat n :: ·) <$> decodeFrom (position + 2) none rest := by
  have hfirst : (UInt8.ofNat (0xC0 + n / 64)).toNat = 0xC0 + n / 64 := toNat_ofNat (by omega)
  have hlast : (UInt8.ofNat (0x80 + n % 64)).toNat = 0x80 + n % 64 := toNat_ofNat (by omega)
  have hbegin : begin? (.ofNat (0xC0 + n / 64)) position =
      some { first := .ofNat (0xC0 + n / 64), start := position, count := 1,
             value := 0xC0 + n / 64 - 0xC0, missing := 1 } := by
    simp only [begin?, hfirst]
    rw [if_neg (by omega), if_pos (by omega)]
  rw [decodeFrom_begin (by omega) hbegin, decodeFrom_finish (by rw [hlast]; dsimp only; omega) rfl,
    hlast]
  have hvalue : (0xC0 + n / 64 - 0xC0) * 64 + (0x80 + n % 64 - 0x80) = n := by omega
  rw [hvalue]

theorem decodeFrom_three {n : Nat} (hlow : 0x800 ≤ n) (hhigh : n < 0x10000)
    (hvalid : n < 0xD800 ∨ 0xDFFF < n) (position : Nat) (rest : List UInt8) :
    decodeFrom position none
        (.ofNat (0xE0 + n / 4096) :: .ofNat (0x80 + n / 64 % 64) :: .ofNat (0x80 + n % 64) ::
          rest) =
      (Char.ofNat n :: ·) <$> decodeFrom (position + 3) none rest := by
  have hfirst : (UInt8.ofNat (0xE0 + n / 4096)).toNat = 0xE0 + n / 4096 := toNat_ofNat (by omega)
  have hsecond : (UInt8.ofNat (0x80 + n / 64 % 64)).toNat = 0x80 + n / 64 % 64 :=
    toNat_ofNat (by omega)
  have hlast : (UInt8.ofNat (0x80 + n % 64)).toNat = 0x80 + n % 64 := toNat_ofNat (by omega)
  have hbegin : begin? (.ofNat (0xE0 + n / 4096)) position =
      some { first := .ofNat (0xE0 + n / 4096), start := position, count := 1,
             value := 0xE0 + n / 4096 - 0xE0, missing := 2,
             low := if 0xE0 + n / 4096 = 0xE0 then 0xA0 else 0x80,
             high := if 0xE0 + n / 4096 = 0xED then 0x9F else 0xBF } := by
    simp only [begin?, hfirst]
    rw [if_neg (by omega), if_neg (by omega), if_pos (by omega)]
  -- The narrower bounds leave out the long forms and the surrogates.
  rw [decodeFrom_begin (by omega) hbegin,
    decodeFrom_continue (by rw [hsecond]; dsimp only; split_ifs <;> omega) (by simp),
    decodeFrom_finish (by rw [hlast]; dsimp only; omega) rfl, hsecond, hlast]
  have hvalue : ((0xE0 + n / 4096 - 0xE0) * 64 + (0x80 + n / 64 % 64 - 0x80)) * 64 +
      (0x80 + n % 64 - 0x80) = n := by omega
  rw [hvalue]

theorem decodeFrom_four {n : Nat} (hlow : 0x10000 ≤ n) (hhigh : n < 0x110000) (position : Nat)
    (rest : List UInt8) :
    decodeFrom position none
        (.ofNat (0xF0 + n / 262144) :: .ofNat (0x80 + n / 4096 % 64) ::
          .ofNat (0x80 + n / 64 % 64) :: .ofNat (0x80 + n % 64) :: rest) =
      (Char.ofNat n :: ·) <$> decodeFrom (position + 4) none rest := by
  have hfirst : (UInt8.ofNat (0xF0 + n / 262144)).toNat = 0xF0 + n / 262144 :=
    toNat_ofNat (by omega)
  have hsecond : (UInt8.ofNat (0x80 + n / 4096 % 64)).toNat = 0x80 + n / 4096 % 64 :=
    toNat_ofNat (by omega)
  have hthird : (UInt8.ofNat (0x80 + n / 64 % 64)).toNat = 0x80 + n / 64 % 64 :=
    toNat_ofNat (by omega)
  have hlast : (UInt8.ofNat (0x80 + n % 64)).toNat = 0x80 + n % 64 := toNat_ofNat (by omega)
  have hbegin : begin? (.ofNat (0xF0 + n / 262144)) position =
      some { first := .ofNat (0xF0 + n / 262144), start := position, count := 1,
             value := 0xF0 + n / 262144 - 0xF0, missing := 3,
             low := if 0xF0 + n / 262144 = 0xF0 then 0x90 else 0x80,
             high := if 0xF0 + n / 262144 = 0xF4 then 0x8F else 0xBF } := by
    simp only [begin?, hfirst]
    rw [if_neg (by omega), if_neg (by omega), if_neg (by omega), if_pos (by omega)]
  rw [decodeFrom_begin (by omega) hbegin,
    decodeFrom_continue (by rw [hsecond]; dsimp only; split_ifs <;> omega) (by simp),
    decodeFrom_continue (by rw [hthird]; dsimp only; omega) (by simp),
    decodeFrom_finish (by rw [hlast]; dsimp only; omega) rfl, hsecond, hthird, hlast]
  have hvalue : (((0xF0 + n / 262144 - 0xF0) * 64 + (0x80 + n / 4096 % 64 - 0x80)) * 64 +
      (0x80 + n / 64 % 64 - 0x80)) * 64 + (0x80 + n % 64 - 0x80) = n := by omega
  rw [hvalue]

theorem decodeFrom_encodeChar (c : Char) (position : Nat) (rest : List UInt8) :
    decodeFrom position none (encodeChar c ++ rest) =
      (c :: ·) <$> decodeFrom (position + (encodeChar c).length) none rest := by
  have hvalid := lt_surrogate_or (c := c)
  have hc : Char.ofNat c.toNat = c := Char.ofNat_toNat c
  simp only [encodeChar]
  split_ifs with hone htwo hthree
  · rw [List.singleton_append, decodeFrom_ascii (by rw [toNat_ofNat (by omega)]; exact hone),
      toNat_ofNat (by omega), hc]
    rfl
  · have h := decodeFrom_two (n := c.toNat) (by omega) htwo position rest
    rw [hc] at h
    exact h
  · have h := decodeFrom_three (n := c.toNat) (by omega) hthree (by omega) position rest
    rw [hc] at h
    exact h
  · have h := decodeFrom_four (n := c.toNat) (by omega) (by omega) position rest
    rw [hc] at h
    exact h

end Characters

section Bytes

theorem toNat_char {n : Nat} (h : n < 0xD800 ∨ 0xDFFF < n ∧ n < 0x110000) :
    (Char.ofNat n).toNat = n := by
  rw [Char.ofNat, dif_pos (show n.isValidChar from h)]
  rfl

theorem encodeChar_two {n : Nat} (hlow : 0x80 ≤ n) (hhigh : n < 0x800) :
    encodeChar (Char.ofNat n) = [.ofNat (0xC0 + n / 64), .ofNat (0x80 + n % 64)] := by
  simp only [encodeChar, toNat_char (n := n) (by omega)]
  rw [if_neg (by omega), if_pos hhigh]

theorem encodeChar_three {n : Nat} (hlow : 0x800 ≤ n) (hhigh : n < 0x10000)
    (hvalid : n < 0xD800 ∨ 0xDFFF < n) :
    encodeChar (Char.ofNat n) =
      [.ofNat (0xE0 + n / 4096), .ofNat (0x80 + n / 64 % 64), .ofNat (0x80 + n % 64)] := by
  simp only [encodeChar, toNat_char (n := n) (by omega)]
  rw [if_neg (by omega), if_neg (by omega), if_pos hhigh]

theorem encodeChar_four {n : Nat} (hlow : 0x10000 ≤ n) (hhigh : n < 0x110000) :
    encodeChar (Char.ofNat n) =
      [.ofNat (0xF0 + n / 262144), .ofNat (0x80 + n / 4096 % 64), .ofNat (0x80 + n / 64 % 64),
        .ofNat (0x80 + n % 64)] := by
  simp only [encodeChar, toNat_char (n := n) (by omega)]
  rw [if_neg (by omega), if_neg (by omega), if_neg (by omega)]

theorem ofNat_eq {b : UInt8} {n : Nat} (h : n = b.toNat) : UInt8.ofNat n = b := by
  rw [h, UInt8.ofNat_toNat]

theorem exists_next_of_decodeFrom {position : Nat} {u : Unfinished} {bytes : List UInt8} {t : Text}
    (h : decodeFrom position (some u) bytes = .ok t) :
    ∃ b rest, bytes = b :: rest ∧ u.low ≤ b.toNat ∧ b.toNat ≤ u.high := by
  cases bytes with
  | nil => contradiction
  | cons b rest =>
      rw [decodeFrom] at h
      split_ifs at h with hbounds
      · exact ⟨b, rest, rfl, hbounds⟩
      · exact ⟨b, rest, rfl, hbounds⟩

theorem map_cons_eq_ok {c : Char} {read : Except DecodeError Text} {t : Text}
    (h : (c :: ·) <$> read = .ok t) : ∃ t', t = c :: t' ∧ read = .ok t' := by
  cases read with
  | error e => contradiction
  | ok t' => exact ⟨t', (Except.ok.inj h).symm, rfl⟩

/-- A byte begins a character of two, three or four bytes. The bounds on the byte after it leave no
other character, and no other way to write this one. -/
theorem begin?_cases {b : UInt8} {position : Nat} {u : Unfinished}
    (h : begin? b position = some u) :
    0x80 ≤ u.low ∧ u.high ≤ 0xBF ∧
      (0xC2 ≤ b.toNat ∧ b.toNat < 0xE0 ∧ u.missing = 1 ∧ u.value = b.toNat - 0xC0 ∨
        0xE0 ≤ b.toNat ∧ b.toNat < 0xF0 ∧ u.missing = 2 ∧ u.value = b.toNat - 0xE0 ∧
          (b.toNat = 0xE0 → 0xA0 ≤ u.low) ∧ (b.toNat = 0xED → u.high ≤ 0x9F) ∨
        0xF0 ≤ b.toNat ∧ b.toNat < 0xF5 ∧ u.missing = 3 ∧ u.value = b.toNat - 0xF0 ∧
          (b.toNat = 0xF0 → 0x90 ≤ u.low) ∧ (b.toNat = 0xF4 → u.high ≤ 0x8F)) := by
  simp only [begin?] at h
  split_ifs at h <;> obtain rfl := Option.some.inj h <;> dsimp only <;> omega

theorem exists_char_of_decodeFrom {position : Nat} {bytes : List UInt8} {t : Text}
    (hbytes : bytes ≠ []) (h : decodeFrom position none bytes = .ok t) :
    ∃ c t' position' rest, t = c :: t' ∧ bytes = encodeChar c ++ rest ∧
      decodeFrom position' none rest = .ok t' := by
  obtain ⟨b, bytes, rfl⟩ := List.exists_cons_of_ne_nil hbytes
  by_cases hone : b.toNat < 0x80
  · rw [decodeFrom_ascii hone] at h
    obtain ⟨t', rfl, hrest⟩ := map_cons_eq_ok h
    refine ⟨_, t', _, bytes, rfl, ?_, hrest⟩
    simp only [encodeChar, toNat_char (n := b.toNat) (by omega)]
    rw [if_pos hone, UInt8.ofNat_toNat]
    rfl
  cases hbegin : begin? b position with
  | none =>
      rw [decodeFrom, if_neg hone, hbegin] at h
      contradiction
  | some u =>
      rw [decodeFrom_begin (by omega) hbegin] at h
      obtain ⟨b₁, bytes, rfl, hbounds₁⟩ := exists_next_of_decodeFrom h
      obtain ⟨hlow, hhigh, ⟨hleast, hmost, hmissing, hvalue⟩ |
        ⟨hleast, hmost, hmissing, hvalue, hlong, hsurrogate⟩ |
        ⟨hleast, hmost, hmissing, hvalue, hlong, hlarge⟩⟩ := begin?_cases hbegin
      · rw [decodeFrom_finish hbounds₁ hmissing, hvalue] at h
        obtain ⟨t', rfl, hrest⟩ := map_cons_eq_ok h
        refine ⟨_, t', _, bytes, rfl, ?_, hrest⟩
        rw [encodeChar_two (by omega) (by omega), ofNat_eq (b := b) (by omega),
          ofNat_eq (b := b₁) (by omega)]
        rfl
      · rw [decodeFrom_continue hbounds₁ (by omega), hvalue, hmissing] at h
        obtain ⟨b₂, bytes, rfl, hbounds₂⟩ := exists_next_of_decodeFrom h
        rw [decodeFrom_finish hbounds₂ rfl] at h
        dsimp only at h hbounds₂
        obtain ⟨t', rfl, hrest⟩ := map_cons_eq_ok h
        refine ⟨_, t', _, bytes, rfl, ?_, hrest⟩
        rw [encodeChar_three (by omega) (by omega) (by omega), ofNat_eq (b := b) (by omega),
          ofNat_eq (b := b₁) (by omega), ofNat_eq (b := b₂) (by omega)]
        rfl
      · rw [decodeFrom_continue hbounds₁ (by omega), hvalue, hmissing] at h
        obtain ⟨b₂, bytes, rfl, hbounds₂⟩ := exists_next_of_decodeFrom h
        rw [decodeFrom_continue hbounds₂ (by simp)] at h
        obtain ⟨b₃, bytes, rfl, hbounds₃⟩ := exists_next_of_decodeFrom h
        rw [decodeFrom_finish hbounds₃ rfl] at h
        dsimp only at h hbounds₂ hbounds₃
        obtain ⟨t', rfl, hrest⟩ := map_cons_eq_ok h
        refine ⟨_, t', _, bytes, rfl, ?_, hrest⟩
        rw [encodeChar_four (by omega) (by omega), ofNat_eq (b := b) (by omega),
          ofNat_eq (b := b₁) (by omega), ofNat_eq (b := b₂) (by omega),
          ofNat_eq (b := b₃) (by omega)]
        rfl

end Bytes

section Texts

theorem encode_cons (c : Char) (t : Text) : encode (c :: t) = encodeChar c ++ encode t :=
  List.flatMap_cons

theorem decodeFrom_encode (t : Text) (position : Nat) :
    decodeFrom position none (encode t) = .ok t := by
  induction t generalizing position with
  | nil => rfl
  | cons c t ih =>
      rw [encode_cons, decodeFrom_encodeChar, ih]
      rfl

theorem eq_encode_of_decodeFrom {position : Nat} {bytes : List UInt8} {t : Text}
    (h : decodeFrom position none bytes = .ok t) : bytes = encode t := by
  induction t generalizing position bytes with
  | nil =>
      cases bytes with
      | nil => rfl
      | cons b bytes =>
          obtain ⟨c, t', _, _, ht, -⟩ := exists_char_of_decodeFrom (List.cons_ne_nil b bytes) h
          contradiction
  | cons c t ih =>
      have hbytes : bytes ≠ [] := by
        rintro rfl
        exact List.cons_ne_nil c t (Except.ok.inj h).symm
      obtain ⟨c', t', position', rest, ht, rfl, hrest⟩ := exists_char_of_decodeFrom hbytes h
      obtain ⟨rfl, rfl⟩ := List.cons.inj ht
      rw [encode_cons, ih hrest]

/-- Bytes are read as the text that they are written for, and as no other. -/
theorem decode_eq_ok_iff {bytes : List UInt8} {t : Text} :
    decode bytes = .ok t ↔ bytes = encode t := by
  refine ⟨eq_encode_of_decodeFrom, ?_⟩
  rintro rfl
  exact decodeFrom_encode t 0

theorem decode_encode (t : Text) : decode (encode t) = .ok t :=
  decode_eq_ok_iff.mpr rfl

end Texts

section Marks

/-- The character that is written as the byte order mark. -/
def mark : Char := '\uFEFF'

theorem encode_mark_cons (t : Text) : encode (mark :: t) = byteOrderMark ++ encode t := by
  have hmark : encodeChar mark = byteOrderMark := by decide
  rw [encode_cons, hmark]

/-- A text without the mark that it may begin with. -/
def unmarked (t : Text) : Text := if t.head? = some mark then t.tail else t

theorem unmarked_mark_cons (t : Text) : unmarked (mark :: t) = t := if_pos rfl

def withMark (bytes : List UInt8) : List UInt8 :=
  if byteOrderMark <+: bytes then bytes else byteOrderMark ++ bytes

theorem mark_prefix_encode_iff {t : Text} : byteOrderMark <+: encode t ↔ t.head? = some mark := by
  constructor
  · rintro ⟨rest, hrest⟩
    have hread : decodeFrom 0 none (encodeChar mark ++ rest) = .ok t :=
      decode_eq_ok_iff.mpr hrest
    rw [decodeFrom_encodeChar] at hread
    obtain ⟨t', rfl, -⟩ := map_cons_eq_ok hread
    rfl
  · intro h
    obtain ⟨t', rfl⟩ := List.head?_eq_some_iff.mp h
    rw [encode_mark_cons]
    exact List.prefix_append _ _

theorem decodeFile_mark_append (bytes : List UInt8) :
    decodeFile (byteOrderMark ++ bytes) = decode bytes := by
  rw [decodeFile, if_pos (List.isPrefixOf_iff_prefix.mpr (List.prefix_append _ _))]
  rfl

theorem eq_nil_of_prefix_mark {t : Text} (h : encode t <+: byteOrderMark)
    (hmark : t.head? ≠ some mark) : t = [] := by
  cases t with
  | nil => rfl
  | cons c t =>
      have hmem := (List.mem_inits _ _).mpr h
      have hread := decode_encode (c :: t)
      rw [show byteOrderMark.inits = [[], [0xEF], [0xEF, 0xBB], byteOrderMark] from rfl] at hmem
      simp only [List.mem_cons, List.not_mem_nil, or_false] at hmem
      obtain hnil | hpart | hpart | hwhole := hmem
      · rw [hnil] at hread
        exact absurd (Except.ok.inj hread).symm (List.cons_ne_nil c t)
      · rw [hpart] at hread
        contradiction
      · rw [hpart] at hread
        contradiction
      · exact absurd (mark_prefix_encode_iff.mp ⟨[], by rw [hwhole, List.append_nil]⟩) hmark

theorem decodeFile_encode (t : Text) : decodeFile (encode t) = .ok (unmarked t) := by
  by_cases hmark : t.head? = some mark
  · obtain ⟨t', rfl⟩ := List.head?_eq_some_iff.mp hmark
    rw [encode_mark_cons, decodeFile_mark_append, decode_encode, unmarked_mark_cons]
  have hwhole : ¬ byteOrderMark.isPrefixOf (encode t) = true := by
    rwa [List.isPrefixOf_iff_prefix, mark_prefix_encode_iff]
  rw [decodeFile, if_neg hwhole, unmarked, if_neg hmark]
  split_ifs with hpart
  · rw [eq_nil_of_prefix_mark (List.isPrefixOf_iff_prefix.mp hpart) hmark]
  · exact decode_encode t

theorem decodeFile_withMark (t : Text) :
    decodeFile (withMark (encode t)) = .ok (unmarked t) := by
  rw [withMark]
  split_ifs with hmark
  · exact decodeFile_encode t
  · rw [mark_prefix_encode_iff] at hmark
    rw [decodeFile_mark_append, decode_encode, unmarked, if_neg hmark]

end Marks

end MappingMarkers.Proofs.Utf8RoundTrip
