import Mathlib.Data.List.Basic
import Mathlib.Tactic.SplitIfs

/-!
# Bytes of a text

A text is held in bytes: a character below 128 in one byte of its own number, any other in several,
the first of which is not below 128. So a text whose characters are all below 128 can be told from
its bytes, and any byte offset in it lies between two characters.

## Main definitions

* `bytesOf`, `pieceOf?` — the bytes of a text, and a piece cut out of it by byte offsets.

## Main results

* `bytesOf_of_lt`, `toList_of_bytesOf_lt` — a byte for each character, a character for each byte.
* `pieceOf?_of_lt` — pieces of a text in which every character is one byte.
-/

namespace EditorPane

/-! ## Bytes -/

/-- The bytes of a text. -/
def bytesOf (s : String) : List UInt8 := s.toByteArray.data.toList

theorem bytesOf_eq (s : String) : bytesOf s = s.toList.flatMap String.utf8EncodeChar := by
  rw [bytesOf, ← String.utf8Encode_toList, List.utf8Encode, List.toList_data_toByteArray]

theorem utf8EncodeChar_of_lt {c : Char} (h : c.toNat < 128) :
    String.utf8EncodeChar c = [UInt8.ofNat c.toNat] := by
  rw [String.utf8EncodeChar]
  exact if_pos (Nat.le_of_lt_succ h)

/-- A character of more than one byte starts with a byte that stands for no character by itself. -/
theorem exists_mem_utf8EncodeChar {c : Char} (h : 128 ≤ c.toNat) :
    ∃ b ∈ String.utf8EncodeChar c, 128 ≤ b.toNat := by
  have hnot : ¬ c.val.toNat ≤ 127 := Nat.not_le_of_lt h
  rw [String.utf8EncodeChar]
  simp only [hnot, if_false]
  split_ifs
  all_goals
    refine ⟨_, List.mem_cons_self, ?_⟩
    rw [UInt8.toNat_ofNat']
    omega

theorem bytesOf_of_lt {s : String} (h : ∀ c ∈ s.toList, c.toNat < 128) :
    bytesOf s = s.toList.map fun c => UInt8.ofNat c.toNat := by
  rw [bytesOf_eq, List.map_eq_flatMap]
  exact List.flatMap_congr fun c hc => utf8EncodeChar_of_lt (h c hc)

theorem ofNat_toNat_byte {c : Char} (h : c.toNat < 128) :
    Char.ofNat (UInt8.ofNat c.toNat).toNat = c := by
  rw [UInt8.toNat_ofNat', Nat.mod_eq_of_lt (by omega), Char.ofNat_toNat]

/-- A text whose bytes are all below 128 has a character for each of them. -/
theorem toList_of_bytesOf_lt {s : String} (h : ∀ b ∈ bytesOf s, b.toNat < 128) :
    s.toList = (bytesOf s).map fun b => Char.ofNat b.toNat := by
  have hsmall : ∀ c ∈ s.toList, c.toNat < 128 := by
    intro c hc
    refine Nat.lt_of_not_le fun hge => ?_
    obtain ⟨b, hb, hlarge⟩ := exists_mem_utf8EncodeChar hge
    have hlt := h b (by rw [bytesOf_eq]; exact List.mem_flatMap.2 ⟨c, hc, hb⟩)
    omega
  rw [bytesOf_of_lt hsmall, List.map_map]
  exact (List.map_id' _).symm.trans
    (List.map_congr_left fun c hc => (ofNat_toNat_byte (hsmall c hc)).symm)

theorem utf8ByteSize_ofList_of_lt {l : List Char} (h : ∀ c ∈ l, c.toNat < 128) :
    (String.ofList l).utf8ByteSize = l.length := by
  have hbytes := congrArg List.length (bytesOf_of_lt (s := String.ofList l) (by simpa using h))
  rw [List.length_map, String.toList_ofList] at hbytes
  exact hbytes

/-! ## Pieces -/

/-- The piece of a text between two byte offsets, if neither of them is inside of a character. -/
def pieceOf? (s : String) (start stop : Nat) : Option String :=
  if h : String.Pos.Raw.IsValid s ⟨start⟩ ∧ String.Pos.Raw.IsValid s ⟨stop⟩ then
    some (s.extract (s.pos ⟨start⟩ h.1) (s.pos ⟨stop⟩ h.2))
  else none

theorem pieceOf?_append (l m r : String) :
    pieceOf? (l ++ m ++ r) l.utf8ByteSize (l.utf8ByteSize + m.utf8ByteSize) = some m := by
  have hl : String.Pos.Raw.IsValid (l ++ m ++ r) ⟨l.utf8ByteSize⟩ :=
    String.Pos.Raw.isValid_iff_exists_append.2 ⟨l, m ++ r, String.append_assoc, rfl⟩
  have hm : String.Pos.Raw.IsValid (l ++ m ++ r) ⟨l.utf8ByteSize + m.utf8ByteSize⟩ :=
    String.Pos.Raw.isValid_iff_exists_append.2 ⟨l ++ m, r, rfl, by simp [String.Pos.Raw.ext_iff]⟩
  have hbytes : (l ++ m ++ r).toByteArray = l.toByteArray ++ (m.toByteArray ++ r.toByteArray) := by
    rw [String.append_assoc, String.toByteArray_append, String.toByteArray_append]
  have hcut : (l ++ m ++ r).toByteArray.extract (l.toByteArray.size + 0)
      (l.toByteArray.size + m.toByteArray.size) = m.toByteArray := by
    rw [hbytes, ByteArray.extract_append_size_add, ByteArray.extract_append_eq_left rfl]
  rw [pieceOf?, dif_pos ⟨hl, hm⟩, Option.some_inj, ← String.toByteArray_inj]
  exact hcut

theorem pieceOf?_of_lt {s : String} {l m r : List Char} (hs : s.toList = l ++ m ++ r)
    (h : ∀ c ∈ s.toList, c.toNat < 128) :
    pieceOf? s l.length (l.length + m.length) = some (String.ofList m) := by
  simp only [hs, List.forall_mem_append] at h
  have hpiece := pieceOf?_append (String.ofList l) (String.ofList m) (String.ofList r)
  rwa [utf8ByteSize_ofList_of_lt h.1.1, utf8ByteSize_ofList_of_lt h.1.2, ← String.ofList_append,
    ← String.ofList_append, ← hs, String.ofList_toList] at hpiece

end EditorPane
