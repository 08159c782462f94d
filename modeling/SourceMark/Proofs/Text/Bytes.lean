import SourceMark.Proofs.Text.Cursors
import SourceMark.Text.Blank
import SourceMark.Text.Cut

/-!
# Scanning bytes

A scan over the bytes of a text stops between two characters when its test does
not tell the characters beyond ASCII apart: all bytes of such a character then
pass the test, or its first one fails it.  So a scan over bytes is the scan over
characters.
-/

namespace SourceMark

namespace Text

/-- The bytes of the UTF-8 form. -/
def bytes (text : List Char) : List UInt8 :=
  text.flatMap String.utf8EncodeChar

/-- A test that does not tell the characters beyond ASCII apart. -/
def IsAsciiTest (test : Char → Bool) : Prop :=
  ∀ first second : Char, 128 ≤ first.toNat → 128 ≤ second.toNat →
    test first = test second

/-- The offset behind the bytes from an offset on that pass the test. -/
def scan (test : Char → Bool) (bytes : List UInt8) (offset : Nat) : Nat :=
  offset + ((bytes.drop offset).takeWhile fun byte =>
    test (Char.ofUInt8 byte)).length

/-- Whether there is a byte at the offset, and it passes the test. -/
def stands (test : Char → Bool) (bytes : List UInt8) (offset : Nat) : Bool :=
  bytes[offset]?.any fun byte => test (Char.ofUInt8 byte)

@[simp] theorem bytes_nil : bytes [] = [] := rfl

@[simp] theorem bytes_cons (character : Char) (rest : List Char) :
    bytes (character :: rest) =
      String.utf8EncodeChar character ++ bytes rest := rfl

@[simp] theorem bytes_append (first second : List Char) :
    bytes (first ++ second) = bytes first ++ bytes second :=
  List.flatMap_append

@[simp] theorem length_bytes (text : List Char) :
    (bytes text).length = byteLength text := by
  induction text with
  | nil => rfl
  | cons character rest induction =>
      rw [bytes_cons, List.length_append, String.length_utf8EncodeChar,
        induction, byteLength]

/-- No byte of a character beyond ASCII is the byte of an ASCII character. -/
theorem le_of_mem_utf8 {character : Char} (beyond : 128 ≤ character.toNat)
    {byte : UInt8} (member : byte ∈ String.utf8EncodeChar character) :
    128 ≤ byte.toNat := by
  have value : character.val.toNat = character.toNat := rfl
  unfold String.utf8EncodeChar at member
  simp only [value] at member
  split at member
  · omega
  · split at member
    · simp only [List.mem_cons, List.not_mem_nil, or_false] at member
      rcases member with rfl | rfl
      · rw [UInt8.toNat_ofNat']
        omega
      · rw [UInt8.toNat_ofNat']
        omega
    · split at member
      · simp only [List.mem_cons, List.not_mem_nil, or_false] at member
        rcases member with rfl | rfl | rfl
        · rw [UInt8.toNat_ofNat']
          omega
        · rw [UInt8.toNat_ofNat']
          omega
        · rw [UInt8.toNat_ofNat']
          omega
      · simp only [List.mem_cons, List.not_mem_nil, or_false] at member
        rcases member with rfl | rfl | rfl | rfl
        · rw [UInt8.toNat_ofNat']
          omega
        · rw [UInt8.toNat_ofNat']
          omega
        · rw [UInt8.toNat_ofNat']
          omega
        · rw [UInt8.toNat_ofNat']
          omega

theorem utf8_of_lt {character : Char} (within : character.toNat < 128) :
    ∃ byte, String.utf8EncodeChar character = [byte] ∧
      Char.ofUInt8 byte = character := by
  have small : character.val.toNat ≤ 127 := by
    have value : character.val.toNat = character.toNat := rfl
    omega
  refine ⟨UInt8.ofNat character.val.toNat, ?_, ?_⟩
  · unfold String.utf8EncodeChar
    simp only [small, if_true]
  · apply Char.ext
    apply UInt32.toNat_inj.mp
    have value (byte : UInt8) : (Char.ofUInt8 byte).val.toNat = byte.toNat := rfl
    rw [value, UInt8.toNat_ofNat']
    omega

/-- Each byte of a character passes the test when the character does. -/
theorem test_of_mem_utf8 {test : Char → Bool} (ascii : IsAsciiTest test)
    {character : Char} {byte : UInt8}
    (member : byte ∈ String.utf8EncodeChar character) :
    test (Char.ofUInt8 byte) = test character := by
  by_cases within : character.toNat < 128
  · obtain ⟨only, encoded, same⟩ := utf8_of_lt within
    rw [encoded, List.mem_singleton] at member
    rw [member, same]
  · have beyond : 128 ≤ character.toNat := by omega
    have value : (Char.ofUInt8 byte).toNat = byte.toNat := rfl
    apply ascii _ _ _ beyond
    rw [value]
    exact le_of_mem_utf8 beyond member

theorem head?_bytes (character : Char) (rest : List Char) :
    ∃ byte ∈ String.utf8EncodeChar character,
      (bytes (character :: rest))[0]? = some byte := by
  cases encoded : String.utf8EncodeChar character with
  | nil => exact absurd encoded String.utf8EncodeChar_ne_nil
  | cons byte others =>
      refine ⟨byte, List.mem_cons_self, ?_⟩
      rw [bytes_cons, encoded]
      rfl

theorem takeWhile_bytes {test : Char → Bool} (ascii : IsAsciiTest test)
    (text : List Char) :
    (bytes text).takeWhile (fun byte => test (Char.ofUInt8 byte)) =
      bytes (text.takeWhile test) := by
  induction text with
  | nil => rfl
  | cons character rest induction =>
      by_cases holds : test character = true
      · rw [bytes_cons, List.takeWhile_cons_of_pos holds, bytes_cons,
          List.takeWhile_append_of_pos, induction]
        intro byte member
        rw [test_of_mem_utf8 ascii member, holds]
      · obtain ⟨byte, member, first⟩ := head?_bytes character rest
        rw [List.takeWhile_cons_of_neg holds]
        cases whole : bytes (character :: rest) with
        | nil => rfl
        | cons other others =>
            rw [whole] at first
            obtain rfl : other = byte := by simpa using first
            rw [List.takeWhile_cons_of_neg, bytes_nil]
            rw [test_of_mem_utf8 ascii member]
            exact holds

end Text

/-- The rest of a cursor is what a source holds from the cursor up to a byte
offset. -/
def Cursor.IsWindow (source : List Char) (stop : Nat) (cursor : Cursor) :
    Prop :=
  ∃ before after, source = before ++ (cursor.rest ++ after) ∧
    cursor.offset = Text.byteLength before ∧
    stop = cursor.offset + Text.byteLength cursor.rest

namespace Cursor

theorem Reaches.ne_nil {cursor behind : Cursor} {taken : List Char}
    (moved : Reaches cursor taken behind)
    (shorter : behind.rest.length < cursor.rest.length) : taken ≠ [] := by
  rintro rfl
  rw [moved.rest, List.nil_append] at shorter
  exact Nat.lt_irrefl _ shorter

/-- The characters from a cursor on that pass the test, and the cursor behind
them. -/
def run (test : Char → Bool) (cursor : Cursor) : List Char × Cursor :=
  takeWhile test cursor.offset cursor.rest

theorem reaches_run (test : Char → Bool) (cursor : Cursor) :
    Reaches cursor (run test cursor).1 (run test cursor).2 :=
  reaches_takeWhile test cursor.offset cursor.rest

theorem run_fst (test : Char → Bool) (cursor : Cursor) :
    (run test cursor).1 = cursor.rest.takeWhile test := by
  obtain ⟨rest, offset⟩ := cursor
  simp only [run]
  induction rest generalizing offset with
  | nil => rfl
  | cons character rest induction =>
      by_cases holds : test character = true
      · simp [takeWhile, holds, induction]
      · simp [takeWhile, holds]

namespace IsWindow

variable {source : List Char} {stop : Nat} {cursor : Cursor}

theorem ofText (source : List Char) :
    IsWindow source (Text.byteLength source) (Cursor.ofText source) :=
  ⟨[], [], by simp [Cursor.ofText], rfl, by simp [Cursor.ofText]⟩

theorem reaches (window : IsWindow source stop cursor) {taken : List Char}
    {later : Cursor} (moved : Reaches cursor taken later) :
    IsWindow source stop later := by
  obtain ⟨before, after, whole, place, length⟩ := window
  refine ⟨before ++ taken, after, ?_, ?_, ?_⟩
  · rw [whole, moved.rest]
    simp
  · rw [moved.offset, place, Text.byteLength_append]
  · rw [length, moved.rest, moved.offset, Text.byteLength_append,
      Nat.add_assoc]

theorem le (window : IsWindow source stop cursor) : cursor.offset ≤ stop := by
  obtain ⟨_, _, _, _, length⟩ := window
  omega

/-- Nothing is left of a window at its end. -/
theorem le_iff (window : IsWindow source stop cursor) :
    stop ≤ cursor.offset ↔ cursor.rest = [] := by
  obtain ⟨_, _, _, _, length⟩ := window
  rw [← Text.byteLength_eq_zero]
  omega

theorem le_byteLength (window : IsWindow source stop cursor) :
    stop ≤ Text.byteLength source := by
  obtain ⟨before, after, whole, place, length⟩ := window
  rw [whole, Text.byteLength_append, Text.byteLength_append]
  omega

/-- What lies between two cursors is the slice between their offsets. -/
theorem slice?_eq (window : IsWindow source stop cursor) {taken : List Char}
    {later : Cursor} (moved : Reaches cursor taken later) :
    Text.slice? source cursor.offset later.offset = some taken := by
  obtain ⟨before, after, whole, place, _⟩ := window
  have order : cursor.offset ≤ later.offset := by
    rw [moved.offset]
    omega
  have width : later.offset - cursor.offset = Text.byteLength taken := by
    rw [moved.offset]
    omega
  have first : Text.cutAt? source cursor.offset =
      some (before, taken ++ (later.rest ++ after)) := by
    rw [whole, moved.rest, place, List.append_assoc, Text.cutAt?_append]
  simp only [Text.slice?, order, if_true, first, width, Text.cutAt?_append,
    Option.map_some]

theorem slice?_rest (window : IsWindow source stop cursor) :
    Text.slice? source cursor.offset stop = some cursor.rest := by
  obtain ⟨_, _, _, _, length⟩ := id window
  rw [length]
  exact window.slice?_eq (Reaches.toEnd cursor)

theorem drop_bytes (window : IsWindow source stop cursor) :
    ((Text.bytes source).take stop).drop cursor.offset =
      Text.bytes cursor.rest := by
  obtain ⟨before, after, whole, place, length⟩ := window
  have front : (Text.bytes before).length = cursor.offset := by
    rw [Text.length_bytes, place]
  have both : (Text.bytes before ++ Text.bytes cursor.rest).length = stop := by
    rw [List.length_append, Text.length_bytes, Text.length_bytes, length, place]
  rw [whole, Text.bytes_append, Text.bytes_append, ← List.append_assoc,
    List.take_left' both, List.drop_left' front]

theorem length_take_bytes (window : IsWindow source stop cursor) :
    ((Text.bytes source).take stop).length = stop := by
  rw [List.length_take, Text.length_bytes]
  have := window.le_byteLength
  omega

theorem scan_eq (window : IsWindow source stop cursor) {test : Char → Bool}
    (ascii : Text.IsAsciiTest test) :
    Text.scan test ((Text.bytes source).take stop) cursor.offset =
      (run test cursor).2.offset := by
  rw [Text.scan, window.drop_bytes, Text.takeWhile_bytes ascii,
    Text.length_bytes, (reaches_run test cursor).offset, run_fst]

theorem stands_eq (window : IsWindow source stop cursor) {test : Char → Bool}
    (ascii : Text.IsAsciiTest test) :
    Text.stands test ((Text.bytes source).take stop) cursor.offset =
      cursor.rest.head?.any test := by
  have here : ((Text.bytes source).take stop)[cursor.offset]? =
      (Text.bytes cursor.rest)[0]? := by
    rw [← window.drop_bytes, List.getElem?_drop, Nat.add_zero]
  rw [Text.stands, here]
  cases cursor.rest with
  | nil => rfl
  | cons character rest =>
      obtain ⟨byte, member, first⟩ := Text.head?_bytes character rest
      rw [first]
      exact Text.test_of_mem_utf8 ascii member

theorem stands_whole
    (window : IsWindow source (Text.byteLength source) cursor)
    {test : Char → Bool} (ascii : Text.IsAsciiTest test) :
    Text.stands test (Text.bytes source) cursor.offset =
      cursor.rest.head?.any test := by
  have all : (Text.bytes source).take (Text.byteLength source) =
      Text.bytes source := by
    rw [← Text.length_bytes, List.take_length]
  rw [← window.stands_eq ascii, all]

/-- Whether a text ends at an offset or goes on with a character that passes
the test. -/
theorem ends_whole
    (window : IsWindow source (Text.byteLength source) cursor)
    {test : Char → Bool} (ascii : Text.IsAsciiTest test) :
    (decide (Text.byteLength source ≤ cursor.offset) ||
        Text.stands test (Text.bytes source) cursor.offset) =
      cursor.rest.head?.all test := by
  have ends := window.le_iff
  rw [window.stands_whole ascii]
  cases rest : cursor.rest with
  | nil => simp [ends.mpr rest]
  | cons character later =>
      have further : ¬ Text.byteLength source ≤ cursor.offset := by
        rw [ends, rest]
        simp
      simp [further]

end IsWindow

end Cursor

end SourceMark
