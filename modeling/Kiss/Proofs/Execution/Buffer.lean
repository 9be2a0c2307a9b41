import Kiss.Proofs.Execution.Output

/-!
# Printing into a buffer

A write adds bytes to what has been written, as many as there is room for (`write_of_hasRoom`,
`write_of_room_lt`). Cutting the bytes into pieces and writing these one behind the other, up to the
first failure, comes to the same. The pieces of a value make up its text (`join_pieces`), so for a
buffer it makes no difference that a number or an object is put together while it is printed
(`writeAll_pieces`). Whatever is printed, a buffer has taken some more bytes afterwards and is
otherwise the same (`exists_after_eq_taking`).
-/

namespace Kiss

section Bytes

variable {bytes others : ByteArray} {n : Nat}

theorem extract_zero_of_size_le (le : bytes.size ≤ n) : bytes.extract 0 n = bytes := by
  have whole := @ByteArray.extract_zero_max_size bytes n
  rwa [Nat.max_eq_left le] at whole

theorem extract_append_of_le_size (le : n ≤ bytes.size) :
    (bytes ++ others).extract 0 n = bytes.extract 0 n := by
  rw [ByteArray.extract_append, Nat.sub_eq_zero_of_le le, Nat.zero_sub, ByteArray.extract_same,
    ByteArray.append_empty]

theorem extract_append_of_size_le (le : bytes.size ≤ n) :
    (bytes ++ others).extract 0 n = bytes ++ others.extract 0 (n - bytes.size) := by
  rw [ByteArray.extract_append, extract_zero_of_size_le le, Nat.zero_sub]

end Bytes

namespace Number

theorem flatten_zeroParts (n : Nat) : (zeroParts n).flatten = List.replicate n '0' := by
  have rest : (if n % 64 = 0 then [] else [List.replicate (n % 64) '0']).flatten =
      List.replicate (n % 64) '0' := by
    split
    · simp [*]
    · simp
  rw [zeroParts, List.flatten_append, rest, List.flatten_replicate_replicate,
    List.replicate_append_replicate, Nat.div_add_mod']

theorem flatten_positionalParts (decimal : Decimal) :
    (positionalParts decimal).flatten = positional [] decimal := by
  simp only [positionalParts, positional]
  split
  · simp [flatten_zeroParts]
  · split <;> simp [flatten_zeroParts]

/-- The parts in which a number is printed make up its text. -/
theorem ofList_flatten_displayParts (x : Float) :
    String.ofList (displayParts x).flatten = display x := by
  have sign (negative : Bool) (magnitude : List Char) :
      (displayParts.signParts negative).flatten ++ magnitude = signed negative magnitude := by
    cases negative <;> rfl
  simp only [displayParts, display, plain]
  cases decode x with
  | nan => simp
  | infinite negative =>
      simp only [List.flatten_append, sign]
      cases negative <;> rfl
  | finite negative mantissa exponent =>
      simp only [List.flatten_append, sign]
      by_cases zero : mantissa = 0
      · have whole : isWhole 0 exponent = true := by simp [isWhole]
        have digits : decimalDigits (wholeMagnitude 0 exponent) = ['0'] := by
          simp [wholeMagnitude, decimalDigits]
        simp [zero, whole, digits]
      · by_cases whole : isWhole mantissa exponent
        · simp [zero, whole]
        · simp [zero, whole, flatten_positionalParts]

end Number

namespace Value

theorem join_map_ofList (parts : List (List Char)) :
    String.join (parts.map String.ofList) = String.ofList parts.flatten := by
  induction parts with
  | nil => rfl
  | cons part parts ih =>
      rw [List.map_cons, String.join_cons, ih, List.flatten_cons, String.ofList_append]

mutual

/-- The pieces of a value make up its text. -/
theorem join_pieces : ∀ value : Value, String.join value.pieces = value.render
  | .number x => by
      rw [pieces, render, join_map_ofList, Number.ofList_flatten_displayParts]
  | .text s => by simp [pieces, render]
  | .bool b => by simp [pieces, render]
  | .object fields => by
      rw [pieces, render, String.join_append, String.join_cons, join_fieldPieces fields]
      rfl

theorem join_fieldPieces :
    ∀ fields, String.join (fieldPieces fields) = ", ".intercalate (renderFields fields)
  | [] => rfl
  | [(slot, value)] => by
      simp [fieldPieces, renderFields, join_pieces value, String.append_assoc]
  | (slot, value) :: second :: rest => by
      have there := join_fieldPieces (second :: rest)
      rcases second with ⟨secondSlot, secondValue⟩
      rw [renderFields] at there
      simp [fieldPieces, renderFields, join_pieces value, String.append_assoc, there]

end

end Value

namespace Buffer

variable {buffer : Buffer} {bytes others : ByteArray} {value : Value} {room : Nat}

/-- A buffer behind some more bytes. -/
def taking (buffer : Buffer) (bytes : ByteArray) : Buffer :=
  { buffer with written := buffer.written ++ bytes, room := buffer.room.map (· - bytes.size) }

/-- A buffer takes all of the given bytes. -/
def HasRoom (buffer : Buffer) (bytes : ByteArray) : Prop :=
  ∀ room ∈ buffer.room, bytes.size ≤ room

@[simp]
theorem taking_empty (buffer : Buffer) : buffer.taking .empty = buffer := by
  rcases buffer with ⟨written, room, flushFails⟩
  simp [taking]

@[simp]
theorem taking_taking (buffer : Buffer) (bytes others : ByteArray) :
    (buffer.taking bytes).taking others = buffer.taking (bytes ++ others) := by
  rcases buffer with ⟨written, room, flushFails⟩
  cases room with
  | none => simp [taking, ByteArray.append_assoc]
  | some room => simp [taking, ByteArray.append_assoc, Nat.sub_sub]

theorem hasRoom_empty (buffer : Buffer) : buffer.HasRoom .empty :=
  fun _ _ => Nat.zero_le _

/-- Bytes fit in two parts if they fit at all. -/
theorem hasRoom_append :
    buffer.HasRoom (bytes ++ others) ↔
      buffer.HasRoom bytes ∧ (buffer.taking bytes).HasRoom others := by
  rcases buffer with ⟨written, room, flushFails⟩
  cases room with
  | none => simp [HasRoom, taking]
  | some room =>
      simp only [HasRoom, taking, Option.map_some, Option.mem_some, forall_eq',
        ByteArray.size_append]
      omega

/-- A buffer takes all of some bytes, or it takes only fewer. -/
theorem hasRoom_or_room_lt (buffer : Buffer) (bytes : ByteArray) :
    buffer.HasRoom bytes ∨ ∃ room, buffer.room = some room ∧ room < bytes.size := by
  cases limited : buffer.room with
  | none => exact .inl (by simp [HasRoom, limited])
  | some room =>
      by_cases le : bytes.size ≤ room
      · exact .inl (by simpa [HasRoom, limited] using le)
      · exact .inr ⟨room, rfl, Nat.lt_of_not_le le⟩

/-- What fits is written. -/
theorem write_of_hasRoom (fits : buffer.HasRoom bytes) :
    buffer.write bytes = (.ok (), buffer.taking bytes) := by
  rcases buffer with ⟨written, room, flushFails⟩
  cases room with
  | none => rfl
  | some room =>
      have le : bytes.size ≤ room := fits room rfl
      simp [write, taking, le]

/-- What does not fit is cut off. -/
theorem write_of_room_lt (limited : buffer.room = some room) (exceeds : room < bytes.size) :
    buffer.write bytes = (.error full, buffer.taking (bytes.extract 0 room)) := by
  rcases buffer with ⟨written, _, flushFails⟩
  cases limited
  have size : (bytes.extract 0 room).size = room := by
    rw [ByteArray.size_extract]
    omega
  simp [write, taking, size, Nat.not_le.mpr exceeds]

/-- A write adds as much to what a buffer has taken as there is room for. -/
theorem exists_write_eq_taking (buffer : Buffer) (bytes : ByteArray) :
    ∃ more, buffer.HasRoom more ∧ (buffer.write bytes).2 = buffer.taking more := by
  obtain fits | ⟨room, limited, exceeds⟩ := hasRoom_or_room_lt buffer bytes
  · exact ⟨bytes, fits, by rw [write_of_hasRoom fits]⟩
  · refine ⟨bytes.extract 0 room, ?_, by rw [write_of_room_lt limited exceeds]⟩
    simp only [HasRoom, limited, Option.mem_some, forall_eq', ByteArray.size_extract]
    omega

/-- Bytes may be written in two parts, unless the first of them fails. -/
theorem write_append (buffer : Buffer) (bytes others : ByteArray) :
    buffer.write (bytes ++ others) =
      match buffer.write bytes with
      | (.ok (), buffer) => buffer.write others
      | (.error e, buffer) => (.error e, buffer) := by
  obtain fits | ⟨room, limited, exceeds⟩ := hasRoom_or_room_lt buffer bytes
  · rw [write_of_hasRoom fits]
    obtain othersFit | ⟨left, othersLimited, exceeds⟩ :=
      hasRoom_or_room_lt (buffer.taking bytes) others
    · rw [write_of_hasRoom (hasRoom_append.mpr ⟨fits, othersFit⟩)]
      simp only [write_of_hasRoom othersFit, taking_taking]
    · -- what is left is the room there was, less the first part
      obtain ⟨room, limited, rfl⟩ := Option.map_eq_some_iff.mp othersLimited
      have le : bytes.size ≤ room := fits room limited
      have bothOver : room < (bytes ++ others).size := by
        rw [ByteArray.size_append]
        omega
      rw [write_of_room_lt limited bothOver, extract_append_of_size_le le]
      simp only [write_of_room_lt othersLimited exceeds, taking_taking]
  · have bothOver : room < (bytes ++ others).size := by
      rw [ByteArray.size_append]
      omega
    rw [write_of_room_lt limited bothOver, write_of_room_lt limited exceeds,
      extract_append_of_le_size (Nat.le_of_lt exceeds)]

/-- Writing a text in pieces comes to writing it at once. -/
theorem writeAll_eq_write_join (buffer : Buffer) (pieces : List String) :
    Sink.writeAll buffer pieces = buffer.write (String.join pieces).toUTF8 := by
  induction pieces generalizing buffer with
  | nil =>
      have nothing : buffer.write .empty = (.ok (), buffer) := by
        rw [write_of_hasRoom buffer.hasRoom_empty, taking_empty]
      exact nothing.symm
  | cons first rest ih =>
      have parts : (first ++ String.join rest).toUTF8 = first.toUTF8 ++ (String.join rest).toUTF8 :=
        String.toByteArray_append
      have here : Sink.write buffer first.toUTF8 = buffer.write first.toUTF8 := rfl
      rw [Sink.writeAll, String.join_cons, parts, write_append, here]
      rcases buffer.write first.toUTF8 with ⟨failed | done, after⟩
      · rfl
      · exact ih after

/-- Printing a value piece by piece comes to printing its text, whatever there is room for. -/
theorem writeAll_pieces (buffer : Buffer) (value : Value) :
    Sink.writeAll buffer value.pieces = buffer.write value.render.toUTF8 := by
  rw [writeAll_eq_write_join, Value.join_pieces]

/-- A value whose text fits is printed, unless flushing fails. -/
theorem print_of_hasRoom (fits : buffer.HasRoom value.render.toUTF8)
    (passesOn : buffer.flushFails = false) :
    Sink.print buffer value.pieces = (.ok (), buffer.taking value.render.toUTF8) := by
  rw [Sink.print, writeAll_pieces, write_of_hasRoom fits]
  simp [Sink.flush, flush, taking, passesOn]

/-- A text that does not fit is cut off. -/
theorem print_of_room_lt (limited : buffer.room = some room)
    (exceeds : room < value.render.toUTF8.size) :
    Sink.print buffer value.pieces =
      (.error full, buffer.taking (value.render.toUTF8.extract 0 room)) := by
  rw [Sink.print, writeAll_pieces, write_of_room_lt limited exceeds]

theorem print_snd (buffer : Buffer) (value : Value) :
    (Sink.print buffer value.pieces).2 = (buffer.write value.render.toUTF8).2 := by
  rw [Sink.print, writeAll_pieces]
  split <;> rename_i result <;> rw [result]
  rfl

/-- Printing adds as much to what a buffer has taken as there is room for. -/
theorem exists_after_eq_taking (buffer : Buffer) (values : List Value) :
    ∃ more, buffer.HasRoom more ∧ Sink.after buffer values = buffer.taking more := by
  induction values generalizing buffer with
  | nil => exact ⟨.empty, buffer.hasRoom_empty, by rw [taking_empty, Sink.after_nil]⟩
  | cons value values ih =>
      obtain ⟨first, fits, taken⟩ := buffer.exists_write_eq_taking value.render.toUTF8
      obtain ⟨more, moreFit, moreTaken⟩ := ih (buffer.taking first)
      refine ⟨first ++ more, hasRoom_append.mpr ⟨fits, moreFit⟩, ?_⟩
      rw [Sink.after_cons, print_snd, taken, moreTaken, taking_taking]

/-- A buffer that takes everything and can be flushed never fails. -/
theorem neverFails (takesAll : buffer.room = none) (passesOn : buffer.flushFails = false) :
    Sink.NeverFails buffer := by
  intro values value
  obtain ⟨more, -, taken⟩ := buffer.exists_after_eq_taking values
  have fits : (buffer.taking more).HasRoom value.render.toUTF8 := by
    simp [HasRoom, taking, takesAll]
  rw [taken, print_of_hasRoom fits passesOn]

/-- What is printed into a buffer that takes everything are the texts of the values, one behind the
    other. -/
theorem after_eq_taking_join (takesAll : buffer.room = none) (passesOn : buffer.flushFails = false)
    (values : List Value) :
    Sink.after buffer values = buffer.taking (String.join (values.map Value.render)).toUTF8 := by
  induction values generalizing buffer with
  | nil => exact buffer.taking_empty.symm
  | cons value values ih =>
      have fits : buffer.HasRoom value.render.toUTF8 := by simp [HasRoom, takesAll]
      have parts : (String.join ((value :: values).map Value.render)).toUTF8 =
          value.render.toUTF8 ++ (String.join (values.map Value.render)).toUTF8 := by
        rw [List.map_cons, String.join_cons]
        exact String.toByteArray_append
      have room : (buffer.taking value.render.toUTF8).room = none := by simp [taking, takesAll]
      rw [Sink.after_cons, print_of_hasRoom fits passesOn, ih room passesOn, taking_taking, parts]

end Buffer

end Kiss
