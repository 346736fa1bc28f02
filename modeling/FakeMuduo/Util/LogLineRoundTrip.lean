import FakeMuduo.Util.LogLine

/-! What is printed for a line is what was inserted into it. -/

namespace FakeMuduo.Util.LogLine

open FakeMuduo.Base

variable {memory : Memory} {line : LogLine} {content : Text}

/-- The used bytes are `content`, and they lie within the storage. -/
structure Holds (line : LogLine) (content : Text) : Prop where
  used : line.usedBytes = content.length
  bounded : line.usedBytes ≤ line.bufferSize
  allocated : line.bufferSize ≤ line.storage.length
  content : window line.storage 0 line.usedBytes = content

@[simp] theorem storage_setStorage (line : LogLine) (bytes : Text) :
    (line.setStorage bytes).storage = bytes := by
  unfold setStorage storage
  split <;> simp_all

@[simp] theorem bufferSize_setStorage (line : LogLine) (bytes : Text) :
    (line.setStorage bytes).bufferSize = line.bufferSize := by
  unfold setStorage
  split <;> rfl

theorem empty_holds : Holds empty [] := by
  refine ⟨rfl, Nat.zero_le _, ?_, rfl⟩
  simp [empty, storage]

/-- A store behind the used bytes. -/
theorem Holds.put (holds : Holds line content) (bytes : Text)
    (room : content.length + bytes.length ≤ line.bufferSize) :
    ∃ next, line.put bytes = .ok next ∧ Holds next (content ++ bytes) ∧
      next.bufferSize = line.bufferSize := by
  have inside : line.usedBytes + bytes.length ≤ line.storage.length := by
    rw [holds.used]
    exact Nat.le_trans room holds.allocated
  have stored : (line.setStorage (store line.storage line.usedBytes bytes)).storage =
      store line.storage line.usedBytes bytes := storage_setStorage _ _
  refine ⟨_, if_pos inside, ⟨?_, ?_, ?_, ?_⟩, bufferSize_setStorage _ _⟩
  · simp [holds.used]
  · simpa [holds.used] using room
  · change (line.setStorage _).bufferSize ≤ (line.setStorage _).storage.length
    rw [bufferSize_setStorage, stored, store_length]
    exact holds.allocated
  · change window (line.setStorage _).storage 0 (line.usedBytes + bytes.length) = content ++ bytes
    rw [stored, window_add, Nat.zero_add, window_store inside,
      window_store_of_disjoint _ _ (.inl (Nat.le_of_eq (Nat.zero_add _))), holds.content]

theorem newBuffer_length (junk : Junk) (size : Nat) (source : Text) (count : Nat) :
    (newBuffer junk size source count).length = size := by
  simp [newBuffer]

theorem window_newBuffer {junk : Junk} {size count : Nat} {source : Text} (room : count ≤ size)
    (inside : count ≤ source.length) :
    window (newBuffer junk size source count) 0 count = window source 0 count := by
  have taken : (source.take count).length = count := List.length_take_of_le inside
  have stored : window (newBuffer junk size source count) 0 (source.take count).length =
      source.take count :=
    window_store (by simpa [taken] using room)
  rw [taken] at stored
  simpa [window] using stored

/-- A larger buffer with the used bytes in it. -/
theorem Holds.grow (holds : Holds line content) (junk : Junk) {size : Nat}
    (larger : line.usedBytes ≤ size) :
    Holds { line with
      bufferSize := size,
      heapBuffer := some (newBuffer junk size line.storage line.usedBytes) } content := by
  have inside : line.usedBytes ≤ line.storage.length := Nat.le_trans holds.bounded holds.allocated
  refine ⟨holds.used, larger, ?_, ?_⟩
  · exact Nat.le_of_eq (newBuffer_length _ _ _ _).symm
  · exact (window_newBuffer larger inside).trans holds.content

/-- After the call there is room for the bytes asked for, and nothing was lost. -/
theorem Holds.resize (holds : Holds line content) (junk : Junk) (neededBytes : Nat) :
    Holds (line.resizeBufferIfNeeded junk neededBytes) content ∧
      content.length + neededBytes ≤ (line.resizeBufferIfNeeded junk neededBytes).bufferSize := by
  have larger : ∀ size, line.usedBytes ≤ max size (line.usedBytes + neededBytes) := by
    intro size
    omega
  rw [← holds.used]
  by_cases enough : line.usedBytes + neededBytes ≤ line.bufferSize
  · simp only [resizeBufferIfNeeded, enough, if_true]
    exact ⟨holds, trivial⟩
  · cases heap : line.heapBuffer with
    | none =>
      have stack : line.storage = line.stackBuffer := by simp [storage, heap]
      have grown := holds.grow junk (larger 512)
      simp only [resizeBufferIfNeeded, enough, heap, if_false]
      rw [stack] at grown
      exact ⟨grown, Nat.le_max_right _ _⟩
    | some heapBuffer =>
      have onHeap : line.storage = heapBuffer := by simp [storage, heap]
      have grown := holds.grow junk (larger (2 * line.bufferSize))
      simp only [resizeBufferIfNeeded, enough, heap, if_false]
      rw [onHeap] at grown
      exact ⟨grown, Nat.le_max_right _ _⟩

theorem Holds.encode (holds : Holds line content) (junk : Junk) (type : SupportedTypes)
    (bytes : Text) :
    ∃ next, line.encode junk type bytes = .ok next ∧
      Holds next (content ++ type.code :: bytes) := by
  obtain ⟨resized, room⟩ := holds.resize junk (1 + bytes.length)
  obtain ⟨tagged, putTag, tagHolds, tagSize⟩ := resized.put [type.code] (by
    rw [List.length_singleton]
    omega)
  obtain ⟨next, putBytes, nextHolds, _⟩ := tagHolds.put bytes (by
    rw [tagSize, List.length_append, List.length_singleton]
    omega)
  refine ⟨next, ?_, ?_⟩
  · simp only [LogLine.encode, putTag, ok_bind, putBytes]
  · simpa using nextHolds

/-- The bytes that an operand adds to a line. -/
def Operand.bytes : Operand memory → Text
  | .char byte => SupportedTypes.kChar.code :: [byte]
  | .int32 value => SupportedTypes.kInt32.code :: toBytes 4 value.toNat
  | .uint32 value => SupportedTypes.kUInt32.code :: toBytes 4 value.toNat
  | .int64 value => SupportedTypes.kInt64.code :: toBytes 8 value.toNat
  | .uint64 value => SupportedTypes.kUInt64.code :: toBytes 8 value.toNat
  | .double bits => SupportedTypes.kDouble.code :: toBytes 8 bits.toNat
  | .pointer address => SupportedTypes.kUInt64.code :: toBytes 8 address.toNat
  | .string text => if cStr text = [] then [] else SupportedTypes.kRawStr.code :: (cStr text ++ [0])
  | .stringView view => SupportedTypes.kStrView.code :: view.bytes
  | .cString source => SupportedTypes.kStrView.code :: source.view.bytes

theorem Holds.insert (holds : Holds line content) (junk : Junk) (operand : Operand memory) :
    ∃ next, line.insert junk operand = .ok next ∧ Holds next (content ++ operand.bytes) := by
  cases operand with
  | string text =>
    by_cases empty : cStr text = []
    · refine ⟨line, ?_, ?_⟩
      · simp [LogLine.insert, encodeString, empty]
      · simpa [Operand.bytes, empty] using holds
    · have some : (cStr text).length ≠ 0 := by simpa using empty
      obtain ⟨resized, room⟩ := holds.resize junk (1 + (cStr text).length + 1)
      obtain ⟨next, put, nextHolds, _⟩ :=
        resized.put (SupportedTypes.kRawStr.code :: cStr text ++ [0]) (by
        simp only [List.length_append, List.length_cons, List.length_nil]
        omega)
      refine ⟨next, ?_, ?_⟩
      · simp only [LogLine.insert, encodeString, some, if_false, put]
      · simpa [Operand.bytes, empty] using nextHolds
  | char byte => exact holds.encode junk .kChar [byte]
  | int32 value => exact holds.encode junk .kInt32 (toBytes 4 value.toNat)
  | uint32 value => exact holds.encode junk .kUInt32 (toBytes 4 value.toNat)
  | int64 value => exact holds.encode junk .kInt64 (toBytes 8 value.toNat)
  | uint64 value => exact holds.encode junk .kUInt64 (toBytes 8 value.toNat)
  | double bits => exact holds.encode junk .kDouble (toBytes 8 bits.toNat)
  | pointer address => exact holds.encode junk .kUInt64 (toBytes 8 address.toNat)
  | stringView view => exact holds.encode junk .kStrView view.bytes
  | cString source => exact holds.encode junk .kStrView source.view.bytes

theorem Holds.insertAll (junk : Junk) (operands : List (Operand memory))
    (holds : Holds line content) :
    ∃ next, line.insertAll junk operands = .ok next ∧
      Holds next (content ++ operands.flatMap Operand.bytes) := by
  induction operands generalizing line content with
  | nil => exact ⟨line, rfl, by simpa using holds⟩
  | cons operand operands ih =>
    obtain ⟨more, inserted, moreHolds⟩ := holds.insert junk operand
    obtain ⟨next, returned, nextHolds⟩ := ih moreHolds
    refine ⟨next, ?_, ?_⟩
    · rw [LogLine.insertAll, List.foldlM_cons, inserted, ok_bind]
      exact returned
    · simpa using nextHolds

/-- The bytes that the constructor puts into a line. -/
def Header.bytes (header : Header memory) : Text :=
  toBytes 8 header.timestamp.timeSinceEpoch.toNat ++ (toBytes 4 header.threadId.toNat ++
    ([UInt8.ofNat header.level.value] ++ (header.file.view.bytes ++ (header.func.view.bytes ++
      (toBytes 4 header.line.toNat ++ toBytes 4 header.oldErrno.toNat)))))

@[simp] theorem StringView.bytes_length (view : StringView) : view.bytes.length = 16 := by
  simp [StringView.bytes]

@[simp] theorem Header.bytes_length (header : Header memory) : header.bytes.length = 53 := by
  simp [Header.bytes]

theorem create_holds (header : Header memory) :
    ∃ line, create header = .ok line ∧ Holds line header.bytes := by
  have size : empty.bufferSize = 104 := rfl
  obtain ⟨first, put1, holds1, size1⟩ :=
    empty_holds.put (toBytes 8 header.timestamp.timeSinceEpoch.toNat)
    (by simp [size])
  obtain ⟨second, put2, holds2, size2⟩ :=
    holds1.put (toBytes 4 header.threadId.toNat) (by simp [size1, size])
  obtain ⟨third, put3, holds3, size3⟩ := holds2.put [UInt8.ofNat header.level.value]
    (by simp [size2, size1, size])
  obtain ⟨fourth, put4, holds4, size4⟩ := holds3.put header.file.view.bytes
    (by simp [size3, size2, size1, size])
  obtain ⟨fifth, put5, holds5, size5⟩ := holds4.put header.func.view.bytes
    (by simp [size4, size3, size2, size1, size])
  obtain ⟨sixth, put6, holds6, size6⟩ := holds5.put (toBytes 4 header.line.toNat)
    (by simp [size5, size4, size3, size2, size1, size])
  obtain ⟨line, put7, holds7, _⟩ := holds6.put (toBytes 4 header.oldErrno.toNat)
    (by simp [size6, size5, size4, size3, size2, size1, size])
  refine ⟨line, ?_, ?_⟩
  · simp only [create, put1, put2, put3, put4, put5, put6, put7, ok_bind]
  · simpa [Header.bytes] using holds7

section Loads

variable {before bytes after : Text} {b size : Nat}

theorem load_at (start : before.length = b) (width : bytes.length = size) :
    load (before ++ (bytes ++ after)) b size = .ok bytes := by
  subst start width
  have inside : before.length + bytes.length ≤ (before ++ (bytes ++ after)).length := by
    simp only [List.length_append]
    omega
  rw [load, if_pos inside, window, List.drop_left, List.take_left]

theorem loadWord_at {bits : Nat} (whole : Nat.pow 2 bits = Nat.pow 256 (bits / 8))
    (word : BitVec bits) (start : before.length = b) :
    loadWord bits (before ++ (toBytes (bits / 8) word.toNat ++ after)) b = .ok word := by
  rw [loadWord, load_at start (toBytes_length _ _), ok_bind, ofNat_ofBytes_toBytes whole]
  rfl

theorem loadView_at (view : StringView) (start : before.length = b) :
    loadView (before ++ (view.bytes ++ after)) b = .ok view := by
  have data : StringView.ofData view.bytes = view := by
    have first : view.bytes.take 8 = toBytes 8 view.size.toNat :=
      List.take_left' (toBytes_length _ _)
    have second : view.bytes.drop 8 = toBytes 8 view.data.toNat :=
      List.drop_left' (toBytes_length _ _)
    rw [StringView.ofData, first, second, ofNat_ofBytes_toBytes rfl, ofNat_ofBytes_toBytes rfl]
  rw [loadView, load_at start view.bytes_length, ok_bind, data]
  rfl

theorem loadRawStr_at {text : Text} (free : 0 ∉ text) (start : before.length = b) :
    loadRawStr (before ++ (text ++ 0 :: after)) b = .ok text := by
  subst start
  have stops : (text ++ 0 :: after).takeWhile (· != 0) = text := by
    rw [List.takeWhile_append_of_pos, List.takeWhile_cons_of_neg, List.append_nil]
    · simp
    · intro byte member
      exact bne_iff_ne.mpr (ne_of_mem_of_not_mem member free)
  rw [loadRawStr, List.drop_left, if_pos (by simp), stops]

end Loads

theorem cStr_free (text : Text) : 0 ∉ cStr text := by
  intro member
  have other := List.all_eq_true.mp List.all_takeWhile 0 member
  cases other

/-- What a line prints for an operand. -/
def Operand.text (printer : Printer) : Operand memory → Text
  | .char byte => [byte]
  | .int32 value => signed value.toInt
  | .uint32 value => decimal value.toNat
  | .int64 value => signed value.toInt
  | .uint64 value => decimal value.toNat
  | .double bits => printer.double bits
  | .pointer address => decimal address.toNat
  | .string text => cStr text
  | .stringView view => view.text memory
  | .cString source => source.view.text memory

section Operands

variable {printer : Printer} {before after : Text} {type : SupportedTypes} {payload : Text}

theorem ofCode_code (type : SupportedTypes) : SupportedTypes.ofCode type.code = some type := by
  cases type <;> rfl

/-- An operand decodes to what it prints, and the next one starts right behind it. -/
def Decodes (memory : Memory) (printer : Printer) (type : SupportedTypes)
    (payload text : Text) : Prop :=
  ∀ before after b, before.length = b →
    decode memory printer (before ++ (payload ++ after)) b type = .ok (text, b + payload.length)

theorem word_decodes (word : BitVec 32) :
    Decodes memory printer .kInt32 (toBytes 4 word.toNat) (signed word.toInt) ∧
      Decodes memory printer .kUInt32 (toBytes 4 word.toNat) (decimal word.toNat) := by
  refine ⟨?_, ?_⟩ <;>
  · intro before after b start
    have loaded : loadWord 32 (before ++ (toBytes 4 word.toNat ++ after)) b = .ok word :=
      loadWord_at rfl word start
    rw [decode, loaded, toBytes_length]
    rfl

theorem long_decodes (word : BitVec 64) :
    Decodes memory printer .kInt64 (toBytes 8 word.toNat) (signed word.toInt) ∧
      Decodes memory printer .kUInt64 (toBytes 8 word.toNat) (decimal word.toNat) ∧
        Decodes memory printer .kDouble (toBytes 8 word.toNat) (printer.double word) := by
  refine ⟨?_, ?_, ?_⟩ <;>
  · intro before after b start
    have loaded : loadWord 64 (before ++ (toBytes 8 word.toNat ++ after)) b = .ok word :=
      loadWord_at rfl word start
    rw [decode, loaded, toBytes_length]
    rfl

theorem view_decodes (view : StringView) :
    Decodes memory printer .kStrView view.bytes (view.text memory) := by
  intro before after b start
  rw [decode, loadView_at view start, view.bytes_length]
  rfl

theorem rawStr_decodes {text : Text} (free : 0 ∉ text) :
    Decodes memory printer .kRawStr (text ++ [0]) text := by
  intro before after b start
  have shape : before ++ (text ++ [0] ++ after) = before ++ (text ++ 0 :: after) := by simp
  rw [shape, decode, loadRawStr_at free start, List.length_append]
  rfl

theorem char_decodes (byte : UInt8) : Decodes memory printer .kChar [byte] [byte] := by
  intro before after b start
  have loaded : load (before ++ ([byte] ++ after)) b 1 = .ok [byte] := load_at start rfl
  rw [decode, loaded]
  rfl

/-- An operand adds nothing and prints nothing, or it adds a code and what decodes to its text. -/
theorem Operand.encoding (printer : Printer) (operand : Operand memory) :
    (operand.bytes = [] ∧ operand.text printer = []) ∨
      ∃ type payload, operand.bytes = type.code :: payload ∧
        Decodes memory printer type payload (operand.text printer) := by
  cases operand with
  | char byte => exact .inr ⟨.kChar, [byte], rfl, char_decodes byte⟩
  | int32 value => exact .inr ⟨.kInt32, _, rfl, (word_decodes value).1⟩
  | uint32 value => exact .inr ⟨.kUInt32, _, rfl, (word_decodes value).2⟩
  | int64 value => exact .inr ⟨.kInt64, _, rfl, (long_decodes value).1⟩
  | uint64 value => exact .inr ⟨.kUInt64, _, rfl, (long_decodes value).2.1⟩
  | double bits => exact .inr ⟨.kDouble, _, rfl, (long_decodes bits).2.2⟩
  | pointer address => exact .inr ⟨.kUInt64, _, rfl, (long_decodes address).2.1⟩
  | string text =>
    by_cases empty : cStr text = []
    · exact .inl ⟨by simp [Operand.bytes, empty], empty⟩
    · exact .inr ⟨.kRawStr, cStr text ++ [0], by
        simp [Operand.bytes, empty], rawStr_decodes (cStr_free text)⟩
  | stringView view => exact .inr ⟨.kStrView, _, rfl, view_decodes view⟩
  | cString source => exact .inr ⟨.kStrView, _, rfl, view_decodes source.view⟩

/-- One round of the loop. -/
theorem stringifyOperands_cons {text rest : Text} {«end» fuel : Nat}
    (decodes : Decodes memory printer type payload text) (inside : before.length < «end»)
    (later : stringifyOperands memory printer (before ++ (type.code :: payload ++ after)) «end» fuel
      (before.length + (type.code :: payload).length) = .ok rest) :
    stringifyOperands memory printer (before ++ (type.code :: payload ++ after)) «end»
      (fuel + 1) before.length =
      .ok (text ++ rest) := by
  have tag : load (before ++ ([type.code] ++ (payload ++ after))) before.length 1 =
      .ok [type.code] :=
    load_at rfl rfl
  rw [List.singleton_append, ← List.cons_append] at tag
  have shape : before ++ (type.code :: payload ++ after) =
    (before ++ [type.code]) ++ (payload ++ after) := by simp
  have decoded := decodes (before ++ [type.code]) after (before.length + 1) (by simp)
  rw [← shape] at decoded
  have next : before.length + 1 + payload.length = before.length +
      (type.code :: payload).length := by
    rw [List.length_cons]
    omega
  rw [next] at decoded
  simp only [stringifyOperands, inside, if_true, tag, ok_bind, List.head?_cons, Option.bind_some,
    ofCode_code, decoded, later]
  rfl

/-- The loop prints the operands in order, whatever stands before and behind their bytes. -/
theorem stringifyOperands_flatMap (printer : Printer) (operands : List (Operand memory))
    (before after : Text) {fuel : Nat}
    (enough : (operands.flatMap Operand.bytes).length < fuel) :
    stringifyOperands memory printer (before ++ (operands.flatMap Operand.bytes ++ after))
      (before.length + (operands.flatMap Operand.bytes).length) fuel before.length =
        .ok (operands.flatMap (Operand.text printer)) := by
  induction operands generalizing before fuel with
  | nil =>
    cases fuel with
    | zero => cases enough
    | succ fuel => simp [stringifyOperands]; rfl
  | cons operand operands ih =>
    rcases operand.encoding printer with ⟨nothing, silent⟩ | ⟨type, payload, encoded, decodes⟩
    · simpa [List.flatMap_cons, nothing, silent]
        using ih before (by simpa [List.flatMap_cons, nothing] using enough)
    · simp only [List.flatMap_cons, encoded, List.length_append] at enough ⊢
      cases fuel with
      | zero => cases enough
      | succ fuel =>
        rw [List.length_cons] at enough
        have fewer : (operands.flatMap Operand.bytes).length < fuel := by omega
        have later := ih (before ++ type.code :: payload) fewer
        rw [List.append_assoc, List.length_append, Nat.add_assoc] at later
        rw [List.append_assoc (type.code :: payload)]
        refine stringifyOperands_cons decodes ?_ later
        rw [List.length_cons]
        omega

end Operands

theorem levelOfByte_value (level : LogLevel) :
    levelOfByte (UInt8.ofNat level.value) = some level := by
  cases level <;> rfl

/-- The text before the operands. -/
def Header.text (printer : Printer) (header : Header memory) : Text :=
  header.timestamp.toString printer.localtime ++ ascii " " ++
    signed header.threadId.toInt ++ ascii " [" ++
    logLevelToString (some header.level) ++ ascii "] <" ++
      header.func.view.text memory ++ ascii "> " ++
    if header.oldErrno.toInt ≠ 0 then ascii "(" ++ printer.strerror header.oldErrno.toInt ++
      ascii ") " else []

/-- The text behind the operands. -/
def Header.trailer (header : Header memory) : Text :=
  ascii " - " ++ basename (header.file.view.text memory) ++ ascii ":" ++
    decimal header.line.toNat ++ ascii "\n"

theorem Holds.storage_eq (holds : Holds line content) :
    line.storage = content ++ line.storage.drop line.usedBytes := by
  have split := List.take_append_drop line.usedBytes line.storage
  have taken : line.storage.take line.usedBytes = content := by
    simpa [window] using holds.content
  rw [taken] at split
  exact split.symm

/-- What `stringify` prints for a line that holds a header and operands. -/
theorem Holds.stringify (printer : Printer) (header : Header memory)
    (operands : List (Operand memory))
    (holds : Holds line (header.bytes ++ operands.flatMap Operand.bytes)) (errno : Int) :
    line.stringify memory printer errno = .ok
      { text := header.text printer ++ operands.flatMap (Operand.text printer) ++ header.trailer
        errno := if header.oldErrno.toInt ≠ 0 then 0 else errno
        aborts := decide (header.level = .kFATAL) } := by
  generalize tail : operands.flatMap Operand.bytes ++ line.storage.drop line.usedBytes = rest
  have shape : line.storage = toBytes 8 header.timestamp.timeSinceEpoch.toNat ++
      (toBytes 4 header.threadId.toNat ++
      ([UInt8.ofNat header.level.value] ++ (header.file.view.bytes ++ (header.func.view.bytes ++
        (toBytes 4 header.line.toNat ++ (toBytes 4 header.oldErrno.toNat ++ rest)))))) := by
    rw [holds.storage_eq, ← tail]
    simp [Header.bytes]
  have timestamp : loadWord 64 line.storage 0 = .ok header.timestamp.timeSinceEpoch := by
    rw [shape]
    change loadWord 64 ([] ++ (toBytes 8 header.timestamp.timeSinceEpoch.toNat ++ _)) 0 = _
    exact loadWord_at rfl _ rfl
  have threadId : loadWord 32 line.storage 8 = .ok header.threadId := by
    rw [shape]
    exact loadWord_at rfl _ (toBytes_length _ _)
  have level : load line.storage 12 1 = .ok [UInt8.ofNat header.level.value] := by
    rw [shape, ← List.append_assoc]
    exact load_at (by simp) rfl
  have file : loadView line.storage 13 = .ok header.file.view := by
    rw [shape, ← List.append_assoc, ← List.append_assoc]
    exact loadView_at _ (by simp)
  have func : loadView line.storage 29 = .ok header.func.view := by
    rw [shape, ← List.append_assoc, ← List.append_assoc, ← List.append_assoc]
    exact loadView_at _ (by simp)
  have lineNumber : loadWord 32 line.storage 45 = .ok header.line := by
    rw [shape, ← List.append_assoc, ← List.append_assoc, ← List.append_assoc, ← List.append_assoc]
    exact loadWord_at rfl _ (by simp)
  have oldErrno : loadWord 32 line.storage 49 = .ok header.oldErrno := by
    rw [shape, ← List.append_assoc, ← List.append_assoc, ← List.append_assoc, ← List.append_assoc,
      ← List.append_assoc]
    exact loadWord_at rfl _ (by simp)
  have printed : stringifyOperands memory printer line.storage line.usedBytes
      (line.usedBytes + 1) 53 =
        .ok (operands.flatMap (Operand.text printer)) := by
    have used := holds.used
    rw [List.length_append, header.bytes_length] at used
    have enough : (operands.flatMap Operand.bytes).length < line.usedBytes + 1 := by omega
    have loop := stringifyOperands_flatMap printer operands header.bytes
      (line.storage.drop line.usedBytes) enough
    rw [← List.append_assoc, ← holds.storage_eq, header.bytes_length, ← used] at loop
    exact loop
  simp only [LogLine.stringify, timestamp, threadId, level, file, func, lineNumber, oldErrno,
    printed, ok_bind, List.head?_cons, Option.bind_some, levelOfByte_value]
  simp only [Header.text, Header.trailer, List.append_assoc, Option.some.injEq]
  rfl

/-- A line as a log statement makes it. -/
def build (junk : Junk) (header : Header memory) (operands : List (Operand memory)) :
    Checked LogLine := do
  let line ← create header
  line.insertAll junk operands

theorem build_holds (junk : Junk) (header : Header memory) (operands : List (Operand memory)) :
    ∃ line, build junk header operands = .ok line ∧
      Holds line (header.bytes ++ operands.flatMap Operand.bytes) := by
  obtain ⟨start, created, startHolds⟩ := create_holds header
  obtain ⟨line, inserted, holds⟩ := startHolds.insertAll junk operands
  refine ⟨line, ?_, holds⟩
  rw [build, created, ok_bind]
  exact inserted

/-- Whatever is inserted, every store is within the storage, and `stringify` prints the header, the
operands in order and the trailer, as often as it is called. -/
theorem build_prints (junk : Junk) (printer : Printer) (header : Header memory)
    (operands : List (Operand memory)) (survives : header.level ≠ .kFATAL) :
    ∃ line, build junk header operands = .ok line ∧ line.usedBytes ≤ line.bufferSize ∧
      line.bufferSize ≤ line.storage.length ∧
      ∀ errno, line.stringify memory printer errno = .ok
        { text := header.text printer ++ operands.flatMap (Operand.text printer) ++ header.trailer
          errno := if header.oldErrno.toInt ≠ 0 then 0 else errno
          aborts := false } := by
  obtain ⟨line, built, holds⟩ := build_holds junk header operands
  refine ⟨line, built, holds.bounded, holds.allocated, ?_⟩
  intro errno
  rw [holds.stringify printer header operands errno, decide_eq_false survives]

/-- A process whose strings are all empty. -/
def noStrings : Memory := fun _ => 0

/-- The header of a line written at the epoch. -/
def epochHeader : Header noStrings where
  timestamp := ⟨0⟩
  threadId := 1
  level := .kINFO
  file := ⟨0, 0, rfl, fun _ inside => absurd inside (Nat.not_lt_zero _)⟩
  func := ⟨0, 0, rfl, fun _ inside => absurd inside (Nat.not_lt_zero _)⟩
  line := 25
  oldErrno := 0

/-- The C library as far as `epochHeader` asks it, in UTC. -/
def epochPrinter : Printer where
  localtime := fun _ => ascii "1970-01-01 00:00:00"
  strerror := fun _ => ascii "Success"
  double := fun _ => ascii "0"

/-- Operands that outgrow the stack buffer and then the first heap buffer. -/
def longOperands : List (Operand noStrings) :=
  [.string (List.replicate 100 97), .int32 (-1), .string (List.replicate 600 98),
    .string [99, 0, 100], .pointer 255]

theorem build_prints_long :
    ∃ line, build (fun _ _ => 0) epochHeader longOperands = .ok line ∧
      line.usedBytes ≤ line.bufferSize ∧
      line.bufferSize ≤ line.storage.length ∧
      ∀ errno, line.stringify noStrings epochPrinter errno = .ok
        { text := epochHeader.text epochPrinter ++ longOperands.flatMap
            (Operand.text epochPrinter) ++
            epochHeader.trailer
          errno := if epochHeader.oldErrno.toInt ≠ 0 then 0 else errno
          aborts := false } :=
  build_prints (fun _ _ => 0) epochPrinter epochHeader longOperands (fun fatal => by cases fatal)

/-- What `std::ostream` prints for a `const void *`. -/
def ostreamPointer (address : BitVec 64) : Text :=
  if address = 0 then ascii "0"
  else ascii "0x" ++ (Nat.toDigits 16 address.toNat).map fun char => UInt8.ofNat char.toNat

/-- What `std::ostream` prints for an operand. -/
def Operand.ostreamText (printer : Printer) : Operand memory → Text
  | .pointer address => ostreamPointer address
  | operand => operand.text printer

/-- A pointer is not printed as `std::ostream` prints it: 255 is not `0xff` in the line. -/
theorem pointer_not_as_ostream :
    ∃ line, build (fun _ _ => 0) epochHeader [.pointer 255] = .ok line ∧
      ∃ output, line.stringify noStrings epochPrinter 0 = .ok output ∧
        output.text ≠ epochHeader.text epochPrinter ++
          ([.pointer 255] : List (Operand noStrings)).flatMap (Operand.ostreamText epochPrinter) ++
            epochHeader.trailer := by
  obtain ⟨line, built, holds⟩ := build_holds (fun _ _ => 0) epochHeader [.pointer 255]
  refine ⟨line, built, _, holds.stringify epochPrinter epochHeader _ 0, ?_⟩
  intro same
  have middle := List.append_cancel_left (List.append_cancel_right same)
  revert middle
  decide

end FakeMuduo.Util.LogLine
