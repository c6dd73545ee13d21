import Hxrpc.Config
import Hxrpc.Lib.Separators

/-!
# Loading a configuration file

`LoadConfigFile` reads through a buffer of 1024 bytes, so a line of more than 1023 bytes comes in
pieces, and every piece is parsed as if it were a line.  The entries are those of the lines exactly
if every line with an entry has it in one piece and no piece looks like an entry otherwise.
-/

namespace Hxrpc

namespace Config

/-- What ends a line. -/
def newline : UInt8 := 10

/-- How many bytes `fgets` stores in `buffer[1024]`. -/
def bufferWidth : Nat := 1024 - 1

theorem bufferWidth_pos : 0 < bufferWidth := by decide

/-- The body of the loop of `LoadConfigFile`; a string ends at its first null byte. -/
def loadLine (state : YamlState) (buffer : Bytes) : YamlState :=
  let line := buffer.takeWhile (· ≠ 0)
  let trimmed := trimCopy line
  if trimmed = [] ∨ trimmed.head? = some hash then state else parseYamlLine line state

/-- `LoadConfigFile`, on the map that was there before and the bytes of the file, if it could be
opened. -/
def loadConfigFile (before : AList fun _ : Bytes => Bytes) (file : Option Bytes) :
    Except Bytes Unit × AList fun _ : Bytes => Bytes :=
  match file with
  | none => (.error (text "failed to open config file"), before)
  | some bytes =>
      (.ok (), (foldChunks newline bufferWidth loadLine (bytes.length + 1) bytes {}).configMap)

/-! ## Entries -/

/-- Trimming keeps what is not blank. -/
theorem mem_trimCopy_iff {byte : UInt8} (solid : isBlank byte = false) {value : Bytes} :
    byte ∈ trimCopy value ↔ byte ∈ value := by
  obtain ⟨front, back, whole, front_blank, back_blank, -⟩ := trimCopy_spec value
  have not_front := notMem_of_blank solid front_blank
  have not_back := notMem_of_blank solid back_blank
  conv_rhs => rw [whole]
  simp only [List.mem_append, not_front, not_back, false_or, or_false]

/-- What the part of a line in front of its comment says, before quotes are stripped. -/
def written (code : Bytes) : Option ConfigLine :=
  if colon ∈ code then
    some
      { indent := countIndent code
        key := trimCopy (code.takeWhile (· ≠ colon))
        value := trimCopy ((code.dropWhile (· ≠ colon)).drop 1) }
  else none

/-- The entry on a line, as it is written there. -/
def entry (line : Bytes) : Option ConfigLine :=
  written (uncomment line)

/-- A line without the quotes around its key and its value. -/
def ConfigLine.unquoted (line : ConfigLine) : ConfigLine :=
  { line with key := stripQuotes line.key, value := stripQuotes line.value }

/-- The key and the value of a line. -/
def ConfigLine.content (line : ConfigLine) : Bytes × Bytes :=
  (line.key, line.value)

/-- A turn of the loop of `LoadConfigFile` adds the entry in the buffer to those read so far. -/
def readEntry (entries : List ConfigLine) (buffer : Bytes) : List ConfigLine :=
  entries ++ (entry (buffer.takeWhile (· ≠ 0))).toList

/-- The entries that the loop of `LoadConfigFile` reads, in their order. -/
def readEntries (bytes : Bytes) : List ConfigLine :=
  foldChunks newline bufferWidth readEntry (bytes.length + 1) bytes []

theorem written_eq_none_iff {code : Bytes} : written code = none ↔ colon ∉ code := by
  rw [written]
  split_ifs with present <;> simp [present]

theorem entry_eq_none_iff {line : Bytes} : entry line = none ↔ colon ∉ uncomment line :=
  written_eq_none_iff

theorem mem_of_entry {line : Bytes} {item : ConfigLine} (meaning : entry line = some item) :
    colon ∈ uncomment line := by
  by_contra absent
  rw [entry_eq_none_iff.mpr absent] at meaning
  cases meaning

theorem entry_nil : entry [] = none := rfl

/-- An entry is cut at its first colon. -/
theorem written_of_cut {front : Bytes} (free : colon ∉ front) (back : Bytes) :
    written (front ++ colon :: back) =
      some
        { indent := countIndent (front ++ colon :: back)
          key := trimCopy front
          value := trimCopy back } := by
  rw [written, if_pos (List.mem_append_right front List.mem_cons_self), takeWhile_ne_append free,
    dropWhile_ne_append free]
  simp

/-- Trimming does not reach beyond something solid. -/
theorem trimCopy_append_cons {solid : UInt8} (is_solid : isBlank solid = false)
    (front back : Bytes) :
    trimCopy (front ++ solid :: back) =
      front.dropWhile isBlank ++ solid :: back.rdropWhile isBlank := by
  have not_blank : ¬ isBlank solid = true := Bool.eq_false_iff.mp is_solid
  have left : (front ++ solid :: back).dropWhile isBlank =
      front.dropWhile isBlank ++ solid :: back := by
    rw [List.dropWhile_append]
    cases front.dropWhile isBlank with
    | nil => simp [not_blank]
    | cons head rest => simp
  have right : ((back.reverse ++ [solid]) ++ (front.dropWhile isBlank).reverse).dropWhile isBlank =
      back.reverse.dropWhile isBlank ++ [solid] ++ (front.dropWhile isBlank).reverse := by
    rw [List.append_assoc, List.dropWhile_append]
    cases back.reverse.dropWhile isBlank with
    | nil => simp [not_blank]
    | cons head rest => simp
  rw [trimCopy, left, List.rdropWhile, List.reverse_append, List.reverse_cons, right]
  simp [List.rdropWhile]

/-- A line says its entry without the quotes. -/
theorem effective_eq (line : Bytes) : effective line = (entry line).map ConfigLine.unquoted := by
  rw [effective, entry]
  generalize uncomment line = code
  have inside := @mem_trimCopy_iff colon rfl code
  by_cases present : colon ∈ code
  · obtain ⟨front, back, rfl, free⟩ := List.eq_append_cons_of_mem present
    have kept : colon ∉ front.dropWhile isBlank :=
      fun member => free ((List.dropWhile_suffix _).subset member)
    have key : trimCopy (front.dropWhile isBlank) = trimCopy front := by
      rw [trimCopy, List.dropWhile_idempotent, trimCopy]
    have value : trimCopy (back.rdropWhile isBlank) = trimCopy back := by
      have blanks : ∀ byte ∈ back.rtakeWhile isBlank, isBlank byte = true :=
        fun byte member => List.mem_rtakeWhile_imp member
      rw [← trimCopy_append_right _ ⟨_, blanks⟩, List.rdropWhile_append_rtakeWhile]
    rw [written_of_cut free, trimCopy_append_cons rfl, if_pos (by simp), takeWhile_ne_append kept,
      dropWhile_ne_append kept]
    simp [ConfigLine.unquoted, key, value]
  · have absent : colon ∉ trimCopy code := fun member => present (inside.mp member)
    rw [written_eq_none_iff.mpr present, if_neg fun both => absent both.2]
    rfl

/-! ## Comments -/

/-- A comment goes on to the end of the line. -/
theorem uncomment_append_of_mem {line : Bytes} (present : hash ∈ line) (rest : Bytes) :
    uncomment (line ++ rest) = uncomment line := by
  obtain ⟨front, back, rfl, free⟩ := List.eq_append_cons_of_mem present
  rw [uncomment, uncomment, List.append_assoc, takeWhile_ne_append free, takeWhile_ne_append free]
  simp

theorem uncomment_append_of_notMem {line : Bytes} (absent : hash ∉ line) (rest : Bytes) :
    uncomment (line ++ rest) = line ++ uncomment rest :=
  takeWhile_ne_append absent rest

theorem uncomment_of_notMem {line : Bytes} (absent : hash ∉ line) : uncomment line = line := by
  have whole := uncomment_append_of_notMem absent []
  simpa [uncomment] using whole

/-- A piece that starts in front of the comment has its part of what stands there. -/
theorem uncomment_linePiece {line : Bytes} {number : Nat}
    (inside : bufferWidth * number ≤ (uncomment line).length) :
    uncomment (linePiece bufferWidth line number) =
      linePiece bufferWidth (uncomment line) number := by
  have whole : uncomment line ++ line.dropWhile (· ≠ hash) = line :=
    List.takeWhile_append_dropWhile
  have cut : line.drop (bufferWidth * number) =
      (uncomment line).drop (bufferWidth * number) ++ line.dropWhile (· ≠ hash) := by
    conv_lhs => rw [← whole]
    exact List.drop_append_of_le_length inside
  have free : hash ∉ (uncomment line).drop (bufferWidth * number) := by
    intro member
    have not_hash := List.mem_takeWhile_imp (List.mem_of_mem_drop member)
    simp at not_hash
  have nothing : uncomment (line.dropWhile (· ≠ hash)) = [] := by
    rw [uncomment, List.takeWhile_eq_nil_iff]
    intro nonempty
    exact List.dropWhile_get_zero_not _ _ nonempty
  rw [linePiece, uncomment, ← List.take_takeWhile, ← uncomment, cut,
    uncomment_append_of_notMem free, nothing, List.append_nil, linePiece]

/-! ## The loop -/

theorem countIndent_append {code : Bytes} (present : colon ∈ code) (rest : Bytes) :
    countIndent (code ++ rest) = countIndent code := by
  obtain ⟨front, back, rfl, -⟩ := List.eq_append_cons_of_mem present
  have stops : ∀ tail : Bytes, countIndent (front ++ colon :: tail) = countIndent front := by
    intro tail
    rw [countIndent, countIndent, List.takeWhile_append]
    split_ifs with all
    · simp [isIndent, colon, all]
    · rfl
  rw [List.append_assoc, List.cons_append, stops, stops]

/-- Blanks behind it do not change an entry. -/
theorem written_append_blanks (code : Bytes) (blanks : Blanks) :
    written (code ++ blanks.1) = written code := by
  by_cases present : colon ∈ code
  · have indent := countIndent_append present blanks.1
    obtain ⟨front, back, rfl, free⟩ := List.eq_append_cons_of_mem present
    rw [List.append_assoc, List.cons_append] at indent ⊢
    rw [written_of_cut free, written_of_cut free, trimCopy_append_right, indent]
  · have absent : colon ∉ code ++ blanks.1 := by
      rw [List.mem_append, not_or]
      exact ⟨present, notMem_of_blank rfl blanks.2⟩
    rw [written_eq_none_iff.mpr present, written_eq_none_iff.mpr absent]

theorem entry_append_newline (line : Bytes) : entry (line ++ [newline]) = entry line := by
  rw [entry, entry]
  by_cases present : hash ∈ line
  · rw [uncomment_append_of_mem present]
  · rw [uncomment_append_of_notMem present, uncomment_of_notMem present]
    exact written_append_blanks line ⟨[newline], by simp [isBlank, newline]⟩

/-- A blank line has no entry, nor has one whose first byte that is not blank starts a comment. -/
theorem entry_of_skipped {line : Bytes}
    (skipped : trimCopy line = [] ∨ (trimCopy line).head? = some hash) : entry line = none := by
  rw [entry_eq_none_iff]
  obtain ⟨front, back, whole, front_blank, -⟩ := trimCopy_spec line
  have free : colon ∉ front := notMem_of_blank rfl front_blank
  rcases skipped with empty | comment
  · intro member
    have inside : colon ∈ line := (List.takeWhile_prefix _).subset member
    rw [← mem_trimCopy_iff rfl, empty] at inside
    cases inside
  · obtain ⟨rest, trimmed_eq⟩ : ∃ rest, trimCopy line = hash :: rest :=
      List.head?_eq_some_iff.mp comment
    have no_hash : hash ∉ front := notMem_of_blank rfl front_blank
    have code : uncomment line = front := by
      rw [whole, trimmed_eq, List.append_assoc, uncomment_append_of_notMem no_hash]
      simp [uncomment]
    rw [code]
    exact free

/-- What is skipped would not have done anything. -/
theorem loadLine_eq (state : YamlState) (buffer : Bytes) :
    loadLine state buffer =
      ((entry (buffer.takeWhile (· ≠ 0))).toList.map ConfigLine.unquoted).foldl
        YamlState.apply state := by
  rw [loadLine]
  split_ifs with skipped
  · rw [entry_of_skipped skipped]
    rfl
  · rw [parseYamlLine_eq, effective_eq]
    cases entry (buffer.takeWhile (· ≠ 0)) <;> rfl

theorem readEntry_append_newline (entries : List ConfigLine) (line : Bytes) :
    readEntry entries (line ++ [newline]) = readEntry entries line := by
  rw [readEntry, readEntry, List.takeWhile_append]
  split_ifs with whole
  · have all : line.takeWhile (· ≠ 0) = line :=
      List.Sublist.eq_of_length (List.takeWhile_sublist _) whole
    have kept : [newline].takeWhile (· ≠ 0) = [newline] := rfl
    rw [all, kept, entry_append_newline]
  · rfl

/-- The loop reads the entries of the pieces of the lines. -/
theorem readEntries_eq {file : Bytes} (no_null : 0 ∉ file) :
    readEntries file =
      (file.splitOn newline).flatMap fun line => (linePieces bufferWidth line).filterMap entry := by
  have own : ∀ piece ∈ (file.splitOn newline).flatMap (linePieces bufferWidth),
      piece.takeWhile (· ≠ 0) = piece := by
    intro piece member
    obtain ⟨line, line_member, piece_member⟩ := List.mem_flatMap.mp member
    rw [List.takeWhile_eq_self_iff]
    intro byte inside
    have in_file := mem_of_mem_splitOn line_member (mem_of_mem_linePieces piece_member inside)
    exact decide_eq_true fun null => no_null (null ▸ in_file)
  have items : ∀ pieces : List Bytes, (∀ piece ∈ pieces, piece.takeWhile (· ≠ 0) = piece) →
      (pieces.flatMap fun piece => (entry (piece.takeWhile (· ≠ 0))).toList) =
        pieces.filterMap entry := by
    intro pieces whole
    rw [List.filterMap_eq_flatMap_toList, List.flatMap_def, List.flatMap_def,
      List.map_congr_left fun piece member => by rw [whole piece member]]
  have fold : ∀ pieces : List Bytes, pieces.foldl readEntry [] =
      pieces.flatMap fun piece => (entry (piece.takeWhile (· ≠ 0))).toList :=
    fun _ => List.flatMap_eq_foldl.symm
  have skips : ∀ entries, readEntry entries [] = entries := fun entries => List.append_nil entries
  rw [readEntries, foldChunks_eq bufferWidth_pos readEntry_append_newline skips _ _ _
    (Nat.lt_succ_self _), textPieces, fold, items _ own, List.filterMap_flatMap]

/-- The loop does what the entries say that it reads. -/
theorem foldChunks_loadLine (steps : Nat) (bytes : Bytes) (entries : List ConfigLine) :
    foldChunks newline bufferWidth loadLine steps bytes
        ((entries.map ConfigLine.unquoted).foldl YamlState.apply {}) =
      ((foldChunks newline bufferWidth readEntry steps bytes entries).map
        ConfigLine.unquoted).foldl YamlState.apply {} := by
  induction steps generalizing bytes entries with
  | zero => rfl
  | succ steps ih =>
      rw [foldChunks, foldChunks]
      cases nextChunk newline bufferWidth bytes with
      | none => rfl
      | some chunk =>
          have next :
              loadLine ((entries.map ConfigLine.unquoted).foldl YamlState.apply {}) chunk.1 =
                ((readEntry entries chunk.1).map ConfigLine.unquoted).foldl YamlState.apply {} := by
            rw [loadLine_eq, readEntry, List.map_append, List.foldl_append]
          exact (congrArg _ next).trans (ih chunk.2 _)

theorem loadConfigFile_eq (before : AList fun _ : Bytes => Bytes) (file : Bytes) :
    loadConfigFile before (some file) =
      (.ok (), (((readEntries file).map ConfigLine.unquoted).foldl YamlState.apply {}).configMap) :=
  congrArg (fun state : YamlState => (Except.ok (), state.configMap))
    (foldChunks_loadLine (file.length + 1) file [])

theorem parseYamlLines_eq_entries (lines : List Bytes) :
    parseYamlLines lines =
      ((lines.filterMap entry).map ConfigLine.unquoted).foldl YamlState.apply {} := by
  rw [parseYamlLines_eq, effectiveLines, List.map_filterMap]
  exact congrArg (fun items : List ConfigLine => items.foldl YamlState.apply {})
    (List.filterMap_congr fun line _ => effective_eq line)

/-! ## Lines that the buffer leaves whole -/

/-- A line with no entry whose pieces have no entries either, or one whose entry is in one piece,
but for blanks, equally indented, while the other pieces have none.  A piece has an entry if it has
a colon in front of its first `#`. -/
inductive Uncut (line : Bytes) : Prop
  | silent (pieces : ∀ number, colon ∉ uncomment (linePiece bufferWidth line number))
  | held (number : Nat) (present : colon ∈ uncomment line)
      (before : ∀ byte ∈ (uncomment line).take (bufferWidth * number), isBlank byte = true)
      (behind : ∀ byte ∈ (uncomment line).drop (bufferWidth * (number + 1)), isBlank byte = true)
      (indent : countIndent (linePiece bufferWidth (uncomment line) number) =
        countIndent (uncomment line))
      (others : ∀ other, other ≠ number → colon ∉ uncomment (linePiece bufferWidth line other))

/-- The same for the keys and the values, however a line is indented. -/
inductive Unbroken (line : Bytes) : Prop
  | silent (pieces : ∀ number, colon ∉ uncomment (linePiece bufferWidth line number))
  | held (number : Nat) (present : colon ∈ uncomment line)
      (before : ∀ byte ∈ (uncomment line).take (bufferWidth * number), isBlank byte = true)
      (behind : ∀ byte ∈ (uncomment line).drop (bufferWidth * (number + 1)), isBlank byte = true)
      (others : ∀ other, other ≠ number → colon ∉ uncomment (linePiece bufferWidth line other))

/-- How many bytes are not blank. -/
def solidCount (value : Bytes) : Nat :=
  value.countP fun byte => !isBlank byte

theorem solidCount_eq_zero_iff {value : Bytes} :
    solidCount value = 0 ↔ ∀ byte ∈ value, isBlank byte = true := by
  rw [solidCount, List.countP_eq_zero]
  simp

theorem solidCount_append (front back : Bytes) :
    solidCount (front ++ back) = solidCount front + solidCount back :=
  List.countP_append

theorem solidCount_trimCopy (value : Bytes) : solidCount (trimCopy value) = solidCount value := by
  obtain ⟨front, back, whole, front_blank, back_blank, -⟩ := trimCopy_spec value
  conv_rhs => rw [whole]
  rw [solidCount_append, solidCount_append, solidCount_eq_zero_iff.mpr front_blank,
    solidCount_eq_zero_iff.mpr back_blank, Nat.zero_add, Nat.add_zero]

/-- Trimming hides what stands in front exactly if it is blank. -/
theorem trimCopy_append_left_iff {front value : Bytes} :
    trimCopy (front ++ value) = trimCopy value ↔ ∀ byte ∈ front, isBlank byte = true := by
  constructor
  · intro same
    have count := congrArg solidCount same
    rw [solidCount_trimCopy, solidCount_trimCopy, solidCount_append] at count
    exact solidCount_eq_zero_iff.mp (by omega)
  · exact fun blank => trimCopy_append_left ⟨front, blank⟩ value

theorem trimCopy_append_right_iff {value back : Bytes} :
    trimCopy (value ++ back) = trimCopy value ↔ ∀ byte ∈ back, isBlank byte = true := by
  constructor
  · intro same
    have count := congrArg solidCount same
    rw [solidCount_trimCopy, solidCount_trimCopy, solidCount_append] at count
    exact solidCount_eq_zero_iff.mp (by omega)
  · exact fun blank => trimCopy_append_right value ⟨back, blank⟩

theorem written_eq_some {code : Bytes} (present : colon ∈ code) :
    ∃ key value, written code = some ⟨countIndent code, key, value⟩ :=
  ⟨_, _, if_pos present⟩

/-- A part of a text with the first colon has the key and the value of the whole exactly if the rest
is blank. -/
theorem content_part_iff {front part back : Bytes} (free : colon ∉ front) (present : colon ∈ part) :
    (written part).map ConfigLine.content =
        (written (front ++ (part ++ back))).map ConfigLine.content ↔
      (∀ byte ∈ front, isBlank byte = true) ∧ ∀ byte ∈ back, isBlank byte = true := by
  obtain ⟨key, value, rfl, key_free⟩ := List.eq_append_cons_of_mem present
  have both_free : colon ∉ front ++ key := by
    rw [List.mem_append, not_or]
    exact ⟨free, key_free⟩
  have whole : front ++ ((key ++ colon :: value) ++ back) =
      (front ++ key) ++ colon :: (value ++ back) := by
    simp
  rw [whole, written_of_cut key_free, written_of_cut both_free, Option.map_some, Option.map_some,
    Option.some.injEq, ConfigLine.content, ConfigLine.content, Prod.mk.injEq,
    eq_comm (b := trimCopy (front ++ key)), trimCopy_append_left_iff,
    eq_comm (b := trimCopy (value ++ back)), trimCopy_append_right_iff]

/-- It has the entry of the whole exactly if also the indentation agrees. -/
theorem written_part_iff {front part back : Bytes} (free : colon ∉ front) (present : colon ∈ part) :
    written part = written (front ++ (part ++ back)) ↔
      (∀ byte ∈ front, isBlank byte = true) ∧ (∀ byte ∈ back, isBlank byte = true) ∧
        countIndent part = countIndent (front ++ (part ++ back)) := by
  have inside : colon ∈ front ++ (part ++ back) :=
    List.mem_append_right front (List.mem_append_left back present)
  obtain ⟨key, value, part_eq⟩ := written_eq_some present
  obtain ⟨other_key, other_value, whole_eq⟩ := written_eq_some inside
  rw [← and_assoc, ← content_part_iff free present, part_eq, whole_eq, and_comm]
  simp [ConfigLine.content]

/-- The piece with the first colon of an entry. -/
theorem exists_piece {line : Bytes} (present : colon ∈ uncomment line) :
    ∃ number, colon ∉ (uncomment line).take (bufferWidth * number) ∧
      colon ∈ linePiece bufferWidth (uncomment line) number ∧
      uncomment (linePiece bufferWidth line number) =
        linePiece bufferWidth (uncomment line) number := by
  obtain ⟨number, inside, free, member⟩ := exists_linePiece_of_mem bufferWidth_pos present
  exact ⟨number, free, member, uncomment_linePiece inside⟩

/-- A line has an entry only if one of its pieces has one. -/
theorem entry_eq_none_of_pieces {line : Bytes}
    (pieces : ∀ number, colon ∉ uncomment (linePiece bufferWidth line number)) :
    entry line = none := by
  rw [entry_eq_none_iff]
  intro present
  obtain ⟨number, -, member, code⟩ := exists_piece present
  exact pieces number (code ▸ member)

/-- The entry of a line is read from one of its pieces exactly if the rest is blank and the
indentation agrees. -/
theorem entry_linePiece_iff {line : Bytes} {number : Nat}
    (free : colon ∉ (uncomment line).take (bufferWidth * number))
    (member : colon ∈ linePiece bufferWidth (uncomment line) number) :
    written (linePiece bufferWidth (uncomment line) number) = entry line ↔
      (∀ byte ∈ (uncomment line).take (bufferWidth * number), isBlank byte = true) ∧
        (∀ byte ∈ (uncomment line).drop (bufferWidth * (number + 1)), isBlank byte = true) ∧
        countIndent (linePiece bufferWidth (uncomment line) number) =
          countIndent (uncomment line) := by
  have part :=
    @written_part_iff _ _ ((uncomment line).drop (bufferWidth * (number + 1))) free member
  rw [take_linePiece_drop] at part
  exact part

/-- Its key and its value are read from that piece exactly if the rest is blank. -/
theorem content_linePiece_iff {line : Bytes} {number : Nat}
    (free : colon ∉ (uncomment line).take (bufferWidth * number))
    (member : colon ∈ linePiece bufferWidth (uncomment line) number) :
    (written (linePiece bufferWidth (uncomment line) number)).map ConfigLine.content =
        (entry line).map ConfigLine.content ↔
      (∀ byte ∈ (uncomment line).take (bufferWidth * number), isBlank byte = true) ∧
        ∀ byte ∈ (uncomment line).drop (bufferWidth * (number + 1)), isBlank byte = true := by
  have part :=
    @content_part_iff _ _ ((uncomment line).drop (bufferWidth * (number + 1))) free member
  rw [take_linePiece_drop] at part
  exact part

/-- The piece with the first colon is the only one with an entry. -/
structure Holder (line : Bytes) (number : Nat) : Prop where
  free : colon ∉ (uncomment line).take (bufferWidth * number)
  member : colon ∈ linePiece bufferWidth (uncomment line) number
  others : ∀ other, other ≠ number → colon ∉ uncomment (linePiece bufferWidth line other)

/-- If all pieces but one have no entry, that one has the first colon. -/
theorem holder_of_others {line : Bytes} {number : Nat} (present : colon ∈ uncomment line)
    (others : ∀ other, other ≠ number → colon ∉ uncomment (linePiece bufferWidth line other)) :
    Holder line number ∧ uncomment (linePiece bufferWidth line number) =
      linePiece bufferWidth (uncomment line) number := by
  obtain ⟨first, free, member, code⟩ := exists_piece present
  obtain rfl : first = number := by
    by_contra different
    exact others first different (code ▸ member)
  exact ⟨⟨free, member, others⟩, code⟩

theorem filterMap_entry_eq_nil_iff {line : Bytes} :
    (linePieces bufferWidth line).filterMap entry = [] ↔
      ∀ number, colon ∉ uncomment (linePiece bufferWidth line number) := by
  rw [filterMap_linePieces_eq_nil_iff bufferWidth_pos entry_nil]
  exact forall_congr' fun number => entry_eq_none_iff

theorem filterMap_entry_eq_singleton_iff {line : Bytes} {item : ConfigLine} :
    (linePieces bufferWidth line).filterMap entry = [item] ↔
      ∃ number, entry (linePiece bufferWidth line number) = some item ∧
        ∀ other, other ≠ number → colon ∉ uncomment (linePiece bufferWidth line other) := by
  rw [filterMap_linePieces_eq_singleton_iff bufferWidth_pos entry_nil]
  simp only [entry_eq_none_iff]

/-- Of a line with an entry one entry is read exactly if one piece holds it. -/
theorem filterMap_entry_eq_singleton_iff_holder {line : Bytes} (present : colon ∈ uncomment line)
    {item : ConfigLine} :
    (linePieces bufferWidth line).filterMap entry = [item] ↔
      ∃ number, Holder line number ∧
        written (linePiece bufferWidth (uncomment line) number) = some item := by
  rw [filterMap_entry_eq_singleton_iff]
  constructor
  · rintro ⟨number, found, others⟩
    obtain ⟨holder, code⟩ := holder_of_others present others
    exact ⟨number, holder, by rw [← code, ← entry, found]⟩
  · rintro ⟨number, holder, found⟩
    have code := (holder_of_others present holder.others).2
    exact ⟨number, by rw [entry, code, found], holder.others⟩

/-- What is read from the pieces of a line is its entry exactly if the line is not cut. -/
theorem filterMap_entry_iff (line : Bytes) :
    (linePieces bufferWidth line).filterMap entry = (entry line).toList ↔ Uncut line := by
  constructor
  · intro same
    cases meaning : entry line with
    | none =>
        rw [meaning] at same
        exact Uncut.silent (filterMap_entry_eq_nil_iff.mp same)
    | some item =>
        have present := mem_of_entry meaning
        rw [meaning] at same
        obtain ⟨number, holder, found⟩ :=
          (filterMap_entry_eq_singleton_iff_holder present).mp same
        obtain ⟨before, behind, indent⟩ :=
          (entry_linePiece_iff holder.free holder.member).mp (found.trans meaning.symm)
        exact Uncut.held number present before behind indent holder.others
  · rintro (pieces | ⟨number, present, before, behind, indent, others⟩)
    · rw [entry_eq_none_of_pieces pieces]
      exact filterMap_entry_eq_nil_iff.mpr pieces
    · have holder := (holder_of_others present others).1
      have whole := (entry_linePiece_iff holder.free holder.member).mpr ⟨before, behind, indent⟩
      obtain ⟨item, meaning⟩ := Option.ne_none_iff_exists'.mp
        fun nothing => (entry_eq_none_iff.mp nothing) present
      rw [meaning] at whole ⊢
      exact (filterMap_entry_eq_singleton_iff_holder present).mpr ⟨number, holder, whole⟩

/-- The keys and the values that are read are those of the line exactly if it is not broken. -/
theorem map_content_iff (line : Bytes) :
    ((linePieces bufferWidth line).filterMap entry).map ConfigLine.content =
      ((entry line).map ConfigLine.content).toList ↔ Unbroken line := by
  constructor
  · intro same
    cases meaning : entry line with
    | none =>
        rw [meaning] at same
        exact Unbroken.silent (filterMap_entry_eq_nil_iff.mp (List.map_eq_nil_iff.mp same))
    | some item =>
        have present := mem_of_entry meaning
        rw [meaning] at same
        obtain ⟨read, single, content⟩ := List.map_eq_singleton_iff.mp same
        obtain ⟨number, holder, found⟩ :=
          (filterMap_entry_eq_singleton_iff_holder present).mp single
        obtain ⟨before, behind⟩ := (content_linePiece_iff holder.free holder.member).mp
          (by rw [found, meaning, Option.map_some, content, Option.map_some])
        exact Unbroken.held number present before behind holder.others
  · rintro (pieces | ⟨number, present, before, behind, others⟩)
    · rw [entry_eq_none_of_pieces pieces, filterMap_entry_eq_nil_iff.mpr pieces]
      rfl
    · have holder := (holder_of_others present others).1
      have whole := (content_linePiece_iff holder.free holder.member).mpr ⟨before, behind⟩
      obtain ⟨key, value, found⟩ := written_eq_some holder.member
      rw [← whole, (filterMap_entry_eq_singleton_iff_holder present).mpr ⟨number, holder, found⟩,
        found]
      rfl

/-- A line that fits into the buffer is not cut. -/
theorem uncut_of_length_le {line : Bytes} (fits : line.length ≤ bufferWidth) : Uncut line := by
  rw [← filterMap_entry_iff]
  rcases Nat.lt_or_eq_of_le fits with short | full
  · rw [linePieces_of_lt short, List.filterMap_cons, List.filterMap_nil]
    cases entry line <;> rfl
  · have pieces := linePieces_append bufferWidth_pos full []
    have empty : linePieces bufferWidth ([] : Bytes) = [[]] := linePieces_of_lt bufferWidth_pos
    rw [List.append_nil, empty] at pieces
    rw [pieces, List.filterMap_cons, List.filterMap_cons, entry_nil, List.filterMap_nil]
    cases entry line <;> rfl

/-- From a line with an entry at least one entry is read. -/
theorem length_entry_le (line : Bytes) :
    (entry line).toList.length ≤ ((linePieces bufferWidth line).filterMap entry).length := by
  cases meaning : entry line with
  | none => exact Nat.zero_le _
  | some item =>
      refine List.length_pos_iff.mpr fun empty => ?_
      rw [entry_eq_none_of_pieces (filterMap_entry_eq_nil_iff.mp empty)] at meaning
      cases meaning

theorem readEntries_eq_iff {file : Bytes} (no_null : 0 ∉ file) :
    readEntries file = (file.splitOn newline).filterMap entry ↔
      ∀ line ∈ file.splitOn newline, Uncut line := by
  rw [readEntries_eq no_null, List.filterMap_eq_flatMap_toList,
    flatMap_eq_iff_of_length_le fun line _ => length_entry_le line]
  exact forall₂_congr fun line _ => filterMap_entry_iff line

theorem map_content_readEntries_iff {file : Bytes} (no_null : 0 ∉ file) :
    (readEntries file).map ConfigLine.content =
        ((file.splitOn newline).filterMap entry).map ConfigLine.content ↔
      ∀ line ∈ file.splitOn newline, Unbroken line := by
  have enough : ∀ line ∈ file.splitOn newline,
      ((entry line).map ConfigLine.content).toList.length ≤
        (((linePieces bufferWidth line).filterMap entry).map ConfigLine.content).length := by
    intro line _
    simpa [Option.toList_map] using length_entry_le line
  rw [readEntries_eq no_null, List.map_flatMap, List.map_filterMap,
    List.filterMap_eq_flatMap_toList, flatMap_eq_iff_of_length_le enough]
  exact forall₂_congr fun line _ => map_content_iff line

/-- Loading leaves the map of the lines of the file, with every entry read from the line it stands
on and as it is written there, exactly if the buffer cuts no line.  However lines are indented, no
comment becomes an entry and no key or value is cut exactly if no line is broken. -/
theorem loadConfigFile_lines {file : Bytes} (no_null : 0 ∉ file)
    (before : AList fun _ : Bytes => Bytes) :
    ((loadConfigFile before (some file) =
        (.ok (), (parseYamlLines (file.splitOn newline)).configMap) ∧
      readEntries file = (file.splitOn newline).filterMap entry) ↔
      ∀ line ∈ file.splitOn newline, Uncut line) ∧
    ((readEntries file).map ConfigLine.content =
        ((file.splitOn newline).filterMap entry).map ConfigLine.content ↔
      ∀ line ∈ file.splitOn newline, Unbroken line) := by
  refine ⟨?_, map_content_readEntries_iff no_null⟩
  rw [← readEntries_eq_iff no_null]
  constructor
  · exact fun both => both.2
  · intro same
    refine ⟨?_, same⟩
    rw [loadConfigFile_eq, same, parseYamlLines_eq_entries]

/-- A line whose comment alone runs across the end of the buffer. -/
def longLine : Bytes :=
  text "  port: 80 #" ++ List.replicate 1100 120

theorem uncut_longLine : Uncut longLine := by
  have code : uncomment longLine = text "  port: 80 " := by decide +kernel
  refine Uncut.held 0 (by rw [code]; decide) (by simp) (by rw [code]; decide +kernel)
    (by rw [code]; decide +kernel) ?_
  -- Behind the first piece there are only letters of the comment.
  intro other later member
  have inside : colon ∈ longLine.drop (bufferWidth * other) :=
    List.mem_of_mem_take ((List.takeWhile_prefix _).subset member)
  have rest : colon ∈ longLine.drop bufferWidth := by
    obtain ⟨before, rfl⟩ := Nat.exists_eq_succ_of_ne_zero later
    rw [Nat.mul_succ, Nat.add_comm, ← List.drop_drop] at inside
    exact List.mem_of_mem_drop inside
  have letters : longLine.drop bufferWidth = List.replicate 89 120 := by decide +kernel
  rw [letters, List.mem_replicate] at rest
  exact absurd rest.2 (by decide)

/-- A file of three lines; the second one ends in a comment, and so does the third one, which is
longer than the buffer. -/
def sampleFile : Bytes :=
  text "server:\n  host: 'a' # b" ++ newline :: longLine

theorem loadConfigFile_sample :
    loadConfigFile ∅ (some sampleFile) =
        (.ok (), (parseYamlLines (sampleFile.splitOn newline)).configMap) ∧
      (parseYamlLines (sampleFile.splitOn newline)).configMap.lookup (text "server.port") =
        some (text "80") ∧
      bufferWidth < longLine.length := by
  have lines : sampleFile.splitOn newline =
      [text "server:", text "  host: 'a' # b", longLine] := by decide +kernel
  have uncut : ∀ line ∈ sampleFile.splitOn newline, Uncut line := by
    intro line member
    rw [lines] at member
    simp only [List.mem_cons, List.not_mem_nil, or_false] at member
    rcases member with rfl | rfl | rfl
    · exact uncut_of_length_le (by decide)
    · exact uncut_of_length_le (by decide)
    · exact uncut_longLine
  exact ⟨((loadConfigFile_lines (by decide +kernel) ∅).1.mpr uncut).1, by decide +kernel,
    by decide +kernel⟩

/-- A value across the end of the buffer. -/
def cutValue : Bytes :=
  text "k: " ++ List.replicate 1021 118

/-- A comment with a colon behind the end of the buffer. -/
def cutComment : Bytes :=
  hash :: List.replicate 1022 120 ++ text "k: v"

theorem loadConfigFile_cut :
    (0 ∉ cutValue ∧
      (loadConfigFile ∅ (some cutValue)).2.lookup (text "k") = some (List.replicate 1020 118) ∧
      (parseYamlLines (cutValue.splitOn newline)).configMap.lookup (text "k") =
        some (List.replicate 1021 118)) ∧
      0 ∉ cutComment ∧
      (loadConfigFile ∅ (some cutComment)).2.lookup (text "k") = some (text "v") ∧
      (parseYamlLines (cutComment.splitOn newline)).configMap.lookup (text "k") = none := by
  decide +kernel

end Config

end Hxrpc
