/-!
# Lines between separators

A reader with a buffer of some width gets a text in chunks: up to the next separator, which is kept
at the end of the chunk, but never more than the width.  A long line comes in pieces.  A consumer
that ignores the separator and the empty chunk sees nothing but the pieces of the lines.
-/

section Separators

variable {Symbol State : Type} [DecidableEq Symbol]

/-- The next chunk and the text behind it. -/
def nextChunk (separator : Symbol) (width : Nat) (text : List Symbol) :
    Option (List Symbol × List Symbol) :=
  if text = [] then none
  else
    match (text.take width).idxOf? separator with
    | some index => some (text.take (index + 1), text.drop (index + 1))
    | none => some (text.take width, text.drop width)

/-- A consumer runs over at most `steps` chunks. -/
def foldChunks (separator : Symbol) (width : Nat) (consume : State → List Symbol → State) :
    Nat → List Symbol → State → State
  | 0, _, state => state
  | steps + 1, text, state =>
      match nextChunk separator width text with
      | none => state
      | some (chunk, rest) =>
          foldChunks separator width consume steps rest (consume state chunk)

/-- The piece of a line with some number. -/
def linePiece (width : Nat) (line : List Symbol) (number : Nat) : List Symbol :=
  (line.drop (width * number)).take width

/-- The pieces of a line; the last one may be empty. -/
def linePieces (width : Nat) (line : List Symbol) : List (List Symbol) :=
  (List.range (line.length / width + 1)).map (linePiece width line)

/-- The pieces of all the lines of a text. -/
def textPieces (separator : Symbol) (width : Nat) (text : List Symbol) : List (List Symbol) :=
  (text.splitOn separator).flatMap (linePieces width)

/-! ## Cutting -/

theorem idxOf?_append_cons {separator : Symbol} {front : List Symbol} (free : separator ∉ front)
    (rest : List Symbol) : (front ++ separator :: rest).idxOf? separator = some front.length := by
  induction front with
  | nil => simp [List.idxOf?_cons]
  | cons head front ih =>
      rw [List.mem_cons, not_or] at free
      rw [List.cons_append, List.idxOf?_cons, ih free.2]
      simp [Ne.symm free.1]

/-- What is free of a symbol stands in front of its first occurrence. -/
theorem takeWhile_ne_append {symbol : Symbol} {front : List Symbol} (free : symbol ∉ front)
    (rest : List Symbol) :
    (front ++ rest).takeWhile (· ≠ symbol) = front ++ rest.takeWhile (· ≠ symbol) := by
  apply List.takeWhile_append_of_pos
  intro other member
  exact decide_eq_true fun same => free (same ▸ member)

theorem dropWhile_ne_append {symbol : Symbol} {front : List Symbol} (free : symbol ∉ front)
    (rest : List Symbol) :
    (front ++ rest).dropWhile (· ≠ symbol) = rest.dropWhile (· ≠ symbol) := by
  apply List.dropWhile_append_of_pos
  intro other member
  exact decide_eq_true fun same => free (same ▸ member)

/-- What stands in front of the first separator belongs to the first line. -/
theorem splitOn_append_of_notMem {separator : Symbol} {front : List Symbol}
    (free : separator ∉ front) (rest : List Symbol) :
    (front ++ rest).splitOn separator = (rest.splitOn separator).modifyHead (front ++ ·) := by
  induction front with
  | nil =>
      rw [List.nil_append]
      cases rest.splitOn separator <;> rfl
  | cons head front ih =>
      rw [List.mem_cons, not_or] at free
      have other : ¬ (head == separator) = true := by simpa using Ne.symm free.1
      rw [List.cons_append, List.splitOn_cons_eq_if_modifyHead, if_neg other, ih free.2]
      cases rest.splitOn separator <;> rfl

/-- What stands in a line stands in the text. -/
theorem mem_of_mem_splitOn {separator symbol : Symbol} {text line : List Symbol}
    (line_member : line ∈ text.splitOn separator) (member : symbol ∈ line) : symbol ∈ text := by
  induction text generalizing line with
  | nil =>
      rw [List.splitOn_nil, List.mem_singleton] at line_member
      exact line_member ▸ member
  | cons head text ih =>
      rw [List.splitOn_cons_eq_if_modifyHead] at line_member
      split at line_member
      · rcases List.mem_cons.mp line_member with rfl | line_member
        · cases member
        · exact List.mem_cons_of_mem head (ih line_member member)
      · obtain ⟨first, lines, lines_eq⟩ :=
          List.exists_cons_of_ne_nil (List.splitOn_ne_nil separator text)
        rw [lines_eq] at line_member ih
        rcases List.mem_cons.mp line_member with rfl | line_member
        · rcases List.mem_cons.mp member with rfl | member
          · exact List.mem_cons_self
          · exact List.mem_cons_of_mem head (ih List.mem_cons_self member)
        · exact List.mem_cons_of_mem head (ih (List.mem_cons_of_mem first line_member) member)

/-! ## Pieces -/

omit [DecidableEq Symbol] in
theorem mem_of_mem_linePieces {width : Nat} {line piece : List Symbol} {symbol : Symbol}
    (piece_member : piece ∈ linePieces width line) (member : symbol ∈ piece) : symbol ∈ line := by
  obtain ⟨number, -, rfl⟩ := List.mem_map.mp piece_member
  exact List.mem_of_mem_drop (List.mem_of_mem_take member)

omit [DecidableEq Symbol] in
theorem linePieces_of_lt {width : Nat} {line : List Symbol} (short : line.length < width) :
    linePieces width line = [line] := by
  rw [linePieces, Nat.div_eq_of_lt short]
  simp [linePiece, List.take_of_length_le (Nat.le_of_lt short)]

omit [DecidableEq Symbol] in
theorem linePiece_of_length_le {width number : Nat} {line : List Symbol}
    (beyond : line.length ≤ width * number) : linePiece width line number = [] := by
  rw [linePiece, List.drop_of_length_le beyond, List.take_nil]

omit [DecidableEq Symbol] in
/-- A piece with what stands in front of it and behind it. -/
theorem take_linePiece_drop (width : Nat) (line : List Symbol) (number : Nat) :
    line.take (width * number) ++ (linePiece width line number ++
      line.drop (width * (number + 1))) = line := by
  have behind : line.drop (width * (number + 1)) = (line.drop (width * number)).drop width := by
    rw [List.drop_drop, Nat.mul_succ]
  rw [linePiece, behind, List.take_append_drop, List.take_append_drop]

omit [DecidableEq Symbol] in
/-- The first occurrence of a symbol lies in some piece. -/
theorem exists_linePiece_of_mem {width : Nat} (positive : 0 < width) {line : List Symbol}
    {symbol : Symbol} (member : symbol ∈ line) :
    ∃ number, width * number ≤ line.length ∧ symbol ∉ line.take (width * number) ∧
      symbol ∈ linePiece width line number := by
  obtain ⟨front, back, rfl, free⟩ := List.eq_append_cons_of_mem member
  have start : width * (front.length / width) ≤ front.length := Nat.mul_div_le _ _
  have stop : front.length < width * (front.length / width) + width := by
    rw [← Nat.mul_succ]
    exact Nat.lt_mul_div_succ _ positive
  refine ⟨front.length / width, ?_, ?_, ?_⟩
  · rw [List.length_append]
    omega
  · rw [List.take_append_of_le_length start]
    exact fun inside => free (List.mem_of_mem_take inside)
  · obtain ⟨room, room_eq⟩ : ∃ room, width - (front.drop (width * (front.length / width))).length =
        room + 1 := by
      rw [List.length_drop]
      exact ⟨width - (front.length - width * (front.length / width)) - 1, by omega⟩
    rw [linePiece, List.drop_append_of_le_length start, List.take_append, room_eq, List.take_cons
      (Nat.succ_pos room)]
    exact List.mem_append_right _ List.mem_cons_self

omit [DecidableEq Symbol] in
/-- A full piece is cut off a line. -/
theorem linePieces_append {width : Nat} (positive : 0 < width) {front : List Symbol}
    (full : front.length = width) (line : List Symbol) :
    linePieces width (front ++ line) = front :: linePieces width line := by
  have count : (front ++ line).length / width + 1 = (line.length / width + 1) + 1 := by
    rw [List.length_append, full, Nat.add_div_left _ positive]
  have first : linePiece width (front ++ line) 0 = front := by
    rw [linePiece, Nat.mul_zero, List.drop_zero, List.take_left' full]
  have others : ∀ number, linePiece width (front ++ line) (number + 1) =
      linePiece width line number := by
    intro number
    rw [linePiece, Nat.mul_succ, Nat.add_comm, ← List.drop_drop, List.drop_left' full, linePiece]
  rw [linePieces, count, List.range_succ_eq_map, List.map_cons, first, List.map_map]
  exact congrArg (front :: ·) (List.map_congr_left fun number _ => others number)

/-! ## Reading pieces -/

section Reading

variable {Item : Type} {read : List Symbol → Option Item} {width : Nat} {line : List Symbol}

omit [DecidableEq Symbol] in
theorem read_linePiece_of_le (positive : 0 < width) (read_nil : read [] = none) {number : Nat}
    (large : line.length / width + 1 ≤ number) : read (linePiece width line number) = none := by
  have far : line.length < width * (line.length / width + 1) := Nat.lt_mul_div_succ _ positive
  have beyond := Nat.le_trans (Nat.le_of_lt far) (Nat.mul_le_mul_left width large)
  rw [linePiece_of_length_le beyond, read_nil]

omit [DecidableEq Symbol] in
theorem filterMap_linePieces_eq_nil_iff (positive : 0 < width) (read_nil : read [] = none) :
    (linePieces width line).filterMap read = [] ↔
      ∀ number, read (linePiece width line number) = none := by
  rw [linePieces, List.filterMap_map, List.filterMap_eq_nil_iff]
  constructor
  · intro silent number
    rcases Nat.lt_or_ge number (line.length / width + 1) with inside | large
    · exact silent number (List.mem_range.mpr inside)
    · exact read_linePiece_of_le positive read_nil large
  · exact fun silent number _ => silent number

omit [DecidableEq Symbol] in
/-- Exactly one item is read if exactly one piece is worth reading. -/
theorem filterMap_linePieces_eq_singleton_iff (positive : 0 < width) (read_nil : read [] = none)
    {item : Item} :
    (linePieces width line).filterMap read = [item] ↔
      ∃ number, read (linePiece width line number) = some item ∧
        ∀ other, other ≠ number → read (linePiece width line other) = none := by
  rw [linePieces, List.filterMap_map, List.filterMap_eq_cons_iff]
  constructor
  · rintro ⟨before, number, behind, numbers_eq, before_silent, found, behind_silent⟩
    rw [List.filterMap_eq_nil_iff] at behind_silent
    refine ⟨number, found, fun other different => ?_⟩
    rcases Nat.lt_or_ge other (line.length / width + 1) with inside | large
    · have member := List.mem_range.mpr inside
      rw [numbers_eq, List.mem_append, List.mem_cons] at member
      rcases member with earlier | same | later
      · exact before_silent other earlier
      · exact absurd same different
      · exact behind_silent other later
    · exact read_linePiece_of_le positive read_nil large
  · rintro ⟨number, found, silent⟩
    have inside : number ∈ List.range (line.length / width + 1) := by
      rcases Nat.lt_or_ge number (line.length / width + 1) with inside | large
      · exact List.mem_range.mpr inside
      · rw [read_linePiece_of_le positive read_nil large] at found
        cases found
    obtain ⟨before, behind, numbers_eq⟩ := List.append_of_mem inside
    have distinct := List.nodup_range (n := line.length / width + 1)
    rw [numbers_eq, List.nodup_append, List.nodup_cons] at distinct
    obtain ⟨-, ⟨not_behind, -⟩, apart⟩ := distinct
    refine ⟨before, number, behind, numbers_eq, fun other earlier => ?_, found, ?_⟩
    · exact silent other (apart other earlier number List.mem_cons_self)
    · rw [List.filterMap_eq_nil_iff]
      exact fun other later => silent other fun same => not_behind (same ▸ later)

end Reading

theorem length_flatMap_le {Place Item : Type} {places : List Place}
    {found meant : Place → List Item}
    (enough : ∀ place ∈ places, (meant place).length ≤ (found place).length) :
    (places.flatMap meant).length ≤ (places.flatMap found).length := by
  induction places with
  | nil => exact Nat.le_refl _
  | cons place places ih =>
      have own := enough place List.mem_cons_self
      have others := ih fun other member => enough other (List.mem_cons_of_mem place member)
      rw [List.flatMap_cons, List.flatMap_cons, List.length_append, List.length_append]
      exact Nat.add_le_add own others

/-- If nowhere less is found than meant, then all that is found is all that is meant only if it is
so in each place. -/
theorem flatMap_eq_iff_of_length_le {Place Item : Type} {places : List Place}
    {found meant : Place → List Item}
    (enough : ∀ place ∈ places, (meant place).length ≤ (found place).length) :
    places.flatMap found = places.flatMap meant ↔
      ∀ place ∈ places, found place = meant place := by
  constructor
  · induction places with
    | nil => exact fun _ _ member => nomatch member
    | cons place places ih =>
        intro same
        have more : ∀ other ∈ places, (meant other).length ≤ (found other).length :=
          fun other member => enough other (List.mem_cons_of_mem place member)
        have own := enough place List.mem_cons_self
        have others := length_flatMap_le more
        have total := congrArg List.length same
        rw [List.flatMap_cons, List.flatMap_cons, List.length_append, List.length_append] at total
        rw [List.flatMap_cons, List.flatMap_cons] at same
        obtain ⟨first, rest⟩ := List.append_inj same (by omega)
        intro other member
        rcases List.mem_cons.mp member with rfl | member
        · exact first
        · exact ih more rest other member
  · intro same
    rw [List.flatMap_def, List.flatMap_def, List.map_congr_left same]

/-! ## Chunks -/

/-- A short line is one chunk. -/
theorem nextChunk_of_line {separator : Symbol} {width : Nat} {line : List Symbol}
    (short : line.length < width) (free : separator ∉ line) (rest : List Symbol) :
    nextChunk separator width (line ++ separator :: rest) = some (line ++ [separator], rest) := by
  have window : (line ++ separator :: rest).take width =
      line ++ separator :: rest.take (width - line.length - 1) := by
    rw [List.take_append, List.take_of_length_le (Nat.le_of_lt short), List.take_cons (by omega)]
  have chunk : (line ++ separator :: rest).take (line.length + 1) = line ++ [separator] := by
    rw [List.take_length_add_append]
    rfl
  have behind : (line ++ separator :: rest).drop (line.length + 1) = rest := by
    rw [List.drop_length_add_append]
    rfl
  rw [nextChunk, if_neg (by simp), window, idxOf?_append_cons free]
  simp only [chunk, behind]

/-- Without a separator in sight the chunk is as long as the buffer allows. -/
theorem nextChunk_of_notMem {separator : Symbol} {width : Nat} {text : List Symbol}
    (nonempty : text ≠ []) (free : separator ∉ text.take width) :
    nextChunk separator width text = some (text.take width, text.drop width) := by
  have none_found : (text.take width).idxOf? separator = none :=
    List.idxOf?_eq_none_iff.mpr free
  rw [nextChunk, if_neg nonempty, none_found]

/-- A short line is its own piece. -/
theorem textPieces_of_line {separator : Symbol} {width : Nat} {line : List Symbol}
    (short : line.length < width) (free : separator ∉ line) (rest : List Symbol) :
    textPieces separator width (line ++ separator :: rest) =
      line :: textPieces separator width rest := by
  rw [textPieces, List.splitOn_append_cons_self_of_not_mem free, List.flatMap_cons,
    linePieces_of_lt short, List.singleton_append, textPieces]

theorem textPieces_of_short {separator : Symbol} {width : Nat} {text : List Symbol}
    (short : text.length < width) (free : separator ∉ text) :
    textPieces separator width text = [text] := by
  rw [textPieces, List.splitOn_eq_singleton free, List.flatMap_singleton, linePieces_of_lt short]

/-- A full piece is cut off a text. -/
theorem textPieces_of_full {separator : Symbol} {width : Nat} (positive : 0 < width)
    {front : List Symbol} (full : front.length = width) (free : separator ∉ front)
    (rest : List Symbol) :
    textPieces separator width (front ++ rest) = front :: textPieces separator width rest := by
  obtain ⟨line, lines, lines_eq⟩ :=
    List.exists_cons_of_ne_nil (List.splitOn_ne_nil separator rest)
  rw [textPieces, splitOn_append_of_notMem free, textPieces, lines_eq, List.modifyHead_cons,
    List.flatMap_cons, List.flatMap_cons, linePieces_append positive full, List.cons_append]

/-- A consumer that ignores the separator at the end of a chunk, and empty chunks, runs over the
pieces of the lines.  The induction is on the number of chunks, which the text bounds. -/
theorem foldChunks_eq {separator : Symbol} {width : Nat} (positive : 0 < width)
    {consume : State → List Symbol → State}
    (ignores : ∀ state line, consume state (line ++ [separator]) = consume state line)
    (skips : ∀ state, consume state [] = state) (steps : Nat) (text : List Symbol) (state : State)
    (enough : text.length < steps) :
    foldChunks separator width consume steps text state =
      (textPieces separator width text).foldl consume state := by
  have empty : textPieces separator width [] = [[]] :=
    textPieces_of_short positive List.not_mem_nil
  induction steps generalizing text state with
  | zero => omega
  | succ steps ih =>
      by_cases nonempty : text = []
      · rw [nonempty, foldChunks, nextChunk, if_pos rfl, empty, List.foldl_cons, skips,
          List.foldl_nil]
      by_cases inside : separator ∈ text.take width
      · -- The chunk is a short line with its separator.
        obtain ⟨line, behind, window_eq, free⟩ := List.eq_append_cons_of_mem inside
        have short : line.length < width := by
          have bound := List.length_take_le width text
          rw [window_eq, List.length_append, List.length_cons] at bound
          omega
        have whole : text = line ++ separator :: (behind ++ text.drop width) := by
          have cut := List.take_append_drop width text
          rw [window_eq] at cut
          simpa using cut.symm
        generalize behind ++ text.drop width = rest at whole
        subst whole
        rw [List.length_append, List.length_cons] at enough
        rw [foldChunks, nextChunk_of_line short free, textPieces_of_line short free,
          List.foldl_cons, ← ignores]
        exact ih rest _ (by omega)
      · -- The chunk is a full piece, or all that is left.
        have text_positive : 0 < text.length := List.length_pos_iff.mpr nonempty
        rw [foldChunks, nextChunk_of_notMem nonempty inside]
        simp only
        rw [ih (text.drop width) _ (by rw [List.length_drop]; omega)]
        by_cases short : text.length < width
        · rw [List.take_of_length_le (Nat.le_of_lt short)] at inside ⊢
          rw [List.drop_of_length_le (Nat.le_of_lt short), empty, textPieces_of_short short inside,
            List.foldl_cons, skips, List.foldl_cons]
        · have full : (text.take width).length = width := by
            rw [List.length_take]
            omega
          have pieces := textPieces_of_full positive full inside (text.drop width)
          rw [List.take_append_drop] at pieces
          rw [pieces, List.foldl_cons]

end Separators
